import Bindery.Proofs.Emit.RenumberedModule
import Bindery.Proofs.Header.Resembling
import Bindery.Proofs.Run.Stages

/-!
# Headers that failed

A header that cannot be parsed has no influence on the bindings. A run over all headers and one over
those that can be parsed go through the same stages side by side: their libraries differ in numbers
only, so the passes are made in both or in neither, and the same module is written. Which headers
can be parsed does not depend on the library they are parsed into.
-/

namespace Bindery

/-- Options with other headers. -/
def Options.withHeaders (o : Options) (headers : List String) : Options :=
  { o with headers := .list (headers.map .text) }

/-- Whether a header can be parsed, which no library has a say in. -/
def parses (files : FileTree) (grammar : Grammar) (o : HeaderOptions) (header : String) : Bool :=
  ((Library.empty .null .null).parseHeader files grammar o (.text header)).1.isParsed

namespace Run

/-! ### Side by side -/

/-- A run over some headers follows one over more of them: it has what that one has but for what
the other headers left, and the libraries the two have got to differ in numbers only. -/
structure Follows (rest full : Run) (lib out : Library) : Prop where
  /-- The libraries differ in numbers. -/
  library : lib.Resembles out
  /-- The second one is that of the run over more headers. -/
  graph : full.graph = some (.typed out)
  /-- The runs differ in headers, libraries and failures. -/
  same : ∃ headers, rest = { full with
    options := { full.options with headers := headers }
    graph := some (.typed lib)
    failures := [] }

variable {grammar : Grammar} {o : HeaderOptions} {full full' rest : Run} {lib out out' : Library}

theorem Follows.files (h : rest.Follows full lib out) : rest.files = full.files := by
  obtain ⟨headers, hrest⟩ := h.same
  rw [hrest]

/-- A header that is parsed in both runs. -/
theorem Follows.parsed (h : rest.Follows full lib out) {new : Library} (hn : new.Growing)
    (header : Value) :
    let lib' : Library := { lib.graft new with units := lib.units ++ [lib.created] }
    let out' : Library := { out.graft new with units := out.units ++ [out.created] }
    (rest.afterHeader header (.parsed, lib')).2.Follows (full.afterHeader header (.parsed, out')).2
      lib' out' := by
  obtain ⟨headers, hrest⟩ := h.same
  refine ⟨h.library.parsed hn, rfl, headers, ?_⟩
  rw [hrest]
  rfl

/-- A header that fails in the run over more headers. -/
theorem Follows.failed (h : rest.Follows full lib out) (hl : lib.Resembles out') (header : Value)
    (reason : String) :
    rest.Follows (full.afterHeader header (.failed reason, out')).2 lib out' := by
  obtain ⟨headers, hrest⟩ := h.same
  refine ⟨hl, rfl, headers, ?_⟩
  rw [hrest]
  rfl

/-- Going on with a list of headers. -/
theorem outcomeOf_foldlM_parseOne_cons (header : Value) (headers : List Value) (lib : Library)
    (r : Run) : outcomeOf ((header :: headers).foldlM (parseOne grammar o) lib) r =
      match r.afterHeader header (lib.parseHeader r.files grammar o header) with
      | (.ok out, s) => outcomeOf (headers.foldlM (parseOne grammar o) out) s
      | (.error f, s) => (.error f, s) := by
  rw [List.foldlM_cons, outcomeOf_bind, outcomeOf_parseOne]
  cases r.afterHeader header (lib.parseHeader r.files grammar o header) with
  | mk outcome s => cases outcome <;> rfl

/-- Going through headers changes the library and the record of headers only. -/
theorem outcomeOf_foldlM_parseOne_same (grammar : Grammar) (o : HeaderOptions)
    (headers : List Value) (lib : Library) (r : Run) :
    ∃ g parsed failures, (outcomeOf (headers.foldlM (parseOne grammar o) lib) r).2 =
      { r with graph := g, parsed := parsed, failures := failures } := by
  induction headers generalizing lib r with
  | nil => exact ⟨_, _, _, rfl⟩
  | cons header headers ih =>
    rw [outcomeOf_foldlM_parseOne_cons]
    rcases lib.parseHeader r.files grammar o header with ⟨_ | reason | f, out⟩
    · exact ih out _
    · exact ih out _
    · exact ⟨_, _, _, rfl⟩

/-- A run over the headers that can be parsed follows one over all of them. -/
theorem Follows.parseAll {headers : List String} (h : rest.Follows full lib out)
    (hfull : outcomeOf ((headers.map .text).foldlM (parseOne grammar o) out) full =
      (.ok out', full')) :
    let kept := headers.filter (parses full.files grammar o)
    ∃ lib' rest', outcomeOf ((kept.map .text).foldlM (parseOne grammar o) lib) rest =
        (.ok lib', rest') ∧ rest'.Follows full' lib' out' ∧ full'.parsed = full.parsed ++ kept ∧
      full'.failures.map (·.header) = full.failures.map (·.header) ++
        headers.filter (!parses full.files grammar o ·) := by
  dsimp only
  induction headers generalizing full rest lib out with
  | nil =>
    cases hfull
    exact ⟨lib, rest, rfl, h, (List.append_nil _).symm, (List.append_nil _).symm⟩
  | cons header headers ih =>
    rw [List.map_cons, outcomeOf_foldlM_parseOne_cons] at hfull
    rcases h.library.parseHeader_cases full.files grammar o (.text header) with
      ⟨new, hgrowing, hsame⟩ | ⟨reason, mid, hmid, hsame, hout⟩ | ⟨f, mid, hout⟩
    · have hparses : parses full.files grammar o header = true := by
        unfold parses
        rw [hsame]
        rfl
      rw [hsame out] at hfull
      obtain ⟨lib', rest', hrest, hfollows, hparsed, hfailures⟩ :=
        ih (h.parsed hgrowing (.text header)) hfull
      refine ⟨lib', rest', ?_, hfollows, ?_, ?_⟩
      · rw [List.filter_cons_of_pos hparses, List.map_cons, outcomeOf_foldlM_parseOne_cons,
          h.files, hsame lib]
        exact hrest
      · rw [List.filter_cons_of_pos hparses, hparsed]
        show (full.parsed ++ [_]) ++ _ = _
        rw [List.append_assoc]
        rfl
      · rw [List.filter_cons_of_neg (by simp [hparses])]
        exact hfailures
    · have hparses : parses full.files grammar o header = false := by
        unfold parses
        rw [hsame]
        rfl
      -- a header that fails leaves the other run where it is
      rw [hout] at hfull
      obtain ⟨lib', rest', hrest, hfollows, hparsed, hfailures⟩ :=
        ih (h.failed hmid (.text header) reason) hfull
      refine ⟨lib', rest', ?_, hfollows, ?_, ?_⟩
      · rw [List.filter_cons_of_neg (by simp [hparses])]
        exact hrest
      · rw [List.filter_cons_of_neg (by simp [hparses])]
        exact hparsed
      · rw [List.filter_cons_of_pos (by simp [hparses]), hfailures]
        show (full.failures ++ [_]).map _ ++ _ = _
        rw [List.map_append, List.append_assoc]
        rfl
    · rw [hout] at hfull
      cases hfull

/-! ### What is written -/

/-- The same bindings are written of libraries that differ in numbers. -/
theorem emit_agree {ρ : Nat → Nat} (h : lib.Renumbered ρ out) (hs : lib.Sound) (hs' : out.Sound)
    {options : Options} (ht : options.template = .text "ctypes") (files : FileTree) :
    Agree Eq (emit (.typed lib) .standard options files)
      (emit (.typed out) .standard options files) := by
  have htemplate : Template.ofValue options.template = .ok .bindings := by
    rw [ht]
    rfl
  unfold emit
  rw [htemplate]
  refine Agree.mapError ?_ _ _
  show Agree Eq ((Emission.ofLibrary lib .standard).moduleText options >>= fun text => _)
    ((Emission.ofLibrary out .standard).moduleText options >>= fun text => _)
  refine ((h.emission hs hs').moduleText options).bind ?_
  rintro text _ rfl
  exact .refl _

/-- Processing and generating end alike for runs side by side, and leave the same files. -/
theorem Follows.complete (h : rest.Follows full lib out) {name : String}
    (hstage : full.stage = .parsed) (htransform : full.transform = .idle name)
    (ht : full.options.template = .text "ctypes") :
    let whole := outcomeOf (do process; generate) full
    let part := outcomeOf (do process; generate) rest
    (whole.2.parsed = full.parsed ∧ whole.2.failures = full.failures) ∧
      (part.2.parsed = full.parsed ∧ part.2.failures = []) ∧ part.1.isOk = whole.1.isOk ∧
      part.2.outputs = whole.2.outputs ∧ part.2.files = whole.2.files := by
  obtain ⟨ρ, hρ⟩ := h.library.renumbered
  have hloaded := h.library.grown.loaded
  have hloaded' := h.library.grown'.loaded
  obtain ⟨lib', out', ⟨hnone, hlib⟩, ⟨hnone', hout⟩, hren⟩ :=
    Schedule.run_builtin_renumbered hρ hloaded
  have hsound : lib'.Sound := by
    obtain ⟨made, ⟨-, hmade⟩, hs, -⟩ := Schedule.run_builtin_sound hloaded
    rw [hlib] at hmade
    cases hmade
    exact hs
  have hsound' : out'.Sound := by
    obtain ⟨made, ⟨-, hmade⟩, hs, -⟩ := Schedule.run_builtin_sound hloaded'
    rw [hout] at hmade
    cases hmade
    exact hs
  obtain ⟨headers, rfl⟩ := h.same
  have hwhole := outcomeOf_process hstage htransform h.graph h.library.grown'.toOrderly hnone'
  have hpart := outcomeOf_process (r := { full with
    options := { full.options with headers := headers }
    graph := some (.typed lib)
    failures := [] }) hstage htransform rfl h.library.grown.toOrderly hnone
  dsimp only
  rw [outcomeOf_bind_ok hwhole, outcomeOf_bind_ok hpart, outcomeOf_generate rfl rfl,
    outcomeOf_generate rfl rfl, hlib, hout]
  have hunits : (Graph.typed out').units.isEmpty = (Graph.typed lib').units.isEmpty := by
    show out'.units.isEmpty = lib'.units.isEmpty
    rw [hren.units, List.isEmpty_map]
  rw [hunits]
  cases (Graph.typed lib').units.isEmpty with
  | true =>
    rw [if_pos rfl, if_pos rfl]
    exact ⟨⟨rfl, rfl⟩, ⟨rfl, rfl⟩, rfl, rfl, rfl⟩
  | false =>
    rw [if_neg Bool.false_ne_true, if_neg Bool.false_ne_true]
    have hagree : Agree Eq
        (emit (.typed lib') .standard { full.options with headers := headers } full.files)
        (emit (.typed out') .standard full.options full.files) :=
      emit_agree hren hsound hsound' ht full.files
    revert hagree
    generalize emit (.typed lib') .standard { full.options with headers := headers } full.files = x
    generalize emit (.typed out') .standard full.options full.files = y
    intro hagree
    cases hagree with
    | ok hab =>
      cases hab
      exact ⟨⟨rfl, rfl⟩, ⟨rfl, rfl⟩, rfl, rfl, rfl⟩
    | error e e' => exact ⟨⟨rfl, rfl⟩, ⟨rfl, rfl⟩, rfl, rfl, rfl⟩

/-! ### Two runs -/

variable {options : Options} {name : String} {files : FileTree} {headers : List String}

/-- A run of an idle transform when it has come to its headers. -/
def begun (options : Options) (name : String) (files : FileTree) : Run :=
  { start options (.idle name) files with
    stage := .parsed
    graph := some (.typed (newLibrary options))
    hooks := [.text "setup_headers"] }

theorem follows_begun (options : Options) (name : String) (files : FileTree)
    (headers kept : List String) :
    (begun (options.withHeaders kept) name files).Follows
      (begun (options.withHeaders headers) name files) (newLibrary options) (newLibrary options) :=
  ⟨.refl_empty _ _, rfl, .list (kept.map .text), rfl⟩

/-- Parsing goes through the headers, with lists for where to look for them and for what is
defined. -/
theorem outcomeOf_parse_start (headers : List String) :
    outcomeOf (parse grammar) (start (options.withHeaders headers) (.idle name) files) =
      outcomeOf (do
        let dirs ← settle (Options.itemsOf options.includeDirs)
        let defines ← settle (Options.itemsOf options.defines)
        let _ ← (headers.map .text).foldlM (parseOne grammar ⟨dirs, defines⟩) (newLibrary options))
        (begun (options.withHeaders headers) name files) := by
  rw [outcomeOf_parse grammar rfl]
  show outcomeOf (settle (do
    let dirs ← Options.itemsOf options.includeDirs
    let defines ← Options.itemsOf options.defines
    pure (⟨dirs, defines⟩, headers.map .text)) >>= fun s : HeaderOptions × List Value => _) _ = _
  cases Options.itemsOf options.includeDirs <;> cases Options.itemsOf options.defines <;> rfl

/-- Where parsing ends well, a run over the headers that can be parsed follows the one over all of
them. -/
theorem exists_follows (h : outcomeOf (parse grammar)
    (start (options.withHeaders headers) (.idle name) files) = (.ok (), full)) :
    ∃ (o : HeaderOptions) (lib out : Library) (rest : Run),
      let kept := headers.filter (parses files grammar o)
      outcomeOf (parse grammar) (start (options.withHeaders kept) (.idle name) files) =
        (.ok (), rest) ∧ rest.Follows full lib out ∧ full.parsed = kept ∧
      full.failures.map (·.header) = headers.filter (!parses files grammar o ·) ∧
      full.stage = .parsed ∧ full.transform = .idle name ∧
      full.options = options.withHeaders headers := by
  rw [outcomeOf_parse_start] at h
  cases hdirs : Options.itemsOf options.includeDirs with
  | error f =>
    rw [hdirs] at h
    cases h
  | ok dirs =>
    cases hdefines : Options.itemsOf options.defines with
    | error f =>
      rw [hdirs, hdefines] at h
      cases h
    | ok defines =>
      rw [hdirs, hdefines, outcomeOf_bind_ok (outcomeOf_settle _ _),
        outcomeOf_bind_ok (outcomeOf_settle _ _)] at h
      obtain ⟨out, s, hfold, h⟩ := exists_of_outcomeOf_bind h
      cases h
      have hbegun := follows_begun options name files headers
        (headers.filter (parses files grammar ⟨dirs, defines⟩))
      obtain ⟨lib, rest, hrest, hfollows, hparsed, hfailures⟩ := hbegun.parseAll hfold
      obtain ⟨g, parsed, failures, hsame⟩ := outcomeOf_foldlM_parseOne_same grammar
        ⟨dirs, defines⟩ (headers.map .text) (newLibrary options)
        (begun (options.withHeaders headers) name files)
      rw [hfold] at hsame
      subst hsame
      refine ⟨⟨dirs, defines⟩, lib, out, rest, ?_, hfollows, hparsed, hfailures, rfl, rfl, rfl⟩
      rw [outcomeOf_parse_start, hdirs, hdefines, outcomeOf_bind_ok (outcomeOf_settle _ _),
        outcomeOf_bind_ok (outcomeOf_settle _ _)]
      exact outcomeOf_bind_ok hrest _

/-- Headers that fail have no influence on the bindings: where parsing does not end the run, a run
over the headers that did not fail parses those, all of them and in order, ends well if the run over
all headers does, and leaves the same files. -/
theorem all_without_failed (ht : options.template = .text "ctypes")
    (hparse : ((start (options.withHeaders headers) (.idle name) files).perform
      (parse grammar)).1 = .ok ()) :
    let full := (start (options.withHeaders headers) (.idle name) files).perform (all grammar)
    let kept := headers.filter fun h => !(full.2.failures.map (·.header)).contains h
    let start' := start (options.withHeaders kept) (.idle name) files
    let rest := start'.perform (all grammar)
    (start'.perform (parse grammar)).1 = .ok () ∧ rest.2.failures = [] ∧ full.2.parsed = kept ∧
      rest.2.parsed = full.2.parsed ∧ rest.1.isOk = full.1.isOk ∧
      rest.2.outputs = full.2.outputs ∧ rest.2.files = full.2.files := by
  simp only [run_perform] at hparse ⊢
  cases hfull : outcomeOf (parse grammar)
      (start (options.withHeaders headers) (.idle name) files) with
  | mk r full =>
    rw [hfull] at hparse
    cases hparse
    obtain ⟨o, lib, out, rest, hrest, hfollows, hparsed, hfailures, hstage, htransform, hoptions⟩ :=
      exists_follows hfull
    have htemplate : full.options.template = .text "ctypes" := by
      rw [hoptions]
      exact ht
    obtain ⟨⟨hparsed₁, hfailures₁⟩, ⟨hparsed₂, hfailures₂⟩, hok, houtputs, hfiles⟩ :=
      hfollows.complete hstage htransform htemplate
    have hkept : (headers.filter fun h => !(full.failures.map (·.header)).contains h) =
        headers.filter (parses files grammar o) := by
      rw [hfailures]
      refine List.filter_congr fun h hh => ?_
      rw [Bool.eq_iff_iff]
      simp [hh]
    unfold all
    rw [outcomeOf_bind_ok hfull, hfailures₁, hkept, hrest, outcomeOf_bind_ok hrest]
    exact ⟨rfl, hfailures₂, hparsed₁.trans hparsed, hparsed₂.trans hparsed₁.symm, hok, houtputs,
      hfiles⟩

/-- A header that is a zero character and one without text. -/
def shelf : FileTree :=
  ⟨⟨.absolute, []⟩, [], [(["zero.h"], [0]), (["plain.h"], [])]⟩

/-- A grammar that takes every text for the initializer of the one item of an enumeration. -/
def oneItem : Grammar := fun source =>
  let value : SyntaxNode := ⟨"identifier", 0, source.length, true, false, some "value", []⟩
  let item : SyntaxNode := ⟨"enumerator", 0, source.length, true, false, none, [value]⟩
  let body : SyntaxNode := ⟨"enumerator_list", 0, source.length, true, false, some "body", [item]⟩
  let enumeration : SyntaxNode :=
    ⟨"enum_specifier", 0, source.length, true, false, none, [body]⟩
  ⟨"translation_unit", 0, source.length, true, false, none, [enumeration]⟩

/-- A header that is given up while its enumeration is read and one that is missing come first. -/
theorem all_without_failed_shelf :
    let full := (start (Options.default.withHeaders ["zero.h", "missing.h", "plain.h"])
      (.idle "idle") shelf).perform (all oneItem)
    let rest := (start (Options.default.withHeaders ["plain.h"])
      (.idle "idle") shelf).perform (all oneItem)
    full.2.failures.map (·.header) = ["zero.h", "missing.h"] ∧ rest.2.parsed = ["plain.h"] ∧
      rest.2.outputs = full.2.outputs ∧ rest.2.files = full.2.files := by
  have hfailed : ((start (Options.default.withHeaders ["zero.h", "missing.h", "plain.h"])
      (.idle "idle") shelf).perform (all oneItem)).2.failures.map (·.header) =
        ["zero.h", "missing.h"] := by
    decide +kernel
  have hok : ((start (Options.default.withHeaders ["zero.h", "missing.h", "plain.h"])
      (.idle "idle") shelf).perform (parse oneItem)).1.isOk = true := by
    decide +kernel
  obtain ⟨⟨⟩, hparse⟩ := exists_of_isOk hok
  have hkept : (["zero.h", "missing.h", "plain.h"].filter fun h =>
      !(["zero.h", "missing.h"].contains h)) = ["plain.h"] := by
    decide
  have hall := all_without_failed rfl hparse
  dsimp only at hall
  rw [hfailed, hkept] at hall
  obtain ⟨-, -, hfull, hrest, -, houtputs, hfiles⟩ := hall
  exact ⟨hfailed, hrest.trans hfull, houtputs, hfiles⟩

end Run

end Bindery
