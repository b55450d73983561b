import Bindery.Proofs.Header.Obstacles
import Bindery.Proofs.Run.Stages

/-!
# Headers that end the run

A header that cannot be parsed is noted down and the run goes on to the next one, but for few: a
header that cannot even be looked for, one whose first obstacle is an access specifier without a
word, and one whose first obstacle is an initializer that takes too many rules to read. What becomes
of a header is told from its tree, whatever was parsed before it, and so is what becomes of a run.
-/

namespace Bindery

/-- What becomes of a header, told from its file and its tree. -/
def headerVerdict (files : FileTree) (grammar : Grammar) (o : HeaderOptions) (header : Value) :
    HeaderOutcome :=
  match files.findHeader header o.includeDirs with
  | .error f => .aborted f
  | .ok none => .failed "file not found"
  | .ok (some path) =>
    match files.read path with
    | .error f => .failed f.message
    | .ok source =>
      match (grammar source).firstFault? with
      | some n => .failed (faultPlace source n)
      | none => Header.verdict ⟨path.text, source⟩ (grammar source)

/-- What ends the run. -/
def HeaderOutcome.fault? : HeaderOutcome → Option Fault
  | aborted f => some f
  | _ => none

variable (files : FileTree) (grammar : Grammar) (o : HeaderOptions)

/-- What becomes of a header does not depend on the library. -/
theorem Library.fst_parseHeader (lib : Library) (header : Value) :
    (lib.parseHeader files grammar o header).1 = headerVerdict files grammar o header := by
  unfold parseHeader headerVerdict
  cases files.findHeader header o.includeDirs with
  | error f => rfl
  | ok found =>
    cases found with
    | none => rfl
    | some path =>
      dsimp only
      cases files.read path with
      | error f => rfl
      | ok source =>
        dsimp only
        cases (grammar source).firstFault? with
        | some n => rfl
        | none => exact Header.fst_readUnit ..

/-- A header ends the run if it cannot be looked for, or if its first obstacle is one of two. -/
theorem headerVerdict_eq_aborted_iff {header : Value} {f : Fault} :
    headerVerdict files grammar o header = .aborted f ↔
      files.findHeader header o.includeDirs = .error f ∨
      ∃ path source, files.findHeader header o.includeDirs = .ok (some path) ∧
        files.read path = .ok source ∧ (grammar source).firstFault? = none ∧
        (Header.obstacles ⟨path.text, source⟩ (grammar source)).head? = some f ∧
        (f = .emptyAccess ∨ f = .initializer .tooManyRules) := by
  unfold headerVerdict
  cases files.findHeader header o.includeDirs with
  | error e => simp
  | ok found =>
    cases found with
    | none => simp
    | some path =>
      dsimp only
      cases hread : files.read path with
      | error e => simp [hread]
      | ok source =>
        dsimp only
        cases hfault : (grammar source).firstFault? with
        | some n => simp [hread, hfault]
        | none =>
          dsimp only
          rw [Header.verdict_eq_aborted_iff]
          simp [hread, hfault]

namespace Run

/-- The headers that a run comes to the end of: those before the first that ends it. -/
def comesThrough (headers : List Value) : List Value :=
  headers.takeWhile fun header => (headerVerdict files grammar o header).fault?.isNone

/-- The headers among some that are parsed, as they are noted down. -/
def parsedOf (headers : List Value) : List String :=
  (headers.filter fun header => (headerVerdict files grammar o header).isParsed).map (·.shown)

/-- The headers among some that cannot be parsed, as they are noted down. -/
def failuresOf (headers : List Value) : List HeaderFailure :=
  headers.filterMap fun header =>
    (headerVerdict files grammar o header).reason?.map (⟨header.shown, ·⟩)

/-- How going through headers ends, and what is noted down on the way. -/
structure Accounts (headers : List Value) (before : Run) (outcome : Option Fault) (after : Run) :
    Prop where
  /-- It ends with the first header that ends the run, if there is one. -/
  ends : outcome =
    headers.findSome? fun header => (headerVerdict files grammar o header).fault?
  /-- The headers that were parsed are noted down, in order. -/
  parsed : after.parsed = before.parsed ++
    parsedOf files grammar o (comesThrough files grammar o headers)
  /-- So are those that could not be parsed, with reasons. -/
  failures : after.failures = before.failures ++
    failuresOf files grammar o (comesThrough files grammar o headers)

variable {files grammar o}

/-- A step of going through headers, on to the rest. -/
theorem Accounts.cons {header : Value} {headers : List Value} {r s after : Run}
    {outcome : Option Fault}
    (hgo : (headerVerdict files grammar o header).fault? = none)
    (hparsed : s.parsed = r.parsed ++ parsedOf files grammar o [header])
    (hfailures : s.failures = r.failures ++ failuresOf files grammar o [header])
    (h : Accounts files grammar o headers s outcome after) :
    Accounts files grammar o (header :: headers) r outcome after := by
  have hthrough : comesThrough files grammar o (header :: headers) =
      [header] ++ comesThrough files grammar o headers :=
    List.takeWhile_cons_of_pos (by rw [hgo]; rfl)
  refine ⟨?_, ?_, ?_⟩
  · rw [List.findSome?_cons, hgo]
    exact h.ends
  · rw [h.parsed, hparsed, hthrough, List.append_assoc]
    unfold parsedOf
    rw [List.filter_append, List.map_append]
  · rw [h.failures, hfailures, hthrough, List.append_assoc]
    unfold failuresOf
    rw [List.filterMap_append]

variable (grammar o) in
/-- Going through headers. -/
theorem accounts_foldlM (headers : List Value) (lib : Library) (r : Run) :
    let done := outcomeOf (headers.foldlM (parseOne grammar o) lib) r
    Accounts r.files grammar o headers r (refusalOf done.1) done.2 := by
  dsimp only
  induction headers generalizing lib r with
  | nil => exact ⟨rfl, (List.append_nil _).symm, (List.append_nil _).symm⟩
  | cons header headers ih =>
    have hverdict := lib.fst_parseHeader r.files grammar o header
    rw [List.foldlM_cons, outcomeOf_bind, outcomeOf_parseOne]
    revert hverdict
    rcases lib.parseHeader r.files grammar o header with ⟨_ | reason | f, out⟩ <;> intro hverdict
    · refine .cons ?_ ?_ ?_ (ih out (r.afterHeader header (.parsed, out)).2)
      · rw [← hverdict]
        rfl
      · rw [parsedOf, List.filter_singleton, ← hverdict]
        rfl
      · rw [failuresOf, List.filterMap_cons, ← hverdict]
        exact (List.append_nil _).symm
    · refine .cons ?_ ?_ ?_ (ih out (r.afterHeader header (.failed reason, out)).2)
      · rw [← hverdict]
        rfl
      · rw [parsedOf, List.filter_singleton, ← hverdict]
        exact (List.append_nil _).symm
      · rw [failuresOf, List.filterMap_cons, ← hverdict]
        rfl
    · have hthrough : comesThrough r.files grammar o (header :: headers) = [] :=
        List.takeWhile_cons_of_neg (by rw [← hverdict]; exact Bool.false_ne_true)
      refine ⟨?_, ?_, ?_⟩
      · rw [List.findSome?_cons, ← hverdict]
        rfl
      · rw [hthrough]
        exact (List.append_nil _).symm
      · rw [hthrough]
        exact (List.append_nil _).symm

/-! ### The first stage -/

/-- The first stage goes on from header to header up to the first that ends the run. What becomes of
a header is told from its tree whatever was parsed before, and it ends the run exactly if it cannot
be looked for, or if its tree is read and the first obstacle in it is an access specifier without a
word or an initializer that takes too many rules to read. All headers before that one are noted down
in order, as parsed or as failed. -/
theorem parse_up_to_ending_header {r : Run} {headers : List Value} (hstage : r.stage = .idle)
    (hfail : r.transform.failHeaders = none) (hsettings : settingsOf r.options = .ok (o, headers)) :
    let done := r.perform (parse grammar)
    (∀ lib : Library, ∀ header,
      (lib.parseHeader r.files grammar o header).1 = headerVerdict r.files grammar o header) ∧
    (∀ header f, headerVerdict r.files grammar o header = .aborted f ↔
      r.files.findHeader header o.includeDirs = .error f ∨
      ∃ path source, r.files.findHeader header o.includeDirs = .ok (some path) ∧
        r.files.read path = .ok source ∧ (grammar source).firstFault? = none ∧
        (Header.obstacles ⟨path.text, source⟩ (grammar source)).head? = some f ∧
        (f = .emptyAccess ∨ f = .initializer .tooManyRules)) ∧
    Accounts r.files grammar o (r.transform.headers ++ headers) r (refusalOf done.1) done.2 := by
  dsimp only
  refine ⟨fun lib header => lib.fst_parseHeader .., fun header f => headerVerdict_eq_aborted_iff ..,
    ?_⟩
  rw [run_perform, outcomeOf_parse grammar hstage, hfail]
  dsimp only
  rw [hsettings, outcomeOf_bind_ok (outcomeOf_settle _ _)]
  let begun : Run := { r with
    stage := .parsed
    graph := some (.typed (newLibrary r.options))
    hooks := r.hooks ++ [.text "setup_headers"] }
  have hfold := accounts_foldlM grammar o (r.transform.headers ++ headers) (newLibrary r.options)
    begun
  dsimp only at hfold
  rw [outcomeOf_bind]
  revert hfold
  rcases outcomeOf ((r.transform.headers ++ headers).foldlM (parseOne grammar o)
    (newLibrary r.options)) begun with ⟨f | lib, s⟩
  · exact fun hfold => ⟨hfold.ends, hfold.parsed, hfold.failures⟩
  · exact fun hfold => ⟨hfold.ends, hfold.parsed, hfold.failures⟩

/-- Headers with a class each, whose body is nothing but an access specifier: one without a word,
one with a word that is none of those known, and one with a word that is. -/
def specifiers : FileTree :=
  ⟨⟨.absolute, []⟩, [], [
    (["bare.h"], "class W \x7b : \x7d;".toUTF8.toList),
    (["odd.h"], "class W \x7b odd: \x7d;".toUTF8.toList),
    (["open.h"], "class W \x7b public: \x7d;".toUTF8.toList)]⟩

/-- A grammar that takes every text for such a header. -/
def oneSpecifier : Grammar := fun source =>
  let stop := source.length
  let opening : SyntaxNode := ⟨"\x7b", 8, 9, false, false, none, []⟩
  let specifier : SyntaxNode := ⟨"access_specifier", 10, stop - 3, true, false, none, []⟩
  let closing : SyntaxNode := ⟨"\x7d", stop - 2, stop - 1, false, false, none, []⟩
  let body : SyntaxNode :=
    ⟨"field_declaration_list", 8, stop - 1, true, false, some "body", [opening, specifier, closing]⟩
  let name : SyntaxNode := ⟨"type_identifier", 6, 7, true, false, some "name", []⟩
  let word : SyntaxNode := ⟨"class", 0, 5, false, false, none, []⟩
  let record : SyntaxNode :=
    ⟨"class_specifier", 0, stop - 1, true, false, none, [word, name, body]⟩
  let semicolon : SyntaxNode := ⟨";", stop - 1, stop, false, false, none, []⟩
  ⟨"translation_unit", 0, stop, true, false, none, [record, semicolon]⟩

/-- A run that goes through such headers. -/
def throughSpecifiers (headers : List String) : Run :=
  start { Options.default with headers := .list (headers.map .text) } (.idle "idle") specifiers

/-- A header that is missing and one with an unknown word are noted down as failed, and the one
without a word ends the run before it comes to the last. -/
theorem parse_up_to_ending_header_bare :
    let r := throughSpecifiers ["missing.h", "odd.h", "open.h", "bare.h", "open.h"]
    let done := r.perform (parse oneSpecifier)
    (refusalOf done.1).map Fault.label = some "IndexError" ∧ done.2.parsed = ["open.h"] ∧
      done.2.failures = [⟨"missing.h", "file not found"⟩,
        ⟨"odd.h", "ValueError: 'odd' is not a valid AccessSpecifier"⟩] := by
  dsimp only
  obtain ⟨-, -, hends, hparsed, hfailures⟩ := @parse_up_to_ending_header oneSpecifier ⟨[], []⟩
    (throughSpecifiers ["missing.h", "odd.h", "open.h", "bare.h", "open.h"])
    (["missing.h", "odd.h", "open.h", "bare.h", "open.h"].map .text) rfl rfl rfl
  rw [hends, hparsed, hfailures]
  decide +kernel

/-- An access specifier without a word ends the run, although nothing is wrong with the syntax: the
header is not noted down as failed, and the run does not come to the next one. -/
theorem parse_bare_specifier :
    let r := throughSpecifiers ["bare.h", "open.h"]
    let done := r.perform (parse oneSpecifier)
    (oneSpecifier "class W \x7b : \x7d;".toUTF8.toList).firstFault?.isNone = true ∧
      ((newLibrary r.options).parseHeader specifiers oneSpecifier ⟨[], []⟩
        (.text "bare.h")).1.fault?.map Fault.label = some "IndexError" ∧
      done.1.isOk = false ∧ done.2.parsed = [] ∧ done.2.failures = [] := by
  decide +kernel

end Run

end Bindery
