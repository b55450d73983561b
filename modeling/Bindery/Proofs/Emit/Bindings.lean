import Bindery.Proofs.Emit.Exports
import Bindery.Proofs.Emit.Readings
import Bindery.Proofs.Emit.Resolved
import Bindery.Proofs.Pass.Changes

/-!
# Functions of a module

A module binds each function that it gives away in one line, in definition order: the line assigns
to the name that the function has now, and looks the function up under the name that it was created
with, however often passes, transforms and operations have renamed it. No other line of the module
binds anything, so a function that is left out is not bound.
-/

namespace Bindery

open Bindery.Naming

/-! ### Lines that bind a function -/

namespace Code

/-- Whether a line assigns to a name what is bound. -/
def assignsBinding (line : String) : Bool :=
  isValid (String.ofList (line.toList.takeWhile isNameChar)) &&
    " = _bind(".toList.isPrefixOf (line.toList.dropWhile isNameChar) &&
    line.toList.getLast? == some ')'

theorem assignsBinding_of_head {line : String} (h : line.toList.head?.any isNameChar = false) :
    assignsBinding line = false := by
  obtain ⟨hword, -⟩ := takeWhile_word (rfl : [].all isNameChar = true) line.toList h
  rw [List.nil_append] at hword
  unfold assignsBinding
  rw [hword]
  rfl

/-- The lines that bind a function. -/
def bindingLines : Reading String :=
  .lines assignsBinding fun _ => assignsBinding_of_head

/-- The lines that start with a name. -/
def namedLines : Reading String :=
  .lines (·.toList.head?.any isNameChar) fun _ h => h

/-- A line that ends in anything but a bracket binds nothing. -/
theorem bindingLines_append {text : String} (before : String)
    (h : text.toList.getLast? ≠ some ')') (hne : text ≠ "") :
    bindingLines.of? (before ++ text) = none := by
  have htext : text.toList ≠ [] := fun hnil => hne (String.toList_eq_nil_iff.1 hnil)
  refine Reading.of?_lines.2 ?_
  unfold assignsBinding
  rw [String.toList_append, List.getLast?_append_of_ne_nil _ htext, beq_eq_false_iff_ne.2 h,
    Bool.and_false]

/-- An assignment of a call that binds is told by its name and its end. -/
theorem assignsBinding_call {name : String} (h : isValid name = true) (rest : String) :
    assignsBinding (name ++ " = _bind(" ++ rest ++ "])") = true := by
  have hsplit := takeWhile_word (isValid_iff.1 h).2.1
    (" = _bind(".toList ++ rest.toList ++ "])".toList) rfl
  unfold assignsBinding
  simp only [String.toList_append, List.append_assoc] at hsplit ⊢
  rw [hsplit.1, hsplit.2, String.ofList_toList, h, ← List.append_assoc, ← List.append_assoc,
    List.getLast?_append_of_ne_nil _ (by decide)]
  simp

/-- A line that is not indented is added as it is. -/
theorem lines_line {c : Code} (hlevel : c.level = 0) (text : String) :
    (c.line text).lines = c.lines ++ [text] := by
  unfold line
  rw [hlevel, show times 0 c.unit ++ text = text by simp [times], ite_eq_right_iff.2 Eq.symm]

/-- The start of a module binds no function. -/
theorem bindingLines_startLines (o : Options) :
    (Emission.startLines o).filterMap bindingLines.of? = [] := by
  have hpath : assignsBinding ("_library_path" ++ (" = ctypes.util.find_library(" ++
      (o.libraryName.literal ++ ")"))) = false := by
    have hsplit := takeWhile_word (by decide : "_library_path".toList.all isNameChar = true)
      (" = ctypes.util.find_library(".toList ++ (o.libraryName.literal.toList ++ ")".toList)) rfl
    have hother : " = _bind(".toList.isPrefixOf (" = ctypes.util.find_library(".toList ++
      (o.libraryName.literal.toList ++ ")".toList)) = false := rfl
    unfold assignsBinding
    rw [String.toList_append, String.toList_append, String.toList_append, hsplit.2, hother,
      Bool.and_false, Bool.false_and]
  rw [← String.append_assoc, ← String.append_assoc] at hpath
  rw [List.filterMap_eq_nil_iff]
  intro line hline
  refine Reading.of?_lines.2 ?_
  unfold Emission.startLines at hline
  split_ifs at hline <;> simp only [List.cons_append, List.nil_append, List.mem_cons,
    List.not_mem_nil, or_false] at hline
  · rcases hline with rfl | rfl | rfl | rfl | rfl | rfl
    exacts [by decide, by decide, by decide, hpath, by decide, by decide]
  · rcases hline with rfl | rfl | rfl | rfl | rfl <;> decide

end Code

/-! ### Functions that are bound -/

/-- How a function is bound. -/
structure BoundFunction where
  /-- The lines above it, which start with no name. -/
  above : List String
  /-- The name to which it is assigned. -/
  name : String
  /-- What it is looked up under in the native library. -/
  symbol : String
  /-- The type of its result. -/
  result : ForeignType
  /-- The types of its arguments. -/
  arguments : List ForeignType

namespace BoundFunction

/-- The line that binds a function. -/
def line (b : BoundFunction) : String :=
  b.name ++ " = _bind(" ++ Text.quoted b.symbol ++ ", " ++ b.result.text ++ ", [" ++
    ", ".intercalate (b.arguments.map (·.text)) ++ "])"

/-- All lines of a function. -/
def lines (b : BoundFunction) : List String :=
  b.above ++ [b.line]

theorem assignsBinding_line {b : BoundFunction} (h : isValid b.name = true) :
    Code.assignsBinding b.line = true := by
  have hcall := Code.assignsBinding_call h (Text.quoted b.symbol ++ (", " ++ (b.result.text ++
    (", [" ++ ", ".intercalate (b.arguments.map (·.text))))))
  unfold line
  simpa only [String.append_assoc] using hcall

end BoundFunction

namespace Library

/-- The first name that is told for a declaration is the one that it was created with, unless that
is empty. -/
theorem earlierName_eq {d : Decl} (h : d.firstName ≠ "") : earlierName d = d.firstName := by
  unfold earlierName
  unfold Decl.firstName at *
  cases hgiven : d.givenName with
  | none => rfl
  | some n =>
    rw [hgiven] at h
    exact if_neg h

/-- What is put in order is in order. -/
theorem inOrder_pairwise (ds : List Decl) : (inOrder ds).Pairwise (·.order ≤ ·.order) := by
  refine (List.pairwise_mergeSort (fun a b c hab hbc => ?_) (fun a b => ?_) ds).imp fun h => ?_
  · simp only [decide_eq_true_eq] at *
    omega
  · simp only [Bool.or_eq_true, decide_eq_true_eq]
    omega
  · exact of_decide_eq_true h

end Library

namespace Emission

open Writing Code

variable (e : Emission) (o : Options)

/-- The type of an argument is that of a parameter. -/
def Takes (id : Nat) (t : ForeignType) : Prop :=
  ∃ d type index found, e.library.decl? id = some d ∧ d.body = .parameter type index ∧
    e.lookup type = .ok found ∧ t = found.foreignType

/-- A function is bound under its name, with the types of its prototype. -/
structure Binds (d : Decl) (b : BoundFunction) : Prop where
  /-- No line above it starts with a name. -/
  above : ∀ text ∈ b.above, text.toList.head?.any isNameChar = false
  /-- It is assigned to its name. -/
  name : b.name = d.name
  /-- It is looked up under the first name that is told for it. -/
  symbol : b.symbol = Library.earlierName d
  /-- Its result and its arguments have the types of the prototype, one for each parameter. -/
  types : ∃ p found, d.body.prototype? = some p ∧ e.lookup p.returnType = .ok found ∧
    b.result = found.foreignType ∧ List.Forall₂ e.Takes p.parameters b.arguments

variable {e}

/-- What a parameter comes to is the type of an argument. -/
theorem takes_of_parameterType? {id : Nat} {t : ForeignType}
    (h : e.parameterType? id = .ok (some t)) : e.Takes id t := by
  unfold parameterType? at h
  cases hd : e.library.decl? id with
  | none =>
    rw [hd] at h
    cases h
  | some d =>
    simp only [hd] at h
    cases hbody : d.body with
    | parameter type index =>
      simp only [hbody] at h
      obtain ⟨found, hfound, h⟩ := bind_eq_ok_iff.1 h
      cases h
      exact ⟨d, type, index, found, hd, hbody, hfound, rfl⟩
    | _ =>
      simp only [hbody] at h
      cases h

/-- A parameter comes to a type, if it comes to anything. -/
theorem parameterType?_ne_none {id : Nat} {d : Decl} (hd : e.library.decl? id = some d)
    (hform : d.body.form = .parameter) : e.parameterType? id ≠ .ok none := by
  intro h
  cases hbody : d.body <;> simp [hbody, Body.form] at hform
  unfold parameterType? at h
  simp only [hd, hbody] at h
  obtain ⟨found, -, h⟩ := bind_eq_ok_iff.1 h
  cases h

/-- Where lists of parameters hold parameters, there is one type for each. -/
theorem forall₂_takes (hp : e.library.HoldsParameters) {k : Nat} {d : Decl} {p : Prototype}
    (hd : e.library.decl? k = some d) (hproto : d.body.prototype? = some p)
    {types : List ForeignType} (h : e.parameterTypes p = .ok types) :
    List.Forall₂ e.Takes p.parameters types := by
  have hlist : d.body.listOf "parameters" = p.parameters := by
    cases hbody : d.body <;> simp [hbody, Body.prototype?] at hproto <;> subst hproto <;> rfl
  refine (forall₂_of_filterMapM_ok (fun id hid => ?_) h).imp fun _ _ => takes_of_parameterType?
  obtain ⟨c, hc, hform⟩ := hp k d hd id (hlist ▸ hid)
  exact parameterType?_ne_none hc hform

/-- A function that is written is bound in one line. -/
theorem exists_of_writeFunction (hp : e.library.HoldsParameters) {k : Nat} {d : Decl}
    (hd : e.library.decl? k = some d) (hfunction : d.body.isFunction = true) {c c' : Code}
    {u : Unit} (hunit : c.unit = "    ") (hlevel : c.level = 0)
    (h : (e.writeFunction o d).run c = .ok (u, c')) :
    ∃ b, e.Binds d b ∧ c.Onto c' ∧ c'.lines = c.lines ++ b.lines := by
  obtain ⟨p, hproto⟩ := Body.exists_prototype? hfunction
  unfold writeFunction at h
  obtain ⟨_, gap, hblank, hrest⟩ := exists_of_run_bind h
  obtain ⟨_, noted, hnotes, hcall⟩ := exists_of_run_bind hrest
  simp only [hproto] at hcall
  obtain ⟨found, _, hresult, htyped⟩ := exists_of_run_bind hcall
  obtain ⟨hfound, hsame⟩ := eq_of_run_lift hresult
  obtain ⟨types, _, harguments, hline⟩ := exists_of_run_bind htyped
  obtain ⟨htypes, hsame'⟩ := eq_of_run_lift harguments
  rw [hsame', hsame] at hline
  cases hline
  obtain ⟨hgap, hgapped⟩ :=
    ReadsAt.blank (r := namedLines) 1 c _ gap hunit (decide_eq_true hlevel) hblank
  obtain ⟨hon, hnoted⟩ := e.provenance_reads (r := namedLines) o d gap _ noted
    (hgap.unit.trans hunit) (decide_eq_true (hgap.level.trans hlevel)) hnotes
  have habove := hgap.trans hon
  have hnone : read namedLines c noted = [] := by
    rw [read_trans namedLines hgap.lines hon.lines, hgapped, hnoted, List.append_nil]
  let b : BoundFunction := ⟨added c noted, d.name, Library.earlierName d, found.foreignType, types⟩
  refine ⟨b, ⟨fun text htext => ?_, rfl, rfl, p, found, hproto, hfound, rfl,
    forall₂_takes hp hd hproto htypes⟩, habove.trans (noted.onto_line b.line), ?_⟩
  · exact Reading.of?_lines.1 (List.filterMap_eq_nil_iff.1 hnone text htext)
  · show (noted.line b.line).lines = _
    rw [lines_line (habove.level.trans hlevel), BoundFunction.lines, ← List.append_assoc,
      habove.append_added]

/-- Functions that are written are bound one after the other. -/
theorem exists_of_writeFunctions (hp : e.library.HoldsParameters) {ds : List Decl}
    (hds : ∀ d ∈ ds, d.body.isFunction = true ∧ ∃ k, e.library.decl? k = some d) {c c' : Code}
    {u : Unit} (hunit : c.unit = "    ") (hlevel : c.level = 0)
    (h : (ds.forM (e.writeFunction o)).run c = .ok (u, c')) :
    ∃ bs, List.Forall₂ e.Binds ds bs ∧ c.Onto c' ∧ c'.lines = c.lines ++ bs.flatMap (·.lines) := by
  induction ds generalizing c with
  | nil =>
    cases h
    exact ⟨[], .nil, .refl _, (List.append_nil _).symm⟩
  | cons d ds ih =>
    obtain ⟨hd, hds⟩ := List.forall_mem_cons.1 hds
    obtain ⟨hfunction, k, hk⟩ := hd
    obtain ⟨_, mid, hfirst, hrest⟩ :=
      exists_of_run_bind (w := e.writeFunction o d) (k := fun _ => ds.forM (e.writeFunction o)) h
    obtain ⟨b, hb, hon, hlines⟩ := exists_of_writeFunction o hp hk hfunction hunit hlevel hfirst
    obtain ⟨bs, hbs, hon', hlines'⟩ :=
      ih hds (hon.unit.trans hunit) (hon.level.trans hlevel) hrest
    refine ⟨b :: bs, .cons hb hbs, hon.trans hon', ?_⟩
    rw [hlines', hlines, List.flatMap_cons, List.append_assoc]

/-! ### Parts that bind no function -/

theorem writeEnum_silent (d : Decl) : ReadsAt bindingLines true (e.writeEnum o d) [] := by
  have hreads := e.writeEnum_reads (r := bindingLines) o d
  rwa [bindingLines_append _ (by decide) (by decide)] at hreads

theorem writeClass_silent (d : Decl) : ReadsAt bindingLines true (e.writeClass o d) [] := by
  have hreads := e.writeClass_reads (r := bindingLines) o d
  rwa [classHeader, bindingLines_append _ (by decide) (by decide)] at hreads

theorem writeLayouts_silent (classes : List Decl) :
    ReadsAt bindingLines true (e.writeLayouts classes) [] := by
  refine e.writeLayouts_reads fun _ _ _ _ d _ => e.writeLayout_reads (fun names => ?_) ?_
  · unfold nameList
    rw [← String.append_assoc]
    exact bindingLines_append _ (by decide) (by decide)
  · exact bindingLines_append _ (by decide) (by decide)

theorem writeExports_silent (classes : List Decl) :
    ReadsAt bindingLines true (e.writeExports classes) [] := by
  have hheader : bindingLines.of? "__all__ = [" = none := Reading.of?_lines.2 (by decide)
  have hreads := e.writeExports_reads (r := bindingLines) classes
  rwa [hheader] at hreads

/-- A list of names is only written if no name is given away twice. -/
theorem nodup_of_writeExports {classes : List Decl} {c c' : Code} {u : Unit}
    (h : (e.writeExports classes).run c = .ok (u, c')) : (e.exports classes).Nodup := by
  unfold writeExports at h
  dsimp only at h
  split_ifs at h with hduplicates
  · cases h
  · rw [Bool.not_eq_true', Bool.not_eq_false] at hduplicates
    exact duplicatesOf_eq_nil_iff.1 (List.isEmpty_iff.1 hduplicates)

/-! ### Whole modules -/

/-- The functions of a module are bound behind a gap, if there are any. -/
theorem exists_of_writeFunctionPart (hp : e.library.HoldsParameters) {c c' : Code} {u : Unit}
    {k : Unit → Writing Unit} (hunit : c.unit = "    ") (hlevel : c.level = 0)
    (h : (do
      if !e.library.emittedFunctions.isEmpty then
        blank 2
        e.library.emittedFunctions.forM (e.writeFunction o)
      k ()).run c = .ok (u, c')) :
    ∃ gap done bs, c.Onto gap ∧ read bindingLines c gap = [] ∧
      List.Forall₂ e.Binds e.library.emittedFunctions bs ∧ gap.Onto done ∧
      done.lines = gap.lines ++ bs.flatMap (·.lines) ∧ (k ()).run done = .ok (u, c') := by
  cases hempty : e.library.emittedFunctions.isEmpty with
  | true =>
    rw [hempty] at h
    rw [List.isEmpty_iff.1 hempty]
    exact ⟨c, c, [], .refl c, read_self _ c, .nil, .refl c, (List.append_nil _).symm, h⟩
  | false =>
    rw [hempty] at h
    obtain ⟨_, gap, hblank, hrest⟩ := exists_of_run_bind h
    obtain ⟨_, done, hwritten, hbehind⟩ := exists_of_run_bind hrest
    obtain ⟨hon, hnone⟩ :=
      ReadsAt.blank (r := bindingLines) 2 c _ gap hunit (decide_eq_true hlevel) hblank
    have hfunctions : ∀ d ∈ e.library.emittedFunctions, d.body.isFunction = true ∧
        ∃ k, e.library.decl? k = some d := by
      intro d hd
      obtain ⟨hwalk, hfunction, -⟩ := Library.mem_emittedFunctions.1 hd
      obtain ⟨k, -, hk⟩ := Library.exists_of_mem_walk hwalk
      exact ⟨hfunction, k, hk⟩
    obtain ⟨bs, hbs, hon', hlines⟩ := exists_of_writeFunctions o hp hfunctions
      (hon.unit.trans hunit) (hon.level.trans hlevel) hwritten
    exact ⟨gap, done, bs, hon, hnone, hbs, hon', hlines, hbehind⟩

/-- The documentation that a module starts with. -/
def documented (o : Options) : Code :=
  (Code.empty "    ").docstring ("ctypes bindings for " ++ o.namespaceName.shown ++ ".")

/-- A module that is written has its functions in order, with nothing else that binds before or
behind them. -/
theorem exists_of_moduleText (hp : e.library.HoldsParameters) {text : String}
    (h : e.moduleText o = .ok text) :
    (e.library.emittedFunctions.map (·.name)).Nodup ∧
      ∃ bindings before after, List.Forall₂ e.Binds e.library.emittedFunctions bindings ∧
        text = Code.output ⟨(documented o).lines ++ before ++
          bindings.flatMap BoundFunction.lines ++ after, 0, "    "⟩ ∧
        ∀ line ∈ before ++ after, assignsBinding line = false := by
  obtain ⟨⟨_, last⟩, hwritten, hlast⟩ := bind_eq_ok_iff.1 h
  cases hlast
  unfold writeModule at hwritten
  obtain ⟨_, start, hstart, hbelow⟩ := exists_of_run_bind hwritten
  obtain ⟨_, enums, henums, hbelow⟩ := exists_of_run_bind hbelow
  obtain ⟨_, classes, hclasses, hbelow⟩ := exists_of_run_bind hbelow
  obtain ⟨_, layouts, hlayouts, hbelow⟩ := exists_of_run_bind hbelow
  -- nothing between the documentation and the functions binds anything
  have hdocumented : (Code.empty "    ").Onto (documented o) := Appends.docstring _ _ () _ rfl
  have hunit : (documented o).unit = "    " := hdocumented.unit
  have hlevel : (documented o).level = 0 := hdocumented.level
  obtain ⟨hon, hread⟩ := read_writeStart bindingLines o rfl rfl hstart
  rw [bindingLines_startLines] at hread
  have henums := (ReadsAt.forM_nil fun d _ => e.writeEnum_silent o d).quietly hunit hlevel
    ⟨hon, hread⟩ henums
  have hclasses := (ReadsAt.forM_nil fun d _ => e.writeClass_silent o d).quietly hunit hlevel
    henums hclasses
  have hlayouts := (e.writeLayouts_silent _).quietly hunit hlevel hclasses hlayouts
  obtain ⟨gap, done, bindings, hgap, hsilent, hbindings, hdone, hlines, hexports⟩ :=
    exists_of_writeFunctionPart o hp (k := fun _ => e.writeExports e.library.emittedClasses)
      (hlayouts.1.unit.trans hunit) (hlayouts.1.level.trans hlevel) hbelow
  have hbefore := hlayouts.1.trans hgap
  have hnone : read bindingLines (documented o) gap = [] := by
    rw [read_trans _ hlayouts.1.lines hgap.lines, hlayouts.2, hsilent, List.append_nil]
  have hreached := hbefore.trans hdone
  obtain ⟨hlast, hnone'⟩ := e.writeExports_silent _ done _ last (hreached.unit.trans hunit)
    (decide_eq_true (hreached.level.trans hlevel)) hexports
  have hnodup := nodup_of_writeExports hexports
  unfold exports at hnodup
  rw [List.map_append] at hnodup
  refine ⟨(List.nodup_append.1 hnodup).2.1, bindings, added (documented o) gap, added done last,
    hbindings, ?_, fun line hline => ?_⟩
  · have hall : last.lines = (documented o).lines ++ added (documented o) gap ++
        bindings.flatMap BoundFunction.lines ++ added done last := by
      rw [hbefore.append_added, ← hlines, hlast.append_added]
    unfold Code.output
    rw [hall]
  · rcases List.mem_append.1 hline with hline | hline
    · exact Reading.of?_lines.1 (List.filterMap_eq_nil_iff.1 hnone line hline)
    · exact Reading.of?_lines.1 (List.filterMap_eq_nil_iff.1 hnone' line hline)

/-- The functions of a library as they are bound in the text of a module; `created` is the library
as it was before anything was renamed. -/
structure FunctionsBound (e : Emission) (created : Library) (o : Options) (text : String)
    (bindings : List BoundFunction) : Prop where
  /-- Functions that can be reached and are not left out are emitted, and no others. -/
  emitted : ∀ d, d ∈ e.library.emittedFunctions ↔
    d ∈ e.library.walk ∧ d.body.isFunction = true ∧ d.ignored = false
  /-- Each of them is emitted once, and their names differ. -/
  names_nodup : (e.library.emittedFunctions.map (·.name)).Nodup
  /-- They are in definition order. -/
  order : e.library.emittedFunctions.Pairwise (·.order ≤ ·.order)
  /-- Each of them is bound, with its name and its types. -/
  binds : List.Forall₂ e.Binds e.library.emittedFunctions bindings
  /-- What was created under a name is looked up under it. -/
  symbols : List.Forall₂ (fun d b => ∀ k c, e.library.decl? k = some d →
    created.decl? k = some c → c.givenName = none → c.name ≠ "" → b.symbol = c.name)
    e.library.emittedFunctions bindings
  /-- The lines that bind them stand in their order, and none of the lines around them binds
  anything. -/
  text : ∃ before after, text = Code.output ⟨(documented o).lines ++ before ++
      bindings.flatMap BoundFunction.lines ++ after, 0, "    "⟩ ∧
    ∀ line ∈ before ++ bindings.flatMap BoundFunction.above ++ after, assignsBinding line = false
  /-- Those that assign to a name that can be used are told as lines that bind. -/
  lines : ∀ b ∈ bindings, isValid b.name = true → assignsBinding b.line = true

/-- Whatever passes, transforms and operations have done to a library, and however often they have
renamed its functions: where a module is written, it binds each function that can be reached and is
not left out once and in definition order, assigns it to the name it has now, and looks it up under
the name that it was created with. -/
theorem functions_bound {lib out : Library} (hp : lib.HoldsParameters) (h : lib.Changes out)
    {table : TypeTable} {text : String} (htext : (ofLibrary out table).moduleText o = .ok text) :
    ∃ bindings, (ofLibrary out table).FunctionsBound lib o text bindings := by
  have hlasts := h.lasts
  obtain ⟨hnodup, bindings, before, after, hbinds, htext, hnone⟩ :=
    exists_of_moduleText (e := ofLibrary out table) o (hlasts.parameters hp) htext
  have habove : ∀ b ∈ bindings, ∀ line ∈ b.above, line.toList.head?.any isNameChar = false := by
    have hflipped : List.Forall₂ (fun b d => (ofLibrary out table).Binds d b) bindings
        out.emittedFunctions := List.Forall₂.flip hbinds
    exact ((List.forall₂_and_left _ _).1 (hflipped.imp fun b d hb => ⟨hb.above, hb⟩)).1
  refine ⟨bindings, fun d => Library.mem_emittedFunctions, hnodup, Library.inOrder_pairwise _,
    hbinds, ?_, ⟨before, after, htext, fun line hline => ?_⟩,
    fun b _ hvalid => BoundFunction.assignsBinding_line hvalid⟩
  · refine hbinds.imp fun d b hb k c hd hc hgiven hname => ?_
    obtain ⟨d', hd', -, hfirst⟩ := hlasts.decl k c hc
    cases hd.symm.trans hd'
    have hcreated : c.firstName = c.name := by
      rw [Decl.firstName, hgiven]
      rfl
    rw [hcreated] at hfirst
    rw [hb.symbol, Library.earlierName_eq (hfirst ▸ hname), hfirst]
  · rw [List.mem_append, List.mem_append, List.mem_flatMap] at hline
    rcases hline with (hline | ⟨b, hb, hline⟩) | hline
    · exact hnone line (List.mem_append_left _ hline)
    · exact assignsBinding_of_head (habove b hb line hline)
    · exact hnone line (List.mem_append_right _ hline)

/-- What functions are assigned to and looked up under, read off their declarations. -/
theorem map_of_forall₂_binds {ds : List Decl} {bs : List BoundFunction}
    (h : List.Forall₂ e.Binds ds bs) :
    bs.map (fun b => (b.name, b.symbol)) = ds.map fun d => (d.name, Library.earlierName d) := by
  induction h with
  | nil => rfl
  | cons hd _ ih => rw [List.map_cons, List.map_cons, ih, hd.name, hd.symbol]

/-- A function of a header that was renamed to a reserved word, behind the pass that replaces such
names. -/
def reserved : Library :=
  (outcomeOf PassM.cleanNames ⟨(outcomeOf (Edit.rename 1 "class")
    (soleParameter "primitive_type" "double").2).2, [], .empty⟩).2.library

theorem changes_reserved : (soleParameter "primitive_type" "double").2.Changes reserved := by
  refine .tail (.single (.operation (.rename 1 "class"))) (.pass (p := .cleanNames)
    (s := ⟨.typed _, [], .empty⟩) rfl ?_)
  show (outcomeOf (PassM.either _ _) _).2.library = _
  rw [PassM.outcomeOf_either_typed rfl]
  rfl

/-- It is assigned to its third name and still looked up under its first one. -/
theorem functions_bound_reserved : ∃ text bindings,
    (ofLibrary reserved .standard).moduleText .default = .ok text ∧
      (ofLibrary reserved .standard).FunctionsBound (soleParameter "primitive_type" "double").2
        .default text bindings ∧
      bindings.map (fun b => (b.name, b.symbol)) = [("class_", "f")] := by
  have hparsed : (soleParameter "primitive_type" "double").1.isParsed = true := by
    decide +kernel
  have hp := (fromHeaders_soleParameter hparsed).grown.coherent.holdsParameters
  have hwritten : ((ofLibrary reserved .standard).moduleText .default).isOk = true := by
    decide +kernel
  have hnames : reserved.emittedFunctions.map (fun d => (d.name, Library.earlierName d)) =
      [("class_", "f")] := by
    decide +kernel
  obtain ⟨text, htext⟩ := exists_of_isOk hwritten
  obtain ⟨bindings, hbound⟩ := functions_bound .default hp changes_reserved htext
  exact ⟨text, bindings, htext, hbound, (map_of_forall₂_binds hbound.binds).trans hnames⟩

end Emission

end Bindery
