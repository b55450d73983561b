import Bindery.Proofs.Emit.Readings
import Bindery.Proofs.Emit.Resolved
import Bindery.Proofs.Emit.Withheld

/-!
# Names that a module binds

A module binds names by its imports, by the headers of its classes and functions, and by
assignments, all in lines that are not indented. Its start binds the names that the rest works with,
and each enumeration, class and function below binds its own name. Names that the passes keep apart
from the words of the module are apart from two of the names of the start only: a declaration that
is called like the native library or like the function that binds to it takes the place of that.
-/

namespace Bindery

open Bindery.Naming

/-! ### Names bound by lines -/

namespace Code

/-- The words behind which a line has the name that it binds. -/
def bindingWords : List String := ["import", "def", "class"]

/-- The name that a line binds in its module, if it binds one. -/
def boundName? (line : String) : Option String :=
  let word := String.ofList (line.toList.takeWhile isNameChar)
  let rest := line.toList.dropWhile isNameChar
  if bindingWords.contains word then some (String.ofList (rest.tail.takeWhile isNameChar))
  else if word ≠ "" ∧ [' ', '=', ' '].isPrefixOf rest then some word
  else none

/-- The names bound by the lines that were added to code. -/
def bound (c c' : Code) : List String :=
  (added c c').filterMap boundName?

/-- A line that starts with no name binds none. -/
theorem boundName?_of_head {line : String} (h : line.toList.head?.any isNameChar = false) :
    boundName? line = none := by
  obtain ⟨hword, -⟩ := takeWhile_word (rfl : [].all isNameChar = true) line.toList h
  rw [List.nil_append] at hword
  unfold boundName?
  simp only [hword]
  rfl

/-- A header or an import binds the name behind its first word. -/
theorem boundName?_header {word name : String} (hword : word ∈ bindingWords)
    (hname : isValid name = true) (rest : String)
    (hrest : rest.toList.head?.any isNameChar = false) :
    boundName? (word ++ (" " ++ (name ++ rest))) = some name := by
  have hall : word.toList.all isNameChar = true := by
    have hwords : ∀ w ∈ bindingWords, w.toList.all isNameChar = true := by decide
    exact hwords word hword
  have hfirst := takeWhile_word hall (' ' :: (name.toList ++ rest.toList)) rfl
  have hsecond := takeWhile_word (isValid_iff.1 hname).2.1 rest.toList hrest
  unfold boundName?
  simp only [String.toList_append]
  rw [show " ".toList ++ (name.toList ++ rest.toList) =
    ' ' :: (name.toList ++ rest.toList) from rfl, hfirst.1, hfirst.2, List.tail_cons, hsecond.1,
    String.ofList_toList, String.ofList_toList, if_pos (List.contains_iff_mem.2 hword)]

theorem not_bindingWord {name : String} (h : isValid name = true) :
    bindingWords.contains name = false := by
  have hwords : ∀ w ∈ bindingWords, isValid w = false := by decide
  by_contra hmem
  rw [Bool.not_eq_false, List.contains_iff_mem] at hmem
  rw [hwords name hmem] at h
  cases h

/-- An assignment binds its name. -/
theorem boundName?_assigned {name : String} (h : isValid name = true) (value : String) :
    boundName? (name ++ (" = " ++ value)) = some name := by
  have hsplit := takeWhile_word (isValid_iff.1 h).2.1
    (' ' :: '=' :: ' ' :: value.toList) rfl
  unfold boundName?
  simp only [String.toList_append]
  rw [show " = ".toList ++ value.toList = ' ' :: '=' :: ' ' :: value.toList from rfl, hsplit.1,
    hsplit.2, String.ofList_toList, not_bindingWord h, if_neg (by decide),
    if_pos ⟨ne_empty_of_isValid h, rfl⟩]

/-- An attribute of a name is no name of the module. -/
theorem boundName?_attribute {name : String} (h : isValid name = true) (rest : String) :
    boundName? (name ++ ("." ++ rest)) = none := by
  have hsplit := takeWhile_word (isValid_iff.1 h).2.1 ('.' :: rest.toList) rfl
  unfold boundName?
  simp only [String.toList_append]
  rw [show ".".toList ++ rest.toList = '.' :: rest.toList from rfl, hsplit.1, hsplit.2,
    String.ofList_toList, not_bindingWord h, if_neg (by decide)]
  exact if_neg fun hboth => Bool.false_ne_true hboth.2

/-- The names that lines bind. -/
def boundNames : Reading String :=
  ⟨boundName?, fun _ => boundName?_of_head⟩

theorem boundNames_of? : boundNames.of? = boundName? := rfl

end Code

/-! ### Parts of a module -/

namespace Emission

open Writing Code

/-- The names that the start of a module binds. -/
def startWords (o : Options) : List String :=
  ["ctypes", "ctypes", "enum"] ++ (if o.libraryName.truthy then ["_library_path"] else []) ++
    ["_lib", "_bind"]

variable (e : Emission) (o : Options)

/-- Behind its documentation, the start of a module binds just the names that the module works
with. -/
theorem boundName?_startLines : (startLines o).filterMap boundName? = startWords o := by
  have himport : "import" ∈ bindingWords := by decide
  have hdef : "def" ∈ bindingWords := by decide
  have hctypes : isValid "ctypes" = true := by decide
  have hlib : isValid "_lib" = true := by decide
  have hfirst : boundName? "import ctypes" = some "ctypes" :=
    boundName?_header himport hctypes "" rfl
  have hsecond : boundName? "import ctypes.util" = some "ctypes" :=
    boundName?_header himport hctypes ".util" rfl
  have hthird : boundName? "import enum" = some "enum" :=
    boundName?_header himport (by decide : isValid "enum" = true) "" rfl
  have hnone : boundName? "_lib = None" = some "_lib" := boundName?_assigned hlib "None"
  have hloaded : boundName? "_lib = ctypes.CDLL(_library_path) if _library_path else None" =
      some "_lib" :=
    boundName?_assigned hlib "ctypes.CDLL(_library_path) if _library_path else None"
  have hpath : boundName? ("_library_path = ctypes.util.find_library(" ++
      o.libraryName.literal ++ ")") = some "_library_path" := by
    have hname := boundName?_assigned (by decide : isValid "_library_path" = true)
      ("ctypes.util.find_library(" ++ (o.libraryName.literal ++ ")"))
    rwa [← String.append_assoc, ← String.append_assoc, ← String.append_assoc] at hname
  have hbind : boundName? "def _bind(name, restype, argtypes):" = some "_bind" :=
    boundName?_header hdef (by decide : isValid "_bind" = true) "(name, restype, argtypes):" rfl
  unfold startLines startWords
  split_ifs <;>
    simp only [List.filterMap_append, List.filterMap_cons, List.filterMap_nil, hfirst, hsecond,
      hthird, hnone, hloaded, hpath, hbind] <;> rfl

variable {d : Decl} (hname : isValid d.name = true)
include hname

/-- An enumeration binds its name. -/
theorem writeEnum_binds : ReadsAt boundNames true (e.writeEnum o d) [d.name] := by
  have hheader : boundName? ("class " ++ d.name ++ "(enum.IntEnum):") = some d.name := by
    have hword : "class" ∈ bindingWords := by decide
    have hclass := boundName?_header hword hname "(enum.IntEnum):" rfl
    rwa [← String.append_assoc, ← String.append_assoc] at hclass
  have hreads := e.writeEnum_reads (r := boundNames) o d
  rwa [boundNames_of?, hheader] at hreads

/-- A class binds its name. -/
theorem writeClass_binds : ReadsAt boundNames true (e.writeClass o d) [d.name] := by
  have hheader : boundName? (classHeader d) = some d.name := by
    have hword : "class" ∈ bindingWords := by decide
    have hclass := fun base : String =>
      boundName?_header hword hname ("(" ++ (base ++ "):")) (by simp; decide)
    unfold classHeader
    simp only [String.append_assoc]
    exact hclass _
  have hreads := e.writeClass_reads (r := boundNames) o d
  rwa [boundNames_of?, hheader] at hreads

/-- A layout binds nothing: it gives attributes to the class. -/
theorem writeLayout_binds : ReadsAt boundNames true (e.writeLayout d) [] := by
  refine e.writeLayout_reads (fun names => ?_) (boundName?_attribute hname "_fields_ = [")
  rw [String.append_assoc]
  show boundName? (d.name ++ (("." ++ "_anonymous_ = ") ++ nameList names)) = none
  rw [String.append_assoc]
  exact boundName?_attribute hname _

/-- A function binds its name. -/
theorem writeFunction_binds (h : d.body.isFunction = true) :
    ReadsAt boundNames true (e.writeFunction o d) [d.name] := by
  have hline : ∀ rest, boundName? (d.name ++ (" = _bind(" ++ rest)) = some d.name := by
    intro rest
    show boundName? (d.name ++ ((" = " ++ "_bind(") ++ rest)) = some d.name
    rw [String.append_assoc]
    exact boundName?_assigned hname _
  obtain ⟨p, hp⟩ := Body.exists_prototype? h
  unfold writeFunction
  refine (ReadsAt.blank 1).nil_bind fun _ => (e.provenance_reads o d).nil_bind fun _ => ?_
  rw [hp]
  refine .lift_bind fun result _ => .lift_bind fun types _ => ?_
  simp only [String.append_assoc]
  have hbinds := ReadsAt.line (r := boundNames) (d.name ++ (" = _bind(" ++
    (Text.quoted (Library.earlierName d) ++ (", " ++ (result.foreignType.text ++
      (", [" ++ (", ".intercalate (types.map (·.text)) ++ "])")))))))
  rwa [boundNames_of?, hline] at hbinds

omit hname

/-- The list of the names that are given away has a name of its own. -/
theorem writeExports_binds (classes : List Decl) :
    ReadsAt boundNames true (e.writeExports classes) ["__all__"] := by
  have hheader : boundName? "__all__ = [" = some "__all__" :=
    boundName?_assigned (by decide : isValid "__all__" = true) "["
  have hreads := e.writeExports_reads (r := boundNames) classes
  rwa [boundNames_of?, hheader] at hreads

/-! ### Whole modules -/

/-- What stands below the start of a module binds the names that are given away, and the name of
their list. -/
theorem bound_writeModule {out : Library} (h : out.Settled) {table : TypeTable} {c' : Code}
    {u : Unit} (hrun : ((ofLibrary out table).writeModule o).run (.empty "    ") = .ok (u, c')) :
    ∃ start, (writeStart o).run (.empty "    ") = .ok ((), start) ∧ start.Onto c' ∧
      bound ((Code.empty "    ").docstring
        ("ctypes bindings for " ++ o.namespaceName.shown ++ ".")) start = startWords o ∧
      bound start c' = out.given.map (·.name) ++ ["__all__"] := by
  have hvalid : ∀ d ∈ out.given, isValid d.name = true := fun d hd => h.given_valid hd
  have hclasses : ∀ d ∈ out.emittedClasses, isValid d.name = true := fun d hd =>
    hvalid d (List.mem_append_left _ (List.mem_append_right _ hd))
  unfold writeModule at hrun
  obtain ⟨_, start, hstart, hrun⟩ := exists_of_run_bind hrun
  have honto : (Code.empty "    ").Onto start := appends_writeStart o _ _ _ hstart
  have hbelow : ReadsAt boundNames true (do
      out.emittedEnums.forM ((ofLibrary out table).writeEnum o)
      out.emittedClasses.forM ((ofLibrary out table).writeClass o)
      (ofLibrary out table).writeLayouts out.emittedClasses
      if !out.emittedFunctions.isEmpty then
        blank 2
        out.emittedFunctions.forM ((ofLibrary out table).writeFunction o)
      (ofLibrary out table).writeExports out.emittedClasses)
      (out.emittedEnums.flatMap (fun d => [d.name]) ++
        (out.emittedClasses.flatMap (fun d => [d.name]) ++
          (out.emittedFunctions.flatMap (fun d => [d.name]) ++ ["__all__"]))) := by
    refine ReadsAt.bind (.forM fun d hd => ?_) fun _ =>
      ReadsAt.bind (.forM fun d hd => ?_) fun _ => ReadsAt.nil_bind ?_ fun _ => ?_
    · exact writeEnum_binds _ o (hvalid d (List.mem_append_left _ (List.mem_append_left _ hd)))
    · exact writeClass_binds _ o (hclasses d hd)
    · refine writeLayouts_reads _ fun laidOut hsub ordered hordered d hd =>
        writeLayout_binds _ (hclasses d (hsub ?_))
      refine (mem_iff_of_layoutOrder (fun a ha b hb => ?_) hordered).1 hd
      exact h.isTree.eq_of_mem_walk ((Library.mem_emittedClasses h.isTree).1 (hsub ha)).1
        ((Library.mem_emittedClasses h.isTree).1 (hsub hb)).1
    · have hexports := writeExports_binds (ofLibrary out table) out.emittedClasses
      cases hempty : out.emittedFunctions.isEmpty with
      | true =>
        rw [List.isEmpty_iff.1 hempty]
        exact hexports
      | false =>
        refine (ReadsAt.blank 2).nil_bind fun _ => ReadsAt.bind (.forM fun d hd => ?_)
          fun _ => hexports
        exact writeFunction_binds _ o (hvalid d (List.mem_append_right _ hd))
          (Library.mem_emittedFunctions.1 hd).2.1
  obtain ⟨hon, hnames⟩ :=
    hbelow _ _ _ honto.unit (decide_eq_true honto.level) hrun
  have hwords := (read_writeStart boundNames o rfl rfl hstart).2
  refine ⟨start, hstart, hon, Eq.trans hwords (boundName?_startLines o), Eq.trans hnames ?_⟩
  simp only [← List.map_eq_flatMap, Library.given, List.map_append, List.append_assoc]

theorem not_mem_startWords : "__all__" ∉ startWords o := by
  unfold startWords
  split_ifs <;> decide

/-- Behind the passes of every run, a module binds just the names that it gives away below its
start, and the name of their list. So nothing takes the place of the words of the module; but a name
of the start that is none of these words is bound once more just if a declaration that is given away
is called like it. -/
theorem start_rebound_iff {lib : Library} (h : lib.IsTree) :
    (lib.ScopesAgree → (Schedule.builtin.run (.typed lib)).1 = none) ∧
      ((Schedule.builtin.run (.typed lib)).1 = none →
        ∃ out, (Schedule.builtin.run (.typed lib)).2.1 = .typed out ∧
          ∀ table o text, (ofLibrary out table).moduleText o = .ok text →
            ∃ start last : Code, (writeStart o).run (.empty "    ") = .ok ((), start) ∧
              start.Onto last ∧ text = last.output ∧
              bound ((Code.empty "    ").docstring
                ("ctypes bindings for " ++ o.namespaceName.shown ++ ".")) start = startWords o ∧
              bound start last = out.given.map (·.name) ++ ["__all__"] ∧
              (∀ w ∈ moduleWords, w ∉ bound start last) ∧
              ∀ w ∈ startWords o, w ∈ bound start last ↔ ∃ d ∈ out.given, d.name = w) := by
  refine ⟨Schedule.run_builtin_of_scopesAgree h, fun hrun => ?_⟩
  obtain ⟨-, out, -, -, hsettled, hout⟩ := Schedule.exists_of_run_builtin h hrun
  refine ⟨out, hout, fun table o text htext => ?_⟩
  obtain ⟨⟨_, last⟩, hwritten, hlast⟩ := bind_eq_ok_iff.1 htext
  obtain ⟨start, hstart, hon, hwords, hnames⟩ := bound_writeModule o hsettled hwritten
  refine ⟨start, last, hstart, hon, (Except.ok.inj hlast).symm, hwords, hnames, ?_, ?_⟩
  · intro w hw hmem
    have hne : w ≠ "__all__" := ne_of_mem_of_not_mem hw (by decide)
    rw [hnames, List.mem_append, List.mem_singleton, or_iff_left hne] at hmem
    exact (List.nodup_append.1 hsettled.given_apart).2.2 w hmem w hw rfl
  · intro w hw
    have hne : w ≠ "__all__" := ne_of_mem_of_not_mem hw (not_mem_startWords o)
    rw [hnames, List.mem_append, List.mem_singleton, or_iff_left hne, List.mem_map]

/-- A unit with a function that is called like the function that binds. -/
def selfBound : Library :=
  ⟨.text "", .text "", [0],
    [⟨{ Decl.blank 0 none (.unit ⟨[], [], [], [1]⟩ "a.h") with name := "a.h" }, true⟩,
      ⟨{ Decl.blank 1 (some 0) (.function ⟨"void", [], false⟩) with name := "_bind" }, true⟩]⟩

theorem isTree_selfBound : selfBound.IsTree ∧ selfBound.ScopesAgree :=
  Library.isTree_of_isRegular (by decide +kernel)

/-- The module of that unit is written. -/
theorem moduleText_selfBound {out : Library}
    (hout : (Schedule.builtin.run (.typed selfBound)).2.1 = .typed out) :
    (∃ text, (ofLibrary out .standard).moduleText .default = .ok text) ∧
      out.given.map (·.name) = ["_bind"] := by
  have hseen : Graph.isTyped (fun out =>
      ((ofLibrary out .standard).moduleText .default).isOk &&
        out.given.map (·.name) == ["_bind"])
      (Schedule.builtin.run (.typed selfBound)).2.1 = true := by
    decide +kernel
  rw [hout] at hseen
  obtain ⟨htext, hnames⟩ := Bool.and_eq_true_iff.1 hseen
  exact ⟨exists_of_isOk htext, beq_iff_eq.1 hnames⟩

theorem start_rebound_selfBound : ∃ start last : Code,
    (writeStart .default).run (.empty "    ") = .ok ((), start) ∧ start.Onto last ∧
      "_bind" ∈ bound start last ∧ "_lib" ∉ bound start last := by
  obtain ⟨htree, hscopes⟩ := isTree_selfBound
  obtain ⟨hruns, hmodule⟩ := start_rebound_iff htree
  obtain ⟨out, hout, hall⟩ := hmodule (hruns hscopes)
  obtain ⟨⟨text, htext⟩, hnames⟩ := moduleText_selfBound hout
  obtain ⟨start, last, hstart, hon, -, -, hbound, -, hiff⟩ := hall .standard .default text htext
  refine ⟨start, last, hstart, hon, ?_, ?_⟩
  · obtain ⟨d, hd, hname⟩ := List.mem_map.1 (hnames ▸ List.mem_singleton_self "_bind" :
      "_bind" ∈ out.given.map (·.name))
    exact (hiff "_bind" (by decide)).2 ⟨d, hd, hname⟩
  · rw [hbound, hnames]
    decide

/-- A function can take the place of the one that binds the functions below it. -/
theorem bindingFunction_rebound : selfBound.IsTree ∧ selfBound.ScopesAgree ∧ ∃ out : Library,
    (Schedule.builtin.run (.typed selfBound)).1 = none ∧
      (Schedule.builtin.run (.typed selfBound)).2.1 = .typed out ∧ ∃ start last : Code,
        (writeStart .default).run (.empty "    ") = .ok ((), start) ∧ start.Onto last ∧
          (ofLibrary out .standard).moduleText .default = .ok last.output ∧
          "_bind" ∈ bound ((Code.empty "    ").docstring
            ("ctypes bindings for " ++ Options.default.namespaceName.shown ++ ".")) start ∧
          "_bind" ∈ bound start last := by
  obtain ⟨htree, hscopes⟩ := isTree_selfBound
  have hrun := Schedule.run_builtin_of_scopesAgree htree hscopes
  obtain ⟨-, out, -, -, hsettled, hout⟩ := Schedule.exists_of_run_builtin htree hrun
  obtain ⟨⟨text, htext⟩, hgiven⟩ := moduleText_selfBound hout
  obtain ⟨⟨_, last⟩, hwritten, -⟩ := bind_eq_ok_iff.1 htext
  obtain ⟨start, hstart, hon, hwords, hnames⟩ := bound_writeModule .default hsettled hwritten
  refine ⟨htree, hscopes, out, hrun, hout, start, last, hstart, hon,
    bind_eq_ok_iff.2 ⟨_, hwritten, rfl⟩, ?_, ?_⟩
  · rw [hwords]
    decide
  · rw [hnames, hgiven]
    decide

end Emission

end Bindery
