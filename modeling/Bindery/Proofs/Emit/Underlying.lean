import Bindery.Proofs.Emit.NameIndex
import Bindery.Proofs.TypeTable.Arrays

/-!
# Enumerations as types

An enumeration is declared with the integer type that its values have, and the name of every
enumeration is described as `c_int`, by itself and in arrays. The description of its name agrees
with the description of the type it is declared with just if the name stands for an enumeration and
that type is described as `c_int` too; otherwise what has the type of the enumeration has another
size.
-/

namespace Bindery

open Bindery.Naming

namespace TypeTable

open Bindery.Signature Bindery.DeclaratorMark

variable {index : NameIndex}

/-! ### Type expressions as text -/

theorem text_array_inj {a b : ForeignType} {size : String} :
    (ForeignType.array a size).text = (ForeignType.array b size).text ↔ a.text = b.text := by
  constructor
  · intro h
    have hchars := congrArg String.toList h
    rw [toList_text_array, toList_text_array] at hchars
    exact String.toList_injective (List.append_cancel_right (List.cons.inj hchars).2)
  · intro h
    exact congrArg (fun item => "(" ++ item ++ " * " ++ size ++ ")") h

/-- Arrays of the same sizes are written alike just if their items are. -/
theorem text_arraysAround_inj {a b : ForeignType} (sizes : List String) :
    (arraysAround a sizes).text = (arraysAround b sizes).text ↔ a.text = b.text := by
  induction sizes generalizing a b with
  | nil => rfl
  | cons size sizes ih =>
    have hitems : (arraysAround (.array a size) sizes).text =
        (arraysAround (.array b size) sizes).text ↔ _ := ih
    exact hitems.trans text_array_inj

theorem text_array_ne (item : ForeignType) (size name : String) :
    (ForeignType.array item size).text ≠ (ForeignType.basic name).text := by
  intro h
  have hchars : ("ctypes." ++ name).toList = _ := h ▸ toList_text_array item size
  rw [String.toList_append] at hchars
  cases hchars

/-- The same sizes behind two types, of which the first has values, are written alike just if the
types are. -/
theorem text_arraysOver_inj {a b : ForeignType} (ha : a.isVoid = false)
    (hb : b.isVoid = true → a.text ≠ b.text) (sizes : List String) :
    (arraysOver a sizes).text = (arraysOver b sizes).text ↔ a.text = b.text := by
  cases hvoid : b.isVoid with
  | false => rw [arraysOver_eq ha, arraysOver_eq hvoid, text_arraysAround_inj]
  | true =>
    cases sizes with
    | nil => rfl
    | cons size sizes =>
      have hitem : (arraysOver a (size :: sizes)) = arraysAround (.array a size) sizes :=
        arraysOver_eq ha _
      rw [hitem, arraysOver_cons_of_isVoid hvoid, text_arraysAround_inj]
      exact iff_of_false (text_array_ne a size _) (hb hvoid)

/-- No usable name is the text of a type of the table. -/
theorem text_builtin_ne {d : Descriptor} (h : d ∈ builtins) {name : String}
    (hname : isValid name = true) : name ≠ d.foreignType.text := by
  obtain ⟨-, hchars, -, hreserved⟩ := isValid_iff.1 hname
  rcases foreignType_builtin h with hnothing | ⟨word, -, hbasic⟩
  · rw [hnothing]
    rintro rfl
    exact absurd hreserved (by decide)
  · rw [hbasic]
    rintro rfl
    have hmem : '.' ∈ ("ctypes." ++ word).toList := by
      rw [String.toList_append]
      exact List.mem_append_left _ (by decide)
    exact absurd (List.all_eq_true.1 hchars '.' hmem) (by decide)

/-! ### Lines and names with sizes -/

/-- A primitive type of the table has no parts, and sizes behind it make arrays of it. -/
theorem describe_line_sizes (index : NameIndex) {native : String} {line : Descriptor}
    (hline : standard.find? native = some line) (hkind : line.kind = .primitive)
    {sizes : List String} (hcore : ∀ size ∈ sizes, IsCore size.toList) :
    let type := native ++ String.join (sizes.map fun size => "[" ++ size ++ "]")
    standard.depth type.toList = sizes.length ∧
      (standard.describe index type.toList).foreignType =
        arraysOver line.foreignType (sizes.map givenSize) := by
  intro type
  obtain ⟨hmem, hnative⟩ := entry?_standard hline
  have hchars : line.native.toList = normalizeChars native.toList := by
    rw [hnative, Signature.normalize, String.toList_ofList]
  have hspelled : normalizeChars (normalizeChars native.toList) = normalizeChars native.toList := by
    have hstable := (isSpelling_builtin line hmem hkind).spelled_marks (List.forall_mem_nil _)
    rwa [List.append_nil, hchars] at hstable
  have hcall : '(' ∉ native.toList := by
    intro hcall
    have hnormal := (mem_normalizeChars_iff (by decide) (by decide) (by decide) _).2 hcall
    have hnone : standard.find? native = none := entry?_of_other hnormal (by decide)
    rw [hline] at hnone
    cases hnone
  have hshape : standard.shape (normalizeChars native.toList) = .known line := by
    have hentry : standard.entry? (String.ofList (normalizeChars native.toList)) = some line :=
      hline
    rw [shape, hentry]
  have hdepth : standard.depth native.toList = 0 := by
    rw [depth_eq, hshape]
  have hdescribe : standard.describe index native.toList = line := by
    rw [describe_eq, hshape]
  have hsizes := describe_sizes index hspelled hcall hcore
  rw [hdepth, hdescribe, Nat.zero_add, ← toList_sizes, ← String.toList_append] at hsizes
  exact hsizes

/-- Sizes behind the name of a declaration make arrays of what stands for the declaration. -/
theorem describe_name_sizes {name : String} {r : Referent} (hname : isValid name = true)
    (hnormal : Signature.normalize name = name) (htable : standard.contains name = false)
    (hindex : index.get? name = some r) {sizes : List String}
    (hcore : ∀ size ∈ sizes, IsCore size.toList) :
    let type := name ++ String.join (sizes.map fun size => "[" ++ size ++ "]")
    standard.depth type.toList = sizes.length ∧
      (standard.describe index type.toList).foreignType =
        arraysOver (foreignTypeOf r) (sizes.map givenSize) := by
  intro type
  have hentry := entry?_of_contains hnormal htable
  obtain ⟨hdepth, -, hdescribe⟩ := describe_name hname hnormal hentry hindex
  have hchars : normalizeChars name.toList = name.toList := by
    have hchars := congrArg String.toList hnormal
    rwa [Signature.normalize, String.toList_ofList] at hchars
  have hcall : '(' ∉ name.toList := by
    intro hcall
    have hall := List.all_eq_true.1 (isValid_iff.1 hname).2.1 '(' hcall
    exact absurd hall (by decide)
  have hsizes := describe_sizes index (by rw [hchars, hchars]) hcall hcore
  rw [hdepth, hdescribe, Nat.zero_add, ← toList_sizes, ← String.toList_append] at hsizes
  exact hsizes

/-! ### What stands for a declaration -/

theorem foreignTypeOf_referent (d : Decl) :
    foreignTypeOf d.referent =
      if d.body.isEnumeration = true then .basic "c_int" else .named (.text d.name) := by
  unfold foreignTypeOf Decl.referent
  cases hbody : d.body with
  | record r =>
    have hother : (Body.record r).isEnumeration = false := rfl
    rw [hother]
    dsimp only
    split_ifs <;> rfl
  | _ => rfl

theorem isVoid_foreignTypeOf {d : Decl} (hname : isValid d.name = true) :
    (foreignTypeOf d.referent).isVoid = false := by
  rw [foreignTypeOf_referent]
  split_ifs with henum
  · rfl
  · have hne : d.name ≠ "None" := by
      intro heq
      rw [heq] at hname
      exact absurd hname (by decide)
    simpa [ForeignType.isVoid, ForeignType.value, Value.text?] using hne

/-- What stands for a declaration with a usable name is a type of the table just if the declaration
is an enumeration and the type is the integer that stands for enumerations. -/
theorem text_foreignTypeOf_iff {d : Decl} (hname : isValid d.name = true) {line : Descriptor}
    (hline : line ∈ builtins) :
    (foreignTypeOf d.referent).text = line.foreignType.text ↔
      d.body.isEnumeration = true ∧ line.foreignType = .basic "c_int" := by
  rw [foreignTypeOf_referent]
  split_ifs with henum
  · refine ⟨fun htext => ⟨henum, ?_⟩, fun h => by rw [h.2]⟩
    rcases foreignType_builtin hline with hnothing | ⟨word, -, hbasic⟩
    · rw [hnothing] at htext
      exact absurd htext (by decide)
    · rw [hbasic] at htext ⊢
      have hword : "ctypes." ++ "c_int" = "ctypes." ++ word := htext
      have hchars := congrArg String.toList hword
      rw [String.toList_append, String.toList_append] at hchars
      rw [String.toList_injective (List.append_cancel_left hchars)]
  · refine iff_of_false (fun htext => ?_) fun h => henum h.1
    exact text_builtin_ne hline hname htext

end TypeTable

namespace Emission

open TypeTable DeclaratorMark

/-! ### Enumerations and the types they are declared with -/

section

variable {lib : Library} (ht : lib.IsTree) (hs : lib.ScopesAgree) {sizes : List String}
  (hcore : ∀ size ∈ sizes, IsCore size.toList)
  (hroom : DescentFault.takenByEmission + sizes.length + 5 < DescentFault.room)
include ht hs hcore hroom

theorem exists_lookup_line {native : String} {line : Descriptor}
    (hline : standard.find? native = some line) (hkind : line.kind = .primitive) :
    ∃ t, (ofLibrary lib .standard).lookup
        (native ++ String.join (sizes.map fun size => "[" ++ size ++ "]")) = .ok t ∧
      t.foreignType = arraysOver line.foreignType (sizes.map givenSize) := by
  obtain ⟨index, hlookup, -⟩ := exists_lookup ht hs
  obtain ⟨hdepth, htype⟩ := describe_line_sizes index hline hkind hcore
  refine ⟨_, ?_, htype⟩
  rw [hlookup, search_eq_ok (by rwa [hdepth])]
  rfl

theorem exists_lookup_sizes {d first : Decl} (hname : isValid d.name = true)
    (hnormal : Signature.normalize d.name = d.name) (htable : standard.contains d.name = false)
    (hfirst : lib.namedTypes.find? (·.goesBy d.name) = some first) :
    ∃ t, (ofLibrary lib .standard).lookup
        (d.name ++ String.join (sizes.map fun size => "[" ++ size ++ "]")) = .ok t ∧
      t.foreignType = arraysOver (foreignTypeOf first.referent) (sizes.map givenSize) := by
  obtain ⟨index, hlookup, hknown⟩ := exists_lookup ht hs
  have hindex : index.get? d.name = some first.referent := by
    rw [hknown d.name hname, hfirst]
    rfl
  obtain ⟨hdepth, htype⟩ := describe_name_sizes hname hnormal htable hindex hcore
  refine ⟨_, ?_, htype⟩
  rw [hlookup, search_eq_ok (by rwa [hdepth])]
  rfl

end

/-- The name of an enumeration is described as what stands for the first class or enumeration of the
walk that has the name or had it, and sizes behind it make arrays of that. In no case is the type
looked at that the enumeration is declared with: where that is a primitive type, the two are
described alike just if the name stands for an enumeration and the type is the integer that stands
for every enumeration. -/
theorem lookup_enumeration_iff {lib : Library} (ht : lib.IsTree) (hs : lib.ScopesAgree)
    (hnames : ∀ d ∈ lib.namedTypes, isValid d.name = true) :
    ∀ E ∈ lib.namedTypes, ∀ items underlying isScoped line,
      E.body = .enumeration items underlying isScoped →
      standard.find? underlying = some line → line.kind = .primitive →
      Signature.normalize E.name = E.name → standard.contains E.name = false →
      ∃ first, lib.namedTypes.find? (·.goesBy E.name) = some first ∧
        ∀ sizes : List String, (∀ size ∈ sizes, IsCore size.toList) →
          DescentFault.takenByEmission + sizes.length + 5 < DescentFault.room →
          let suffix := String.join (sizes.map fun size => "[" ++ size ++ "]")
          ∃ t u, (ofLibrary lib .standard).lookup (E.name ++ suffix) = .ok t ∧
            (ofLibrary lib .standard).lookup (underlying ++ suffix) = .ok u ∧
            (first.body.isEnumeration = true →
              t.foreignType = arraysAround (.basic "c_int") (sizes.map givenSize)) ∧
            (t.foreignType.text = u.foreignType.text ↔
              first.body.isEnumeration = true ∧ line.foreignType = .basic "c_int") := by
  intro E hE items underlying isScoped line _ hline hkind hnormal htable
  obtain ⟨first, hfirst⟩ := Library.exists_goesBy hE
  refine ⟨first, hfirst, ?_⟩
  intro sizes hcore hroom suffix
  have hname : isValid first.name = true := hnames first (List.mem_of_find?_eq_some hfirst)
  have hvoid := isVoid_foreignTypeOf hname
  have hmem := (entry?_standard hline).1
  obtain ⟨t, hlookup, htype⟩ :=
    exists_lookup_sizes ht hs hcore hroom (hnames E hE) hnormal htable hfirst
  obtain ⟨u, hlookup', htype'⟩ := exists_lookup_line ht hs hcore hroom hline hkind
  refine ⟨t, u, hlookup, hlookup', fun henum => ?_, ?_⟩
  · rw [htype, arraysOver_eq hvoid, foreignTypeOf_referent, if_pos henum]
  · have hother : line.foreignType.isVoid = true →
        (foreignTypeOf first.referent).text ≠ line.foreignType.text := by
      intro hnothing htext
      rw [((text_foreignTypeOf_iff hname hmem).1 htext).2] at hnothing
      exact absurd hnothing (by decide)
    rw [htype, htype', text_arraysOver_inj hvoid hother]
    exact text_foreignTypeOf_iff hname hmem

/-! ### Two enumerations -/

/-- What is read of a header with an enumeration that is declared with a type. -/
def declaredWith (type : String) : HeaderOutcome × Library :=
  let stop := 9 + type.length
  readAlone ("enum E : " ++ type ++ " \x7b\x7d;")
    (ruleNode "translation_unit" 0 (stop + 4) none
      [ruleNode "enum_specifier" 0 (stop + 3) none
        [ruleNode "type_identifier" 5 6 (some "name") [],
          ruleNode "primitive_type" 9 stop (some "base") [],
          ruleNode "enumerator_list" (stop + 1) (stop + 3) (some "body") []]])

theorem read_declaredWith : ∀ type ∈ ["int", "uint8_t"],
    (declaredWith type).1.isParsed = true ∧
      (declaredWith type).2.namedTypes.map (fun d => (d.name, d.body)) =
        [("E", .enumeration [] type false)] := by
  decide +kernel

/-- The library has one enumeration, which keeps the type that it is declared with. -/
theorem exists_declaredWith {type : String} (htype : type ∈ ["int", "uint8_t"]) :
    (declaredWith type).2.Loaded ∧ ∃ d, d.name = "E" ∧ d.body = .enumeration [] type false ∧
      (declaredWith type).2.namedTypes = [d] := by
  obtain ⟨hparsed, hnamed⟩ := read_declaredWith type htype
  refine ⟨(fromHeaders_readAlone hparsed).grown.loaded, ?_⟩
  obtain ⟨d, hd, hbody⟩ := List.map_eq_singleton_iff.1 hnamed
  exact ⟨d, congrArg Prod.fst hbody, congrArg Prod.snd hbody, hd⟩

/-- What is declared with the integer that stands for every enumeration is described as that. -/
theorem lookup_enumeration_int :
    (∀ d ∈ (declaredWith "int").2.namedTypes, isValid d.name = true) ∧
      ∃ t u, (ofLibrary (declaredWith "int").2 .standard).lookup "E[2]" = .ok t ∧
        (ofLibrary (declaredWith "int").2 .standard).lookup "int[2]" = .ok u ∧
        t.foreignType.text = u.foreignType.text ∧
        t.foreignType = .array (.basic "c_int") "2" := by
  obtain ⟨hl, d, hname, hbody, hnamed⟩ := exists_declaredWith (List.mem_cons_self ..)
  have hnames : ∀ e ∈ (declaredWith "int").2.namedTypes, isValid e.name = true := by
    rw [hnamed, List.forall_mem_singleton, hname]
    decide
  have hd : d ∈ (declaredWith "int").2.namedTypes := by
    rw [hnamed]
    exact List.mem_singleton_self d
  obtain ⟨first, hfirst, hsizes⟩ := lookup_enumeration_iff hl.isTree hl.scopesAgree hnames d hd
    _ _ _ _ hbody rfl rfl (by rw [hname]; rfl) (by rw [hname]; rfl)
  have hsame : first.body.isEnumeration = true := by
    have hmem := List.mem_of_find?_eq_some hfirst
    rw [hnamed, List.mem_singleton] at hmem
    rw [hmem, hbody]
    rfl
  obtain ⟨t, u, ht, hu, hint, hiff⟩ := hsizes ["2"] (by decide) (by decide)
  rw [hname] at ht
  exact ⟨hnames, t, u, ht, hu, hiff.2 ⟨hsame, rfl⟩, hint hsame⟩

/-- What is declared with another type is described as that integer all the same. -/
theorem lookup_enumeration_byte :
    ∃ d ∈ (declaredWith "uint8_t").2.namedTypes, d.name = "E" ∧
      d.body = .enumeration [] "uint8_t" false ∧
      ∃ t u, (ofLibrary (declaredWith "uint8_t").2 .standard).lookup "E" = .ok t ∧
        (ofLibrary (declaredWith "uint8_t").2 .standard).lookup "uint8_t" = .ok u ∧
        t.foreignType.text = "ctypes.c_int" ∧ u.foreignType.text = "ctypes.c_uint8" := by
  obtain ⟨hl, d, hname, hbody, hnamed⟩ :=
    exists_declaredWith (List.mem_cons_of_mem _ (List.mem_singleton_self "uint8_t"))
  have hfirst : (declaredWith "uint8_t").2.namedTypes.find? (·.goesBy d.name) = some d := by
    rw [hnamed]
    simp [Decl.goesBy]
  have hcore : ∀ size ∈ ([] : List String), IsCore size.toList := List.forall_mem_nil _
  obtain ⟨t, ht, htype⟩ := exists_lookup_sizes hl.isTree hl.scopesAgree hcore (by decide)
    (by rw [hname]; decide) (by rw [hname]; rfl) (by rw [hname]; rfl) hfirst
  obtain ⟨u, hu, htype'⟩ := exists_lookup_line hl.isTree hl.scopesAgree hcore (by decide)
    (rfl : standard.find? "uint8_t" = some _) rfl
  refine ⟨d, ?_, hname, hbody, t, u, ?_, ?_, ?_, ?_⟩
  · rw [hnamed]
    exact List.mem_singleton_self d
  · rwa [hname] at ht
  · exact hu
  · rw [htype, foreignTypeOf_referent, hbody]
    rfl
  · rw [htype']
    rfl

end Emission

end Bindery
