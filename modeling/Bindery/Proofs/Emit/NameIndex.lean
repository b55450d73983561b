import Bindery.Proofs.Emit.Resolved
import Bindery.Proofs.TypeTable.Founded
import Mathlib.Data.List.Sort

/-!
# What a name stands for

Types refer to classes and enumerations by name, and the first one that the walk meets under a name
takes it, whether the name is the one it has now, the one it was created with, or a qualified form
of either. A plain name is never a qualified one, so it stands for the first declaration that has it
or had it. A class that keeps its name while an earlier one of the walk was renamed away from it is
therefore not what its name stands for.
-/

namespace Bindery

open Bindery.Naming

/-- Whether a declaration has a name now, or had it first. -/
def Decl.goesBy (d : Decl) (name : String) : Bool :=
  d.name == name || Library.earlierName d == name

namespace Library

variable {lib : Library}


/-! ### Qualified names -/

/-- The way outward begins with the declaration itself. -/
theorem exists_of_outwardFrom {n : Nat} {d : Decl} {ds : List Decl}
    (h : lib.outwardFrom n d = .ok ds) : ∃ rest, ds = d :: rest := by
  cases n with
  | zero =>
    cases h
    exact ⟨[], rfl⟩
  | succ n =>
    unfold outwardFrom at h
    obtain ⟨p, -, h⟩ := bind_eq_ok_iff.1 h
    cases p with
    | none =>
      cases h
      exact ⟨[], rfl⟩
    | some p =>
      obtain ⟨rest, -, h⟩ := bind_eq_ok_iff.1 h
      cases h
      exact ⟨rest, rfl⟩

/-- A name that was joined from the outside in is the innermost one, or has a colon in it. -/
theorem joinNames_cons (nameOf : Decl → String) {d : Decl} (rest : List Decl)
    (hkind : d.kind ≠ .unit) :
    joinNames nameOf (d :: rest) = nameOf d ∨ ':' ∈ (joinNames nameOf (d :: rest)).toList := by
  unfold joinNames
  rw [List.filter_cons, if_pos (by simpa using hkind), List.map_cons, List.reverse_cons]
  generalize ((rest.filter (·.kind ≠ .unit)).map nameOf).reverse = outer
  cases outer with
  | nil =>
    left
    simp
  | cons first outer =>
    right
    rw [String.toList_intercalate]
    cases outer <;> simp [List.intercalate, List.intersperse]

/-- The keys of a type, of which those without a colon are the names that it has or had. -/
theorem mem_keysOf_iff (ht : lib.IsTree) (hs : lib.ScopesAgree) {d : Decl}
    (hd : d ∈ lib.namedTypes) {name : String} (hname : isValid name = true) :
    ∃ keys, lib.keysOf d = .ok keys ∧ (name ∈ keys ↔ d.goesBy name = true) := by
  obtain ⟨ha, hd'⟩ := ht.decl?_of_mem_namedTypes hd
  have hkind : d.kind ≠ .unit := by
    have hform := (List.mem_filter.1 hd).2
    unfold Decl.kind Body.kind
    cases hbody : d.body <;>
      simp [hbody, Body.isRecord, Body.record?, Body.isEnumeration, Body.form, Form.kind] at hform ⊢
  have hcolon : ':' ∉ name.toList := by
    intro hmem
    have hall := (isValid_iff.1 hname).2.1
    exact absurd (List.all_eq_true.1 hall ':' hmem) (by decide)
  have hne : name ≠ "" := ne_empty_of_isValid hname
  obtain ⟨ds, hds⟩ := exists_outwardFrom ht hs lib.created ha hd'
  obtain ⟨rest, rfl⟩ := exists_of_outwardFrom hds
  have houtward : lib.outward d = .ok (d :: rest) := hds
  -- a qualified form that is the name is the innermost part alone
  have hjoined : ∀ nameOf : Decl → String, name = joinNames nameOf (d :: rest) →
      nameOf d = name := by
    intro nameOf heq
    rcases joinNames_cons nameOf rest hkind with hplain | hqualified
    · exact hplain.symm.trans heq.symm
    · rw [← heq] at hqualified
      exact absurd hqualified hcolon
  refine ⟨[joinNames (·.name) (d :: rest), d.name, earlierName d,
    joinNames (·.firstName) (d :: rest)], ?_, ?_⟩
  · unfold keysOf qualifiedName qualifiedFirstName
    rw [houtward]
    rfl
  · simp only [List.mem_cons, List.not_mem_nil, or_false, Decl.goesBy, Bool.or_eq_true, beq_iff_eq]
    constructor
    · rintro (heq | rfl | rfl | heq)
      · exact .inl (hjoined _ heq)
      · exact .inl rfl
      · exact .inr rfl
      · right
        have hfirst := hjoined _ heq
        unfold Decl.firstName at hfirst
        unfold earlierName
        cases hgiven : d.givenName with
        | none =>
          rw [hgiven] at hfirst
          exact hfirst
        | some first =>
          rw [hgiven] at hfirst
          have hsame : first = name := hfirst
          simp [hsame, hne]
    · rintro (heq | heq)
      · exact .inr (.inl heq.symm)
      · exact .inr (.inr (.inl heq.symm))

/-! ### The first of a name -/

/-- A key that is known already stays with its declaration. -/
theorem find?_addKey (index : List (String × Nat)) (key : String) (id : Nat) (name : String) :
    (if index.any (·.1 == key) then index else index ++ [(key, id)]).find? (·.1 == name) =
      (index.find? (·.1 == name)).or (if name = key then some (name, id) else none) := by
  split_ifs with hknown hkey hkey
  · obtain ⟨entry, hentry, hfirst⟩ := List.any_eq_true.1 hknown
    have hsome : (index.find? (·.1 == name)).isSome = true :=
      List.find?_isSome.2 ⟨entry, hentry, hkey ▸ hfirst⟩
    rw [Option.or_of_isSome hsome]
  · rw [Option.or_none]
  · rw [List.find?_append]
    simp [hkey]
  · rw [List.find?_append]
    simp [Ne.symm hkey]

theorem find?_addKeys (index : List (String × Nat)) (keys : List String) (id : Nat)
    (name : String) : (addKeys index keys id).find? (·.1 == name) =
      (index.find? (·.1 == name)).or (if name ∈ keys then some (name, id) else none) := by
  unfold addKeys
  induction keys generalizing index with
  | nil => simp
  | cons key keys ih =>
    rw [List.foldl_cons, ih, find?_addKey, Option.or_assoc]
    congr 1
    by_cases hkey : name = key <;> by_cases hmem : name ∈ keys <;> simp [hkey, hmem]

/-- A usable name is known as the first type of the walk that has it or had it. -/
theorem exists_nameIndex (ht : lib.IsTree) (hs : lib.ScopesAgree) :
    ∃ index, lib.nameIndex = .ok index ∧ (∀ entry ∈ index, (lib.decl? entry.2).isSome = true) ∧
      ∀ name, isValid name = true → index.find? (·.1 == name) =
        (lib.namedTypes.find? (·.goesBy name)).map fun d => (name, d.id) := by
  suffices hfrom : ∀ (ds : List Decl), ds ⊆ lib.namedTypes → ∀ start : List (String × Nat),
      ∃ index, ds.foldlM (fun index d => return addKeys index (← lib.keysOf d) d.id) start =
        (.ok index : Except GraphFault _) ∧
      ∀ name, isValid name = true → index.find? (·.1 == name) =
        (start.find? (·.1 == name)).or ((ds.find? (·.goesBy name)).map fun d => (name, d.id)) by
    obtain ⟨index, hindex, hfind⟩ := hfrom lib.namedTypes (List.Subset.refl _) []
    refine ⟨index, hindex, fun entry hentry => ?_, fun name hname => ?_⟩
    · obtain ⟨d, hd, hid⟩ := exists_of_mem_nameIndex hindex entry hentry
      rw [hid, (ht.decl?_of_mem_namedTypes hd).2]
      rfl
    · rw [hfind name hname]
      rfl
  intro ds
  induction ds with
  | nil => exact fun _ start => ⟨start, rfl, fun name _ => by simp⟩
  | cons d ds ih =>
    intro hsub start
    have hd : d ∈ lib.namedTypes := hsub (List.mem_cons_self ..)
    obtain ⟨keys, hkeys, -⟩ := mem_keysOf_iff ht hs hd (show isValid "a" = true by decide)
    obtain ⟨index, hindex, hfind⟩ :=
      ih (fun e he => hsub (List.mem_cons_of_mem _ he)) (addKeys start keys d.id)
    refine ⟨index, ?_, fun name hname => ?_⟩
    · rw [List.foldlM_cons, hkeys]
      exact hindex
    · obtain ⟨keys', hkeys', hmem⟩ := mem_keysOf_iff ht hs hd hname
      rw [hkeys] at hkeys'
      cases hkeys'
      rw [hfind name hname, find?_addKeys, Option.or_assoc, List.find?_cons]
      cases hgoes : d.goesBy name with
      | true => rw [if_pos (hmem.2 hgoes)]; rfl
      | false =>
        rw [if_neg fun hin => by simp [hmem.1 hin] at hgoes]
        rfl

/-- Some class or enumeration of the walk is the first with the name of one of them. -/
theorem exists_goesBy {d : Decl} (hd : d ∈ lib.namedTypes) :
    ∃ first, lib.namedTypes.find? (·.goesBy d.name) = some first := by
  refine Option.isSome_iff_exists.1 (List.find?_isSome.2 ⟨d, hd, ?_⟩)
  simp [Decl.goesBy]

/-- What types see under a name is the declaration of the number that is known by it. -/
theorem get?_referents {index : List (String × Nat)}
    (h : ∀ entry ∈ index, (lib.decl? entry.2).isSome = true) (name : String) :
    (lib.referents index).get? name =
      ((index.find? (·.1 == name)).bind fun entry => lib.decl? entry.2).map (·.referent) := by
  unfold NameIndex.get? referents
  induction index with
  | nil => rfl
  | cons entry index ih =>
    have hrest := ih fun e he => h e (List.mem_cons_of_mem _ he)
    obtain ⟨d, hd⟩ := Option.isSome_iff_exists.1 (h entry (List.mem_cons_self ..))
    rw [List.filterMap_cons, hd, List.find?_cons]
    dsimp only [Option.map_some]
    rw [List.find?_cons]
    cases entry.1 == name with
    | true => simp [hd]
    | false => exact hrest

end Library

/-! ### Descriptions of names -/

namespace TypeTable

/-- A usable name that is its own normal spelling and has no line is taken for the name of a
declaration. -/
theorem shape_of_isValid {t : TypeTable} {name : String} (hname : isValid name = true)
    (htable : t.entry? name = none) : t.shape name.toList = .name := by
  have hchars := List.all_eq_true.1 (isValid_iff.1 hname).2.1
  have hout : ∀ c, isNameChar c = false → c ∉ name.toList := by
    intro c hc hmem
    rw [hchars c hmem] at hc
    cases hc
  refine shape_of_last (by rwa [String.ofList_toList]) (hout '(' (by decide)) fun c hc => ?_
  have hmem := List.mem_of_getLast? hc
  refine ⟨?_, fun h => hout ']' (by decide) (h ▸ hmem), fun h => hout '>' (by decide) (h ▸ hmem)⟩
  by_contra hmark
  rcases Signature.isMark_iff.1 (Bool.eq_true_of_not_eq_false hmark) with rfl | rfl
  · exact hout '*' (by decide) hmem
  · exact hout '&' (by decide) hmem

theorem entry?_of_contains {t : TypeTable} {name : String}
    (hnormal : Signature.normalize name = name) (htable : t.contains name = false) :
    t.entry? name = none := by
  unfold contains find? at htable
  rw [hnormal] at htable
  exact Option.not_isSome_iff_eq_none.1 (by simp [htable])

/-- The type expression that stands for a declaration. -/
def foreignTypeOf (r : Referent) : ForeignType :=
  if r.form = .enumeration then .basic "c_int" else .named r.name

/-- A type by the name of a declaration has no parts, and is described as that declaration is. -/
theorem describe_name {t : TypeTable} {index : NameIndex} {name : String} {r : Referent}
    (hname : isValid name = true) (hnormal : Signature.normalize name = name)
    (htable : t.entry? name = none) (hindex : index.get? name = some r) :
    t.depth name.toList = 0 ∧ (t.describe index name.toList).declaration = r.id ∧
      (t.describe index name.toList).foreignType = foreignTypeOf r := by
  have hchars : Signature.normalizeChars name.toList = name.toList := by
    have := congrArg String.toList hnormal
    rwa [Signature.normalize, String.toList_ofList] at this
  have hshape := shape_of_isValid hname htable
  refine ⟨?_, ?_⟩
  · rw [depth_eq, hchars, hshape]
  · rw [describe_eq, hchars, hshape]
    dsimp only
    unfold referTo foreignTypeOf
    rw [String.ofList_toList]
    dsimp only
    rw [hindex]
    cases hform : r.form <;> simp [hform]

end TypeTable

namespace Emission

/-- Types are searched with the names of the library, of which a usable one is known as the first
class or enumeration of the walk that has it or had it. -/
theorem exists_lookup {lib : Library} (ht : lib.IsTree) (hs : lib.ScopesAgree) :
    ∃ index : NameIndex,
      (∀ signature, (ofLibrary lib .standard).lookup signature =
        (TypeTable.standard.search DescentFault.takenByEmission index signature).mapError
          .tooDeep) ∧
      ∀ name, isValid name = true →
        index.get? name = (lib.namedTypes.find? (·.goesBy name)).map (·.referent) := by
  obtain ⟨index, hindex, hknown, hfind⟩ := Library.exists_nameIndex ht hs
  refine ⟨lib.referents index, fun signature => ?_, fun name hname => ?_⟩
  · unfold lookup names ofLibrary
    rw [hindex]
    rfl
  · rw [Library.get?_referents hknown, hfind name hname]
    cases hfirst : lib.namedTypes.find? (·.goesBy name) with
    | none => rfl
    | some first =>
      have hdecl := (ht.decl?_of_mem_namedTypes (List.mem_of_find?_eq_some hfirst)).2
      simp [hdecl]

/-- The name of a class that is emitted and that the table does not have stands for the first class
or enumeration of the walk that has the name or had it. -/
theorem exists_lookup_name {out : Library} (hs : out.Sound) (h : out.Settled) {d : Decl}
    (hd : d ∈ out.emittedClasses) (hnormal : Signature.normalize d.name = d.name)
    (htable : TypeTable.standard.contains d.name = false) :
    ∃ t first, (ofLibrary out .standard).lookup d.name = .ok t ∧
      out.namedTypes.find? (·.goesBy d.name) = some first ∧ t.declaration = .int first.id ∧
      (first.referent.form = .layoutClass → t.foreignType = .named (.text first.name)) := by
  obtain ⟨hw, hrecord, -, -, hne⟩ := (Library.mem_emittedClasses hs.isTree).1 hd
  have hname : isValid d.name = true := by
    cases hbody : d.body <;> simp [hbody, Body.isRecord, Body.record?] at hrecord
    exact h.isValid_name hw (by simp [hbody, Body.form]) (by simp [hbody, Body.form])
  have hnamed : d ∈ out.namedTypes := List.mem_filter.2 ⟨hw, by simp [hrecord, hne]⟩
  obtain ⟨first, hfirst⟩ := Library.exists_goesBy hnamed
  obtain ⟨index, hlookup, hnames⟩ := exists_lookup hs.isTree hs.scopesAgree
  have hget : index.get? d.name = some first.referent := by
    rw [hnames d.name hname, hfirst]
    rfl
  have hentry := TypeTable.entry?_of_contains hnormal htable
  obtain ⟨hdepth, hid, htype⟩ := TypeTable.describe_name hname hnormal hentry hget
  have hroom : DescentFault.takenByEmission + TypeTable.standard.depth d.name.toList + 5 <
      DescentFault.room := by
    rw [hdepth]
    decide
  refine ⟨TypeTable.standard.lookup index d.name, first, ?_, hfirst, hid, fun hform => ?_⟩
  · rw [hlookup, TypeTable.search_eq_ok hroom]
    rfl
  · rw [TypeTable.lookup, htype, TypeTable.foreignTypeOf, if_neg (by simp [hform])]
    rfl

/-- Behind the passes of every run, the name of a class that is emitted and that the table does not
have stands for the first class or enumeration of the walk that has the name or had it. It stands
for the class itself exactly where that is the first. -/
theorem lookup_name_iff {lib : Library} (h : lib.FromHeaders) :
    ∃ out : Library, (Schedule.builtin.run (.typed lib)).1 = none ∧
      (Schedule.builtin.run (.typed lib)).2.1 = .typed out ∧
      ∀ d ∈ out.emittedClasses, Signature.normalize d.name = d.name →
        TypeTable.standard.contains d.name = false →
        ∃ t first, (ofLibrary out .standard).lookup d.name = .ok t ∧
          out.namedTypes.find? (·.goesBy d.name) = some first ∧ t.declaration = .int first.id ∧
          (t.declaration = .int d.id ∧ t.foreignType.text = d.name ↔ first = d) := by
  obtain ⟨out, ⟨hrun, hout⟩, hsound, hsettled⟩ := Schedule.run_builtin_sound h.grown.loaded
  refine ⟨out, hrun, hout, fun d hd hnormal htable => ?_⟩
  obtain ⟨hw, hrecord, hignored, hcomplete, -⟩ := (Library.mem_emittedClasses hsound.isTree).1 hd
  obtain ⟨t, first, ht, hfirst, hid, htype⟩ :=
    exists_lookup_name hsound hsettled hd hnormal htable
  refine ⟨t, first, ht, hfirst, hid, ?_, ?_⟩
  · rintro ⟨hself, -⟩
    have hsame : first.id = d.id := by
      have hcast : (first.id : Int) = d.id := Value.int.inj (hid.symm.trans hself)
      omega
    have hmet : first ∈ out.walk :=
      (List.mem_filter.1 (List.mem_of_find?_eq_some hfirst)).1
    exact hsound.isTree.eq_of_mem_walk hmet hw hsame
  · rintro rfl
    have hform : first.referent.form = .layoutClass := by
      cases hbody : first.body <;> simp [hbody, Body.isRecord, Body.record?] at hrecord
      simp [Decl.isIncomplete, hbody, Body.record?] at hcomplete
      simp [Decl.referent, hbody, hcomplete, hignored]
    rw [htype hform]
    exact ⟨hid, rfl⟩

/-! ### Passes carried out

Sorting by merging cannot be carried out step by step in a proof, and sorting by insertion can. Where
no two declarations have the same place in the order, the two come to the same.
-/

/-- Sorting by the order, carried out by insertion. -/
theorem mergeSort_order_eq {ds : List Decl} (h : (ds.map (·.order)).Nodup) :
    (ds.mergeSort fun a b => a.order ≤ b.order) =
      ds.insertionSort fun a b => a.order ≤ b.order := by
  have htotal : Std.Total fun a b : Decl => a.order ≤ b.order :=
    ⟨fun a b => Int.le_total a.order b.order⟩
  have htrans : IsTrans Decl fun a b => a.order ≤ b.order := ⟨fun _ _ _ => Int.le_trans⟩
  have hmerged : (ds.mergeSort fun a b => a.order ≤ b.order).Pairwise
      fun a b => a.order ≤ b.order := by
    refine (List.pairwise_mergeSort ?_ ?_ ds).imp of_decide_eq_true
    · intro a b c hab hbc
      exact decide_eq_true (Int.le_trans (of_decide_eq_true hab) (of_decide_eq_true hbc))
    · intro a b
      simpa using Int.le_total a.order b.order
  have hperm : (ds.mergeSort fun a b => a.order ≤ b.order).Perm
      (ds.insertionSort fun a b => a.order ≤ b.order) :=
    (List.mergeSort_perm ds _).trans (List.perm_insertionSort _ ds).symm
  refine List.Perm.eq_of_pairwise ?_ hmerged (List.pairwise_insertionSort _ ds) hperm
  intro a b ha hb hab hba
  have hmem : a ∈ ds := List.mem_mergeSort.1 ha
  have hmem' : b ∈ ds := (List.perm_insertionSort _ ds).subset hb
  exact List.inj_on_of_nodup_map h hmem hmem' (Int.le_antisymm hab hba)

/-- What the first three passes of every run leave to the last one. -/
def beforeLast (lib : Library) : PassState Library :=
  let merged := (outcomeOf PassM.resolveIncomplete ⟨lib, [], .empty⟩).2
  let numbered := (outcomeOf PassM.separateOverloads
    ⟨merged.library.cleanNames.1, merged.log, .empty⟩).2
  ⟨numbered.library, numbered.log, .empty⟩

/-- What the last one makes of it, with names taken in an order found by insertion. -/
def namesTaken (lib : Library) : Library :=
  let level := (beforeLast lib).library.walk.filter Library.isModuleLevel
  let ids := (level.insertionSort fun a b => a.order ≤ b.order).map (·.id)
  (outcomeOf (ids.foldlM PassM.takeName moduleWords) (beforeLast lib)).2.library

/-- The passes of every run come to that. -/
theorem eq_namesTaken {lib out : Library} (hl : lib.Loaded)
    (hnodup : (((beforeLast lib).library.walk.filter Library.isModuleLevel).map (·.order)).Nodup)
    (hrun : (Schedule.builtin.run (.typed lib)).1 = none)
    (hout : (Schedule.builtin.run (.typed lib)).2.1 = .typed out) : out = namesTaken lib := by
  let start : PassState Library := ⟨lib, [], .empty⟩
  obtain ⟨s, hfirst⟩ := PassM.exists_resolveIncomplete (s := start) hl.isTree hl.scopesAgree
  obtain ⟨u, hover, -⟩ := PassM.outcomeOf_separateOverloads ⟨s.library.cleanNames.1, s.log, .empty⟩
  have hbefore : beforeLast lib = ⟨u.library, u.log, .empty⟩ := by
    unfold beforeLast
    rw [hfirst]
    dsimp only
    rw [hover]
  have hlast := Schedule.run_builtin_of_separated hfirst hover
  have hnames : (outcomeOf PassM.separateModuleNames (beforeLast lib)).2.library =
      namesTaken lib := by
    unfold PassM.separateModuleNames namesTaken
    generalize beforeLast lib = last at hnodup
    rw [outcomeOf_bind_ok (outcomeOf_get _)]
    unfold Library.moduleLevel
    rw [mergeSort_order_eq hnodup, outcomeOf_bind]
    dsimp only
    generalize outcomeOf (List.foldlM _ _ _) last = folded
    obtain ⟨r | r, t⟩ := folded <;> rfl
  rw [hbefore] at hnames
  cases hsep : outcomeOf PassM.separateModuleNames ⟨u.library, u.log, .empty⟩ with
  | mk r t =>
    rw [hsep] at hlast hnames
    cases r with
    | error f => exact absurd hrun hlast
    | ok a =>
      rw [hlast.2] at hout
      cases hout
      exact hnames

/-- What is read of a single header. -/
def readAlone (text : String) (tree : SyntaxNode) : HeaderOutcome × Library :=
  (Library.empty .null .null).parseHeader
    ⟨⟨.absolute, []⟩, [], [(["a.h"], text.toUTF8.toList)]⟩ (fun _ => tree) ⟨[], []⟩ (.text "a.h")

theorem fromHeaders_readAlone {text : String} {tree : SyntaxNode}
    (h : (readAlone text tree).1.isParsed = true) : (readAlone text tree).2.FromHeaders :=
  Library.FromHeaders.parsed (.empty .null .null) h

/-- The tree of a header with a structure of one letter, and another one of the same name in a scope
behind it. -/
def shadowedTree : SyntaxNode :=
  let node (kind : String) (start stop : Nat) (field : Option String)
      (children : List SyntaxNode) : SyntaxNode :=
    ⟨kind, start, stop, true, false, field, children⟩
  let record (start : Nat) : SyntaxNode :=
    node "struct_specifier" start (start + 11) none
      [node "type_identifier" (start + 7) (start + 8) (some "name") [],
        node "field_declaration_list" (start + 9) (start + 11) (some "body") []]
  node "translation_unit" 0 42 none
    [record 0,
      node "namespace_definition" 13 41 none
        [node "namespace_identifier" 23 24 (some "name") [],
          node "declaration_list" 25 41 (some "body") [record 27]]]

/-- What is read of that header, with a letter as the name of the structure in the scope. -/
def shadowed (letter : String) : HeaderOutcome × Library :=
  (Library.empty .null .null).parseHeader
    ⟨⟨.absolute, []⟩, [], [(["a.h"],
      ("struct S {};\nnamespace b \x7b struct " ++ letter ++ " {}; \x7d\n").toUTF8.toList)]⟩
    (fun _ => shadowedTree) ⟨[], []⟩ (.text "a.h")

/-- The walk meets the structure in the scope first, so that one is known by the name of both. -/
example : (shadowed "S").2.nameIndex = .ok [("b::S", 3), ("S", 3)] := by
  decide +kernel

theorem fromHeaders_shadowed {letter : String} (h : (shadowed letter).1.isParsed = true) :
    (shadowed letter).2.FromHeaders :=
  Library.FromHeaders.parsed (.empty .null .null) h

/-- The passes carried out on that header. -/
theorem eq_namesTaken_shadowed {letter : String} {out : Library}
    (hparsed : (shadowed letter).1.isParsed = true)
    (hnodup : decide (((beforeLast (shadowed letter).2).library.walk.filter
      Library.isModuleLevel).map (·.order)).Nodup = true)
    (hrun : (Schedule.builtin.run (.typed (shadowed letter).2)).1 = none)
    (hout : (Schedule.builtin.run (.typed (shadowed letter).2)).2.1 = .typed out) :
    out = namesTaken (shadowed letter).2 :=
  eq_namesTaken (fromHeaders_shadowed hparsed).grown.loaded (of_decide_eq_true hnodup) hrun hout

/-- The name of a class that is emitted may stand for another class, which had the name before it
was renamed: the walk meets the scope first, and the other class in it. -/
theorem name_of_another :
    (shadowed "S").2.FromHeaders ∧ ∃ out : Library,
      (Schedule.builtin.run (.typed (shadowed "S").2)).1 = none ∧
      (Schedule.builtin.run (.typed (shadowed "S").2)).2.1 = .typed out ∧
      ∃ d ∈ out.emittedClasses, d.name = "S" ∧ Signature.normalize d.name = d.name ∧
        TypeTable.standard.contains d.name = false ∧
        ∃ t, (ofLibrary out .standard).lookup d.name = .ok t ∧ t.declaration ≠ .int d.id ∧
          t.foreignType.text = "b_S" := by
  have hparsed : (shadowed "S").1.isParsed = true := by
    decide +kernel
  have hheaders := fromHeaders_shadowed hparsed
  refine ⟨hheaders, ?_⟩
  obtain ⟨out, ⟨hrun, hout⟩, hsound, hsettled⟩ :=
    Schedule.run_builtin_sound hheaders.grown.loaded
  refine ⟨out, hrun, hout, ?_⟩
  have htaken := eq_namesTaken_shadowed hparsed (by decide +kernel) hrun hout
  have hseen : (namesTaken (shadowed "S").2).walk.any (fun d =>
      d.body.isRecord && !d.ignored && !d.isIncomplete && d.name == "S" &&
      Signature.normalize d.name == d.name && !TypeTable.standard.contains d.name &&
      ((namesTaken (shadowed "S").2).namedTypes.find? (·.goesBy d.name)).any fun first =>
        first.id != d.id && first.name == "b_S" && first.referent.form == .layoutClass) = true := by
    decide +kernel
  rw [← htaken] at hseen
  obtain ⟨d, hw, hseen⟩ := List.any_eq_true.1 hseen
  obtain ⟨first, hfirst, -⟩ := (Option.any_eq_true _ _).1 (Bool.and_eq_true_iff.1 hseen).2
  simp only [hfirst, Option.any_some, Bool.and_eq_true, beq_iff_eq, bne_iff_ne, ne_eq,
    Bool.not_eq_true'] at hseen
  obtain ⟨⟨⟨⟨⟨⟨hrecord, hignored⟩, hcomplete⟩, hname⟩, hnormal⟩, htable⟩,
    ⟨hother, hrenamed⟩, hform⟩ := hseen
  have hd : d ∈ out.emittedClasses := (Library.mem_emittedClasses hsound.isTree).2
    ⟨hw, hrecord, hignored, hcomplete, by rw [hname]; decide⟩
  obtain ⟨t, first', ht, hfirst', hid, htype⟩ :=
    exists_lookup_name hsound hsettled hd hnormal htable
  rw [hfirst] at hfirst'
  cases hfirst'
  refine ⟨d, hd, hname, hnormal, htable, t, ht, ?_, ?_⟩
  · rw [hid]
    intro hsame
    exact hother (Int.ofNat.inj (Value.int.inj hsame))
  · rw [htype hform, hrenamed]
    rfl

/-- Where the other class has another name, each name stands for its own class. -/
theorem lookup_name_iff_apart : ∃ out : Library,
    (Schedule.builtin.run (.typed (shadowed "T").2)).2.1 = .typed out ∧
      ∃ d ∈ out.emittedClasses, d.name = "S" ∧
        ∃ t, (ofLibrary out .standard).lookup d.name = .ok t ∧ t.declaration = .int d.id ∧
          t.foreignType.text = d.name := by
  have hparsed : (shadowed "T").1.isParsed = true := by
    decide +kernel
  have hheaders := fromHeaders_shadowed hparsed
  obtain ⟨out, hrun, hout, hall⟩ := lookup_name_iff hheaders
  refine ⟨out, hout, ?_⟩
  obtain ⟨out', ⟨-, hout'⟩, hsound, -⟩ := Schedule.run_builtin_sound hheaders.grown.loaded
  rw [hout] at hout'
  cases hout'
  have htaken := eq_namesTaken_shadowed hparsed (by decide +kernel) hrun hout
  have hseen : (namesTaken (shadowed "T").2).walk.any (fun d =>
      d.body.isRecord && !d.ignored && !d.isIncomplete && d.name == "S" &&
      Signature.normalize d.name == d.name && !TypeTable.standard.contains d.name &&
      ((namesTaken (shadowed "T").2).namedTypes.find? (·.goesBy d.name)).any fun first =>
        first.id == d.id) = true := by
    decide +kernel
  rw [← htaken] at hseen
  obtain ⟨d, hw, hseen⟩ := List.any_eq_true.1 hseen
  simp only [Bool.and_eq_true, beq_iff_eq, Bool.not_eq_true'] at hseen
  obtain ⟨⟨⟨⟨⟨⟨hrecord, hignored⟩, hcomplete⟩, hname⟩, hnormal⟩, htable⟩, hsome⟩ := hseen
  have hd : d ∈ out.emittedClasses := (Library.mem_emittedClasses hsound.isTree).2
    ⟨hw, hrecord, hignored, hcomplete, by rw [hname]; decide⟩
  obtain ⟨t, first, ht, hfirst, -, hiff⟩ := hall d hd hnormal htable
  have hsame : first.id = d.id := by simpa [hfirst] using hsome
  have hmet := (List.mem_filter.1 (List.mem_of_find?_eq_some hfirst)).1
  obtain ⟨hid, htext⟩ := hiff.2 (hsound.isTree.eq_of_mem_walk hmet hw hsame)
  exact ⟨d, hd, hname, t, ht, hid, htext⟩

end Emission

end Bindery
