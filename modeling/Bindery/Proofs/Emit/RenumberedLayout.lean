import Bindery.Emit.BindingModule
import Bindery.Emit.NameIndex
import Bindery.Proofs.Declaration.Renumber
import Bindery.Proofs.Pass.Renumbered
import Bindery.Proofs.TypeTable.Founded

/-!
# Types and layouts under other numbers

A template works from a library, the table of types and the declarations by name. Where two
libraries differ in their numbers only, the same declarations are known by the same names, every
type is described alike, since a description takes everything but the number of the declaration it
refers to from names and spellings, the same classes are laid out, they need the same other ones,
and they are placed in the same order.
-/

namespace Bindery

/-! ### Types -/

/-- A declaration as a type sees it, with another number. -/
def Referent.renumber (ρ : Nat → Nat) (r : Referent) : Referent :=
  { r with id := r.id.renumber ρ }

/-- Declarations by name, with other numbers. -/
def NameIndex.renumber (ρ : Nat → Nat) (index : NameIndex) : NameIndex :=
  index.map fun entry => (entry.1, entry.2.renumber ρ)

/-- A description that refers to another number. -/
def Descriptor.renumber (ρ : Nat → Nat) (d : Descriptor) : Descriptor :=
  { d with declaration := d.declaration.renumber ρ }

theorem Value.isNull_renumber (ρ : Nat → Nat) (v : Value) :
    (v.renumber ρ).isNull = v.isNull := by
  cases v <;> rfl

theorem Value.renumber_of_isNull {ρ : Nat → Nat} {v : Value} (h : v.isNull = true) :
    v.renumber ρ = v := by
  cases v <;> first | rfl | cases h

namespace TypeTable

/-- No line of the table refers to a declaration. -/
def Unbound (t : TypeTable) : Prop :=
  ∀ d ∈ t.entries, d.declaration.isNull = true

theorem unbound_standard : standard.Unbound := by
  have hall : builtins.all (·.declaration.isNull) = true := rfl
  exact fun d hd => List.all_eq_true.1 hall d hd

/-- Whatever line a type has refers to no declaration. -/
theorem Unbound.shape {t : TypeTable} (h : t.Unbound) {native : List Char} {d : Descriptor}
    (hd : t.shape native = .known d ∨ t.shape native = .template d) :
    d.declaration.isNull = true :=
  h d (mem_entries_of_shape hd)

variable (ρ : Nat → Nat) (index : NameIndex)

theorem get?_renumber (name : String) :
    (index.renumber ρ).get? name = (index.get? name).map (Referent.renumber ρ) := by
  unfold NameIndex.get? NameIndex.renumber
  rw [List.find?_map]
  show ((index.find? (·.1 == name)).map _).map _ = _
  cases index.find? (·.1 == name) <;> rfl

theorem referTo_renumber (native : List Char) :
    referTo (index.renumber ρ) native = (referTo index native).renumber ρ := by
  unfold referTo
  simp only [get?_renumber]
  cases index.get? (String.ofList native) with
  | some r => cases hr : r.form <;> simp [Referent.renumber, Descriptor.renumber, hr]
  | none =>
    cases index.get? (String.ofList (Signature.plainName native)) with
    | some r => cases hr : r.form <;> simp [Referent.renumber, Descriptor.renumber, hr]
    | none => rfl

theorem pointTo_renumber (native : List Char) (inner : Descriptor) :
    pointTo native (inner.renumber ρ) = (pointTo native inner).renumber ρ := by
  unfold pointTo
  have hnull : (inner.renumber ρ).declaration.isNull = inner.declaration.isNull :=
    Value.isNull_renumber ρ inner.declaration
  have hvoid : (inner.renumber ρ).isVoid = inner.isVoid := rfl
  have hkind : (inner.renumber ρ).kind = inner.kind := rfl
  have hforeign : (inner.renumber ρ).foreignType = inner.foreignType := rfl
  rw [hnull, hvoid, hkind, hforeign]
  cases inner.kind <;> dsimp only <;> (try split_ifs) <;> rfl

theorem arrayOf_renumber (native size : List Char) (inner : Descriptor) :
    arrayOf native size (inner.renumber ρ) = (arrayOf native size inner).renumber ρ := by
  have hvoid : (inner.renumber ρ).isVoid = inner.isVoid := rfl
  unfold arrayOf
  rw [hvoid]
  split_ifs <;> rfl

/-- The description of a type does not depend on numbers, but for the one it refers to. -/
theorem describe_renumber {t : TypeTable} (h : t.Unbound) (signature : List Char) :
    t.describe (index.renumber ρ) signature = (t.describe index signature).renumber ρ := by
  fun_induction t.describe index signature with
  | case1 signature native d hs =>
    rw [describe_eq, hs]
    have hnull := h.shape (.inl hs)
    simp only [Descriptor.renumber, Value.renumber_of_isNull hnull]
  | case2 signature native hs =>
    rw [describe_eq, hs]
    rfl
  | case3 signature native target hs ih =>
    rw [describe_eq, hs]
    dsimp only
    rw [ih, pointTo_renumber]
  | case4 signature native item size hs ih =>
    rw [describe_eq, hs]
    dsimp only
    rw [ih, arrayOf_renumber]
  | case5 signature native d hs =>
    rw [describe_eq, hs]
    have hnull := h.shape (.inr hs)
    simp only [Descriptor.renumber, Value.renumber_of_isNull hnull]
    rfl
  | case6 signature native hs =>
    rw [describe_eq, hs]
    exact referTo_renumber ρ index native

/-- A search comes to the same under other numbers. -/
theorem search_renumber {t : TypeTable} (h : t.Unbound) (used : Nat) (signature : String) :
    t.search used (index.renumber ρ) signature =
      (t.search used index signature).map (Descriptor.renumber ρ) := by
  unfold search
  cases t.descentFault? used signature.toList with
  | some f => rfl
  | none => exact congrArg Except.ok (describe_renumber ρ index h signature.toList)

/-! ### What a description refers to -/

theorem pointTo_declaration (native : List Char) (inner : Descriptor) :
    (pointTo native inner).declaration = inner.declaration ∨
      (pointTo native inner).declaration = .null := by
  unfold pointTo
  cases inner.kind <;> dsimp only <;> (try split_ifs) <;> simp

theorem arrayOf_declaration (native size : List Char) (inner : Descriptor) :
    (arrayOf native size inner).declaration = inner.declaration ∨
      (arrayOf native size inner).declaration = .null := by
  unfold arrayOf
  split_ifs <;> simp

theorem referTo_declaration (native : List Char) :
    (referTo index native).declaration = .null ∨
      ∃ entry ∈ index, (referTo index native).declaration = entry.2.id := by
  rcases referTo_cases index native with ⟨_, _, hr, heq⟩ | ⟨-, hnull⟩
  · obtain ⟨entry, hentry, rfl⟩ := exists_of_get? index hr
    refine .inr ⟨entry, hentry, ?_⟩
    rw [heq]
    cases hf : entry.2.form <;> rfl
  · exact .inl hnull

/-- A description refers to the number of a declaration that is known by name, or to none. -/
theorem describe_declaration {t : TypeTable} (h : t.Unbound) (signature : List Char) :
    (t.describe index signature).declaration = .null ∨
      ∃ entry ∈ index, (t.describe index signature).declaration = entry.2.id := by
  have hnull : ∀ d : Descriptor, d.declaration.isNull = true → d.declaration = .null := by
    intro d hd
    cases hv : d.declaration <;> simp [hv, Value.isNull] at hd
    rfl
  fun_induction t.describe index signature with
  | case1 signature native d hs => exact .inl (hnull d (h.shape (.inl hs)))
  | case2 signature native hs => exact .inl rfl
  | case3 signature native target hs ih =>
    rcases pointTo_declaration native (t.describe index target) with hd | hd
    · rw [hd]
      exact ih
    · exact .inl hd
  | case4 signature native item size hs ih =>
    rcases arrayOf_declaration native size (t.describe index item) with hd | hd
    · rw [hd]
      exact ih
    · exact .inl hd
  | case5 signature native d hs =>
    have hd : t.shape native = .known d ∨ t.shape native = .template d := .inr hs
    exact .inl (hnull d (h.shape hd))
  | case6 signature native hs => exact referTo_declaration index native

end TypeTable

/-! ### Layouts -/

open Bindery.Library (renumberNames)

variable {ρ : Nat → Nat} {lib out : Library}

theorem referent_renumber (ρ : Nat → Nat) (d : Decl) :
    (d.renumber ρ).referent = d.referent.renumber ρ := by
  unfold Decl.referent Referent.renumber
  have hbody : (d.renumber ρ).body = d.body.renumber ρ := rfl
  rw [hbody]
  cases d.body <;> rfl

namespace Library

theorem findIn_renumberNames (ρ : Nat → Nat) (names : List (String × Nat)) (name : String) :
    findIn (renumberNames ρ names) name = (findIn names name).map ρ := by
  unfold findIn
  rw [find?_renumberNames]
  cases names.find? (·.1 == name) <;> rfl

theorem addKeys_renumber (ρ : Nat → Nat) (names : List (String × Nat)) (keys : List String)
    (id : Nat) : addKeys (renumberNames ρ names) keys (ρ id) =
      renumberNames ρ (addKeys names keys id) := by
  unfold addKeys
  refine List.foldl_rel (r := fun names names' => names' = renumberNames ρ names) (l := keys)
    (a := names) (b := renumberNames ρ names)
    (f := fun index key => if index.any (·.1 == key) then index else index ++ [(key, id)])
    (g := fun index key => if index.any (·.1 == key) then index else index ++ [(key, ρ id)]) rfl ?_
  intro key _ index _ hindex
  subst hindex
  rw [any_renumberNames]
  split_ifs
  · rfl
  · unfold renumberNames
    rw [List.map_append]
    rfl

/-- What is known by name is a type that the walk meets. -/
theorem exists_of_mem_nameIndex {names : List (String × Nat)} (h : lib.nameIndex = .ok names) :
    ∀ entry ∈ names, ∃ d ∈ lib.namedTypes, entry.2 = d.id := by
  unfold nameIndex at h
  refine of_foldlM_ok (P := fun names : List (String × Nat) => ∀ entry ∈ names,
    ∃ d ∈ lib.namedTypes, entry.2 = d.id) ?_ ?_ h
  · intro d hd index names hindex hstep
    obtain ⟨keys, -, hkeys⟩ := bind_eq_ok_iff.1 hstep
    cases hkeys
    unfold addKeys
    refine List.foldlRecOn (motive := fun names : List (String × Nat) => ∀ entry ∈ names,
      ∃ d ∈ lib.namedTypes, entry.2 = d.id) _ _ hindex fun index hindex key _ entry hentry => ?_
    split_ifs at hentry
    · exact hindex entry hentry
    · rcases List.mem_append.1 hentry with hentry | hentry
      · exact hindex entry hentry
      · rw [List.mem_singleton.1 hentry]
        exact ⟨d, hd, rfl⟩
  · intro entry hentry
    cases hentry

theorem IsTree.decl?_of_mem_namedTypes (h : lib.IsTree) {d : Decl} (hd : d ∈ lib.namedTypes) :
    lib.Attached d.id ∧ lib.decl? d.id = some d :=
  h.decl?_of_mem_walk (List.mem_filter.1 hd).1

namespace Renumbered

variable (h : lib.Renumbered ρ out)
include h

theorem namedTypes (ht : lib.IsTree) :
    out.namedTypes = lib.namedTypes.map (Decl.renumber ρ) := by
  have hnamed : (fun d : Decl => (d.body.isRecord || d.body.isEnumeration) && d.name != "") ∘
      Decl.renumber ρ = fun d => (d.body.isRecord || d.body.isEnumeration) && d.name != "" := by
    funext d
    have hbody : (d.renumber ρ).body = d.body.renumber ρ := rfl
    have hname : (d.renumber ρ).name = d.name := rfl
    simp only [Function.comp_apply, hbody, hname]
    cases d.body <;> rfl
  unfold Library.namedTypes
  rw [h.walk ht, List.filter_map, hnamed]

theorem keysOf {id : Nat} {d : Decl} (hd : lib.decl? id = some d) (hg : lib.Grounded id) :
    ∃ keys, lib.keysOf d = .ok keys ∧ out.keysOf (d.renumber ρ) = .ok keys := by
  obtain ⟨q, hq, hq'⟩ := h.qualifiedName hd hg
  obtain ⟨r, hr, hr'⟩ := h.qualifiedFirstName hd hg
  refine ⟨[q, d.name, earlierName d, r], ?_, ?_⟩
  · unfold Library.keysOf
    rw [hq, hr]
    rfl
  · unfold Library.keysOf
    rw [hq', hr']
    rfl

/-- The same declarations are known by the same names. -/
theorem nameIndex (ht : lib.IsTree) (hs : lib.ScopesAgree) :
    Agree (fun names names' => names' = renumberNames ρ names) lib.nameIndex out.nameIndex := by
  unfold Library.nameIndex
  rw [h.namedTypes ht]
  refine Agree.foldlM (fun d hd names names' hnames => ?_) rfl
  obtain ⟨ha, hd'⟩ := ht.decl?_of_mem_namedTypes hd
  obtain ⟨keys, hk, hk'⟩ := h.keysOf hd' (ht.grounded hs ha)
  rw [hk, hk', hnames]
  exact .ok (addKeys_renumber ρ names keys d.id)

theorem referents (names : List (String × Nat)) :
    out.referents (renumberNames ρ names) = (lib.referents names).renumber ρ := by
  unfold Library.referents renumberNames NameIndex.renumber
  rw [List.filterMap_map, List.map_filterMap]
  refine congrArg (names.filterMap ·) (funext fun entry => ?_)
  simp only [Function.comp_apply, h.decl?]
  cases lib.decl? entry.2 with
  | none => rfl
  | some d => exact congrArg (fun r => some (entry.1, r)) (referent_renumber ρ d)

/-- The definition behind a declaration is the same. -/
theorem resolve (hs : lib.Sound) (hs' : out.Sound) (id : Nat) :
    Agree (fun d d' => (∃ k, lib.registered? k = some d) ∧ d' = d.renumber ρ) (lib.resolve id)
      (out.resolve (ρ id)) := by
  rw [hs.resolve_eq, hs'.resolve_eq]
  refine (h.get id).bind ?_
  rintro d _ ⟨hd, rfl⟩
  have hdef : (d.renumber ρ).body.record?.bind (·.definition) =
      (d.body.record?.bind (·.definition)).map ρ := by
    have hbody : (d.renumber ρ).body = d.body.renumber ρ := rfl
    rw [hbody]
    cases d.body <;> rfl
  rw [hdef]
  cases d.body.record?.bind (·.definition) with
  | none => exact .ok ⟨⟨id, hd⟩, rfl⟩
  | some x => exact (h.get x).mono fun e _ he => ⟨⟨x, he.1⟩, he.2⟩

end Renumbered

end Library

/-! ### Members of classes -/

/-- Two templates work from the same declarations under different numbers. -/
structure Emission.Renumbered (ρ : Nat → Nat) (e f : Emission) : Prop where
  /-- The libraries differ in numbers only. -/
  library : e.library.Renumbered ρ f.library
  /-- The first library is sound. -/
  sound : e.library.Sound
  /-- So is the second one. -/
  sound' : f.library.Sound
  /-- The table is the same. -/
  table : f.table = e.table
  /-- The table has no declarations in it. -/
  unbound : e.table.Unbound
  /-- The same declarations are known by the same names. -/
  index : Agree (fun names names' => names' = renumberNames ρ names) e.index f.index

/-- What templates work from, for libraries that differ in their numbers only. -/
theorem Library.Renumbered.emission {lib out : Library} (h : lib.Renumbered ρ out)
    (hs : lib.Sound) (hs' : out.Sound) :
    (Emission.ofLibrary lib .standard).Renumbered ρ (Emission.ofLibrary out .standard) :=
  ⟨h, hs, hs', rfl, TypeTable.unbound_standard, h.nameIndex hs.isTree hs.scopesAgree⟩

/-- What is declared in a description is a number or nothing. -/
theorem Value.asNumber?_renumber {v : Value} (h : v = .null ∨ ∃ n : Nat, v = .int n) :
    (v.renumber ρ).asNumber? = v.asNumber?.map ρ := by
  rcases h with rfl | ⟨n, rfl⟩
  · rfl
  · simp [asNumber?]

theorem Emission.exists_of_mem_fieldsOf {e : Emission} {d : Decl} {m : FieldMember}
    (hm : m ∈ e.fieldsOf d) :
    ∃ id, e.library.decl? id = some m.decl := by
  obtain ⟨id, -, hid⟩ := List.mem_filterMap.1 hm
  cases hd : e.library.decl? id with
  | none =>
    rw [hd] at hid
    cases hid
  | some c =>
    rw [hd] at hid
    cases hb : c.body <;> simp only [hb] at hid <;> try cases hid
    split_ifs at hid
    cases hid
    exact ⟨id, hd⟩

namespace Emission.Renumbered

variable {e f : Emission} (h : e.Renumbered ρ f)
include h

theorem names : Agree (fun names names' => names' = renumberNames ρ names) e.names f.names :=
  Agree.mapError h.index Fault.graph Fault.graph

/-- A type is described alike, and what it refers to is a number if anything. -/
theorem lookup (signature : String) : Agree (fun t t' =>
    (t.declaration = .null ∨ ∃ n : Nat, t.declaration = .int n) ∧ t' = t.renumber ρ)
    (e.lookup signature) (f.lookup signature) := by
  unfold Emission.lookup
  refine h.names.bind fun names _ hnames => ?_
  subst hnames
  dsimp only
  rw [h.library.referents, h.table, TypeTable.search_renumber ρ _ h.unbound]
  cases hs : e.table.search DescentFault.takenByEmission (e.library.referents names) signature with
  | error _ => exact .error _ _
  | ok t =>
    refine .ok ⟨?_, rfl⟩
    rw [TypeTable.eq_lookup_of_search hs]
    rcases TypeTable.describe_declaration (e.library.referents names) h.unbound
      signature.toList with
      hd | ⟨entry, hentry, hd⟩
    · exact .inl hd
    · obtain ⟨known, -, hknown⟩ := List.mem_filterMap.1 hentry
      obtain ⟨d, -, rfl⟩ := Option.map_eq_some_iff.1 hknown
      exact .inr ⟨d.id, hd⟩

theorem resolve (id : Nat) :
    Agree (fun d d' => (∃ k, e.library.registered? k = some d) ∧ d' = d.renumber ρ) (e.resolve id)
      (f.resolve (ρ id)) :=
  Agree.mapError (h.library.resolve h.sound h.sound' id) Fault.graph Fault.graph

theorem isVirtualMethod (id : Nat) :
    f.library.isVirtualMethod (ρ id) = e.library.isVirtualMethod id := by
  unfold Library.isVirtualMethod
  rw [h.library.decl?]
  cases e.library.decl? id with
  | none => rfl
  | some d =>
    have hbody : (d.renumber ρ).body = d.body.renumber ρ := rfl
    simp only [Option.map_some, Option.any_some, hbody]
    cases d.body <;> rfl

/-- The same classes are laid out. -/
theorem hasLayout (d : Decl) : f.library.hasLayout (d.renumber ρ) = e.library.hasLayout d := by
  have hnotes : (d.renumber ρ).notes.get? "opaque" = d.notes.get? "opaque" :=
    Fields.get?_renumber ρ d.notes (by decide)
  have hbody : (d.renumber ρ).body = d.body.renumber ρ := rfl
  unfold Library.hasLayout
  rw [hnotes, hbody]
  cases d.body with
  | record r =>
    have hvirtual : (r.renumber ρ).methods.any f.library.isVirtualMethod =
        r.methods.any e.library.isVirtualMethod := by
      show (r.methods.map ρ).any _ = _
      rw [List.any_map]
      exact congrArg r.methods.any (funext h.isVirtualMethod)
    simp only [Body.renumber, hvirtual]
    rfl
  | _ => rfl

/-- The same bases are laid out. -/
theorem basesOf (d : Decl) : Agree (fun bs bs' => bs' = bs.map (Decl.renumber ρ)) (e.basesOf d)
    (f.basesOf (d.renumber ρ)) := by
  have hbases : ((d.renumber ρ).body.record?.map (·.bases)).getD [] =
      (d.body.record?.map (·.bases)).getD [] := by
    have hbody : (d.renumber ρ).body = d.body.renumber ρ := rfl
    rw [hbody]
    cases d.body <;> rfl
  unfold Emission.basesOf
  rw [hbases]
  refine Agree.foldlM_self (fun base _ found _ hfound => ?_) rfl
  subst hfound
  refine h.names.bind fun names _ hnames => ?_
  subst hnames
  rw [Library.findIn_renumberNames]
  cases Library.findIn names (baseName base) with
  | none => exact .ok rfl
  | some id =>
    simp only [Option.map_some, Option.bind_some, h.library.decl?]
    cases e.library.decl? id with
    | none => exact .ok rfl
    | some b =>
      have hrecord : (b.renumber ρ).body.isRecord = b.body.isRecord :=
        Body.isRecord_renumber ρ b.body
      simp only [Option.map_some, hrecord]
      split_ifs
      · refine (h.resolve b.id).bind ?_
        rintro c _ ⟨-, rfl⟩
        rw [h.hasLayout]
        refine (Agree.refl _).bind ?_
        rintro laidOut _ rfl
        refine .ok ?_
        split_ifs
        · rw [List.map_append]
          rfl
        · rfl
      · exact .ok rfl

/-- The fields that are written are the same. -/
theorem fieldsOf (d : Decl) : f.fieldsOf (d.renumber ρ) =
    (e.fieldsOf d).map fun m => ⟨m.decl.renumber ρ, m.type⟩ := by
  have hfields : ((d.renumber ρ).body.record?.map (·.fields)).getD [] =
      ((d.body.record?.map (·.fields)).getD []).map ρ := by
    have hbody : (d.renumber ρ).body = d.body.renumber ρ := rfl
    rw [hbody]
    cases d.body <;> rfl
  unfold Emission.fieldsOf
  rw [hfields, List.filterMap_map, List.map_filterMap]
  refine congrArg (List.filterMap · _) (funext fun id => ?_)
  simp only [Function.comp_apply, h.library.decl?]
  cases e.library.decl? id with
  | none => rfl
  | some m =>
    have hbody : (m.renumber ρ).body = m.body.renumber ρ := rfl
    have hignored : (m.renumber ρ).ignored = m.ignored := rfl
    simp only [Option.map_some, hbody, hignored]
    cases hb : m.body <;> simp only [Body.renumber, Option.map_none]
    split_ifs <;> rfl

/-- The type that was defined together with a field is the same. -/
theorem definedType? {m : FieldMember} {k : Nat} (hk : e.library.decl? k = some m.decl) :
    Agree (fun t t' => t' = t.map ρ) (e.definedType? m)
      (f.definedType? ⟨m.decl.renumber ρ, m.type⟩) := by
  have hnote : (m.decl.renumber ρ).notes.get? "type_declaration_id" =
      (m.decl.notes.get? "type_declaration_id").map (Value.renumber ρ) :=
    Fields.get?_renumber_self ρ m.decl.notes
  unfold Emission.definedType?
  rw [hnote]
  cases hv : m.decl.notes.get? "type_declaration_id" with
  | none => exact .ok rfl
  | some v =>
    obtain ⟨t, rfl⟩ := h.sound.noted k m.decl v hk hv
    refine .ok ?_
    have hnumber : ∀ n : Nat, (Value.int n).asNumber? = some n := fun n => by simp [Value.asNumber?]
    simp only [Value.renumber_int, hnumber, Option.filter, h.library.contains]
    split_ifs <;> rfl

/-- A field needs the same class. -/
theorem fieldDependency {m : FieldMember} {k : Nat} (hk : e.library.decl? k = some m.decl) :
    Agree (fun t t' => t' = t.map ρ) (e.fieldDependency m)
      (f.fieldDependency ⟨m.decl.renumber ρ, m.type⟩) := by
  have hbyType : Agree (fun t t' => t' = t.map ρ) (Emission.fieldDependency.byType e m)
      (Emission.fieldDependency.byType f ⟨m.decl.renumber ρ, m.type⟩) := by
    unfold Emission.fieldDependency.byType
    refine (h.lookup m.type).bind ?_
    rintro t _ ⟨ht, rfl⟩
    refine .ok ?_
    have hkind : (t.renumber ρ).kind = t.kind := rfl
    rw [hkind]
    split_ifs
    · exact Value.asNumber?_renumber ht
    · rfl
  unfold Emission.fieldDependency
  refine (h.definedType? hk).bind ?_
  rintro t _ rfl
  cases t with
  | none => exact hbyType
  | some id =>
    dsimp only [Option.map_some]
    split_ifs
    · exact hbyType
    · refine (h.resolve id).bind ?_
      rintro c _ ⟨-, rfl⟩
      exact .ok rfl

/-- A class needs the same other ones. -/
theorem dependencies (d : Decl) : Agree (fun ids ids' => ids' = ids.map ρ) (e.dependencies d)
    (f.dependencies (d.renumber ρ)) := by
  unfold Emission.dependencies
  refine (h.basesOf d).bind ?_
  rintro bs _ rfl
  refine (Agree.mapM (r := ρ) (fun b _ => ?_)).bind ?_
  · refine (h.resolve b.id).bind ?_
    rintro c _ ⟨-, rfl⟩
    exact .ok rfl
  · rintro bases _ rfl
    rw [h.fieldsOf]
    refine (Agree.filterMapM (r := ρ) (fun m hm => ?_)).bind ?_
    · obtain ⟨k, hk⟩ := exists_of_mem_fieldsOf hm
      exact h.fieldDependency hk
    · rintro held _ rfl
      refine .ok ?_
      have hown : ((· ≠ (d.renumber ρ).id) : Nat → Bool) ∘ ρ = (· ≠ d.id) := by
        funext id
        exact decide_eq_decide.2 (not_congr h.library.mono.injective.eq_iff)
      rw [← List.map_append, List.filter_map, hown]

/-- The definitions of the same bases come first. -/
theorem completeBases (d : Decl) : Agree (fun bs bs' => bs' = bs.map (Decl.renumber ρ))
    (e.completeBases d) (f.completeBases (d.renumber ρ)) := by
  unfold Emission.completeBases
  refine (h.basesOf d).bind ?_
  rintro bs _ rfl
  refine Agree.mapM fun b _ => ?_
  exact (h.resolve b.id).mono fun _ _ hc => hc.2

end Emission.Renumbered

/-! ### The order of layouts -/

/-- How far an order of layouts has come, under other numbers. -/
def LayoutState.renumber (ρ : Nat → Nat) (s : LayoutState) : LayoutState :=
  ⟨s.done.map ρ, s.visiting.map ρ, s.ordered.map (Decl.renumber ρ)⟩

theorem eraseDups_map {ρ : Nat → Nat} (hρ : Function.Injective ρ) (ids : List Nat) :
    (ids.map ρ).eraseDups = ids.eraseDups.map ρ := by
  induction hn : ids.length using Nat.strong_induction_on generalizing ids with
  | _ n ih =>
    cases ids with
    | nil => rfl
    | cons id ids =>
      have hlt : (ids.filter fun b => !b == id).length < n := by
        have := List.length_filter_le (fun b => !b == id) ids
        rw [List.length_cons] at hn
        omega
      have hother : (fun b => !b == ρ id) ∘ ρ = fun b => !b == id := by
        funext b
        have hne : (ρ b == ρ id) = (b == id) := by
          rw [Bool.eq_iff_iff, beq_iff_eq, beq_iff_eq, hρ.eq_iff]
        simp only [Function.comp_apply, hne]
      rw [List.map_cons, List.eraseDups_cons, List.eraseDups_cons, List.filter_map, hother,
        ih _ hlt _ rfl, List.map_cons]

namespace Emission

/-- The same classes are picked, in the same order. -/
theorem pick_renumber (hρ : StrictMono ρ) {classes : List Decl}
    (hordered : ∀ d ∈ classes, 0 ≤ d.order)
    (ids : List Nat) :
    pick (classes.map (Decl.renumber ρ)) (ids.map ρ) =
      (pick classes ids).map (Decl.renumber ρ) := by
  have hsorted : (ids.eraseDups.map ρ).mergeSort (· ≤ ·) =
      (ids.eraseDups.mergeSort (· ≤ ·)).map ρ :=
    (List.map_mergeSort fun a _ b _ => decide_eq_decide.2 hρ.le_iff_le.symm).symm
  have hfound : ∀ id, (classes.map (Decl.renumber ρ)).find? (·.id == ρ id) =
      (classes.find? (·.id == id)).map (Decl.renumber ρ) := by
    intro id
    rw [List.find?_map]
    refine congrArg (Option.map _ <| classes.find? ·) (funext fun d => ?_)
    show (ρ d.id == ρ id) = (d.id == id)
    rw [Bool.eq_iff_iff, beq_iff_eq, beq_iff_eq, hρ.injective.eq_iff]
  unfold pick
  rw [eraseDups_map hρ.injective, hsorted, List.filterMap_map]
  have hpicked : (ids.eraseDups.mergeSort (· ≤ ·)).filterMap
        ((fun id => (classes.map (Decl.renumber ρ)).find? (·.id == id)) ∘ ρ) =
      ((ids.eraseDups.mergeSort (· ≤ ·)).filterMap fun id => classes.find? (·.id == id)).map
        (Decl.renumber ρ) := by
    rw [List.map_filterMap]
    exact congrArg (List.filterMap · _) (funext hfound)
  rw [hpicked]
  refine Library.mergeSort_renumber hρ fun d hd => ?_
  obtain ⟨id, -, hid⟩ := List.mem_filterMap.1 hd
  exact hordered d (List.mem_of_find?_eq_some hid)

namespace Renumbered

variable {e f : Emission} (h : e.Renumbered ρ f)
include h

/-- A class gets the same place. -/
theorem placeLayout {classes : List Decl} (hordered : ∀ d ∈ classes, 0 ≤ d.order) (levels : Nat)
    (s : LayoutState) (d : Decl) : Agree (fun s s' => s' = s.renumber ρ)
      (e.placeLayout classes levels s d)
      (f.placeLayout (classes.map (Decl.renumber ρ)) levels (s.renumber ρ) (d.renumber ρ)) := by
  have hcontains : ∀ (ids : List Nat) (id : Nat),
      (ids.map ρ).contains (ρ id) = ids.contains id := by
    intro ids id
    rw [Bool.eq_iff_iff, List.contains_iff_mem, List.contains_iff_mem,
      List.mem_map_of_injective h.library.mono.injective]
  induction levels generalizing s d with
  | zero => exact .ok rfl
  | succ levels ih =>
    have hdone : (s.renumber ρ).done.contains (d.renumber ρ).id = s.done.contains d.id :=
      hcontains s.done d.id
    have hvisiting :
        (s.renumber ρ).visiting.contains (d.renumber ρ).id = s.visiting.contains d.id :=
      hcontains s.visiting d.id
    unfold Emission.placeLayout
    rw [hdone, hvisiting]
    split_ifs
    · exact .ok rfl
    · refine (h.dependencies d).bind ?_
      rintro ids _ rfl
      rw [pick_renumber h.library.mono hordered]
      refine Agree.bind (R := fun s s' => s' = LayoutState.renumber ρ s) ?_ ?_
      · refine Agree.foldlM (fun c _ s s' hs => ?_) rfl
        rw [hs]
        exact ih s c
      · rintro t _ rfl
        refine .ok ?_
        unfold LayoutState.renumber
        rw [List.map_append, List.map_erase h.library.mono.injective]
        rfl

/-- Classes are laid out in the same order. -/
theorem layoutOrder {classes : List Decl} (hordered : ∀ d ∈ classes, 0 ≤ d.order) :
    Agree (fun ds ds' => ds' = ds.map (Decl.renumber ρ)) (e.layoutOrder classes)
      (f.layoutOrder (classes.map (Decl.renumber ρ))) := by
  unfold Emission.layoutOrder
  rw [List.length_map]
  refine Agree.bind (R := fun s s' => s' = LayoutState.renumber ρ s) ?_ ?_
  · refine Agree.foldlM (fun d _ s s' hs => ?_) rfl
    rw [hs]
    exact h.placeLayout hordered _ s d
  · rintro s _ rfl
    exact .ok rfl

end Renumbered

end Emission

end Bindery
