import Bindery.Proofs.Emit.NameIndex
import Bindery.Proofs.Emit.Withheld
import Bindery.Proofs.TypeTable.Marks

/-!
# What a layout depends on

The type of a field is written from the name of the type that was defined together with it and the
marks behind that, or else from its words; which class the field holds by value is found from the
number of that type, or else from the words again. Both ways come to the same class: whatever class
a written type mentions outside pointers is one that the layout depends on, as long as the names of
what is emitted stand for it and what was defined together with a field is emitted. The length of an
array is a word of the header. It is mentioned as it is, and nothing depends on it.
-/

namespace Bindery

/-- What is emitted and has a name that types can refer to. -/
def Library.emittedTypes (lib : Library) : List Decl :=
  lib.emittedClasses ++ lib.emittedEnums

namespace Emission

open Bindery.Naming

section

variable (e : Emission)

/-- The names of what is emitted refer to it. -/
def NamesStand : Prop :=
  ∀ d ∈ e.library.emittedTypes, ∃ t, e.lookup d.name = .ok t ∧ t.declaration = .int d.id

/-- What was defined together with a field is emitted. -/
def InlineEmitted : Prop :=
  ∀ c ∈ e.library.emittedClasses, ∀ f ∈ e.fieldsOf c, ∀ id, e.definedType? f = .ok (some id) →
    ∃ d ∈ e.library.emittedTypes, d.id = id

end

variable {lib : Library}

/-! ### What a type mentions -/

theorem mem_walk_of_mem_emittedTypes (h : lib.IsTree) {d : Decl} (hd : d ∈ lib.emittedTypes) :
    d ∈ lib.walk := by
  rcases List.mem_append.1 hd with hd | hd
  · exact ((Library.mem_emittedClasses h).1 hd).1
  · exact (Library.mem_emittedEnums.1 hd).1

/-- What is emitted as a type is given away. -/
theorem mem_given_of_mem_emittedTypes {d : Decl} (hd : d ∈ lib.emittedTypes) : d ∈ lib.given :=
  List.mem_append_left _ (List.mem_append.2 (List.mem_append.1 hd).symm)

/-- The emitted class that a type mentions outside pointers is what the type refers to. -/
theorem declaration_of_held (h : lib.Settled) {s : String} {u : Descriptor} {d : Decl}
    (hu : (ofLibrary lib .standard).lookup s = .ok u) (hk : u.kind ≠ .opaqueHandle)
    (hd : d ∈ lib.emittedClasses) (hheld : u.foreignType.heldName? = some d.name) :
    u.kind = .declaration ∧ u.declaration = .int d.id := by
  obtain ⟨names, hnames, rfl⟩ := exists_of_lookup hu
  unfold TypeTable.lookup at hk hheld ⊢
  obtain ⟨hkind, entry, hentry, hform, hname, hdeclaration⟩ :=
    TypeTable.exists_of_heldName? TypeTable.plain_standard hheld hk
  obtain ⟨c, hc, hreferent⟩ := exists_of_mem_referents h.isTree hnames hentry hform
  have hgiven : ∀ c ∈ lib.emittedClasses, c ∈ lib.given := fun c hc =>
    mem_given_of_mem_emittedTypes (List.mem_append_left _ hc)
  have hsame : c = d := by
    rw [hreferent] at hname
    exact h.eq_of_name (hgiven c hc) (hgiven d hd) hname
  rw [hdeclaration, hreferent, hsame]
  exact ⟨hkind, rfl⟩

/-! ### What a field depends on -/

/-- What can be reached and has its number is found as its own definition. -/
theorem resolve_of_mem_walk (ht : lib.IsTree) (hself : lib.SelfDefined) (table : TypeTable)
    {d : Decl} (hd : d ∈ lib.walk) : (ofLibrary lib table).resolve d.id = .ok d := by
  obtain ⟨hattached, hdecl⟩ := ht.decl?_of_mem_walk hd
  show (lib.resolve d.id).mapError _ = _
  rw [hself.resolve ht hattached hdecl]
  rfl

/-- Where the name of an emitted type with the marks of a field mentions a class outside pointers,
the field ends in no pointer and no reference, and what is mentioned is that type. -/
theorem declaration_of_marked (h : lib.Settled) (hnames : (ofLibrary lib .standard).NamesStand)
    {inner : Decl} (hinner : inner ∈ lib.emittedTypes) {type name : String}
    {u : Descriptor} (hu : (ofLibrary lib .standard).lookup
      (inner.name ++ String.ofList (declaratorMarks type.toList)) = .ok u)
    (hheld : u.foreignType.heldName? = some name) :
    endsInMark type = false ∧ u.declaration = .int inner.id := by
  obtain ⟨v, hv, hinnerId⟩ := hnames inner hinner
  obtain ⟨index, hindex, rfl⟩ := exists_of_lookup hu
  obtain ⟨index', hindex', rfl⟩ := exists_of_lookup hv
  rw [hindex] at hindex'
  cases hindex'
  have hword : ∀ c ∈ inner.name.toList, Text.isWord c = true := fun c hc =>
    Initializer.isWord_of_isNameChar (List.all_eq_true.1 (isValid_iff.1
      (h.given_valid (mem_given_of_mem_emittedTypes hinner))).2.1 c hc)
  have hchars : (inner.name ++ String.ofList (declaratorMarks type.toList)).toList =
      inner.name.toList ++ declaratorMarks type.toList := by
    rw [String.toList_append, String.toList_ofList]
  unfold TypeTable.lookup at hheld hinnerId ⊢
  rw [hchars] at hheld ⊢
  obtain ⟨hends, hsame⟩ :=
    TypeTable.declaration_of_declaratorMarks TypeTable.plain_standard hword hheld
  exact ⟨hends, hsame.trans hinnerId⟩

/-- The emitted class that the type of a field mentions outside pointers is the one that the field
depends on. -/
theorem fieldDependency_of_held (h : lib.Settled) (hself : lib.SelfDefined)
    (hnames : (ofLibrary lib .standard).NamesStand)
    (hinline : (ofLibrary lib .standard).InlineEmitted) {c : Decl} (hc : c ∈ lib.emittedClasses)
    {f : FieldMember} (hf : f ∈ (ofLibrary lib .standard).fieldsOf c) {t : ForeignType}
    (ht : (ofLibrary lib .standard).fieldType f = .ok t) {d : Decl} (hd : d ∈ lib.emittedClasses)
    (hheld : t.heldName? = some d.name) :
    (ofLibrary lib .standard).fieldDependency f = .ok (some d.id) := by
  obtain ⟨s, hs, u, hu, rfl⟩ := (fieldType_eq_ok_iff _).1 ht
  have hk : u.kind ≠ .opaqueHandle := by
    intro hk
    rw [if_pos hk] at hheld
    cases hheld
  rw [if_neg hk] at hheld
  obtain ⟨hkind, hdeclaration⟩ := declaration_of_held h hu hk hd hheld
  unfold fieldSignature at hs
  unfold fieldDependency
  obtain ⟨defined, hdefined, hs⟩ := bind_eq_ok_iff.1 hs
  refine bind_eq_ok_iff.2 ⟨defined, hdefined, ?_⟩
  cases defined with
  | none =>
    cases hs
    refine bind_eq_ok_iff.2 ⟨u, hu, ?_⟩
    rw [if_pos hkind, hdeclaration]
    rfl
  | some id =>
    obtain ⟨inner, hinner, rfl⟩ := hinline c hc f hf id hdefined
    have hresolve := resolve_of_mem_walk h.isTree hself .standard
      (mem_walk_of_mem_emittedTypes h.isTree hinner)
    dsimp only at hs
    rw [hresolve] at hs
    cases hs
    obtain ⟨hends, hinnerId⟩ := declaration_of_marked h hnames hinner hu hheld
    have hid : inner.id = d.id := Int.ofNat.inj (Value.int.inj (hinnerId.symm.trans hdeclaration))
    dsimp only
    rw [hends, if_neg Bool.false_ne_true, hresolve, ← hid]
    rfl

/-! ### What a layout depends on is known -/

theorem mem_walk_of_namesBase (ht : lib.IsTree) {table : TypeTable} {d b : Decl}
    (h : (ofLibrary lib table).NamesBase d b) : b ∈ lib.walk := by
  obtain ⟨names, hnames, base, -, hb, -⟩ := h
  obtain ⟨id, hid, hb⟩ := Option.bind_eq_some_iff.1 hb
  obtain ⟨entry, hentry, rfl⟩ := Option.map_eq_some_iff.1 hid
  obtain ⟨c, hc, hsame⟩ := Library.exists_of_mem_nameIndex (eq_ok_of_mapError hnames) entry
    (List.mem_of_find?_eq_some hentry)
  have hdecl : lib.decl? entry.2 = some b := hb
  rw [hsame, (ht.decl?_of_mem_namedTypes hc).2] at hdecl
  cases hdecl
  exact (List.mem_filter.1 hc).1

/-- Whether a class is laid out is always known. -/
theorem exists_hasLayout (lib : Library) {d : Decl} (hrecord : d.body.isRecord = true) :
    ∃ isLaidOut, lib.hasLayout d = .ok isLaidOut := by
  unfold Library.hasLayout
  cases hbody : d.body <;> simp [hbody, Body.isRecord, Body.record?] at hrecord
  split_ifs <;> exact ⟨_, rfl⟩

/-- The bases of a class that are laid out are always known. -/
theorem exists_basesOf (hs : lib.Sound) (hself : lib.SelfDefined) (table : TypeTable) (d : Decl) :
    ∃ bs, (ofLibrary lib table).basesOf d = .ok bs := by
  obtain ⟨names, hindex, -, -⟩ := Library.exists_nameIndex hs.isTree hs.scopesAgree
  have hnames : (ofLibrary lib table).names = .ok names := by
    show lib.nameIndex.mapError _ = _
    rw [hindex]
    rfl
  refine exists_foldlM_ok (fun base hbase found => ?_) []
  suffices hrest : ∃ out, _ = Except.ok out by
    obtain ⟨out, hrest⟩ := hrest
    exact ⟨out, bind_eq_ok_iff.2 ⟨names, hnames, hrest⟩⟩
  cases hb : (Library.findIn names (baseName base)).bind (ofLibrary lib table).library.decl? with
  | none => exact ⟨found, rfl⟩
  | some b =>
    dsimp only
    split_ifs with hrecord
    · have hwalk := mem_walk_of_namesBase hs.isTree ⟨names, hnames, base, hbase, hb, hrecord⟩
      obtain ⟨isLaidOut, hlaid⟩ := exists_hasLayout lib hrecord
      refine ⟨if isLaidOut then found ++ [b] else found,
        bind_eq_ok_iff.2 ⟨b, resolve_of_mem_walk hs.isTree hself table hwalk,
          bind_eq_ok_iff.2 ⟨isLaidOut, ?_, rfl⟩⟩⟩
      show (lib.hasLayout b).mapError _ = _
      rw [hlaid]
      rfl
    · exact ⟨found, rfl⟩

/-- What a field depends on is known as soon as its words are described. -/
theorem exists_fieldDependency (hs : lib.Sound) (hself : lib.SelfDefined)
    (hinline : (ofLibrary lib .standard).InlineEmitted) {c : Decl} (hc : c ∈ lib.emittedClasses)
    {f : FieldMember} (hf : f ∈ (ofLibrary lib .standard).fieldsOf c)
    (hlookup : ∃ t, (ofLibrary lib .standard).lookup f.type = .ok t) :
    ∃ id?, (ofLibrary lib .standard).fieldDependency f = .ok id? := by
  obtain ⟨t, ht⟩ := hlookup
  have hbyType : ∃ id?, fieldDependency.byType (ofLibrary lib .standard) f = .ok id? :=
    ⟨_, bind_eq_ok_iff.2 ⟨t, ht, rfl⟩⟩
  obtain ⟨defined, hdefined⟩ : ∃ id?, (ofLibrary lib .standard).definedType? f = .ok id? := by
    obtain ⟨id, hid⟩ := exists_of_mem_fieldsOf hf
    unfold definedType?
    cases hv : f.decl.notes.get? "type_declaration_id" with
    | none => exact ⟨none, rfl⟩
    | some v =>
      obtain ⟨n, rfl⟩ := hs.noted id f.decl v hid hv
      exact ⟨_, rfl⟩
  obtain ⟨id?, hid⟩ := hbyType
  cases defined with
  | none => exact ⟨id?, bind_eq_ok_iff.2 ⟨none, hdefined, hid⟩⟩
  | some id =>
    obtain ⟨inner, hinner, rfl⟩ := hinline c hc f hf id hdefined
    have hresolve := resolve_of_mem_walk hs.isTree hself .standard
      (mem_walk_of_mem_emittedTypes hs.isTree hinner)
    by_cases hmark : endsInMark f.type = true
    · exact ⟨id?, bind_eq_ok_iff.2 ⟨_, hdefined, (if_pos hmark).trans hid⟩⟩
    · exact ⟨some inner.id, bind_eq_ok_iff.2 ⟨_, hdefined,
        (if_neg hmark).trans (bind_eq_ok_iff.2 ⟨inner, hresolve, rfl⟩)⟩⟩

/-- What a class depends on is known as soon as the words of its fields are described. -/
theorem exists_dependencies (hs : lib.Sound) (hself : lib.SelfDefined)
    (hinline : (ofLibrary lib .standard).InlineEmitted) {c : Decl} (hc : c ∈ lib.emittedClasses)
    (hlookup : ∀ f ∈ (ofLibrary lib .standard).fieldsOf c,
      ∃ t, (ofLibrary lib .standard).lookup f.type = .ok t) :
    ∃ ids, (ofLibrary lib .standard).dependencies c = .ok ids := by
  obtain ⟨bs, hbs⟩ := exists_basesOf hs hself .standard c
  obtain ⟨bases, hbases⟩ : ∃ bases, (bs.mapM fun b =>
      return (← (ofLibrary lib .standard).resolve b.id).id) = .ok bases := by
    refine exists_mapM_ok fun b hb => ⟨b.id, ?_⟩
    have hwalk := mem_walk_of_namesBase hs.isTree ((mem_iff_of_basesOf hbs).1 hb).1
    exact bind_eq_ok_iff.2 ⟨b, resolve_of_mem_walk hs.isTree hself .standard hwalk, rfl⟩
  obtain ⟨held, hheld⟩ := exists_filterMapM_ok fun f hf =>
    exists_fieldDependency hs hself hinline hc hf (hlookup f hf)
  exact ⟨_, bind_eq_ok_iff.2 ⟨bs, hbs, bind_eq_ok_iff.2 ⟨bases, hbases,
    bind_eq_ok_iff.2 ⟨held, hheld, rfl⟩⟩⟩⟩

/-- A class depends on what its fields depend on and on its bases that are laid out, without
itself. -/
theorem mem_of_dependencies {e : Emission} {c : Decl} {ids : List Nat}
    (h : e.dependencies c = .ok ids) {id : Nat} (hne : id ≠ c.id) :
    (∀ f ∈ e.fieldsOf c, e.fieldDependency f = .ok (some id) → id ∈ ids) ∧
      ∀ bs, e.completeBases c = .ok bs → ∀ b ∈ bs, b.id = id → id ∈ ids := by
  obtain ⟨found, hfound, h⟩ := bind_eq_ok_iff.1 h
  obtain ⟨bases, hbases, h⟩ := bind_eq_ok_iff.1 h
  obtain ⟨held, hheld, h⟩ := bind_eq_ok_iff.1 h
  cases h
  refine ⟨fun f hf hid => ?_, ?_⟩
  · have hmem : id ∈ held := (mem_iff_of_filterMapM_ok hheld).2 ⟨f, hf, hid⟩
    exact List.mem_filter.2 ⟨List.mem_append_right _ hmem, by simpa using hne⟩
  · rintro bs hbs b hb rfl
    unfold completeBases at hbs
    obtain ⟨found', hfound', hbs⟩ := bind_eq_ok_iff.1 hbs
    rw [hfound] at hfound'
    cases hfound'
    obtain ⟨a, ha, hresolve⟩ := (mem_iff_of_mapM_ok hbs).1 hb
    have hmem : b.id ∈ bases :=
      (mem_iff_of_mapM_ok hbases).2 ⟨a, ha, bind_eq_ok_iff.2 ⟨b, hresolve, rfl⟩⟩
    exact List.mem_filter.2 ⟨List.mem_append_left _ hmem, by simpa using hne⟩

/-- The definitions of bases in a layout can be reached. -/
theorem mem_walk_of_completeBases (ht : lib.IsTree) (hself : lib.SelfDefined) {table : TypeTable}
    {c b : Decl} {bs : List Decl} (hbs : (ofLibrary lib table).completeBases c = .ok bs)
    (hb : b ∈ bs) : b ∈ lib.walk := by
  obtain ⟨⟨a, ha, hresolve⟩, -⟩ := (mem_iff_of_completeBases hbs).1 hb
  have hwalk := mem_walk_of_namesBase ht ha
  rw [resolve_of_mem_walk ht hself table hwalk] at hresolve
  cases hresolve
  exact hwalk

/-- Behind the passes of every run, where the names of what is emitted refer to it and what was
defined together with a field is emitted, a layout depends on every other class that it mentions
outside pointers, as the type of a field or as a base. What it depends on is known as soon as the
words of the fields are described. -/
theorem dependencies_cover {lib : Library} (h : lib.FromHeaders) :
    ∃ out : Library, (Schedule.builtin.run (.typed lib)).1 = none ∧
      (Schedule.builtin.run (.typed lib)).2.1 = .typed out ∧
      let e := ofLibrary out .standard
      e.NamesStand → e.InlineEmitted → ∀ c ∈ out.emittedClasses,
        ((∀ f ∈ e.fieldsOf c, ∃ t, e.lookup f.type = .ok t) → ∃ ids, e.dependencies c = .ok ids) ∧
        ∀ ids, e.dependencies c = .ok ids →
          (∀ f ∈ e.fieldsOf c, ∀ t, e.fieldType f = .ok t → ∀ d ∈ out.emittedClasses,
            t.heldName? = some d.name → d = c ∨ d.id ∈ ids) ∧
          ∀ bs, e.completeBases c = .ok bs → ∀ b ∈ bs, b = c ∨ b.id ∈ ids := by
  obtain ⟨out, ⟨hrun, hout⟩, hs, hsettled, hself⟩ :=
    Schedule.run_builtin_selfDefined h.grown.loaded
  refine ⟨out, hrun, hout, fun hnames hinline c hc => ?_⟩
  have hcw := ((Library.mem_emittedClasses hs.isTree).1 hc).1
  refine ⟨exists_dependencies hs hself hinline hc, fun ids hids => ⟨?_, ?_⟩⟩
  · intro f hf t ht d hd hheld
    have hdw := ((Library.mem_emittedClasses hs.isTree).1 hd).1
    have hdependency := fieldDependency_of_held hsettled hself hnames hinline hc hf ht hd hheld
    refine or_iff_not_imp_left.2 fun hne => ?_
    have hid : d.id ≠ c.id := fun hid => hne (hs.isTree.eq_of_mem_walk hdw hcw hid)
    exact (mem_of_dependencies hids hid).1 f hf hdependency
  · intro bs hbs b hb
    have hbw := mem_walk_of_completeBases hs.isTree hself hbs hb
    refine or_iff_not_imp_left.2 fun hne => ?_
    have hid : b.id ≠ c.id := fun hid => hne (hs.isTree.eq_of_mem_walk hbw hcw hid)
    exact (mem_of_dependencies hids hid).2 bs hbs b hb rfl

/-! ### Headers with arrays -/

/-- Whether the name of a declaration refers to it. -/
def standsFor (e : Emission) (d : Decl) : Bool :=
  (e.lookup d.name).toOption.any fun t =>
    match t.declaration with
    | .int id => id == d.id
    | _ => false

/-- Whether a class that a walk meets is emitted. -/
def isMetEmitted (d : Decl) : Bool :=
  d.body.isRecord && !d.ignored && !d.isIncomplete && d.name != ""

theorem mem_emittedClasses_of_isMetEmitted (h : lib.IsTree) {d : Decl} (hw : d ∈ lib.walk)
    (hd : isMetEmitted d = true) : d ∈ lib.emittedClasses := by
  unfold isMetEmitted at hd
  simp only [Bool.and_eq_true, Bool.not_eq_true', bne_iff_ne] at hd
  obtain ⟨⟨⟨hrecord, hignored⟩, hcomplete⟩, hname⟩ := hd
  exact (Library.mem_emittedClasses h).2 ⟨hw, hrecord, hignored, hcomplete, hname⟩

/-- Names stand for what is emitted if they do for all classes and enumerations of the walk. -/
theorem namesStand_of_walk (h : lib.IsTree) {table : TypeTable}
    (hall : (lib.walk.all fun d => !(d.body.isRecord || d.body.isEnumeration) ||
      (ofLibrary lib table).standsFor d) = true) : (ofLibrary lib table).NamesStand := by
  intro d hd
  have hkind : (d.body.isRecord || d.body.isEnumeration) = true := by
    rcases List.mem_append.1 hd with hd | hd
    · rw [((Library.mem_emittedClasses h).1 hd).2.1, Bool.true_or]
    · rw [(Library.mem_emittedEnums.1 hd).2.1, Bool.or_true]
  have hd := List.all_eq_true.1 hall d (mem_walk_of_mem_emittedTypes h hd)
  rw [hkind, Bool.not_true, Bool.false_or] at hd
  obtain ⟨t, ht, hid⟩ := exists_of_any hd
  refine ⟨t, ht, ?_⟩
  cases hdeclaration : t.declaration <;> rw [hdeclaration] at hid
  case int id => rw [eq_of_beq hid]
  all_goals cases hid

/-- What was defined together with a field is emitted if the walk meets it and it is. -/
theorem inlineEmitted_of_walk (h : lib.IsTree) {table : TypeTable}
    (hall : (lib.walk.all fun c => ((ofLibrary lib table).fieldsOf c).all fun f =>
      ((ofLibrary lib table).definedType? f).toOption.any fun id? => id?.all fun id =>
        lib.walk.any fun d => isMetEmitted d && d.id == id) = true) :
    (ofLibrary lib table).InlineEmitted := by
  intro c hc f hf id hid
  have hcw := ((Library.mem_emittedClasses h).1 hc).1
  have hf := List.all_eq_true.1 (List.all_eq_true.1 hall c hcw) f hf
  rw [hid] at hf
  obtain ⟨d, hw, hd⟩ := List.any_eq_true.1 (show (lib.walk.any fun d =>
    isMetEmitted d && d.id == id) = true from hf)
  obtain ⟨hmet, hsame⟩ := Bool.and_eq_true_iff.1 hd
  exact ⟨d, List.mem_append_left _ (mem_emittedClasses_of_isMetEmitted h hw hmet), eq_of_beq hsame⟩

/-- A node of a tree that is not missing. -/
def treeNode (kind : String) (start stop : Nat) (field : Option String)
    (children : List SyntaxNode) : SyntaxNode :=
  ⟨kind, start, stop, true, false, field, children⟩

/-- A structure with a name of one letter and one member. -/
def structNode (start stop : Nat) (field : Option String) (member : SyntaxNode) : SyntaxNode :=
  treeNode "struct_specifier" start stop field
    [treeNode "type_identifier" (start + 7) (start + 8) (some "name") [],
      treeNode "field_declaration_list" (start + 9) stop (some "body") [member]]

/-- An integer field with a name of one letter. -/
def integerNode (start : Nat) : SyntaxNode :=
  treeNode "field_declaration" start (start + 6) none
    [treeNode "primitive_type" start (start + 3) (some "type") [],
      treeNode "field_identifier" (start + 4) (start + 5) (some "declarator") []]

/-- An array with a name of one letter and a length of one character. -/
def arrayNode (start : Nat) (lengthKind : String) : SyntaxNode :=
  treeNode "array_declarator" start (start + 4) (some "declarator")
    [treeNode "field_identifier" start (start + 1) (some "declarator") [],
      treeNode lengthKind (start + 2) (start + 3) (some "size") []]

/-- A header with an array whose length is a constant, and a structure of that name behind it. -/
def lengthHeader : HeaderOutcome × Library :=
  readAlone "enum \x7b N = 3 \x7d;\nstruct C \x7b int x[N]; \x7d;\nstruct N \x7b int a; \x7d;"
    (treeNode "translation_unit" 0 60 none
      [treeNode "enum_specifier" 0 14 none
          [treeNode "enumerator_list" 5 14 (some "body")
            [treeNode "enumerator" 7 12 none
              [treeNode "identifier" 7 8 (some "name") [],
                treeNode "number_literal" 11 12 (some "value") []]]],
        structNode 16 38 none (treeNode "field_declaration" 27 36 none
          [treeNode "primitive_type" 27 30 (some "type") [], arrayNode 31 "identifier"]),
        structNode 40 59 none (integerNode 51)])

/-- A header with an array of structures that are defined together with it. -/
def innerHeader : HeaderOutcome × Library :=
  readAlone "struct C \x7b struct N \x7b int a; \x7d x[3]; \x7d;"
    (treeNode "translation_unit" 0 39 none
      [structNode 0 38 none (treeNode "field_declaration" 11 36 none
        [structNode 11 30 (some "type") (integerNode 22), arrayNode 31 "number_literal"])])

/-- The length of an array is mentioned outside pointers, too. Where it is the name of an emitted
class, the layout does not depend on that class. -/
theorem length_not_depended_on :
    lengthHeader.2.FromHeaders ∧ ∃ out : Library,
      (Schedule.builtin.run (.typed lengthHeader.2)).1 = none ∧
      (Schedule.builtin.run (.typed lengthHeader.2)).2.1 = .typed out ∧
      let e := ofLibrary out .standard
      e.NamesStand ∧ e.InlineEmitted ∧ ∃ c ∈ out.emittedClasses, ∃ d ∈ out.emittedClasses,
        d ≠ c ∧ d.name = "N" ∧
        (∃ f ∈ e.fieldsOf c, ∃ t, e.fieldType f = .ok t ∧ t.text = "(ctypes.c_int * N)") ∧
        ∃ ids, e.dependencies c = .ok ids ∧ d.id ∉ ids := by
  have hparsed : lengthHeader.1.isParsed = true := by
    decide +kernel
  have hheaders : lengthHeader.2.FromHeaders := fromHeaders_readAlone hparsed
  obtain ⟨out, ⟨hrun, hout⟩, hsound, -⟩ := Schedule.run_builtin_sound hheaders.grown.loaded
  refine ⟨hheaders, out, hrun, hout, ?_⟩
  have htaken := eq_namesTaken hheaders.grown.loaded (by decide +kernel) hrun hout
  have hnames : (ofLibrary out .standard).NamesStand := by
    refine namesStand_of_walk hsound.isTree ?_
    rw [htaken]
    decide +kernel
  have hinline : (ofLibrary out .standard).InlineEmitted := by
    refine inlineEmitted_of_walk hsound.isTree ?_
    rw [htaken]
    decide +kernel
  have hholder : (out.walk.any fun c => isMetEmitted c && c.name == "C" &&
      (((ofLibrary out .standard).fieldsOf c).any fun f =>
        ((ofLibrary out .standard).fieldType f).toOption.any (·.text == "(ctypes.c_int * N)")) &&
      ((ofLibrary out .standard).dependencies c).toOption.any (·.isEmpty)) = true := by
    rw [htaken]
    decide +kernel
  have hother : (out.walk.any fun d => isMetEmitted d && d.name == "N") = true := by
    rw [htaken]
    decide +kernel
  obtain ⟨c, hcw, hc⟩ := List.any_eq_true.1 hholder
  obtain ⟨d, hdw, hd⟩ := List.any_eq_true.1 hother
  simp only [Bool.and_eq_true, beq_iff_eq] at hc hd
  obtain ⟨⟨⟨hcmet, hcname⟩, hmentioned⟩, hdependencies⟩ := hc
  obtain ⟨f, hf, htype⟩ := List.any_eq_true.1 hmentioned
  obtain ⟨t, ht, htext⟩ := exists_of_any htype
  obtain ⟨ids, hids, hempty⟩ := exists_of_any hdependencies
  refine ⟨hnames, hinline, c, mem_emittedClasses_of_isMetEmitted hsound.isTree hcw hcmet, d,
    mem_emittedClasses_of_isMetEmitted hsound.isTree hdw hd.1, ?_, hd.2,
    ⟨f, hf, t, ht, beq_iff_eq.1 htext⟩, ids, hids, ?_⟩
  · rintro rfl
    rw [hcname] at hd
    exact absurd hd.2 (by decide)
  · rw [List.isEmpty_iff.1 hempty]
    exact List.not_mem_nil

/-- A structure that is defined together with an array of it is what the layout depends on. -/
theorem dependencies_cover_inner : ∃ out : Library,
    (Schedule.builtin.run (.typed innerHeader.2)).2.1 = .typed out ∧
      let e := ofLibrary out .standard
      ∃ c ∈ out.emittedClasses, ∃ d ∈ out.emittedClasses, ∃ ids, d ≠ c ∧
        (∃ f ∈ e.fieldsOf c, ∃ t, e.fieldType f = .ok t ∧ t.text = "(N * 3)" ∧
          t.heldName? = some d.name) ∧
        e.dependencies c = .ok ids ∧ d.id ∈ ids := by
  have hparsed : innerHeader.1.isParsed = true := by
    decide +kernel
  have hheaders : innerHeader.2.FromHeaders := fromHeaders_readAlone hparsed
  obtain ⟨out, hrun, hout, hall⟩ := dependencies_cover hheaders
  refine ⟨out, hout, ?_⟩
  obtain ⟨out', ⟨-, hout'⟩, hsound, -⟩ := Schedule.run_builtin_sound hheaders.grown.loaded
  rw [hout] at hout'
  cases hout'
  have htaken := eq_namesTaken hheaders.grown.loaded (by decide +kernel) hrun hout
  have hnames : (ofLibrary out .standard).NamesStand := by
    refine namesStand_of_walk hsound.isTree ?_
    rw [htaken]
    decide +kernel
  have hinline : (ofLibrary out .standard).InlineEmitted := by
    refine inlineEmitted_of_walk hsound.isTree ?_
    rw [htaken]
    decide +kernel
  have hholder : (out.walk.any fun c => isMetEmitted c && c.name == "C" &&
      (((ofLibrary out .standard).fieldsOf c).all fun f =>
        ((ofLibrary out .standard).lookup f.type).isOk) &&
      ((ofLibrary out .standard).fieldsOf c).any fun f =>
        ((ofLibrary out .standard).fieldType f).toOption.any fun t =>
          t.text == "(N * 3)" && t.heldName? == some "N") = true := by
    rw [htaken]
    decide +kernel
  have hinner : (out.walk.any fun d => isMetEmitted d && d.name == "N") = true := by
    rw [htaken]
    decide +kernel
  obtain ⟨c, hcw, hc⟩ := List.any_eq_true.1 hholder
  obtain ⟨d, hdw, hd⟩ := List.any_eq_true.1 hinner
  simp only [Bool.and_eq_true, beq_iff_eq] at hc hd
  obtain ⟨⟨⟨hcmet, hcname⟩, hlookups⟩, hmentioned⟩ := hc
  obtain ⟨hdmet, hdname⟩ := hd
  have hce := mem_emittedClasses_of_isMetEmitted hsound.isTree hcw hcmet
  have hde := mem_emittedClasses_of_isMetEmitted hsound.isTree hdw hdmet
  have hne : d ≠ c := by
    rintro rfl
    rw [hcname] at hdname
    exact absurd hdname (by decide)
  obtain ⟨f, hf, htype⟩ := List.any_eq_true.1 hmentioned
  obtain ⟨t, ht, htext⟩ := exists_of_any htype
  simp only [Bool.and_eq_true, beq_iff_eq] at htext
  obtain ⟨hmade, hcover⟩ := hall hnames hinline c hce
  obtain ⟨ids, hids⟩ := hmade fun f hf => exists_of_isOk (List.all_eq_true.1 hlookups f hf)
  have hheld : t.heldName? = some d.name := by rw [htext.2, hdname]
  have hmem := ((hcover ids hids).1 f hf t ht d hde hheld).resolve_left hne
  exact ⟨c, hce, d, hde, ids, hne, ⟨f, hf, t, ht, htext.1, hheld⟩, hids, hmem⟩

end Emission

end Bindery
