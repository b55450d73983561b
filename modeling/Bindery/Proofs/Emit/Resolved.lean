import Bindery.Proofs.Emit.Exports
import Bindery.Proofs.Emit.RenumberedLayout
import Bindery.Proofs.Emit.Shown
import Bindery.Proofs.Header.Grown
import Bindery.Proofs.Outcome
import Bindery.Proofs.TypeTable.Founded

/-!
# Type expressions that mean something

A field whose type is an opaque handle is written as an untyped pointer, and what is no opaque
handle has something meaningful at its heart. A prototype names its opaque handles, though, an array
is written with whatever word stands for its size, and a base is written under its name even if its
class is left out. These three decide whether a module mentions only what it defines.
-/

namespace Bindery

/-- Whether a graph is a typed library with a property. -/
def Graph.isTyped (p : Library → Bool) : Graph → Bool
  | .typed lib => p lib
  | .loose _ => false

/-- A function has a prototype. -/
theorem Body.exists_prototype? {b : Body} (h : b.isFunction = true) :
    ∃ p, b.prototype? = some p := by
  cases b <;> simp [isFunction] at h
  exact ⟨_, rfl⟩

namespace Emission

variable (e : Emission)

/-- The names of the classes that a module defines. -/
def classNames : List String :=
  e.library.emittedClasses.map (·.name)

/-- The type of a parameter in words. -/
def parameterSignature? (id : Nat) : Option String :=
  match e.library.decl? id with
  | none => none
  | some d =>
    match d.body with
    | .parameter type _ => some type
    | _ => none

/-- The types in a prototype in words, the result before the parameters. -/
def prototypeSignatures (p : Prototype) : List String :=
  p.returnType :: p.parameters.filterMap e.parameterSignature?

/-- When everything in the type expressions of a module means something. -/
structure Resolvable : Prop where
  /-- An opaque handle in a prototype goes by the name of a class of the module, and sizes of arrays
  mean something. -/
  prototypes : ∀ d ∈ e.library.emittedFunctions, ∀ p, d.body.prototype? = some p →
    ∀ s ∈ e.prototypeSignatures p, ∀ t, e.lookup s = .ok t →
      (t.kind = .opaqueHandle → t.foreignType.isFounded e.classNames = true) ∧
        t.foreignType.sizes.all (isMeaningful e.classNames) = true
  /-- Sizes of arrays of anything but opaque handles mean something in fields. -/
  fields : ∀ ds, e.laidOut = .ok ds → ∀ d ∈ ds, ∀ f ∈ e.fieldsOf d,
    ∀ s, e.fieldSignature f = .ok s → ∀ t, e.lookup s = .ok t → t.kind ≠ .opaqueHandle →
      t.foreignType.sizes.all (isMeaningful e.classNames) = true
  /-- Bases that are laid out go by the names of classes of the module. -/
  bases : ∀ ds, e.laidOut = .ok ds → ∀ d ∈ ds, ∀ bs, e.completeBases d = .ok bs →
    ∀ b ∈ bs, isMeaningful e.classNames b.name = true

/-! ### What is looked up -/

/-- What types refer to with a layout is a class that is emitted. -/
theorem exists_of_mem_referents {lib : Library} (ht : lib.IsTree) {names : List (String × Nat)}
    (h : lib.nameIndex = .ok names) {entry : String × Referent}
    (hentry : entry ∈ lib.referents names) (hform : entry.2.form = .layoutClass) :
    ∃ d ∈ lib.emittedClasses, entry.2 = d.referent := by
  obtain ⟨known, hknown, hsome⟩ := List.mem_filterMap.1 hentry
  obtain ⟨d, hd, rfl⟩ := Option.map_eq_some_iff.1 hsome
  obtain ⟨c, hc, hid⟩ := Library.exists_of_mem_nameIndex h known hknown
  have hsame : d = c := by
    rw [hid, (ht.decl?_of_mem_namedTypes hc).2] at hd
    cases hd
    rfl
  subst hsame
  obtain ⟨hwalk, hnamed⟩ := List.mem_filter.1 hc
  refine ⟨d, (Library.mem_emittedClasses ht).2 ⟨hwalk, ?_⟩, rfl⟩
  cases hb : d.body <;> simp [Decl.referent, hb] at hform
  simp only [hb, Body.isRecord, Body.record?, bne_iff_ne, Bool.and_eq_true] at hnamed
  simp [Decl.isIncomplete, hb, Body.isRecord, Body.record?, hform, hnamed.2]

theorem covers_referents {lib : Library} (ht : lib.IsTree) {names : List (String × Nat)}
    (h : lib.nameIndex = .ok names) :
    TypeTable.Covers (lib.emittedClasses.map (·.name)) (lib.referents names) := by
  intro entry hentry hform
  obtain ⟨d, hd, hreferent⟩ := exists_of_mem_referents ht h hentry hform
  exact ⟨d.name, List.mem_map_of_mem hd, by rw [hreferent]; rfl⟩

variable {e}

/-- What is looked up is described by the declarations that are known by name. -/
theorem exists_of_lookup {lib : Library} {table : TypeTable} {s : String} {t : Descriptor}
    (h : (ofLibrary lib table).lookup s = .ok t) :
    ∃ names, lib.nameIndex = .ok names ∧ t = table.lookup (lib.referents names) s := by
  unfold lookup names at h
  obtain ⟨names, hnames, h⟩ := bind_eq_ok_iff.1 h
  exact ⟨names, eq_ok_of_mapError hnames, TypeTable.eq_lookup_of_search (eq_ok_of_mapError h)⟩

/-- What is looked up and is no opaque handle has something meaningful at its heart. -/
theorem lookup_isFounded {lib : Library} (ht : lib.IsTree) {table : TypeTable}
    (hfounded : table.Founded) {s : String} {t : Descriptor}
    (h : (ofLibrary lib table).lookup s = .ok t) (hk : t.kind ≠ .opaqueHandle) :
    t.foreignType.isFounded (ofLibrary lib table).classNames = true := by
  obtain ⟨names, hnames, rfl⟩ := exists_of_lookup h
  exact TypeTable.describe_isFounded hfounded (covers_referents ht hnames) _ hk

/-! ### What is written -/

variable (e)

theorem parameterTypes_eq (p : Prototype) : e.parameterTypes p =
    (p.parameters.filterMap e.parameterSignature?).mapM fun s =>
      return (← e.lookup s).foreignType := by
  unfold parameterTypes
  induction p.parameters with
  | nil => rfl
  | cons id ids ih =>
    have hid : e.parameterType? id = (e.parameterSignature? id).elim (pure none) fun s =>
        return some (← e.lookup s).foreignType := by
      unfold parameterType? parameterSignature?
      cases e.library.decl? id with
      | none => rfl
      | some d => cases hb : d.body <;> simp [hb]
    rw [List.filterMapM_cons, hid]
    cases hs : e.parameterSignature? id with
    | none =>
      rw [List.filterMap_cons_none hs]
      exact ih
    | some s =>
      rw [List.filterMap_cons_some hs, List.mapM_cons, ← ih]
      simp only [Option.elim_some, bind_assoc, pure_bind]

/-- The type expressions with which a function is bound are those that its prototype has in
words. -/
theorem mem_bindingTypes {d : Decl} {ts : List ForeignType} (h : e.bindingTypes d = .ok ts)
    {t : ForeignType} : t ∈ ts ↔ ∃ p, d.body.prototype? = some p ∧
      ∃ s ∈ e.prototypeSignatures p, ∃ u, e.lookup s = .ok u ∧ u.foreignType = t := by
  unfold bindingTypes at h
  cases hp : d.body.prototype? with
  | none =>
    rw [hp] at h
    cases h
    simp
  | some p =>
    rw [hp] at h
    have hall : (e.prototypeSignatures p).mapM
        (fun s => do return (← e.lookup s).foreignType) = .ok ts := by
      rw [← h]
      unfold prototypeSignatures
      rw [List.mapM_cons, ← parameterTypes_eq]
      simp only [bind_assoc, pure_bind]
    rw [mem_iff_of_mapM_ok hall]
    constructor
    · rintro ⟨s, hs, ht⟩
      obtain ⟨u, hu, heq⟩ := bind_eq_ok_iff.1 ht
      cases heq
      exact ⟨p, rfl, s, hs, u, hu, rfl⟩
    · rintro ⟨q, hq, s, hs, u, hu, rfl⟩
      cases hq
      exact ⟨s, hs, bind_eq_ok_iff.2 ⟨u, hu, rfl⟩⟩

/-- The type expressions in a layout are the names of the bases and the types of the fields. -/
theorem mem_layoutTypes {d : Decl} {ts : List ForeignType} (h : e.layoutTypes d = .ok ts)
    {t : ForeignType} : t ∈ ts ↔
      (∃ bs, e.completeBases d = .ok bs ∧ ∃ b ∈ bs, .named (.text b.name) = t) ∨
        ∃ f ∈ e.fieldsOf d, e.fieldType f = .ok t := by
  unfold layoutTypes at h
  obtain ⟨bs, hbs, h⟩ := bind_eq_ok_iff.1 h
  obtain ⟨fs, hfs, h⟩ := bind_eq_ok_iff.1 h
  cases h
  rw [List.mem_append, mem_iff_of_mapM_ok hfs, List.mem_map, hbs]
  constructor
  · rintro (hbase | hfield)
    · exact .inl ⟨bs, rfl, hbase⟩
    · exact .inr hfield
  · rintro (⟨_, ⟨⟩, hbase⟩ | hfield)
    · exact .inl hbase
    · exact .inr hfield

/-- The type expressions of a module are those of its layouts and of its functions, all of which are
found. -/
theorem mem_typeExpressions {ts : List ForeignType} (h : e.typeExpressions = .ok ts) :
    (∀ ds, e.laidOut = .ok ds → ∀ d ∈ ds, ∃ us, e.layoutTypes d = .ok us ∧ us ⊆ ts) ∧
      (∀ d ∈ e.library.emittedFunctions, ∃ us, e.bindingTypes d = .ok us ∧ us ⊆ ts) ∧
      ∀ t ∈ ts, (∃ ds, e.laidOut = .ok ds ∧ ∃ d ∈ ds, ∃ us, e.layoutTypes d = .ok us ∧ t ∈ us) ∨
        ∃ d ∈ e.library.emittedFunctions, ∃ us, e.bindingTypes d = .ok us ∧ t ∈ us := by
  unfold typeExpressions at h
  obtain ⟨ds, hds, h⟩ := bind_eq_ok_iff.1 h
  obtain ⟨layouts, hlayouts, h⟩ := bind_eq_ok_iff.1 h
  obtain ⟨bindings, hbindings, h⟩ := bind_eq_ok_iff.1 h
  cases h
  refine ⟨?_, ?_, fun t ht => ?_⟩
  · intro ds' hds' d hd
    rw [hds] at hds'
    cases hds'
    obtain ⟨us, hus⟩ := exists_of_mapM_ok hlayouts hd
    have hmem : us ∈ layouts := (mem_iff_of_mapM_ok hlayouts).2 ⟨d, hd, hus⟩
    exact ⟨us, hus, fun t ht => List.mem_append_left _ (List.mem_flatten_of_mem hmem ht)⟩
  · intro d hd
    obtain ⟨us, hus⟩ := exists_of_mapM_ok hbindings hd
    have hmem : us ∈ bindings := (mem_iff_of_mapM_ok hbindings).2 ⟨d, hd, hus⟩
    exact ⟨us, hus, fun t ht => List.mem_append_right _ (List.mem_flatten_of_mem hmem ht)⟩
  · rcases List.mem_append.1 ht with ht | ht
    · obtain ⟨us, hus, ht⟩ := List.mem_flatten.1 ht
      obtain ⟨d, hd, heq⟩ := (mem_iff_of_mapM_ok hlayouts).1 hus
      exact .inl ⟨ds, hds, d, hd, us, heq, ht⟩
    · obtain ⟨us, hus, ht⟩ := List.mem_flatten.1 ht
      obtain ⟨d, hd, heq⟩ := (mem_iff_of_mapM_ok hbindings).1 hus
      exact .inr ⟨d, hd, us, heq, ht⟩

/-- The type of a field is that of its words, unless that is an opaque handle. -/
theorem fieldType_eq_ok_iff {f : FieldMember} {t : ForeignType} : e.fieldType f = .ok t ↔
    ∃ s, e.fieldSignature f = .ok s ∧ ∃ u, e.lookup s = .ok u ∧
      (if u.kind = .opaqueHandle then .basic "c_void_p" else u.foreignType) = t := by
  unfold fieldType
  constructor
  · intro h
    obtain ⟨s, hs, h⟩ := bind_eq_ok_iff.1 h
    obtain ⟨u, hu, h⟩ := bind_eq_ok_iff.1 h
    cases h
    exact ⟨s, hs, u, hu, rfl⟩
  · rintro ⟨s, hs, u, hu, rfl⟩
    exact bind_eq_ok_iff.2 ⟨s, hs, bind_eq_ok_iff.2 ⟨u, hu, rfl⟩⟩

/-! ### What is written means something -/

section

variable {lib : Library} (ht : lib.IsTree) {table : TypeTable} (hfounded : table.Founded)
include ht hfounded

theorem lookup_isResolved_iff {s : String} {t : Descriptor}
    (h : (ofLibrary lib table).lookup s = .ok t) :
    t.foreignType.isResolved (ofLibrary lib table).classNames = true ↔
      (t.kind = .opaqueHandle →
        t.foreignType.isFounded (ofLibrary lib table).classNames = true) ∧
      t.foreignType.sizes.all (isMeaningful (ofLibrary lib table).classNames) = true := by
  unfold ForeignType.isResolved
  rw [Bool.and_eq_true]
  refine and_congr_left fun _ => ⟨fun hheart _ => hheart, fun hheart => ?_⟩
  by_cases hk : t.kind = .opaqueHandle
  · exact hheart hk
  · exact lookup_isFounded ht hfounded h hk

theorem member_isResolved_iff {s : String} {u : Descriptor}
    (h : (ofLibrary lib table).lookup s = .ok u) :
    (if u.kind = .opaqueHandle then .basic "c_void_p" else u.foreignType : ForeignType).isResolved
        (ofLibrary lib table).classNames = true ↔
      (u.kind ≠ .opaqueHandle →
        u.foreignType.sizes.all (isMeaningful (ofLibrary lib table).classNames) = true) := by
  split_ifs with hk
  · exact ⟨fun _ hne => absurd hk hne, fun _ => rfl⟩
  · rw [lookup_isResolved_iff ht hfounded h]
    exact ⟨fun hboth _ => hboth.2, fun hsizes => ⟨fun hhandle => absurd hhandle hk, hsizes hk⟩⟩

end

theorem base_isResolved (classes : List String) (name : String) :
    (ForeignType.named (.text name)).isResolved classes = isMeaningful classes name :=
  Bool.and_true _

/-- Of a tree, everything in the type expressions of a module means something exactly where handles
in prototypes, sizes of arrays and bases do. -/
theorem all_isResolved_iff {lib : Library} (ht : lib.IsTree) {table : TypeTable}
    (hfounded : table.Founded) {ts : List ForeignType}
    (h : (ofLibrary lib table).typeExpressions = .ok ts) :
    (∀ t ∈ ts, t.isResolved (ofLibrary lib table).classNames = true) ↔
      (ofLibrary lib table).Resolvable := by
  obtain ⟨hlayouts, hbindings, hcases⟩ := mem_typeExpressions _ h
  constructor
  · intro hall
    refine ⟨?_, ?_, ?_⟩
    · intro d hd p hp s hs t hlookup
      obtain ⟨us, hus, hsub⟩ := hbindings d hd
      refine (lookup_isResolved_iff ht hfounded hlookup).1 (hall _ (hsub ?_))
      exact (mem_bindingTypes _ hus).2 ⟨p, hp, s, hs, t, hlookup, rfl⟩
    · intro ds hds d hd f hf s hs t hlookup
      obtain ⟨us, hus, hsub⟩ := hlayouts ds hds d hd
      refine (member_isResolved_iff ht hfounded hlookup).1 (hall _ (hsub ?_))
      exact (mem_layoutTypes _ hus).2
        (.inr ⟨f, hf, (fieldType_eq_ok_iff _).2 ⟨s, hs, t, hlookup, rfl⟩⟩)
    · intro ds hds d hd bs hbs b hb
      obtain ⟨us, hus, hsub⟩ := hlayouts ds hds d hd
      rw [← base_isResolved]
      exact hall _ (hsub ((mem_layoutTypes _ hus).2 (.inl ⟨bs, hbs, b, hb, rfl⟩)))
  · rintro ⟨hprototypes, hfields, hbases⟩ t htype
    rcases hcases t htype with ⟨ds, hds, d, hd, us, hus, htus⟩ | ⟨d, hd, us, hus, htus⟩
    · rcases (mem_layoutTypes _ hus).1 htus with ⟨bs, hbs, b, hb, rfl⟩ | ⟨f, hf, hft⟩
      · rw [base_isResolved]
        exact hbases ds hds d hd bs hbs b hb
      · obtain ⟨s, hs, u, hlookup, rfl⟩ := (fieldType_eq_ok_iff _).1 hft
        exact (member_isResolved_iff ht hfounded hlookup).2
          (hfields ds hds d hd f hf s hs u hlookup)
    · obtain ⟨p, hp, s, hs, u, hlookup, rfl⟩ := (mem_bindingTypes _ hus).1 htus
      exact (lookup_isResolved_iff ht hfounded hlookup).2
        (hprototypes d hd p hp s hs u hlookup)

/-! ### Modules of headers -/

/-- A module of a library that headers were read into defines its classes above everything that
mentions a type, and each type expression stands in a line below. Everything in them means something
exactly where handles in prototypes, sizes of arrays and bases do. -/
theorem types_resolved_iff {lib : Library} (h : lib.FromHeaders) :
    ∃ out : Library, (Schedule.builtin.run (.typed lib)).1 = none ∧
      (Schedule.builtin.run (.typed lib)).2.1 = .typed out ∧
      ∀ o text, (ofLibrary out .standard).moduleText o = .ok text →
        ∃ (c : Code) (above below : List String) (types : List ForeignType),
          text = c.output ∧ c.lines = above ++ below ∧
          (∀ d ∈ out.emittedClasses, classHeader d ∈ above) ∧
          (ofLibrary out .standard).typeExpressions = .ok types ∧
          (∀ t ∈ types, ∃ line ∈ below, t.text.toList <:+: line.toList) ∧
          ((∀ t ∈ types, t.isResolved (ofLibrary out .standard).classNames = true) ↔
            (ofLibrary out .standard).Resolvable) := by
  obtain ⟨out, ⟨hrun, hout⟩, hsound, -⟩ := Schedule.run_builtin_sound h.grown.loaded
  refine ⟨out, hrun, hout, fun o text htext => ?_⟩
  unfold moduleText at htext
  obtain ⟨⟨_, c⟩, hwrite, htext⟩ := bind_eq_ok_iff.1 htext
  cases htext
  obtain ⟨mid, hon, hclasses, types, htypes, hshown⟩ :=
    exists_of_writeModule (ofLibrary out .standard) o hwrite rfl
  have hiff := all_isResolved_iff hsound.isTree TypeTable.founded_standard htypes
  exact ⟨c, mid.lines, Code.added mid c, types, rfl, hon.append_added.symm, hclasses, htypes,
    hshown, hiff⟩

/-- The tree of a header that declares one function with one parameter. The type of the parameter is
a word of six letters. -/
def soleParameterTree (kind : String) : SyntaxNode :=
  let node (kind : String) (start stop : Nat) (field : Option String)
      (children : List SyntaxNode) : SyntaxNode :=
    ⟨kind, start, stop, true, false, field, children⟩
  node "translation_unit" 0 18 none
    [node "declaration" 0 17 none
      [node "primitive_type" 0 4 (some "type") [],
        node "function_declarator" 5 16 (some "declarator")
          [node "identifier" 5 6 (some "declarator") [],
            node "parameter_list" 6 16 (some "parameters")
              [node "parameter_declaration" 7 15 none
                [node kind 7 13 (some "type") [],
                  node "identifier" 14 15 (some "declarator") []]]]]]

/-- What is read of a header that declares one function with one parameter of a type. -/
def soleParameter (kind type : String) : HeaderOutcome × Library :=
  (Library.empty .null .null).parseHeader
    ⟨⟨.absolute, []⟩, [], [(["a.h"], ("void f(" ++ type ++ " w);\n").toUTF8.toList)]⟩
    (fun _ => soleParameterTree kind) ⟨[], []⟩ (.text "a.h")

theorem fromHeaders_soleParameter {kind type : String}
    (h : (soleParameter kind type).1.isParsed = true) :
    (soleParameter kind type).2.FromHeaders :=
  Library.FromHeaders.parsed (.empty .null .null) h

/-- Where a parameter is of a type that no header declares, the module mentions that type without
defining it. -/
theorem parameter_unresolved :
    let lib := (soleParameter "type_identifier" "Widget").2
    lib.FromHeaders ∧ ∃ out : Library, (Schedule.builtin.run (.typed lib)).1 = none ∧
      (Schedule.builtin.run (.typed lib)).2.1 = .typed out ∧
      ∃ c : Code, (ofLibrary out .standard).moduleText .default = .ok c.output ∧
        "f = _bind(" ++ Text.quoted "f" ++ ", None, [Widget])" ∈ c.lines ∧
        ∃ types, (ofLibrary out .standard).typeExpressions = .ok types ∧
          ∃ t ∈ types, t.text = "Widget" ∧
            t.isResolved (ofLibrary out .standard).classNames = false := by
  have hparsed : (soleParameter "type_identifier" "Widget").1.isParsed = true := by
    decide +kernel
  have hheaders := fromHeaders_soleParameter hparsed
  refine ⟨hheaders, ?_⟩
  obtain ⟨out, ⟨hrun, hout⟩, -⟩ := Schedule.run_builtin_sound hheaders.grown.loaded
  refine ⟨out, hrun, hout, ?_⟩
  have hseen : Graph.isTyped (fun out =>
      (((ofLibrary out .standard).writeModule .default).run (.empty "    ")).toOption.any (fun p =>
        p.2.lines.contains ("f = _bind(" ++ Text.quoted "f" ++ ", None, [Widget])")) &&
      (ofLibrary out .standard).typeExpressions.toOption.any fun types => types.any fun t =>
        t.text == "Widget" && !t.isResolved (ofLibrary out .standard).classNames)
      (Schedule.builtin.run (.typed (soleParameter "type_identifier" "Widget").2)).2.1 = true := by
    decide +kernel
  rw [hout] at hseen
  obtain ⟨htext, htypes⟩ := Bool.and_eq_true_iff.1 hseen
  obtain ⟨⟨_, c⟩, hmodule, hline⟩ := exists_of_any htext
  obtain ⟨types, hfound, hsome⟩ := exists_of_any htypes
  obtain ⟨t, ht, hboth⟩ := List.any_eq_true.1 hsome
  obtain ⟨hname, hstray⟩ := Bool.and_eq_true_iff.1 hboth
  rw [Bool.not_eq_true'] at hstray
  exact ⟨c, bind_eq_ok_iff.2 ⟨_, hmodule, rfl⟩, List.contains_iff_mem.1 hline, types, hfound, t,
    ht, beq_iff_eq.1 hname, hstray⟩

/-- A parameter of a type of the table leaves nothing to be defined. -/
theorem types_resolved_iff_double : ∃ out : Library,
    (Schedule.builtin.run (.typed (soleParameter "primitive_type" "double").2)).2.1 = .typed out ∧
      ∃ text, (ofLibrary out .standard).moduleText .default = .ok text ∧
        (ofLibrary out .standard).Resolvable := by
  have hparsed : (soleParameter "primitive_type" "double").1.isParsed = true := by
    decide +kernel
  obtain ⟨out, -, hout, hall⟩ := types_resolved_iff (fromHeaders_soleParameter hparsed)
  have hseen : Graph.isTyped (fun out =>
      ((ofLibrary out .standard).moduleText .default).isOk &&
      (ofLibrary out .standard).typeExpressions.toOption.any fun types => types.all fun t =>
        t.isResolved (ofLibrary out .standard).classNames)
      (Schedule.builtin.run (.typed (soleParameter "primitive_type" "double").2)).2.1 = true := by
    decide +kernel
  rw [hout] at hseen
  obtain ⟨htext, htypes⟩ := Bool.and_eq_true_iff.1 hseen
  obtain ⟨text, hmodule⟩ := exists_of_isOk htext
  obtain ⟨types, hfound, hresolved⟩ := exists_of_any htypes
  obtain ⟨_, _, _, _, -, -, -, htypes, -, hiff⟩ := hall .default text hmodule
  rw [hfound] at htypes
  cases htypes
  exact ⟨out, hout, text, hmodule, hiff.1 (List.all_eq_true.1 hresolved)⟩

end Emission

end Bindery
