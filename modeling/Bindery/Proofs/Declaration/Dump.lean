import Bindery.Declaration.Dump
import Bindery.Proofs.Declaration.Lists
import Bindery.Proofs.Declaration.Parents
import Bindery.Proofs.Declaration.Walk
import Bindery.Value.Compare

/-!
# What a dump keeps

The dump of a tree has an object for each declaration that the walk meets, and no other one: it is
nested in the object of the declaration that holds it, under the list of its form and at its place
there. Dumps list the attributes of a declaration in an order of their own, so the objects are read
by the names of lists, in the order in which a walk goes through them. Two trees whose dumps are
alike, which leaves open how numbers are written and in which order attributes stand, have the same
walk.
-/

namespace Bindery

namespace Value

/-! ### Declarations in a dump -/

/-- The lists under which declarations are nested, in the order of a walk. -/
def declarationLists : List String :=
  ["namespaces", "classes", "enums", "functions", "fields", "methods", "parameters", "items"]

mutual

/-- The dump of a declaration and the dumps nested in it. -/
def declarations : Value → List Value
  | object fields =>
    object fields :: declarationLists.flatMap fun list => declarationsUnder list fields
  | _ => []

/-- The dumps that are nested under a list of a declaration. -/
def declarationsUnder (list : String) : List (String × Value) → List Value
  | [] => []
  | (name, v) :: rest =>
    if name == list then declarationsIn v else declarationsUnder list rest

/-- The dumps in a list of declarations. -/
def declarationsIn : Value → List Value
  | list items => declarationsAmong items
  | _ => []

/-- The dumps of some declarations and those nested in them. -/
def declarationsAmong : List Value → List Value
  | [] => []
  | v :: vs => declarations v ++ declarationsAmong vs

end

theorem declarationsAmong_eq (vs : List Value) :
    declarationsAmong vs = vs.flatMap declarations := by
  induction vs with
  | nil => rfl
  | cons v vs ih => rw [declarationsAmong, ih, List.flatMap_cons]

theorem declarationsUnder_eq (list : String) (fields : Fields) :
    declarationsUnder list fields = ((fields.get? list).map declarationsIn).getD [] := by
  induction fields with
  | nil => rfl
  | cons f rest ih =>
    obtain ⟨name, v⟩ := f
    unfold declarationsUnder Fields.get?
    split
    · rfl
    · exact ih

end Value

/-! ### Values that are alike -/

namespace Value

/-- Two values are one, or count as the same. -/
def Alike (v w : Value) : Prop :=
  v = w ∨ v.same w = true

variable {v w : Value}

theorem Alike.text {s t : String} (h : Alike (text s) (text t)) : s = t := by
  rcases h with h | h
  · exact text.inj h
  · simpa [same] using h

theorem Alike.int {m n : Int} (h : Alike (int m) (int n)) : m = n := by
  rcases h with h | h
  · exact int.inj h
  · have hscaled : Quantity.ofInt m = Quantity.ofInt n := of_decide_eq_true h
    exact Int.eq_of_mul_eq_mul_right (by decide +kernel) (Quantity.finite.inj hscaled)

/-- Lists that are alike have items that are, one by one. -/
theorem Alike.list {vs ws : List Value} (h : Alike (list vs) (list ws)) :
    List.Forall₂ Alike vs ws := by
  rcases h with h | h
  · cases h
    exact List.forall₂_same.2 fun v _ => .inl rfl
  · have hitems : sameItems vs ws = true := h
    clear h
    induction vs generalizing ws with
    | nil =>
      cases ws with
      | nil => exact .nil
      | cons w ws => cases hitems
    | cons v vs ih =>
      cases ws with
      | nil => cases hitems
      | cons w ws =>
        obtain ⟨hfirst, hrest⟩ := Bool.and_eq_true_iff.1 hitems
        exact .cons (.inr hfirst) (ih hrest)

theorem of_sameFields {fields others : Fields} (h : sameFields fields others = true) {name : String}
    (hv : fields.get? name = some v) : ∃ w, others.get? name = some w ∧ Alike v w := by
  induction fields with
  | nil => cases hv
  | cons f rest ih =>
    obtain ⟨n, u⟩ := f
    obtain ⟨hfirst, hrest⟩ := Bool.and_eq_true_iff.1 h
    unfold Fields.get? at hv
    split at hv
    · next hname =>
      cases hv
      rw [← beq_iff_eq.1 hname]
      cases hw : others.get? n with
      | none =>
        rw [hw] at hfirst
        cases hfirst
      | some w =>
        rw [hw] at hfirst
        exact ⟨w, rfl, .inr hfirst⟩
    · exact ih hrest hv

/-- Of two objects that are alike, one of them naming each field once, the one has the fields of the
other, and fields of one name are alike. -/
theorem Alike.object {fields others : Fields} (h : Alike (object fields) (object others))
    (hnodup : fields.names.Nodup) (name : String) :
    (∃ v w, fields.get? name = some v ∧ others.get? name = some w ∧ Alike v w) ∨
      fields.get? name = none ∧ others.get? name = none := by
  rcases h with h | h
  · cases h
    cases hv : fields.get? name with
    | none => exact .inr ⟨rfl, rfl⟩
    | some v => exact .inl ⟨v, v, rfl, rfl, .inl rfl⟩
  · obtain ⟨hlength, hsame⟩ := Bool.and_eq_true_iff.1 h
    cases hv : fields.get? name with
    | some v =>
      obtain ⟨w, hw, halike⟩ := of_sameFields hsame hv
      exact .inl ⟨v, w, rfl, hw, halike⟩
    | none =>
      -- As many names, and all of the one among those of the other, are the same names.
      have hsubset : fields.names ⊆ others.names := by
        intro n hn
        obtain ⟨v, hv⟩ := Fields.mem_names_iff.1 hn
        obtain ⟨w, hw, -⟩ := of_sameFields hsame hv
        exact Fields.mem_names_iff.2 ⟨w, hw⟩
      have hperm : fields.names.Perm others.names := by
        refine (List.subperm_of_subset hnodup hsubset).perm_of_length_le ?_
        unfold Fields.names
        rw [List.length_map, List.length_map, beq_iff_eq.1 hlength]
      refine .inr ⟨rfl, Option.eq_none_iff_forall_ne_some.2 fun w hw => ?_⟩
      obtain ⟨v, hv'⟩ := Fields.mem_names_iff.1
        (hperm.mem_iff.2 (Fields.mem_names_iff.2 ⟨w, hw⟩))
      rw [hv] at hv'
      cases hv'

end Value

/-! ### Fields of a dump -/

theorem get?_optionalField (name other : String) (v : Option Value) :
    Fields.get? (optionalField name v) other = if name == other then v else none := by
  cases v <;> simp [optionalField, Fields.get?]

theorem Body.children_eq_flatMap_declarationLists (b : Body) :
    b.children = Value.declarationLists.flatMap b.listOf := by
  cases b <;> simp [children, Value.declarationLists, listOf]

namespace Decl

variable (d : Decl) (nest : List Nat → Value)

theorem get?_commonFields_list {list : String} (hlist : list ∈ Value.declarationLists) :
    Fields.get? d.commonFields list = none := by
  simp only [Value.declarationLists, List.mem_cons, List.not_mem_nil, or_false] at hlist
  rcases hlist with rfl | rfl | rfl | rfl | rfl | rfl | rfl | rfl <;>
    simp [commonFields, Fields.get?_append, get?_optionalField, Fields.get?]

theorem get?_bodyFields_list {list : String} (hlist : list ∈ Value.declarationLists) :
    Fields.get? (d.bodyFields nest) list =
      if list ∈ d.body.form.lists then some (nest (d.body.listOf list)) else none := by
  simp only [Value.declarationLists, List.mem_cons, List.not_mem_nil, or_false] at hlist
  unfold bodyFields
  cases d.body <;> rcases hlist with rfl | rfl | rfl | rfl | rfl | rfl | rfl | rfl <;>
    simp [scopeFields, recordFields, prototypeFields, traitFields, Fields.get?_append,
      get?_optionalField, Fields.get?, Body.form, Form.lists, Body.listOf]

/-- Of the lists of declarations, a dump has those of its form. -/
theorem get?_dump_list {list : String} (hlist : list ∈ Value.declarationLists) :
    Fields.get? (d.commonFields ++ d.bodyFields nest) list =
      if list ∈ d.body.form.lists then some (nest (d.body.listOf list)) else none := by
  rw [Fields.get?_append, d.get?_commonFields_list hlist, Option.none_or,
    d.get?_bodyFields_list nest hlist]

/-- What is nested in a dump is settled by what its lists hold. -/
theorem bodyFields_congr {nest nest' : List Nat → Value} (h : ∀ list ∈ Value.declarationLists,
    nest (d.body.listOf list) = nest' (d.body.listOf list)) :
    d.bodyFields nest = d.bodyFields nest' := by
  unfold bodyFields
  generalize d.body = b at h ⊢
  have hscope (s : Scope) (hspaces : nest s.namespaces = nest' s.namespaces)
      (hclasses : nest s.classes = nest' s.classes) (henums : nest s.enums = nest' s.enums)
      (hfunctions : nest s.functions = nest' s.functions) :
      scopeFields nest s = scopeFields nest' s := by
    unfold scopeFields
    rw [hspaces, hclasses, henums, hfunctions]
  have hprototype (p : Prototype) (hparameters : nest p.parameters = nest' p.parameters) :
      prototypeFields nest p = prototypeFields nest' p := by
    unfold prototypeFields
    rw [hparameters]
  cases b with
  | unit s file =>
    exact congrArg (· ++ _) (hscope s (h "namespaces" (by decide)) (h "classes" (by decide))
      (h "enums" (by decide)) (h "functions" (by decide)))
  | space s =>
    exact hscope s (h "namespaces" (by decide)) (h "classes" (by decide)) (h "enums" (by decide))
      (h "functions" (by decide))
  | record r =>
    have hfields : nest r.fields = nest' r.fields := h "fields" (by decide)
    have hmethods : nest r.methods = nest' r.methods := h "methods" (by decide)
    have hclasses : nest r.classes = nest' r.classes := h "classes" (by decide)
    have henums : nest r.enums = nest' r.enums := h "enums" (by decide)
    dsimp only [recordFields]
    rw [hfields, hmethods, hclasses, henums]
  | method p t => exact congrArg (· ++ _) (hprototype p (h "parameters" (by decide)))
  | function p => exact hprototype p (h "parameters" (by decide))
  | enumeration items underlying isScoped =>
    have hitems : nest items = nest' items := h "items" (by decide)
    dsimp only
    rw [hitems]
  | _ => rfl

theorem names_optionalField (name : String) (v : Option Value) :
    (optionalField name v).names.Sublist [name] := by
  cases v <;> simp [optionalField, Fields.names]

/-- A dump has attributes of its form only, each once. -/
theorem names_nodup : (d.commonFields ++ d.bodyFields nest).names.Nodup := by
  have hcommon : d.commonFields.names.Sublist Form.commonAttributes := by
    unfold commonFields
    simp only [Fields.names_append]
    exact (((((List.Sublist.refl _).append (names_optionalField _ _)).append
      (names_optionalField _ _)).append (List.Sublist.refl _)).append
        (names_optionalField _ _)).append (List.Sublist.refl _)
  have hbody : (d.bodyFields nest).names.Sublist d.body.form.ownAttributes := by
    unfold bodyFields
    cases d.body with
    | record r =>
      dsimp only [recordFields]
      rw [Fields.names_append]
      exact (List.Sublist.refl _).append (names_optionalField _ _)
    | enumItem value initializer =>
      dsimp only
      rw [Fields.names_append]
      exact (names_optionalField _ _).append (List.Sublist.refl _)
    | _ => exact List.Sublist.refl _
  have hform : ∀ f : Form, f.attributes.Nodup := by
    intro f
    cases f <;> decide
  rw [Fields.names_append]
  exact (hform d.body.form).sublist (hcommon.append hbody)

/-- What a walk tells of a declaration: its number, its kind, its name, the declaration it was
created in and its place in the order. -/
def tag (d : Decl) : Nat × Kind × String × Option Nat × Int :=
  (d.id, d.kind, d.name, d.parent, d.order)

/-- A dump tells the number, the name, the kind and the place in the order of a declaration. -/
theorem get?_tag : Fields.get? (d.commonFields ++ d.bodyFields nest) "id" = some (.int d.id) ∧
    Fields.get? (d.commonFields ++ d.bodyFields nest) "name" = some (.text d.name) ∧
    Fields.get? (d.commonFields ++ d.bodyFields nest) "kind" = some (.text d.kind.word) ∧
    Fields.get? (d.commonFields ++ d.bodyFields nest) "definition_order" = some (.int d.order) :=
  ⟨rfl, rfl, rfl, rfl⟩

/-- A dump tells the declaration that a declaration was created in, if there is one. -/
theorem get?_parent : Fields.get? (d.commonFields ++ d.bodyFields nest) "parent_id" =
    d.parent.map fun p => .int p := by
  have hbody : Fields.get? (d.bodyFields nest) "parent_id" = none := by
    unfold bodyFields
    cases d.body <;>
      simp [scopeFields, recordFields, prototypeFields, traitFields, Fields.get?_append,
        get?_optionalField, Fields.get?]
  rw [Fields.get?_append, hbody, Option.or_none]
  unfold commonFields
  cases d.parent <;> simp [Fields.get?_append, get?_optionalField, Fields.get?]

end Decl

namespace Library

variable {lib : Library}

/-! ### Dumps of trees -/

theorem dumpFrom_succ {a : Nat} {d : Decl} (ha : lib.decl? a = some d) (n : Nat) :
    lib.dumpFrom (n + 1) a = .object (d.commonFields ++
      d.bodyFields fun ids => .list (ids.map (lib.dumpFrom n))) := by
  rw [dumpFrom, ha]

theorem walkFrom_succ {a : Nat} {d : Decl} (ha : lib.decl? a = some d) (n : Nat) :
    lib.walkFrom (n + 1) a = d :: Value.declarationLists.flatMap fun list =>
      (d.body.listOf list).flatMap (lib.walkFrom n) := by
  rw [walkFrom, ha]
  dsimp only
  rw [Body.children_eq_flatMap_declarationLists, List.flatMap_assoc]

/-- What stands on a list of a declaration is listed by it. -/
theorem lists_of_mem_listOf {a c : Nat} {d : Decl} {list : String} (ha : lib.decl? a = some d)
    (hc : c ∈ d.body.listOf list) : lib.Lists a c :=
  ⟨d, ha, Body.mem_children_iff.2 ⟨list, Body.mem_lists_of_mem_listOf hc, hc⟩⟩

/-- Once there are levels enough for what lies below a declaration, further ones add nothing to its
dump. -/
theorem dumpFrom_of_shallow {n m a : Nat} (hn : lib.Shallow n a) (hm : lib.Shallow m a) :
    lib.dumpFrom n a = lib.dumpFrom m a := by
  induction n generalizing m a with
  | zero => exact absurd (hn 0 a .self) (by omega)
  | succ n ih =>
    cases m with
    | zero => exact absurd (hm 0 a .self) (by omega)
    | succ m =>
      cases ha : lib.decl? a with
      | none => unfold dumpFrom; rw [ha]
      | some d =>
        have hlists : ∀ list ∈ Value.declarationLists, ∀ c ∈ d.body.listOf list,
            lib.dumpFrom n c = lib.dumpFrom m c := by
          intro list _ c hc
          have hl := lists_of_mem_listOf ha hc
          exact ih (hn.lists hl) (hm.lists hl)
        have hbody : d.bodyFields (fun ids => .list (ids.map (lib.dumpFrom n))) =
            d.bodyFields (fun ids => .list (ids.map (lib.dumpFrom m))) :=
          d.bodyFields_congr fun list hlist =>
            congrArg Value.list (List.map_congr_left (hlists list hlist))
        rw [dumpFrom_succ ha, dumpFrom_succ ha, hbody]

/-- The dumps in the dump of a declaration are those of the declarations that a walk from it
meets, in their order. -/
theorem IsTree.declarations_dumpFrom (h : lib.IsTree) {n a : Nat} (ha : lib.Attached a)
    (hn : lib.Shallow n a) : (lib.dumpFrom n a).declarations =
      (lib.walkFrom n a).map fun d => lib.dumpDecl d.id := by
  induction n generalizing a with
  | zero => exact absurd (hn 0 a .self) (by omega)
  | succ n ih =>
    obtain ⟨d, hd, hid⟩ := h.decl_of_attached ha
    have hself : lib.dumpFrom (n + 1) a = lib.dumpDecl d.id := by
      rw [hid]
      exact dumpFrom_of_shallow hn (h.shallow_created ha)
    rw [walkFrom_succ hd, List.map_cons, ← hself, dumpFrom_succ hd, Value.declarations,
      List.map_flatMap]
    refine congrArg _ (List.flatMap_congr fun list hlist => ?_)
    have hbelow : ((d.body.listOf list).map (lib.dumpFrom n)).flatMap Value.declarations =
        ((d.body.listOf list).flatMap (lib.walkFrom n)).map fun d => lib.dumpDecl d.id := by
      rw [List.flatMap_map, List.map_flatMap]
      refine List.flatMap_congr fun c hc => ?_
      have hl := lists_of_mem_listOf hd hc
      exact ih (ha.lists hl) (hn.lists hl)
    rw [Value.declarationsUnder_eq, d.get?_dump_list _ hlist, ← hbelow]
    by_cases hform : list ∈ d.body.form.lists
    · rw [if_pos hform, Option.map_some, Option.getD_some, Value.declarationsIn,
        Value.declarationsAmong_eq]
    · rw [if_neg hform, Body.listOf_eq_nil hform]
      rfl

theorem kind_word_injective : Function.Injective Kind.word := by
  intro k l h
  revert h
  cases k <;> cases l <;> decide

section

variable {d e : Decl} {dump dump' : Nat → Value} (h : Value.Alike
  (.object (d.commonFields ++ d.bodyFields fun ids => .list (ids.map dump)))
  (.object (e.commonFields ++ e.bodyFields fun ids => .list (ids.map dump'))))
include h

/-- Declarations whose dumps are alike have the same tag. -/
theorem tag_of_alike : d.tag = e.tag := by
  have hfield := h.object (d.names_nodup _)
  have hboth {name : String} {v w : Value}
      (hv : Fields.get? (d.commonFields ++ d.bodyFields fun ids => .list (ids.map dump)) name =
        some v)
      (hw : Fields.get? (e.commonFields ++ e.bodyFields fun ids => .list (ids.map dump')) name =
        some w) : Value.Alike v w := by
    rcases hfield name with ⟨v', w', hv', hw', halike⟩ | ⟨hnone, -⟩
    · rw [hv] at hv'
      rw [hw] at hw'
      cases hv'
      cases hw'
      exact halike
    · rw [hv] at hnone
      cases hnone
  obtain ⟨hid, hname, hkind, horder⟩ := d.get?_tag fun ids => .list (ids.map dump)
  obtain ⟨hid', hname', hkind', horder'⟩ := e.get?_tag fun ids => .list (ids.map dump')
  have hparent : d.parent = e.parent := by
    have hlink := hfield "parent_id"
    rw [d.get?_parent, e.get?_parent] at hlink
    cases hd : d.parent with
    | none =>
      rw [hd] at hlink
      rcases hlink with ⟨v, w, hv, -⟩ | ⟨-, hw⟩
      · cases hv
      · exact (Option.map_eq_none_iff.1 hw).symm
    | some p =>
      rw [hd] at hlink
      rcases hlink with ⟨v, w, hv, hw, halike⟩ | ⟨hv, -⟩
      · cases hv
        obtain ⟨q, hq, rfl⟩ := Option.map_eq_some_iff.1 hw
        rw [hq, Int.ofNat.inj halike.int]
      · cases hv
  unfold Decl.tag
  rw [Int.ofNat.inj (hboth hid hid').int, (hboth hname hname').text,
    kind_word_injective (hboth hkind hkind').text, (hboth horder horder').int, hparent]

/-- Declarations whose dumps are alike have lists of the same names, of declarations whose dumps are
alike. -/
theorem forall₂_listOf_of_alike {list : String} (hlist : list ∈ Value.declarationLists) :
    List.Forall₂ (fun c c' => Value.Alike (dump c) (dump' c')) (d.body.listOf list)
      (e.body.listOf list) := by
  have hfield := h.object (d.names_nodup _) list
  rw [d.get?_dump_list _ hlist, e.get?_dump_list _ hlist] at hfield
  by_cases hd : list ∈ d.body.form.lists <;> by_cases he : list ∈ e.body.form.lists
  · rw [if_pos hd, if_pos he] at hfield
    rcases hfield with ⟨v, w, hv, hw, halike⟩ | ⟨hnone, -⟩
    · cases hv
      cases hw
      exact (List.forall₂_map_left_iff.1 (List.forall₂_map_right_iff.1 halike.list))
    · cases hnone
  · rw [if_pos hd, if_neg he] at hfield
    rcases hfield with ⟨v, w, -, hw, -⟩ | ⟨hv, -⟩
    · cases hw
    · cases hv
  · rw [if_neg hd, if_pos he] at hfield
    rcases hfield with ⟨v, w, hv, -⟩ | ⟨-, hw⟩
    · cases hv
    · cases hw
  · rw [Body.listOf_eq_nil hd, Body.listOf_eq_nil he]
    exact .nil

end

theorem flatMap_eq_of_forall₂ {α β γ : Type} {R : α → β → Prop} {f : α → List γ} {g : β → List γ}
    {as : List α} {bs : List β} (h : List.Forall₂ R as bs)
    (hfg : ∀ a ∈ as, ∀ b ∈ bs, R a b → f a = g b) : as.flatMap f = bs.flatMap g := by
  induction h with
  | nil => rfl
  | cons hfirst hrest ih =>
    rw [List.flatMap_cons, List.flatMap_cons,
      hfg _ (List.mem_cons_self ..) _ (List.mem_cons_self ..) hfirst,
      ih fun a ha b hb => hfg a (List.mem_cons_of_mem _ ha) b (List.mem_cons_of_mem _ hb)]

/-- Where dumps from two declarations are alike, so is what the walks from them meet. -/
theorem IsTree.walkFrom_of_alike {lib' : Library} (h : lib.IsTree) (h' : lib'.IsTree)
    {n m a b : Nat} (ha : lib.Attached a) (hb : lib'.Attached b) (hn : lib.Shallow n a)
    (hm : lib'.Shallow m b) (halike : Value.Alike (lib.dumpFrom n a) (lib'.dumpFrom m b)) :
    (lib.walkFrom n a).map Decl.tag = (lib'.walkFrom m b).map Decl.tag := by
  induction n generalizing m a b with
  | zero => exact absurd (hn 0 a .self) (by omega)
  | succ n ih =>
    cases m with
    | zero => exact absurd (hm 0 b .self) (by omega)
    | succ m =>
      obtain ⟨d, hd, -⟩ := h.decl_of_attached ha
      obtain ⟨e, he, -⟩ := h'.decl_of_attached hb
      rw [dumpFrom_succ hd, dumpFrom_succ he] at halike
      rw [walkFrom_succ hd, walkFrom_succ he, List.map_cons, List.map_cons, tag_of_alike halike,
        List.map_flatMap, List.map_flatMap]
      refine congrArg _ (List.flatMap_congr fun list hlist => ?_)
      rw [List.map_flatMap, List.map_flatMap]
      refine flatMap_eq_of_forall₂ (forall₂_listOf_of_alike halike hlist) fun c hc c' hc' hcc' => ?_
      have hl := lists_of_mem_listOf hd hc
      have hl' := lists_of_mem_listOf he hc'
      exact ih (ha.lists hl) (hb.lists hl') (hn.lists hl) (hm.lists hl') hcc'

theorem field?_units : lib.dump.field? "translation_units" =
    some (.list (lib.units.map lib.dumpDecl)) :=
  rfl

/-- What a walk meets is a unit, or is listed by something the walk meets. -/
theorem IsTree.exists_owner_of_mem_walk (h : lib.IsTree) {e : Decl} (he : e ∈ lib.walk) :
    e.id ∈ lib.units ∨ ∃ d ∈ lib.walk, ∃ list, d.body.form.listFor? e.body.form = some list ∧
      e.id ∈ d.body.listOf list ∧ (lib.ScopesAgree → e.parent = some d.id) := by
  obtain ⟨⟨u, hu, level, hb⟩, he'⟩ := h.decl?_of_mem_walk he
  cases hb with
  | self => exact .inl hu
  | @step level p _ hb hl =>
    have hp : lib.Attached p := ⟨u, hu, level, hb⟩
    obtain ⟨d, hd, hmem⟩ := id hl
    have hid := h.id_of_decl? hp hd
    obtain ⟨list, -, hlist⟩ := Body.mem_children_iff.1 hmem
    exact .inr ⟨d, h.mem_walk.2 ⟨p, hp, hd⟩, list, h.forms p d list e.id e hp hd hlist he', hlist,
      fun hscopes => hid.symm ▸ hscopes.listed_parent p e.id e hp hl he'⟩

/-- The dump of a declaration has the dumps of those on its lists. -/
theorem IsTree.dumpDecl_eq (h : lib.IsTree) {d : Decl} (hd : d ∈ lib.walk) : lib.dumpDecl d.id =
    .object (d.commonFields ++ d.bodyFields fun ids => .list (ids.map lib.dumpDecl)) := by
  obtain ⟨ha, hd⟩ := h.decl?_of_mem_walk hd
  have hshallow := h.shallow_created ha
  have hmore : lib.Shallow (lib.created + 1) d.id := fun k x hb =>
    Nat.lt_succ_of_lt (hshallow k x hb)
  exact (dumpFrom_of_shallow hshallow hmore).trans (dumpFrom_succ hd lib.created)

theorem IsTree.declarationsIn_dump (h : lib.IsTree) :
    (lib.dump.field "translation_units").declarationsIn =
      lib.walk.map fun d => lib.dumpDecl d.id := by
  show Value.declarationsAmong (lib.units.map lib.dumpDecl) = _
  rw [Value.declarationsAmong_eq, List.flatMap_map, walk, List.map_flatMap]
  refine List.flatMap_congr fun u hu => ?_
  have ha := attached_of_mem_units hu
  exact h.declarations_dumpFrom ha (h.shallow_created ha)

theorem IsTree.walk_of_alike {lib' : Library} (h : lib.IsTree) (h' : lib'.IsTree)
    (halike : lib.dump.Alike lib'.dump) : lib.walk.map Decl.tag = lib'.walk.map Decl.tag := by
  have hnodup : lib.dumpFields.names.Nodup := by
    show ["namespace", "library_name", "translation_units"].Nodup
    decide
  rcases halike.object hnodup "translation_units" with ⟨v, w, hv, hw, hunits⟩ | ⟨hv, -⟩
  · cases hv
    cases hw
    have hdumps := List.forall₂_map_left_iff.1 (List.forall₂_map_right_iff.1 hunits.list)
    rw [walk, walk, List.map_flatMap, List.map_flatMap]
    refine flatMap_eq_of_forall₂ hdumps fun u hu u' hu' hdump => ?_
    have ha := attached_of_mem_units hu
    have ha' := attached_of_mem_units hu'
    exact h.walkFrom_of_alike h' ha ha' (h.shallow_created ha) (h'.shallow_created ha') hdump
  · cases hv

/-- The dump of a tree has one object for each declaration of the walk and no other, in the order of
the walk, under the list of its form in the object of the declaration that holds it and at its place
there. Trees whose dumps are alike have the same walk: the same numbers, kinds, names, owners and
places in the order. -/
theorem IsTree.dump_lossless (h : lib.IsTree) :
    (lib.dump.field "translation_units").declarationsIn =
        lib.walk.map (fun d => lib.dumpDecl d.id) ∧
      (lib.walk.map fun d => (lib.dumpDecl d.id).field? "id").Nodup ∧
      lib.dump.field? "translation_units" = some (.list (lib.units.map lib.dumpDecl)) ∧
      (∀ d ∈ lib.walk, ∀ list ∈ d.body.form.lists, (lib.dumpDecl d.id).field? list =
        some (.list ((d.body.listOf list).map lib.dumpDecl))) ∧
      (∀ e ∈ lib.walk, e.id ∈ lib.units ∨ ∃ d ∈ lib.walk, ∃ list,
        d.body.form.listFor? e.body.form = some list ∧ e.id ∈ d.body.listOf list ∧
          (lib.ScopesAgree → e.parent = some d.id)) ∧
      ∀ lib' : Library, lib'.IsTree → lib.dump.Alike lib'.dump →
        lib.walk.map Decl.tag = lib'.walk.map Decl.tag := by
  refine ⟨h.declarationsIn_dump, ?_, field?_units, ?_,
    fun e he => h.exists_owner_of_mem_walk he, fun lib' h' halike => h.walk_of_alike h' halike⟩
  · have hid : ∀ d ∈ lib.walk, (lib.dumpDecl d.id).field? "id" = some (.int d.id) := by
      intro d hd
      rw [h.dumpDecl_eq hd]
      exact (d.get?_tag _).1
    have hinjective : Function.Injective fun id : Nat => some (Value.int id) := fun m n hmn =>
      Int.ofNat.inj (Value.int.inj (Option.some.inj hmn))
    rw [List.map_congr_left hid]
    have hnodup := h.walk_nodup.map hinjective
    rw [List.map_map] at hnodup
    exact hnodup
  · intro d hd list hform
    have hlist : list ∈ Value.declarationLists := by
      have hall : ∀ f : Form, ∀ list ∈ f.lists, list ∈ Value.declarationLists := by
        intro f
        cases f <;> decide
      exact hall _ list hform
    rw [h.dumpDecl_eq hd]
    exact (d.get?_dump_list _ hlist).trans (if_pos hform)

/-- A unit with a structure of one field, an enumeration of one item, and a function of one
parameter. -/
def picture : Library :=
  ⟨.text "", .text "", [0],
    [⟨{ Decl.blank 0 none (.unit ⟨[], [1], [3], [5]⟩ "a.h") with name := "a.h" }, true⟩,
      ⟨{ Decl.blank 1 (some 0) (.record ⟨false, true, false, false, [], [2], [], [], [], none⟩) with
        name := "Point" }, true⟩,
      ⟨{ Decl.blank 2 (some 1) (.field "int" .everyone) with name := "x" }, true⟩,
      ⟨{ Decl.blank 3 (some 0) (.enumeration [4] "int" false) with name := "Color" }, true⟩,
      ⟨{ Decl.blank 4 (some 3) (.enumItem (some (.int 0)) "") with name := "RED" }, true⟩,
      ⟨{ Decl.blank 5 (some 0) (.function ⟨"void", [6], false⟩) with name := "draw" }, true⟩,
      ⟨{ Decl.blank 6 (some 5) (.parameter "Point" 0) with name := "p" }, true⟩]⟩

theorem dump_lossless_picture :
    picture.IsTree ∧ (picture.dump.field "translation_units").declarationsIn =
        picture.walk.map (fun d => picture.dumpDecl d.id) ∧
      ∀ lib' : Library, lib'.IsTree → picture.dump.Alike lib'.dump →
        picture.walk.map Decl.tag = lib'.walk.map Decl.tag := by
  obtain ⟨htree, -⟩ := isTree_of_isRegular (by decide +kernel : picture.isRegular = true)
  obtain ⟨hdump, -, -, -, -, halike⟩ := htree.dump_lossless
  exact ⟨htree, hdump, halike⟩

end Library

end Bindery
