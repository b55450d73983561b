import Bindery.Proofs.Declaration.Renumbered
import Bindery.Proofs.Pass.Builtins
import Bindery.Proofs.Pass.Incomplete
import Bindery.Proofs.Pass.Sound

/-!
# Passes under other numbers

Where two libraries differ in their numbers only, the passes of every run do the same in both. In
merging forward declarations the same definitions are known by the same names, and the same classes
are linked to them and taken out. In giving names, these are made of names, kinds and places, and
the order in which they are given is that in which declarations were met.
-/

namespace Bindery

open Bindery.Naming

namespace Library

variable {ρ : Nat → Nat} {lib out : Library}

/-- Numbers by name, with other numbers. -/
def renumberNames (ρ : Nat → Nat) (names : List (String × Nat)) : List (String × Nat) :=
  names.map fun entry => (entry.1, ρ entry.2)

theorem any_renumberNames (ρ : Nat → Nat) (names : List (String × Nat)) (name : String) :
    (renumberNames ρ names).any (·.1 == name) = names.any (·.1 == name) :=
  List.any_map

theorem find?_renumberNames (ρ : Nat → Nat) (names : List (String × Nat)) (name : String) :
    (renumberNames ρ names).find? (·.1 == name) =
      (names.find? (·.1 == name)).map fun entry => (entry.1, ρ entry.2) :=
  List.find?_map ..

theorem isIncomplete_renumber (ρ : Nat → Nat) (d : Decl) :
    (d.renumber ρ).isIncomplete = d.isIncomplete := by
  unfold Decl.isIncomplete
  show (d.body.renumber ρ).record?.any _ = _
  cases d.body <;> rfl

namespace Renumbered

variable (h : lib.Renumbered ρ out)
include h

/-- The same definitions are known. -/
theorem definitions (ht : lib.IsTree) (hs : lib.ScopesAgree) :
    Agree (fun known known' => known' = renumberNames ρ known) lib.definitions
      out.definitions := by
  unfold Library.definitions
  have hcomplete : (fun d : Decl => !d.isIncomplete) ∘ Decl.renumber ρ = fun d => !d.isIncomplete :=
    funext fun d => congrArg not (isIncomplete_renumber ρ d)
  rw [h.classes ht, List.filter_map, hcomplete]
  refine Agree.foldlM (fun d hd known known' hknown => ?_) rfl
  obtain ⟨ha, hid⟩ := ht.attached_of_mem_classes (List.mem_filter.1 hd).1
  obtain ⟨q, hq, hq'⟩ := h.qualifiedName hid (ht.grounded hs ha)
  rw [hq, hq', hknown]
  refine .ok ?_
  rw [any_renumberNames]
  split_ifs
  · rfl
  · unfold renumberNames
    rw [List.map_append]
    rfl

/-- Linking does the same under either number. -/
theorem link (id definition : Nat) :
    (lib.link id definition).Renumbered ρ (out.link (ρ id) (ρ definition)) := by
  have hlinked : (lib.update id fun d => { d with body := d.body.mapRecord fun r =>
        { r with definition := some definition, incomplete := false } }).Renumbered ρ
      (out.update (ρ id) fun d => { d with body := d.body.mapRecord fun r =>
        { r with definition := some (ρ definition), incomplete := false } }) := by
    refine h.update fun d _ => ?_
    cases hb : d.body <;> simp [Decl.renumber, hb, Body.renumber, Body.mapRecord, Record.renumber]
  have hcomment : ((out.decl? (ρ id)).map (·.comment)).getD "" =
      ((lib.decl? id).map (·.comment)).getD "" := by
    rw [h.decl?]
    cases lib.decl? id <;> rfl
  unfold Library.link
  dsimp only
  rw [hcomment]
  split_ifs
  · exact hlinked
  · refine hlinked.update fun d _ => ?_
    show (if d.comment = "" then _ else _) = _
    split_ifs <;> rfl

end Renumbered

end Library

/-! ### Taking out -/

namespace Edit

variable {ρ : Nat → Nat} {lib out : Library}

theorem removeChild_renumbered (h : lib.Renumbered ρ out) (owner child : Nat) :
    Alike (fun _ _ => True) (Library.Renumbered ρ) (outcomeOf (removeChild owner child) lib)
      (outcomeOf (removeChild (ρ owner) (ρ child)) out) := by
  have ho' := h.decl? owner
  have hc' := h.decl? child
  cases ho : lib.decl? owner with
  | none =>
    rw [ho] at ho'
    rw [outcomeOf_removeChild_of_none (.inl ho), outcomeOf_removeChild_of_none (.inl ho')]
    exact .ok trivial h
  | some o =>
    cases hc : lib.decl? child with
    | none =>
      rw [hc] at hc'
      rw [outcomeOf_removeChild_of_none (.inr hc), outcomeOf_removeChild_of_none (.inr hc')]
      exact .ok trivial h
    | some c =>
      rw [ho] at ho'
      rw [hc] at hc'
      have hout := outcomeOf_removeChild ho hc
      have hout' := outcomeOf_removeChild ho' hc'
      have herase : (o.renumber ρ).body.erase? (ρ child) =
          (o.body.erase? child).map (Body.renumber ρ) :=
        Body.erase?_renumber h.mono.injective o.body child
      rw [herase] at hout'
      cases hb : o.body.erase? child with
      | none =>
        rw [hb] at hout hout'
        obtain ⟨f, hout⟩ := hout
        obtain ⟨f', hout'⟩ := hout'
        rw [hout, hout']
        exact .error _ _ _ _
      | some b =>
        rw [hb] at hout hout'
        simp only [Option.map_some] at hout'
        rw [hout, hout']
        exact .ok trivial (h.update fun _ _ => rfl)

/-- Taking a declaration out does the same under either number. -/
theorem remove_renumbered (h : lib.Renumbered ρ out) {id p : Nat} {d o : Decl}
    (hd : lib.decl? id = some d) (hp : d.parent = some p) (ho : lib.registered? p = some o)
    (hid : o.id = p) :
    Alike (fun _ _ => True) (Library.Renumbered ρ) (outcomeOf (remove id) lib)
      (outcomeOf (remove (ρ id)) out) := by
  have hd' : out.decl? (ρ id) = some (d.renumber ρ) := by
    rw [h.decl?, hd]
    rfl
  have hp' : (d.renumber ρ).parent = some (ρ p) := by
    show d.parent.map ρ = _
    rw [hp]
    rfl
  have ho' : out.registered? (ρ p) = some (o.renumber ρ) := by
    rw [h.registered?, ho]
    rfl
  have hid' : (o.renumber ρ).id = ρ p := congrArg ρ hid
  unfold remove
  rw [outcomeOf_bind_ok (outcomeOf_get lib), outcomeOf_bind_ok (outcomeOf_get out)]
  simp only [hd, hd', hp, hp']
  rw [outcomeOf_bind, outcomeOf_bind, outcomeOf_editLook, outcomeOf_editLook]
  simp only [Library.get, ho, ho', hid, hid']
  exact removeChild_renumbered h p id

end Edit

/-! ### Merging -/

namespace PassM

variable {ρ : Nat → Nat} {lib : Library}

/-- Merging a class of a tree does the same under either number. `s` and `t` are what has become of
the tree in the meantime. -/
theorem resolveClass_renumbered (ht : lib.IsTree) (hs : lib.ScopesAgree)
    {s t : PassState Library} (hpruned : lib.PrunedTo s.library)
    (h : s.library.Renumbered ρ t.library) {p id : Nat} (hp : lib.Attached p)
    (hl : lib.Lists p id) (known : List (String × Nat)) :
    Alike (fun _ _ => True) (fun s t => s.library.Renumbered ρ t.library)
      (outcomeOf (resolveClass known id) s)
      (outcomeOf (resolveClass (Library.renumberNames ρ known) (ρ id)) t) := by
  have hd' := h.decl? id
  obtain ⟨c, hc, -⟩ := ht.decl_of_attached (hp.lists hl)
  obtain ⟨d, hd, hcd⟩ := hpruned.slots.exists_of_decl? hc
  rw [hd] at hd'
  have hgrounded : s.library.Grounded id :=
    (ht.grounded hs (hp.lists hl)).of_matches hpruned.slots fun _ _ hde => hde.parent
  obtain ⟨q, hq, hq'⟩ := h.qualifiedName hd hgrounded
  unfold resolveClass
  rw [outcomeOf_bind_ok (outcomeOf_get s), outcomeOf_bind_ok (outcomeOf_get t)]
  simp only [hd, hd', Option.map_some, Library.isIncomplete_renumber]
  split_ifs
  · have hname : Agree Eq (s.library.qualifiedName d) (t.library.qualifiedName (d.renumber ρ)) := by
      rw [hq, hq']
      exact .ok rfl
    refine Alike.bind (Alike.look (S := fun s' t' => s' = s ∧ t' = t) hname ⟨rfl, rfl⟩) ?_
    rintro name _ s' t' rfl ⟨rfl, rfl⟩
    rw [Library.find?_renumberNames]
    cases hf : known.find? (·.1 == name) with
    | none => exact .ok trivial h
    | some entry =>
      simp only [Option.map_some]
      have hlink := h.link id entry.2
      have hlinked := hpruned.trans (Library.link_prunedTo s'.library id entry.2)
      obtain ⟨e, he, hce⟩ := hlinked.slots.exists_of_decl? hc
      obtain ⟨o, ho, hid⟩ := hlinked.registered ht hp
      have hparent := hce.parent.trans (hs.listed_parent p id c hp hl hc)
      rw [outcomeOf_bind, outcomeOf_edit, outcomeOf_modify, outcomeOf_bind, outcomeOf_edit,
        outcomeOf_modify]
      simp only [Except.mapError]
      refine Alike.bind (Alike.edit (Edit.remove_renumbered hlink he hparent ho hid)) ?_
      exact fun _ _ s t _ hst => .ok trivial hst
  · exact .ok trivial h

/-- Merging forward declarations does the same under other numbers. -/
theorem resolveIncomplete_renumbered {s t : PassState Library} (ht : s.library.IsTree)
    (hs : s.library.ScopesAgree) (h : s.library.Renumbered ρ t.library) :
    Alike (fun _ _ => True) (fun s t => s.library.Renumbered ρ t.library)
      (outcomeOf resolveIncomplete s) (outcomeOf resolveIncomplete t) := by
  unfold resolveIncomplete
  refine Alike.bind (Alike.look (S := fun s' t' => s' = s ∧ t' = t) (h.definitions ht hs)
    ⟨rfl, rfl⟩) ?_
  rintro known _ s' t' rfl ⟨rfl, rfl⟩
  rw [outcomeOf_bind_ok (outcomeOf_get s'), outcomeOf_bind_ok (outcomeOf_get t')]
  have hids : t'.library.classes.map (·.id) = (s'.library.classes.map (·.id)).map ρ := by
    rw [h.classes ht, List.map_map, List.map_map]
    rfl
  simp only [hids]
  -- along the way, what has become of the first library is still what was left of it
  have hboth := Alike.forM (g := ρ) (l := s'.library.classes.map (·.id))
    (f := resolveClass known) (k := resolveClass (Library.renumberNames ρ known))
    (S := fun s t => s'.library.PrunedTo s.library ∧ s.library.Renumbered ρ t.library)
    (fun id hid u v huv => ?_) ⟨.refl _, h⟩
  · exact hboth.mono (fun _ _ _ => trivial) fun _ _ hst => hst.2
  · obtain ⟨d, hd, rfl⟩ := List.mem_map.1 hid
    obtain ⟨p, hp, hl⟩ := ht.exists_owner_of_mem_classes hd
    refine (resolveClass_renumbered ht hs huv.1 huv.2 hp hl known).and_left ?_
    exact huv.1.trans (resolveClass_prunedTo known d.id u).1

end PassM

/-! ### Naming -/

variable {ρ : Nat → Nat} {lib out : Library}

theorem Library.Shallow.renamed {n a : Nat} (h : lib.Shallow n a) (hr : lib.RenamedTo out) :
    out.Shallow n a :=
  fun k x hx => h k x (hr.below_iff.1 hx)

namespace Library.Renumbered

variable (h : lib.Renumbered ρ out)
include h

/-- Giving a name does the same under either number. -/
theorem rename (id : Nat) (name : String) :
    (lib.update id (·.rename name)).Renumbered ρ (out.update (ρ id) (·.rename name)) :=
  h.update fun d _ => Decl.rename_renumber ρ d name

theorem childNames (d : Decl) : (out.childrenOf (d.renumber ρ)).map (·.name) =
    (lib.childrenOf d).map (·.name) := by
  unfold childrenOf
  show ((d.body.renumber ρ).children.filterMap out.decl?).map _ = _
  rw [Body.children_renumber, h.filterMap_decl?, List.map_map]
  rfl

end Library.Renumbered

/-! ### Names that cannot be used -/

theorem kindLabel_renumber (ρ : Nat → Nat) (d : Decl) : (d.renumber ρ).kindLabel = d.kindLabel := by
  have hkind : (d.renumber ρ).kind = d.kind := congrArg Form.kind (Body.form_renumber ρ d.body)
  have hbody : (d.renumber ρ).body = d.body.renumber ρ := rfl
  unfold Decl.kindLabel
  rw [hkind, hbody]
  cases d.body <;> rfl

/-- The name made for a declaration does not depend on numbers. -/
theorem deriveName_renumber (ρ : Nat → Nat) (scope d : Decl) (ordinals : Ordinals) :
    deriveName (scope.renumber ρ) (d.renumber ρ) ordinals = deriveName scope d ordinals := by
  have hkind : (scope.renumber ρ).kind = scope.kind :=
    congrArg Form.kind (Body.form_renumber ρ scope.body)
  have hbody : (d.renumber ρ).body = d.body.renumber ρ := rfl
  unfold deriveName
  rw [hkind, kindLabel_renumber, hbody]
  cases d.body <;> rfl

/-- Two cleanings of a scope that are equally far, under different numbers. -/
structure Cleaning.Renumbered (ρ : Nat → Nat) (c c' : Cleaning) : Prop where
  /-- The libraries differ in numbers only. -/
  library : c.library.Renumbered ρ c'.library
  /-- As many were renamed. -/
  renamed : c'.renamed = c.renamed
  /-- The same names are taken. -/
  taken : c'.taken = c.taken
  /-- As many had no name. -/
  ordinals : c'.ordinals = c.ordinals

theorem Cleaning.Renumbered.cleanChild {c c' : Cleaning} (h : c.Renumbered ρ c') (scope : Decl)
    (id : Nat) :
    (c.cleanChild scope id).Renumbered ρ (c'.cleanChild (scope.renumber ρ) (ρ id)) := by
  unfold Cleaning.cleanChild
  rw [h.library.decl?]
  cases c.library.decl? id with
  | none => exact h
  | some d =>
    simp only [Option.map_some, deriveName_renumber, h.taken, h.ordinals, h.renamed]
    show Cleaning.Renumbered ρ (if isValid d.name = true then c else _)
      (if isValid d.name = true then c' else _)
    split_ifs
    · exact h
    · exact ⟨h.library.rename id _, rfl, rfl, rfl⟩

namespace Library

/-- Cleaning the names inside a declaration does the same under other numbers, where both cleanings
go far enough. -/
theorem Renumbered.cleanFrom (h : lib.Renumbered ρ out) {n m a : Nat} (hn : lib.Shallow n a)
    (hm : lib.Shallow m a) (renamed : Nat) :
    (Library.cleanFrom n a (lib, renamed)).1.Renumbered ρ
        (Library.cleanFrom m (ρ a) (out, renamed)).1 ∧
      (Library.cleanFrom m (ρ a) (out, renamed)).2 = (Library.cleanFrom n a (lib, renamed)).2 := by
  induction n generalizing m a lib out renamed with
  | zero => exact absurd (hn 0 a .self) (by omega)
  | succ n ih =>
    cases m with
    | zero => exact absurd (hm 0 a .self) (by omega)
    | succ m =>
      cases ha : lib.decl? a with
      | none =>
        have ha' : out.decl? (ρ a) = none := by
          rw [h.decl?, ha]
          rfl
        simp only [Library.cleanFrom, ha, ha', and_true]
        exact h
      | some scope =>
        have ha' : out.decl? (ρ a) = some (scope.renumber ρ) := by
          rw [h.decl?, ha]
          rfl
        have hchildren : (scope.renumber ρ).body.children = scope.body.children.map ρ :=
          Body.children_renumber ρ scope.body
        have hstart : Cleaning.start out renamed (scope.renumber ρ) =
            ⟨out, renamed, ((lib.childrenOf scope).map (·.name)).filter isValid, []⟩ := by
          unfold Cleaning.start
          rw [h.childNames]
        rw [cleanFrom_succ n ha, cleanFrom_succ m ha', hchildren, hstart, List.foldl_map]
        have hdone := List.foldl_rel (l := scope.body.children)
          (r := fun c c' : Cleaning => c.Renumbered ρ c' ∧ lib.RenamedTo c.library)
          (f := Cleaning.cleanInto n scope)
          (g := fun c child => c.cleanInto m (scope.renumber ρ) (ρ child))
          (a := .start lib renamed scope)
          (b := ⟨out, renamed, ((lib.childrenOf scope).map (·.name)).filter isValid, []⟩)
          ⟨⟨by exact h, rfl, rfl, rfl⟩, .refl lib⟩ fun child hchild c c' hc => ?_
        · exact ⟨hdone.1.library, hdone.1.renamed⟩
        · have hl : lib.Lists a child := ⟨scope, ha, hchild⟩
          have hclean := hc.1.cleanChild scope child
          have hrenamed := hc.2.trans (renamedTo_cleanChild c scope child)
          have hinside := ih hclean.library ((hn.lists hl).renamed hrenamed)
            ((hm.lists hl).renamed hrenamed) (c.cleanChild scope child).renamed
          unfold Cleaning.cleanInto
          dsimp only
          rw [hclean.renamed]
          refine ⟨⟨hinside.1, hinside.2, hclean.taken, hclean.ordinals⟩, ?_⟩
          exact hrenamed.trans (renamedTo_cleanFrom n child
            ((c.cleanChild scope child).library, (c.cleanChild scope child).renamed))

/-- Cleaning the names of a tree does the same under other numbers. -/
theorem Renumbered.cleanNames (h : lib.Renumbered ρ out) (ht : lib.IsTree) :
    lib.cleanNames.1.Renumbered ρ out.cleanNames.1 := by
  unfold Library.cleanNames
  rw [h.units, List.foldl_map]
  have hdone := List.foldl_rel (l := lib.units)
    (r := fun s t : Library × Nat => (s.1.Renumbered ρ t.1 ∧ t.2 = s.2) ∧ lib.RenamedTo s.1)
    (f := fun s id => Library.cleanFrom lib.created id s)
    (g := fun s id => Library.cleanFrom out.created (ρ id) s) (a := (lib, 0)) (b := (out, 0))
    ⟨⟨h, rfl⟩, .refl lib⟩ fun u hu s t hst => ?_
  · exact hdone.1.1
  · obtain ⟨⟨hlib, hcount⟩, hrenamed⟩ := hst
    obtain ⟨l, k⟩ := s
    obtain ⟨l', k'⟩ := t
    have ha := attached_of_mem_units hu
    obtain rfl : k' = k := hcount
    refine ⟨hlib.cleanFrom ((ht.shallow_created ha).renamed hrenamed)
      ((h.shallow ht ha).renamed hrenamed) k', ?_⟩
    exact hrenamed.trans (renamedTo_cleanFrom _ u (l, k'))

end Library

/-! ### Overloads -/

/-- Overloads of a scope that are told apart equally far, under different numbers. -/
structure Overloads.Renumbered (ρ : Nat → Nat) (o o' : Overloads) : Prop where
  /-- The libraries differ in numbers only. -/
  library : o.library.Renumbered ρ o'.library
  /-- The same names are taken. -/
  taken : o'.taken = o.taken
  /-- The same names were met. -/
  met : o'.met = o.met

theorem Overloads.Renumbered.step {o o' : Overloads} (h : o.Renumbered ρ o') (id : Nat) :
    (o.step id).Renumbered ρ (o'.step (ρ id)) := by
  unfold Overloads.step
  rw [h.library.decl?]
  cases o.library.decl? id with
  | none => exact h
  | some d =>
    simp only [Option.map_some, h.taken, h.met]
    show Overloads.Renumbered ρ (if o.met.count d.name = 0 then _ else _)
      (if o.met.count d.name = 0 then _ else _)
    split_ifs
    · exact ⟨h.library, rfl, rfl⟩
    · exact ⟨h.library.rename id _, rfl, rfl⟩

namespace Library.Renumbered

variable (h : lib.Renumbered ρ out)
include h

theorem separate (scope : Decl) (ids : List Nat) :
    (lib.separate scope ids).Renumbered ρ (out.separate (scope.renumber ρ) (ids.map ρ)) := by
  unfold Library.separate
  rw [h.childNames, List.foldl_map]
  have hdone := List.foldl_rel (l := ids) (r := fun o o' : Overloads => o.Renumbered ρ o')
    (f := Overloads.step) (g := fun o id => o.step (ρ id))
    (a := ⟨lib, (lib.childrenOf scope).map (·.name), []⟩)
    (b := ⟨out, (lib.childrenOf scope).map (·.name), []⟩) ⟨h, rfl, rfl⟩
    fun id _ _ _ ho => ho.step id
  exact hdone.library

theorem separateIn (id : Nat) : (lib.separateIn id).Renumbered ρ (out.separateIn (ρ id)) := by
  unfold Library.separateIn
  rw [h.decl?]
  cases lib.decl? id with
  | none => exact h
  | some d =>
    have hall := h.separate d
    have hbody : (d.renumber ρ).body = d.body.renumber ρ := rfl
    simp only [Option.map_some, hbody]
    cases hb : d.body <;> simp only [Body.renumber] <;> first | exact hall _ | exact h

/-- The same scopes have their overloads told apart, where both go far enough. -/
theorem overloadScopes {n m a : Nat} (hn : lib.Shallow n a) (hm : lib.Shallow m a) :
    out.overloadScopes m (ρ a) = (lib.overloadScopes n a).map ρ := by
  induction n generalizing m a with
  | zero => exact absurd (hn 0 a .self) (by omega)
  | succ n ih =>
    cases m with
    | zero => exact absurd (hm 0 a .self) (by omega)
    | succ m =>
      unfold Library.overloadScopes
      rw [h.decl?]
      cases ha : lib.decl? a with
      | none => rfl
      | some d =>
        have hstep : ∀ ids : List Nat, ids ⊆ d.body.children →
            (ids.map ρ).flatMap (out.overloadScopes m) =
              (ids.flatMap (lib.overloadScopes n)).map ρ := by
          intro ids hids
          rw [List.flatMap_map, List.map_flatMap]
          refine List.flatMap_congr fun c hc => ?_
          have hl : lib.Lists a c := ⟨d, ha, hids hc⟩
          exact ih (hn.lists hl) (hm.lists hl)
        have hbody : (d.renumber ρ).body = d.body.renumber ρ := rfl
        simp only [Option.map_some, hbody]
        cases hb : d.body with
        | unit s file | space s =>
          have hspaces := hstep s.namespaces (by simp [hb, Body.children])
          have hclasses := hstep s.classes (by simp [hb, Body.children])
          simp only [Body.renumber, Scope.renumber, hspaces, hclasses, List.map_cons,
            List.map_append]
        | record r =>
          have hclasses := hstep r.classes (by simp [hb, Body.children])
          simp only [Body.renumber, Record.renumber, hclasses, List.map_cons]
        | _ => rfl

theorem separateBelow (ht : lib.IsTree) {a : Nat} (ha : lib.Attached a) :
    (lib.separateBelow a).Renumbered ρ (out.separateBelow (ρ a)) := by
  unfold Library.separateBelow
  rw [h.overloadScopes (ht.shallow_created ha) (h.shallow ht ha), List.foldl_map]
  exact List.foldl_rel (r := fun l l' : Library => l.Renumbered ρ l') h
    fun id _ _ _ hl => hl.separateIn id

end Library.Renumbered

/-- Telling the overloads of a tree apart does the same under other numbers. -/
theorem PassM.separateOverloads_renumbered {s t : PassState Library} (ht : s.library.IsTree)
    (h : s.library.Renumbered ρ t.library) :
    Alike (fun _ _ => True) (fun s t => s.library.Renumbered ρ t.library)
      (outcomeOf separateOverloads s) (outcomeOf separateOverloads t) := by
  unfold separateOverloads
  rw [outcomeOf_bind_ok (outcomeOf_get s), outcomeOf_bind_ok (outcomeOf_get t), h.units]
  have hboth := Alike.forM (g := ρ) (l := s.library.units)
    (f := fun id => edit (modify (·.separateBelow id)))
    (k := fun id => edit (modify (·.separateBelow id)))
    (S := fun u v => s.library.RenamedTo u.library ∧ u.library.Renumbered ρ v.library)
    (fun a ha u v huv => ?_) ⟨.refl _, h⟩
  · exact hboth.mono (fun _ _ _ => trivial) fun _ _ hst => hst.2
  · obtain ⟨hrenamed, huv⟩ := huv
    have ha' := hrenamed.attached_iff.2 (Library.attached_of_mem_units ha)
    rw [outcomeOf_edit, outcomeOf_edit, outcomeOf_modify, outcomeOf_modify]
    refine .ok trivial ⟨hrenamed.trans (Library.renamedTo_separateBelow _ a), ?_⟩
    exact huv.separateBelow (hrenamed.prunedTo.isTree ht) ha'

/-! ### Names of the module -/

namespace Library

theorem isModuleLevel_renumber (ρ : Nat → Nat) (d : Decl) :
    isModuleLevel (d.renumber ρ) = isModuleLevel d := by
  have hkind : (d.renumber ρ).kind = d.kind := congrArg Form.kind (Body.form_renumber ρ d.body)
  unfold isModuleLevel
  rw [hkind, isIncomplete_renumber]
  rfl

/-- Declarations in the order in which they were met, under other numbers. -/
theorem mergeSort_renumber (hρ : StrictMono ρ) {ds : List Decl} (hds : ∀ d ∈ ds, 0 ≤ d.order) :
    (ds.map (Decl.renumber ρ)).mergeSort (fun a b => a.order ≤ b.order) =
      (ds.mergeSort fun a b => a.order ≤ b.order).map (Decl.renumber ρ) := by
  refine (List.map_mergeSort fun a ha b hb => ?_).symm
  have hle : ρ a.order.toNat ≤ ρ b.order.toNat ↔ a.order.toNat ≤ b.order.toNat := hρ.le_iff_le
  have ha' := hds a ha
  have hb' := hds b hb
  show decide (a.order ≤ b.order) = decide ((ρ a.order.toNat : Int) ≤ ρ b.order.toNat)
  rw [decide_eq_decide]
  omega

/-- The same declarations are named in the module, in the same order. -/
theorem Renumbered.moduleLevel (h : lib.Renumbered ρ out) (hs : lib.Sound) :
    out.moduleLevel = lib.moduleLevel.map (Decl.renumber ρ) := by
  have hlevel : isModuleLevel ∘ Decl.renumber ρ = isModuleLevel :=
    funext (isModuleLevel_renumber ρ)
  unfold Library.moduleLevel
  rw [h.walk hs.isTree, List.filter_map, hlevel]
  refine mergeSort_renumber h.mono fun d hd => ?_
  exact hs.ordered d.id d (hs.isTree.decl?_of_mem_walk (List.mem_filter.1 hd).1).2

end Library

namespace PassM

/-- Taking a name does the same under either number. -/
theorem takeName_renumbered {s t : PassState Library} (h : s.library.Renumbered ρ t.library)
    {id : Nat} (hg : s.library.Grounded id) (taken : List String) :
    Alike Eq (fun s t => s.library.Renumbered ρ t.library) (outcomeOf (takeName taken id) s)
      (outcomeOf (takeName taken (ρ id)) t) := by
  unfold takeName
  rw [outcomeOf_bind_ok (outcomeOf_get s), outcomeOf_bind_ok (outcomeOf_get t), h.decl?]
  cases hd : s.library.decl? id with
  | none => exact .ok rfl h
  | some d =>
    have hname : (d.renumber ρ).name = d.name := rfl
    simp only [Option.map_some, hname]
    split_ifs
    · exact .ok rfl h
    · obtain ⟨q, hq, hq'⟩ := h.qualifiedName hd hg
      have hqualified : Agree Eq (s.library.qualifiedName d)
          (t.library.qualifiedName (d.renumber ρ)) := by
        rw [hq, hq']
        exact .ok rfl
      refine Alike.bind (Alike.look (S := fun s' t' => s' = s ∧ t' = t) hqualified ⟨rfl, rfl⟩) ?_
      rintro qualified _ s' t' rfl ⟨rfl, rfl⟩
      rw [outcomeOf_bind, outcomeOf_edit, outcomeOf_bind, outcomeOf_edit]
      exact .ok rfl (h.rename id _)

/-- Giving the declarations of a module names of their own does the same under other numbers. -/
theorem separateModuleNames_renumbered {s t : PassState Library} (hs : s.library.Sound)
    (h : s.library.Renumbered ρ t.library) :
    Alike (fun _ _ => True) (fun s t => s.library.Renumbered ρ t.library)
      (outcomeOf separateModuleNames s) (outcomeOf separateModuleNames t) := by
  have hids : t.library.moduleLevel.map (·.id) = (s.library.moduleLevel.map (·.id)).map ρ := by
    rw [h.moduleLevel hs, List.map_map, List.map_map]
    rfl
  unfold separateModuleNames
  rw [outcomeOf_bind_ok (outcomeOf_get s), outcomeOf_bind_ok (outcomeOf_get t)]
  simp only [hids]
  refine Alike.bind (Alike.foldlM (g := ρ) (Q := Eq)
    (S := fun u v => s.library.RenamedTo u.library ∧ u.library.Renumbered ρ v.library)
    (fun id hid taken _ u v htaken huv => ?_) rfl ⟨.refl _, h⟩) ?_
  · obtain ⟨hrenamed, huv⟩ := huv
    subst htaken
    obtain ⟨d, hd, rfl⟩ := List.mem_map.1 hid
    obtain ⟨ha, hd', -⟩ := Library.attached_of_mem_moduleLevel hs.isTree hd
    have hgrounded : u.library.Grounded d.id :=
      (hs.isTree.grounded hs.scopesAgree ha).of_matches hrenamed.slots fun _ _ hde => hde.parent
    obtain ⟨e, he, -⟩ := hrenamed.slots.exists_of_decl? hd'
    obtain ⟨q, hq, -⟩ := huv.qualifiedName he hgrounded
    obtain ⟨after, w, hw⟩ := exists_takeName (s := u)
      (fun c hc => by rw [he] at hc; cases hc; exact ⟨q, hq⟩) taken
    refine (takeName_renumbered huv hgrounded taken).and_left ?_
    rw [hw]
    exact hrenamed.trans (outcomeOf_takeName hw he).1
  · exact fun _ _ u v _ huv => .ok trivial huv.2

end PassM

/-! ### All passes -/

namespace Schedule

/-- The passes of every run make what is read sound, and what can be reached is its own definition
then. -/
theorem run_builtin_selfDefined (hl : lib.Loaded) :
    ∃ out : Library, ((builtin.run (.typed lib)).1 = none ∧
      (builtin.run (.typed lib)).2.1 = .typed out) ∧ out.Sound ∧ out.Settled ∧
        out.SelfDefined := by
  have hrun := run_builtin_of_scopesAgree hl.isTree hl.scopesAgree
  obtain ⟨s, out, hresolve, hrenamed, hsettled, hout⟩ := exists_of_run_builtin hl.isTree hrun
  exact ⟨out, ⟨hrun, hout⟩, (PassM.resolveIncomplete_sound hl hresolve).renamed hrenamed, hsettled,
    (PassM.resolveIncomplete_selfDefined hl hresolve).renamed hrenamed⟩

theorem run_builtin_sound (hl : lib.Loaded) :
    ∃ out : Library, ((builtin.run (.typed lib)).1 = none ∧
      (builtin.run (.typed lib)).2.1 = .typed out) ∧ out.Sound ∧ out.Settled := by
  obtain ⟨out, hout, hsound, hsettled, -⟩ := run_builtin_selfDefined hl
  exact ⟨out, hout, hsound, hsettled⟩

/-- The passes of every run do the same under other numbers. -/
theorem run_builtin_renumbered (h : lib.Renumbered ρ out) (hl : lib.Loaded) :
    ∃ lib' out' : Library,
      ((builtin.run (.typed lib)).1 = none ∧ (builtin.run (.typed lib)).2.1 = .typed lib') ∧
      ((builtin.run (.typed out)).1 = none ∧ (builtin.run (.typed out)).2.1 = .typed out') ∧
      lib'.Renumbered ρ out' := by
  let s₀ : PassState Library := ⟨lib, [], .empty⟩
  let t₀ : PassState Library := ⟨out, [], .empty⟩
  obtain ⟨s₁, hs₁⟩ := PassM.exists_resolveIncomplete (s := s₀) hl.isTree hl.scopesAgree
  have halike₁ := PassM.resolveIncomplete_renumbered (s := s₀) (t := t₀) hl.isTree hl.scopesAgree h
  rw [hs₁] at halike₁
  obtain ⟨⟨⟩, t₁, ht₁, -, h₁⟩ := halike₁.exists_ok
  have hsound₁ := PassM.resolveIncomplete_sound hl hs₁
  have h₂ := h₁.cleanNames hsound₁.isTree
  have hsound₂ := hsound₁.renamed (Library.renamedTo_cleanNames s₁.library)
  let s₂ : PassState Library := ⟨s₁.library.cleanNames.1, s₁.log, .empty⟩
  let t₂ : PassState Library := ⟨t₁.library.cleanNames.1, t₁.log, .empty⟩
  obtain ⟨s₃, hs₃, hrenamed₃⟩ := PassM.outcomeOf_separateOverloads s₂
  have halike₃ := PassM.separateOverloads_renumbered (s := s₂) (t := t₂) hsound₂.isTree h₂
  rw [hs₃] at halike₃
  obtain ⟨⟨⟩, t₃, ht₃, -, h₃⟩ := halike₃.exists_ok
  have hsound₃ := hsound₂.renamed hrenamed₃
  let s₄ : PassState Library := ⟨s₃.library, s₃.log, .empty⟩
  let t₄ : PassState Library := ⟨t₃.library, t₃.log, .empty⟩
  obtain ⟨s₅, hs₅⟩ := PassM.exists_separateModuleNames (s := s₄) hsound₃.isTree hsound₃.scopesAgree
  have halike₅ := PassM.separateModuleNames_renumbered (s := s₄) (t := t₄) hsound₃ h₃
  rw [hs₅] at halike₅
  obtain ⟨⟨⟩, t₅, ht₅, -, h₅⟩ := halike₅.exists_ok
  have hsmall := run_builtin_of_separated hs₁ hs₃
  rw [hs₅] at hsmall
  have hbig := run_builtin_of_separated ht₁ ht₃
  rw [ht₅] at hbig
  exact ⟨s₅.library, t₅.library, hsmall, hbig, h₅⟩

end Schedule

end Bindery
