import Bindery.Emit.BindingModule
import Bindery.Proofs.Emit.RenumberedLayout
import Bindery.Proofs.Outcome

/-!
# Modules under other numbers

Two ways of writing come to the same code when, behind any code, both are refused, or both write the
same lines and have results that belong together. The modules of two libraries that differ in their
numbers only are written in two such ways.
-/

namespace Bindery.Writing

variable {α β γ δ : Type}

/-- Both write the same code, or both are refused. -/
def Mirrors (R : α → β → Prop) (m : Writing α) (n : Writing β) : Prop :=
  ∀ c, Agree (fun p q => R p.1 q.1 ∧ q.2 = p.2) (m.run c) (n.run c)

namespace Mirrors

variable {R : α → β → Prop} {Q : γ → δ → Prop} {m : Writing α} {n : Writing β}

theorem refl (m : Writing α) : Mirrors Eq m m := by
  intro c
  cases m.run c with
  | error f => exact .error f f
  | ok p => exact .ok ⟨rfl, rfl⟩

theorem pure {a : α} {b : β} (hab : R a b) : Mirrors R (pure a) (Pure.pure b) :=
  fun _ => .ok ⟨hab, rfl⟩

theorem bind {k : α → Writing γ} {k' : β → Writing δ} (h : Mirrors R m n)
    (hk : ∀ a b, R a b → Mirrors Q (k a) (k' b)) : Mirrors Q (m >>= k) (n >>= k') := by
  intro c
  rw [StateT.run_bind, StateT.run_bind]
  refine (h c).bind ?_
  rintro ⟨a, c₁⟩ ⟨b, c₂⟩ ⟨hab, hc⟩
  obtain rfl : c₂ = c₁ := hc
  exact hk a b hab c₂

/-- What is looked up for the code. -/
theorem lift {x : Except Fault α} {y : Except Fault β} (h : Agree R x y) :
    Mirrors R (liftM x) (liftM y) := by
  intro c
  cases h with
  | ok hab => exact .ok ⟨hab, rfl⟩
  | error e e' => exact .error e e'

/-- Lines for the members of two lists. -/
theorem forM {ι κ : Type} {w : ι → Writing PUnit} {w' : κ → Writing PUnit} {g : ι → κ} {l : List ι}
    (hw : ∀ i ∈ l, Mirrors Eq (w i) (w' (g i))) : Mirrors Eq (l.forM w) ((l.map g).forM w') := by
  induction l with
  | nil => exact refl _
  | cons i l ih =>
    refine bind (m := w i) (n := w' (g i)) (hw i (List.mem_cons_self ..)) ?_
    exact fun _ _ _ => ih fun j hj => hw j (List.mem_cons_of_mem _ hj)

/-- The members of two lists for which something was written. -/
theorem filterM {ι κ : Type} {w : ι → Writing Bool} {w' : κ → Writing Bool} {g : ι → κ}
    {l : List ι} (hw : ∀ i ∈ l, Mirrors Eq (w i) (w' (g i))) :
    Mirrors (fun is js => js = is.map g) (l.filterM w) ((l.map g).filterM w') := by
  suffices haux : ∀ acc : List ι, Mirrors (fun is js => js = is.map g)
      (List.filterAuxM w l acc) (List.filterAuxM w' (l.map g) (acc.map g)) from
    (haux []).bind fun is js hjs => pure (by rw [hjs, List.map_reverse])
  induction l with
  | nil => exact fun acc => pure rfl
  | cons i l ih =>
    intro acc
    rw [List.map_cons]
    unfold List.filterAuxM
    refine (hw i (List.mem_cons_self ..)).bind fun b b' hb => ?_
    subst hb
    have hrest := ih fun j hj => hw j (List.mem_cons_of_mem _ hj)
    cases b with
    | false => exact hrest acc
    | true => exact hrest (i :: acc)

theorem block {header : String} {footer : Option String} {m n : Writing Unit}
    (h : Mirrors Eq m n) : Mirrors Eq (block header footer m) (block header footer n) := by
  unfold Writing.block
  exact (refl _).bind fun _ _ _ => h.bind fun _ _ _ => refl _

end Mirrors

end Bindery.Writing

namespace Bindery

open Bindery.Writing

variable {ρ : Nat → Nat}

namespace Library.Renumbered

variable {lib out : Library} (h : lib.Renumbered ρ out) (hs : lib.Sound)
include h hs

/-- What is picked out of a walk comes in the same order. -/
theorem inOrder_walk {p : Decl → Bool} (hp : ∀ d, p (d.renumber ρ) = p d) :
    inOrder (out.walk.filter p) = (inOrder (lib.walk.filter p)).map (Decl.renumber ρ) := by
  unfold inOrder
  rw [h.walk hs.isTree, List.filter_map, show p ∘ Decl.renumber ρ = p from funext hp]
  refine mergeSort_renumber h.mono fun d hd => ?_
  exact hs.ordered d.id d (hs.isTree.decl?_of_mem_walk (List.mem_filter.1 hd).1).2

theorem emittedEnums : out.emittedEnums = lib.emittedEnums.map (Decl.renumber ρ) := by
  refine h.inOrder_walk hs fun d => ?_
  show ((d.body.renumber ρ).isEnumeration && d.name != "" && !d.ignored) = _
  cases d.body <;> rfl

theorem emittedFunctions : out.emittedFunctions = lib.emittedFunctions.map (Decl.renumber ρ) := by
  refine h.inOrder_walk hs fun d => ?_
  show ((d.body.renumber ρ).isFunction && !d.ignored) = _
  cases d.body <;> rfl

theorem emittedClasses : out.emittedClasses = lib.emittedClasses.map (Decl.renumber ρ) := by
  have hemitted : isEmitted ∘ Decl.renumber ρ = isEmitted := by
    funext d
    show (!d.ignored && !(d.body.renumber ρ).record?.any (·.incomplete) && d.name != "") = _
    cases hb : d.body <;> simp [isEmitted, hb, Body.renumber, Body.record?, Record.renumber]
  unfold Library.emittedClasses inOrder
  rw [h.classes hs.isTree, List.filter_map, hemitted]
  refine mergeSort_renumber h.mono fun d hd => ?_
  exact hs.ordered d.id d (hs.isTree.attached_of_mem_classes (List.mem_filter.1 hd).1).2

end Library.Renumbered

theorem prototype?_renumber (ρ : Nat → Nat) (d : Decl) : (d.renumber ρ).body.prototype? =
    d.body.prototype?.map (Prototype.renumber ρ) := by
  have hbody : (d.renumber ρ).body = d.body.renumber ρ := rfl
  rw [hbody]
  cases d.body <;> rfl

namespace Emission.Renumbered

variable {e f : Emission} (h : e.Renumbered ρ f) (o : Options)
include h

/-! ### Enumerations -/

/-- The same comment tells where a declaration comes from. -/
theorem provenance {d : Decl} (hd : e.library.decl? d.id = some d)
    (ha : e.library.Attached d.id) :
    Mirrors Eq (e.provenance o d) (f.provenance o (d.renumber ρ)) := by
  unfold Emission.provenance
  split_ifs
  · obtain ⟨q, hq, hq'⟩ :=
      h.library.qualifiedFirstName hd (h.sound.isTree.grounded h.sound.scopesAgree ha)
    rw [hq, hq']
    refine (Mirrors.lift (Agree.refl _)).bind ?_
    rintro qualified _ rfl
    exact .refl _
  · exact .refl _

/-- The same item is written. -/
theorem writeItem (id : Nat) : Mirrors Eq (e.writeItem id) (f.writeItem (ρ id)) := by
  unfold Emission.writeItem
  rw [h.library.decl?]
  cases e.library.decl? id with
  | none => exact .refl _
  | some d =>
    have hbody : (d.renumber ρ).body = d.body.renumber ρ := rfl
    have hname : (d.renumber ρ).name = d.name := rfl
    simp only [Option.map_some, hbody, hname]
    cases d.body <;> exact .refl _

/-- The same enumeration is written. -/
theorem writeEnum {d : Decl} (hd : e.library.decl? d.id = some d)
    (ha : e.library.Attached d.id) :
    Mirrors Eq (e.writeEnum o d) (f.writeEnum o (d.renumber ρ)) := by
  have hitems : ∀ (described : Bool) (ids : List Nat), Mirrors Eq
      (do
        let written ← ids.filterM e.writeItem
        if written.isEmpty && !described then line "pass")
      (do
        let written ← (ids.map ρ).filterM f.writeItem
        if written.isEmpty && !described then line "pass") := by
    intro described ids
    refine (Mirrors.filterM fun id _ => h.writeItem id).bind fun written _ hwritten => ?_
    subst hwritten
    rw [List.isEmpty_map]
    exact .refl _
  unfold Emission.writeEnum
  refine (Mirrors.refl _).bind fun _ _ _ => (h.provenance o hd ha).bind fun _ _ _ => ?_
  refine Mirrors.block ((Mirrors.refl _).bind fun described _ hdescribed => ?_)
  subst hdescribed
  have hbody : (d.renumber ρ).body = d.body.renumber ρ := rfl
  rw [hbody]
  cases d.body <;> exact hitems described _

/-! ### Classes -/

theorem parameterWord? (id : Nat) : f.parameterWord? (ρ id) = e.parameterWord? id := by
  unfold Emission.parameterWord?
  rw [h.library.decl?]
  cases e.library.decl? id with
  | none => rfl
  | some d =>
    have hbody : (d.renumber ρ).body = d.body.renumber ρ := rfl
    simp only [Option.map_some, hbody]
    cases d.body <;> rfl

/-- The parameters are the same in words. -/
theorem parameterWords (p : Prototype) : f.parameterWords (p.renumber ρ) = e.parameterWords p := by
  have hparameters : (p.renumber ρ).parameters = p.parameters.map ρ := rfl
  have hwords : f.parameterWord? ∘ ρ = e.parameterWord? := funext h.parameterWord?
  unfold Emission.parameterWords
  rw [hparameters, List.filterMap_map, hwords]
  rfl

/-- The same method is mentioned. -/
theorem mentionMethod (id : Nat) : Mirrors Eq (e.mentionMethod id) (f.mentionMethod (ρ id)) := by
  unfold Emission.mentionMethod
  rw [h.library.decl?]
  cases e.library.decl? id with
  | none => exact .refl _
  | some m =>
    simp only [Option.map_some, prototype?_renumber]
    cases m.body.prototype? with
    | none => exact .refl _
    | some p =>
      have hwords : f.methodWords (m.renumber ρ) (p.renumber ρ) = e.methodWords m p := by
        unfold Emission.methodWords
        rw [h.parameterWords]
        rfl
      simp only [Option.map_some, hwords]
      exact .refl _

/-- The same class is written. -/
theorem writeClass {d : Decl} (hd : e.library.decl? d.id = some d)
    (ha : e.library.Attached d.id) :
    Mirrors Eq (e.writeClass o d) (f.writeClass o (d.renumber ρ)) := by
  have hbody : (d.renumber ρ).body = d.body.renumber ρ := rfl
  have hmethods : ((d.renumber ρ).body.record?.map (·.methods)).getD [] =
      ((d.body.record?.map (·.methods)).getD []).map ρ := by
    rw [hbody]
    cases d.body <;> rfl
  have hunion : (d.renumber ρ).body.record?.any (·.isUnion) = d.body.record?.any (·.isUnion) := by
    rw [hbody]
    cases d.body <;> rfl
  unfold Emission.writeClass
  rw [hmethods, hunion]
  refine (Mirrors.refl _).bind fun _ _ _ => (h.provenance o hd ha).bind fun _ _ _ => ?_
  refine Mirrors.block ((Mirrors.refl _).bind fun described _ hdescribed => ?_)
  subst hdescribed
  dsimp only
  split_ifs
  · exact (Mirrors.refl _).bind fun _ _ _ => Mirrors.forM fun id _ => h.mentionMethod id
  · exact .refl _
  · exact Mirrors.forM fun id _ => h.mentionMethod id
  · exact .refl _

/-! ### Layouts -/

/-- A field has the same type. -/
theorem fieldType {m : FieldMember} {k : Nat} (hk : e.library.decl? k = some m.decl) :
    Agree Eq (e.fieldType m) (f.fieldType ⟨m.decl.renumber ρ, m.type⟩) := by
  have hsignature : Agree Eq (e.fieldSignature m)
      (f.fieldSignature ⟨m.decl.renumber ρ, m.type⟩) := by
    unfold Emission.fieldSignature
    refine (h.definedType? hk).bind ?_
    rintro t _ rfl
    cases t with
    | none => exact .ok rfl
    | some id =>
      refine (h.resolve id).bind ?_
      rintro d _ ⟨-, rfl⟩
      exact .ok rfl
  unfold Emission.fieldType
  refine hsignature.bind ?_
  rintro signature _ rfl
  refine (h.lookup signature).bind ?_
  rintro t _ ⟨-, rfl⟩
  exact .ok rfl

/-- The same layout is written. -/
theorem writeLayout (d : Decl) : Mirrors Eq (e.writeLayout d) (f.writeLayout (d.renumber ρ)) := by
  unfold Emission.writeLayout
  refine (Mirrors.refl _).bind fun _ _ _ => (Mirrors.lift (h.completeBases d)).bind ?_
  rintro bases _ rfl
  rw [List.length_map]
  have hrest : Mirrors Eq
      (block (d.name ++ "._fields_ = [") (some "]") do
        ((((List.range bases.length).map baseField).zip bases).forM fun b =>
          line ("(" ++ Text.quoted b.1 ++ ", " ++ b.2.name ++ "),"))
        (e.fieldsOf d).forM fun m => do
          line ("(" ++ Text.quoted m.decl.name ++ ", " ++ (← liftM (e.fieldType m)).text ++ "),"))
      (block (d.name ++ "._fields_ = [") (some "]") do
        ((((List.range bases.length).map baseField).zip (bases.map (Decl.renumber ρ))).forM
          fun b => line ("(" ++ Text.quoted b.1 ++ ", " ++ b.2.name ++ "),"))
        (f.fieldsOf (d.renumber ρ)).forM fun m => do
          line ("(" ++ Text.quoted m.decl.name ++ ", " ++
            (← liftM (f.fieldType m)).text ++ "),")) := by
    refine Mirrors.block (Mirrors.bind (R := Eq) ?_ fun _ _ _ => ?_)
    · rw [List.zip_map_right]
      exact Mirrors.forM fun _ _ => .refl _
    · rw [h.fieldsOf]
      refine Mirrors.forM fun m hm => ?_
      obtain ⟨k, hk⟩ := exists_of_mem_fieldsOf hm
      refine (Mirrors.lift (h.fieldType hk)).bind ?_
      rintro t _ rfl
      exact .refl _
  dsimp only
  split_ifs
  · exact (Mirrors.refl _).bind fun _ _ _ => hrest
  · exact hrest

/-- The same layouts are written, in the same order. -/
theorem writeLayouts {classes : List Decl} (hordered : ∀ d ∈ classes, 0 ≤ d.order) :
    Mirrors Eq (e.writeLayouts classes) (f.writeLayouts (classes.map (Decl.renumber ρ))) := by
  unfold Emission.writeLayouts
  have hlaid := Agree.filterM (g := Decl.renumber ρ) (l := classes)
    (f := fun d => (e.library.hasLayout d).mapError Fault.graph)
    (k := fun d => (f.library.hasLayout d).mapError Fault.graph) fun d _ => by
      rw [h.hasLayout]
      exact .refl _
  refine (Mirrors.lift hlaid.known).bind ?_
  rintro laidOut _ ⟨hok, rfl⟩
  have hsub := subset_of_filterM_ok hok
  rw [List.isEmpty_map]
  split_ifs
  · refine (Mirrors.refl _).bind fun _ _ _ => ?_
    refine (Mirrors.lift (h.layoutOrder fun d hd => hordered d (hsub hd))).bind ?_
    rintro ds _ rfl
    exact Mirrors.forM fun d _ => h.writeLayout d
  · exact .refl _

/-! ### Functions -/

theorem parameterTypes (p : Prototype) :
    Agree Eq (e.parameterTypes p) (f.parameterTypes (p.renumber ρ)) := by
  unfold Emission.parameterTypes
  refine (Agree.filterMapM (r := fun t => t) (g := ρ) (l := p.parameters) fun id _ => ?_).mono
    fun ts ts' hts => by rw [hts, List.map_id']
  unfold Emission.parameterType?
  rw [h.library.decl?]
  cases e.library.decl? id with
  | none => exact .ok rfl
  | some d =>
    have hbody : (d.renumber ρ).body = d.body.renumber ρ := rfl
    simp only [Option.map_some, hbody]
    cases d.body <;> try exact .ok rfl
    refine (h.lookup _).bind ?_
    rintro t _ ⟨-, rfl⟩
    exact .ok rfl

/-- The same function is bound. -/
theorem writeFunction {d : Decl} (hd : e.library.decl? d.id = some d)
    (ha : e.library.Attached d.id) :
    Mirrors Eq (e.writeFunction o d) (f.writeFunction o (d.renumber ρ)) := by
  unfold Emission.writeFunction
  rw [prototype?_renumber]
  refine (Mirrors.refl _).bind fun _ _ _ => (h.provenance o hd ha).bind fun _ _ _ => ?_
  cases d.body.prototype? with
  | none => exact .refl _
  | some p =>
    refine (Mirrors.lift (h.lookup p.returnType)).bind ?_
    rintro t _ ⟨-, rfl⟩
    refine (Mirrors.lift (h.parameterTypes p)).bind ?_
    rintro ts _ rfl
    exact .refl _

/-! ### The module -/

/-- The same names are given away. -/
theorem exports (classes : List Decl) :
    f.exports (classes.map (Decl.renumber ρ)) = e.exports classes := by
  unfold Emission.exports
  rw [h.library.emittedEnums h.sound, h.library.emittedFunctions h.sound, ← List.map_append,
    ← List.map_append, List.map_map]
  rfl

/-- The same module is written. -/
theorem writeModule : Mirrors Eq (e.writeModule o) (f.writeModule o) := by
  have hclass : ∀ d ∈ e.library.emittedClasses,
      e.library.Attached d.id ∧ e.library.decl? d.id = some d := by
    intro d hd
    exact h.sound.isTree.attached_of_mem_classes
      (List.mem_filter.1 (List.mem_mergeSort.1 hd)).1
  have hwalk : ∀ (p : Decl → Bool), ∀ d ∈ Library.inOrder (e.library.walk.filter p),
      e.library.Attached d.id ∧ e.library.decl? d.id = some d := by
    intro p d hd
    exact h.sound.isTree.decl?_of_mem_walk (List.mem_filter.1 (List.mem_mergeSort.1 hd)).1
  unfold Emission.writeModule
  rw [h.library.emittedClasses h.sound, h.library.emittedEnums h.sound,
    h.library.emittedFunctions h.sound]
  refine (Mirrors.refl _).bind fun _ _ _ => ?_
  refine (Mirrors.forM fun d hd => h.writeEnum o (hwalk _ d hd).2 (hwalk _ d hd).1).bind
    fun _ _ _ => ?_
  refine (Mirrors.forM fun d hd => h.writeClass o (hclass d hd).2 (hclass d hd).1).bind
    fun _ _ _ => ?_
  refine (h.writeLayouts fun d hd => h.sound.ordered d.id d (hclass d hd).2).bind fun _ _ _ => ?_
  have hfunctions : Mirrors Eq (e.library.emittedFunctions.forM (e.writeFunction o))
      ((e.library.emittedFunctions.map (Decl.renumber ρ)).forM (f.writeFunction o)) :=
    Mirrors.forM fun d hd => h.writeFunction o (hwalk _ d hd).2 (hwalk _ d hd).1
  have hexports : Mirrors Eq (e.writeExports e.library.emittedClasses)
      (f.writeExports (e.library.emittedClasses.map (Decl.renumber ρ))) := by
    unfold Emission.writeExports
    rw [h.exports]
    exact .refl _
  dsimp only
  rw [List.isEmpty_map]
  split_ifs
  · exact (Mirrors.refl _).bind fun _ _ _ => hfunctions.bind fun _ _ _ => hexports
  · exact hexports

/-- The text of the module is the same. -/
theorem moduleText : Agree Eq (e.moduleText o) (f.moduleText o) := by
  unfold Emission.moduleText
  refine (h.writeModule o (Code.empty "    ")).bind ?_
  rintro ⟨_, c⟩ ⟨_, c'⟩ ⟨-, hc⟩
  obtain rfl : c' = c := hc
  exact .ok rfl

end Emission.Renumbered

end Bindery
