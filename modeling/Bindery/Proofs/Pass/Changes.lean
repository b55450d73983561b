import Bindery.Proofs.Declaration.Operations
import Bindery.Proofs.Pass.Builtins
import Bindery.Transform.Request

/-!
# What declarations keep

Between the reading of headers and the writing of a module a library is changed by passes, by
requests of transforms and by single operations, in any order. Some of them rename and some are
refused. A declaration stays under its number all the while, of its form and with the name that it
was created with, and lists of parameters go on to hold nothing but parameters.
-/

namespace Bindery

/-- What a declaration keeps whatever is done to its library. -/
structure Decl.Lasting (d e : Decl) : Prop where
  /-- The form stays. -/
  form : e.body.form = d.body.form
  /-- The name it was created with stays. -/
  firstName : e.firstName = d.firstName
  /-- No parameters are added. -/
  parameters : e.body.listOf "parameters" ⊆ d.body.listOf "parameters"

theorem Decl.Lasting.refl (d : Decl) : d.Lasting d :=
  ⟨rfl, rfl, List.Subset.refl _⟩

theorem Decl.PrunedTo.lasting {d e : Decl} (h : d.PrunedTo e) : d.Lasting e :=
  ⟨h.form, h.firstName, (h.lists "parameters").subset⟩

/-- What is put on a list of parameters is a parameter. -/
theorem Form.eq_parameter_of_listFor? {f g : Form} (h : f.listFor? g = some "parameters") :
    g = .parameter := by
  cases f <;> cases g <;> first | rfl | simp [Form.listFor?] at h

namespace Library

variable {lib mid out : Library}

/-- Lists of parameters hold parameters. -/
def HoldsParameters (lib : Library) : Prop :=
  ∀ k d, lib.decl? k = some d → ∀ id ∈ d.body.listOf "parameters",
    ∃ e, lib.decl? id = some e ∧ e.body.form = .parameter

theorem Ranked.holdsParameters (h : lib.Ranked) : lib.HoldsParameters := by
  intro k d hd id hid
  obtain ⟨e, he, -, hfor⟩ := (h.lists k d "parameters" hd).2 id hid
  exact ⟨e, he, Form.eq_parameter_of_listFor? hfor⟩

/-- Declarations stay what they were created as. -/
structure Lasts (lib out : Library) : Prop where
  /-- A declaration stays under its number, of its form and with its first name. -/
  decl : ∀ k d, lib.decl? k = some d →
    ∃ e, out.decl? k = some e ∧ e.body.form = d.body.form ∧ e.firstName = d.firstName
  /-- Lists of parameters still hold parameters. -/
  parameters : lib.HoldsParameters → out.HoldsParameters

namespace Lasts

theorem refl (lib : Library) : lib.Lasts lib :=
  ⟨fun _ d hd => ⟨d, hd, rfl, rfl⟩, fun h => h⟩

theorem trans (h : lib.Lasts mid) (h' : mid.Lasts out) : lib.Lasts out where
  decl := by
    intro k c hc
    obtain ⟨d, hd, hform, hname⟩ := h.decl k c hc
    obtain ⟨e, he, hform', hname'⟩ := h'.decl k d hd
    exact ⟨e, he, hform'.trans hform, hname'.trans hname⟩
  parameters := fun hp => h'.parameters (h.parameters hp)

instance : IsPreorder Library Lasts where
  refl := refl
  trans _ _ _ := trans

/-- Declarations in their places that keep what lasts. -/
theorem of_decl? (h : ∀ k, Option.Rel Decl.Lasting (lib.decl? k) (out.decl? k)) :
    lib.Lasts out := by
  have hlast : ∀ k d, lib.decl? k = some d → ∃ e, out.decl? k = some e ∧ d.Lasting e := by
    intro k d hd
    have hk := h k
    rw [hd] at hk
    cases he : out.decl? k with
    | none =>
      rw [he] at hk
      cases hk
    | some e =>
      rw [he] at hk
      cases hk with
      | some hde => exact ⟨e, rfl, hde⟩
  refine ⟨fun k d hd => ?_, fun hp k e he id hid => ?_⟩
  · obtain ⟨e, he, hde⟩ := hlast k d hd
    exact ⟨e, he, hde.form, hde.firstName⟩
  · have hk := h k
    rw [he] at hk
    cases hd : lib.decl? k with
    | none =>
      rw [hd] at hk
      cases hk
    | some d =>
      rw [hd] at hk
      cases hk with
      | some hde =>
        obtain ⟨p, hparam, hform⟩ := hp k d hd id (hde.parameters hid)
        obtain ⟨q, hq, hpq⟩ := hlast id p hparam
        exact ⟨q, hq, hpq.form.trans hform⟩

theorem of_decl?_eq (h : ∀ k, out.decl? k = lib.decl? k) : lib.Lasts out := by
  refine .of_decl? fun k => ?_
  rw [h k]
  cases lib.decl? k with
  | none => exact .none
  | some d => exact .some (.refl d)

theorem update {id : Nat} {f : Decl → Decl} (hf : ∀ d, lib.decl? id = some d → d.Lasting (f d)) :
    lib.Lasts (lib.update id f) :=
  .of_decl? (matches_update Decl.Lasting.refl hf).decl?

/-- A new declaration that lists nothing. -/
theorem append (lib : Library) {d : Decl} (hempty : ∀ list, d.body.listOf list = []) :
    lib.Lasts (lib.append d) := by
  have hold : ∀ k e, lib.decl? k = some e → (lib.append d).decl? k = some e := by
    intro k e he
    rw [decl?_append, if_neg (Nat.ne_of_lt (lt_created_of_decl? he)), he]
  refine ⟨fun k e he => ⟨e, hold k e he, rfl, rfl⟩, fun hp k e he id hid => ?_⟩
  rw [decl?_append] at he
  split_ifs at he
  · cases he
    rw [hempty] at hid
    exact absurd hid List.not_mem_nil
  · obtain ⟨p, hparam, hform⟩ := hp k e he id hid
    exact ⟨p, hold id p hparam, hform⟩

/-- A declaration put on the list for its form. -/
theorem insert {p c : Nat} {o d : Decl} {b : Body} (ho : lib.decl? p = some o)
    (hc : lib.decl? c = some d) (hb : o.body.insert? d.body c = some b) :
    lib.Lasts (lib.update p fun o => { o with body := b }) := by
  obtain ⟨list, hfor, hform, hlists⟩ := Body.insert?_eq_some hb
  have hstay : ∀ k a, lib.decl? k = some a → ∃ e,
      (lib.update p fun o => { o with body := b }).decl? k = some e ∧
        e.body.form = a.body.form ∧ e.firstName = a.firstName := by
    intro k a ha
    rw [decl?_update, ha]
    split_ifs with hk
    · subst hk
      rw [ho] at ha
      cases ha
      exact ⟨_, rfl, hform, rfl⟩
    · exact ⟨a, rfl, rfl, rfl⟩
  refine ⟨hstay, fun hp k e he id hid => ?_⟩
  have hheld : ∃ q, lib.decl? id = some q ∧ q.body.form = .parameter := by
    rw [decl?_update] at he
    split_ifs at he with hk
    · subst hk
      rw [ho] at he
      cases he
      rw [hlists] at hid
      split_ifs at hid with hlist
      · subst hlist
        rcases List.mem_append.1 hid with hid | hid
        · exact hp p o ho id hid
        · rw [List.mem_singleton.1 hid]
          exact ⟨d, hc, Form.eq_parameter_of_listFor? hfor⟩
      · exact hp p o ho id hid
    · exact hp k e he id hid
  obtain ⟨q, hq, hparam⟩ := hheld
  obtain ⟨e', he', hform', -⟩ := hstay id q hq
  exact ⟨e', he', hform'.trans hparam⟩

end Lasts

theorem PrunedTo.lasts (h : lib.PrunedTo out) : lib.Lasts out :=
  .of_decl? (h.slots.mono fun _ _ hde => hde.lasting).decl?

end Library

/-! ### Operations -/

namespace Edit

open Library

theorem look_lasts {α : Type} (f : Library → Except GraphFault α) :
    Leaves Lasts (Edit.look f) := by
  intro lib
  rw [outcomeOf_editLook]
  exact .refl lib

theorem update_lasts {id : Nat} {f : Decl → Decl} (hf : ∀ d : Decl, d.Lasting (f d)) :
    Leaves Lasts (Edit.update id f) :=
  fun _ => .update fun d _ => hf d

theorem rename_lasts (id : Nat) (name : String) : Leaves Lasts (Edit.rename id name) :=
  update_lasts fun d => (d.prunedTo_rename name).lasting

theorem remove_lasts (id : Nat) : Leaves Lasts (Edit.remove id) :=
  fun lib => (Edit.remove_prunedTo lib id).1.lasts

theorem sort_lasts : Leaves Lasts Edit.sort := by
  refine Leaves.get.bind fun lib => .forM fun id _ mid => .of_decl? fun k => ?_
  show Option.Rel _ _ ((mid.sortClassLists _).decl? k)
  rw [decl?_sortClassLists]
  cases mid.decl? k with
  | none => exact .none
  | some d =>
    refine .some ?_
    dsimp only
    split_ifs
    · refine ⟨?_, rfl, (mid.listOf_sortClassesOf_perm _ _).subset⟩
      simp only [sortClassesOf_eq_withClasses, Body.form_withClasses]
    · exact .refl d

end Edit

/-- Whatever operation is made, declarations stay what they were created as. -/
theorem Library.Step.lasts {lib out : Library} (hs : lib.Step out) : lib.Lasts out := by
  cases hs with
  | @create form parent attributes given d scope accepted made =>
    obtain ⟨-, -, -, -, hempty⟩ := newDecl?_fresh accepted made
    have happend := Lasts.append lib hempty
    rcases create_cases scope accepted made with hout | ⟨p, o, b, -, ho, hb, hout⟩ <;> rw [hout]
    · exact happend
    · refine happend.trans (.insert (c := lib.created) (o := o) (d := d) ?_ ?_ hb)
      · rw [decl?_append, if_neg (Nat.ne_of_lt (lt_created_of_decl? ho)), ho]
      · rw [decl?_append, if_pos rfl]
  | @addUnit id d found form root unlisted =>
    have hout := outcomeOf_addUnit lib id
    split_ifs at hout
    · rw [hout]
      exact .of_decl?_eq fun _ => rfl
    · obtain ⟨f, hout⟩ := hout
      rw [hout]
      exact .refl lib
  | remove id => exact Edit.remove_lasts id lib
  | rename id name => exact Edit.rename_lasts id name lib
  | sort => exact Edit.sort_lasts lib
  | @discard id d found root unlisted => exact .of_decl?_eq (decl?_discard lib id)

/-! ### Requests of transforms -/

namespace Edit

open Library

theorem ignoreAll_lasts (ds : List Decl) (test : Decl → Library → Except GraphFault Bool) :
    Leaves Lasts (ignoreAll ds test) := by
  refine .foldlM (fun n d _ => (look_lasts _).bind fun isMeant => ?_) 0
  split_ifs
  · refine Leaves.bind (update_lasts fun d => ?_) fun _ => .pure _
    exact ⟨rfl, rfl, List.Subset.refl _⟩
  · exact .pure _

theorem changeClass_lasts {name : String} {change : Nat → Edit Unit}
    (h : ∀ id, Leaves Lasts (change id)) : Leaves Lasts (changeClass name change) := by
  refine (look_lasts _).bind fun found => ?_
  cases found with
  | none => exact .pure _
  | some d => exact (h d.id).bind fun _ => .pure _

/-- Whatever a transform asks for, declarations stay what they were created as. -/
theorem answer_lasts (r : Request String) : Leaves Lasts (answer r) := by
  cases r with
  | findClasses | findClass | findNamespace | findFunction =>
    exact (look_lasts _).bind fun _ => .pure _
  | findEnums => exact Leaves.get.bind fun _ => .pure _
  | ignoreClasses | ignoreFunctions =>
    exact Leaves.get.bind fun _ => (ignoreAll_lasts _ _).bind fun _ => .pure _
  | markValueType name =>
    refine changeClass_lasts fun id => update_lasts fun d => ⟨?_, rfl, ?_⟩
    · cases d.body <;> rfl
    · cases d.body <;> exact List.Subset.refl _
  | markOpaque name =>
    exact changeClass_lasts fun id => update_lasts fun d => ⟨rfl, rfl, List.Subset.refl _⟩
  | renameClass name new => exact changeClass_lasts fun id => rename_lasts id new
  | removeClass name =>
    exact (look_lasts _).bind fun found =>
      (Leaves.forM fun d _ => remove_lasts d.id).bind fun _ => .pure _
  | nameEnum item new =>
    refine Leaves.get.bind fun lib => ?_
    cases lib.enumerations.find? (lib.hasItem item) with
    | none => exact .pure _
    | some d => exact (rename_lasts d.id new).bind fun _ => .pure _

end Edit

/-! ### Passes -/

namespace PassM

open Library

/-- What is left for a declaration to be after a step of a pass. -/
abbrev Lasts (s t : PassState Library) : Prop :=
  s.library.Lasts t.library

instance : IsPreorder (PassState Library) Lasts where
  refl s := .refl s.library
  trans _ _ _ := .trans

theorem edit_lasts {α : Type} {e : Edit α} (h : Leaves Library.Lasts e) :
    Leaves Lasts (PassM.edit e) := by
  intro s
  rw [outcomeOf_edit]
  exact h s.library

/-- What the visits of a declaration and of what lies inside it leave is what a visit leaves. -/
theorem visit_leaves {R : PassState Library → PassState Library → Prop}
    [IsPreorder (PassState Library) R] {hook : Kind → Nat → PassM Library Bool}
    (h : ∀ label id, Leaves R (hook label id)) (levels : Nat) (label : Kind) (id : Nat) :
    Leaves R (visit hook levels label id) := by
  induction levels generalizing label id with
  | zero => exact .pure _
  | succ levels ih =>
    unfold visit
    refine (h label id).bind fun goesOn => ?_
    have hlists : Leaves R ((listsOf label).forM fun entry => do
        let inside := (((← get).library.decl? id).map (·.body.listOf entry.1)).getD []
        inside.forM (visit hook levels entry.2)) :=
      .forM fun _ _ => Leaves.get.bind fun _ => .forM fun child _ => ih _ child
    split_ifs
    · exact (ih .space id).bind fun _ => hlists
    · exact hlists
    · exact .pure _

/-- What a visitor ends with at a declaration that goes by a name then. -/
def finish (script : VisitScript) (label : Kind) (name : String) : PassM Library Bool := do
  match script.fail.find? (·.1 == name) with
  | some (_, failure) => throw (.raised failure)
  | none => pure ()
  return !script.skip.contains label.word

theorem finish_lasts (script : VisitScript) (label : Kind) (name : String) :
    Leaves Lasts (finish script label name) := by
  unfold finish
  cases script.fail.find? (·.1 == name) with
  | none => exact .pure _
  | some failure => exact (Leaves.throw _).bind fun _ => .pure _

theorem act_lasts (script : VisitScript) (newNames : List (String × String)) (label : Kind)
    (id : Nat) : Leaves Lasts (act script newNames label id) := by
  have hname : Leaves Lasts (nameNow id) := Leaves.get.bind fun _ => .pure _
  have harrive : Leaves Lasts (arrive script.name label id) :=
    hname.bind fun _ s => .refl s.library
  have hremove : Leaves Lasts (PassM.edit (Edit.remove id)) := edit_lasts (Edit.remove_lasts id)
  have hend : Leaves Lasts (nameNow id >>= finish script label) :=
    hname.bind (finish_lasts script label)
  have hrest : Leaves Lasts (do
      if (script.remove.filterMap (·.text?)).contains (← nameNow id) then edit (Edit.remove id)
      finish script label (← nameNow id) : PassM Library Bool) := by
    refine hname.bind fun name => ?_
    dsimp only
    split_ifs
    · exact hremove.bind fun _ => hend
    · exact hend
  unfold act
  refine hname.bind fun name => harrive.bind fun _ => ?_
  cases newNames.find? (·.1 == name) with
  | none => exact hrest
  | some renamed => exact (edit_lasts (Edit.rename_lasts id renamed.2)).bind fun _ => hrest

theorem visitLibrary_lasts (script : VisitScript) (newNames : List (String × String)) :
    Leaves Lasts (visitLibrary script newNames) :=
  Leaves.get.bind fun _ => .forM fun id _ =>
    visit_leaves (act_lasts script newNames) _ .unit id

/-- A call with the library leaves the library as it is. -/
theorem library_call {L : Type} (script : CallScript) (size : Nat) (s : PassState L) :
    (outcomeOf (call script size) s).2.library = s.library := by
  unfold call note
  rw [outcomeOf_bind_ok (outcomeOf_modify ..)]
  cases script.fail <;> rfl

/-- What is loosened stays so. -/
theorem exists_library_loosely (m : PassM LooseLibrary Unit) (s : PassState Graph) :
    ∃ l, (outcomeOf (loosely m) s).2.library = .loose l := by
  unfold loosely
  rw [outcomeOf_bind_ok (outcomeOf_get s), outcomeOf_onPart]
  exact ⟨_, rfl⟩

end PassM

/-- Whatever a pass does, as long as it gives no names but texts, declarations stay what they were
created as. -/
theorem Pass.lasts {p : Pass} {s : PassState Graph} {lib out : Library}
    (hs : s.library = .typed lib) (ht : (outcomeOf p.action s).2.library = .typed out) :
    lib.Lasts out := by
  have htyped : ∀ (typedly : PassM Library Unit) {m : PassM LooseLibrary Unit},
      Leaves PassM.Lasts typedly → p.action = .either typedly m → lib.Lasts out := by
    intro typedly m hlasts hp
    rw [hp, PassM.outcomeOf_either_typed hs] at ht
    cases ht
    exact hlasts ⟨lib, s.log, s.tally⟩
  cases p with
  | resolveIncomplete => exact htyped _ (fun s => (PassM.resolveIncomplete_prunedTo s).lasts) rfl
  | cleanNames =>
    exact htyped PassM.cleanNames (fun s => s.library.renamedTo_cleanNames.prunedTo.lasts) rfl
  | separateOverloads =>
    refine htyped PassM.separateOverloads (fun s => ?_) rfl
    obtain ⟨t, hrun, hrenamed⟩ := PassM.outcomeOf_separateOverloads s
    rw [hrun]
    exact hrenamed.prunedTo.lasts
  | separateModuleNames =>
    exact htyped _ (fun s => (PassM.separateModuleNames_renamedTo s).prunedTo.lasts) rfl
  | visitor script =>
    cases hnames : script.newNames? with
    | some names =>
      refine htyped _ (m := PassM.visitLooseLibrary script)
        (PassM.visitLibrary_lasts script names) ?_
      simp only [action, hnames]
    | none =>
      simp only [action, hnames] at ht
      obtain ⟨l, hl⟩ := PassM.exists_library_loosely (PassM.visitLooseLibrary script) s
      rw [hl] at ht
      cases ht
  | call script =>
    have hsame : (outcomeOf (Pass.call script).action s).2.library = s.library :=
      PassM.library_call script s.library.size s
    rw [hsame, hs] at ht
    cases ht
    exact .refl lib

/-! ### Changes one after the other -/

namespace Library

variable {lib out : Library}

/-- One change of a library and what it leaves, whether it is refused or not. -/
inductive Change (lib : Library) : Library → Prop where
  /-- A pass of any sort. -/
  | pass {p : Pass} {s : PassState Graph} {out : Library} (before : s.library = .typed lib)
    (behind : (outcomeOf p.action s).2.library = .typed out) : Change lib out
  /-- What a transform asks for. -/
  | request (r : Request String) : Change lib (outcomeOf (Edit.answer r) lib).2
  /-- Any other operation. -/
  | operation {out : Library} (h : lib.Step out) : Change lib out

/-- Any number of changes, one after the other. -/
def Changes : Library → Library → Prop :=
  Relation.ReflTransGen Change

/-- A change leaves declarations what they were created as. -/
theorem Change.lasts (h : lib.Change out) : lib.Lasts out := by
  cases h with
  | pass before behind => exact Pass.lasts before behind
  | request r => exact Edit.answer_lasts r lib
  | operation h => exact h.lasts

/-- So does any number of them. -/
theorem Changes.lasts (h : lib.Changes out) : lib.Lasts out := by
  induction h with
  | refl => exact .refl lib
  | tail _ hlast ih => exact ih.trans hlast.lasts

end Library

end Bindery
