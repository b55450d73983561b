import Bindery.Header.Build
import Bindery.Proofs.Declaration.Creation
import Bindery.Proofs.Declaration.Renumber
import Bindery.Proofs.Declaration.Tree
import Bindery.Proofs.Header.Growth
import Bindery.Proofs.Step

/-!
# Libraries put behind each other

The declarations of one library can be put behind those of another one, with all their numbers
moved up. A step that only knows of declarations by numbers it is given does behind another library
what it does on its own, with numbers moved up: such steps are told from their parts here, and
creating a declaration, or looking at the name or the form of one, is such a step.
-/

namespace Bindery

namespace Library

variable (old lib : Library)

/-- A number moved up behind the declarations of a library. -/
abbrev up (id : Nat) : Nat := id + old.created

/-- A library with the declarations of another one behind its own. -/
def graft : Library :=
  { old with slots := old.slots ++ lib.slots.map (Slot.renumber old.up) }

theorem created_graft : (old.graft lib).created = old.created + lib.created := by
  simp [created, graft]

theorem slots_graft_of_lt {id : Nat} (h : id < old.created) :
    (old.graft lib).slots[id]? = old.slots[id]? :=
  List.getElem?_append_left h

theorem slots_graft (id : Nat) :
    (old.graft lib).slots[old.up id]? =
      (lib.slots[id]?).map (Slot.renumber old.up) := by
  have hle : old.slots.length ≤ id + old.created := Nat.le_add_left _ _
  have hsub : id + old.created - old.slots.length = id := Nat.add_sub_cancel id old.slots.length
  show (old.slots ++ lib.slots.map (Slot.renumber old.up))[old.up id]? = _
  rw [List.getElem?_append_right hle, List.getElem?_map, hsub]

theorem decl?_graft (id : Nat) :
    (old.graft lib).decl? (old.up id) =
      (lib.decl? id).map (Decl.renumber old.up) := by
  unfold decl?
  rw [slots_graft, Option.map_map, Option.map_map]
  rfl

theorem registered?_graft (id : Nat) :
    (old.graft lib).registered? (old.up id) =
      (lib.registered? id).map (Decl.renumber old.up) := by
  unfold registered?
  rw [slots_graft]
  cases lib.slots[id]? with
  | none => rfl
  | some s => cases hs : s.registered <;> simp [Option.filter, Slot.renumber, hs]

theorem graft_append (d : Decl) :
    old.graft (lib.append d) = (old.graft lib).append (d.renumber old.up) := by
  simp [graft, append, Slot.renumber]

/-- A change behind another library that is the same change with numbers moved up. -/
theorem graft_update {f g : Decl → Decl} (id : Nat)
    (h : ∀ d, g (d.renumber old.up) = (f d).renumber old.up) :
    (old.graft lib).update (old.up id) g = old.graft (lib.update id f) := by
  have hc : old.created = old.slots.length := rfl
  unfold update graft
  simp only [Library.mk.injEq, true_and]
  refine List.ext_getElem? fun k => ?_
  rw [List.getElem?_modify]
  by_cases hk : k < old.slots.length
  · have hne : id + old.created ≠ k := by omega
    rw [List.getElem?_append_left hk, List.getElem?_append_left hk]
    cases old.slots[k]? <;> simp [hne]
  · rw [List.getElem?_append_right (by omega), List.getElem?_append_right (by omega),
      List.getElem?_map, List.getElem?_map, List.getElem?_modify]
    by_cases he : id = k - old.slots.length
    · have he' : id + old.created = k := by omega
      cases lib.slots[k - old.slots.length]? <;> simp [← he, he', Slot.renumber, h]
    · have he' : id + old.created ≠ k := by omega
      cases lib.slots[k - old.slots.length]? <;> simp [he, he']

end Library

/-! ### Steps behind another library -/

variable {ε α β γ δ : Type}

/-- One step does behind a library what another one does on its own, with numbers moved up; `g`
moves the numbers of the result. -/
def MovesUp (old : Library) (g : α → β) (m : ExceptT ε (StateM Library) α)
    (m' : ExceptT ε (StateM Library) β) : Prop :=
  ∀ lib, outcomeOf m' (old.graft lib) = ((outcomeOf m lib).1.map g, old.graft (outcomeOf m lib).2)

namespace MovesUp

variable {old : Library} {g : α → β} {k : γ → δ}

theorem pure (a : α) : MovesUp (ε := ε) old g (pure a) (pure (g a)) :=
  fun _ => rfl

theorem throw (e : ε) : MovesUp old g (MonadExcept.throw e : ExceptT ε (StateM Library) α)
    (MonadExcept.throw e : ExceptT ε (StateM Library) β) :=
  fun _ => rfl

theorem bind {m : ExceptT ε (StateM Library) α} {m' : ExceptT ε (StateM Library) β}
    {f : α → ExceptT ε (StateM Library) γ} {f' : β → ExceptT ε (StateM Library) δ}
    (h : MovesUp old g m m') (hf : ∀ a, MovesUp old k (f a) (f' (g a))) :
    MovesUp old k (m >>= f) (m' >>= f') := by
  intro lib
  rw [outcomeOf_bind, outcomeOf_bind, h lib]
  cases hm : outcomeOf m lib with
  | mk r t =>
    cases r with
    | error e => rfl
    | ok a => exact hf a t

/-- Looking at the library first. -/
theorem get_bind {f : Library → ExceptT ε (StateM Library) α}
    {f' : Library → ExceptT ε (StateM Library) β}
    (hf : ∀ lib, outcomeOf (f' (old.graft lib)) (old.graft lib) =
      ((outcomeOf (f lib) lib).1.map g, old.graft (outcomeOf (f lib) lib).2)) :
    MovesUp old g (get >>= f) (get >>= f') := by
  intro lib
  rw [outcomeOf_bind_ok (outcomeOf_get _), outcomeOf_bind_ok (outcomeOf_get _)]
  exact hf lib

theorem modify {f f' : Library → Library} (hf : ∀ lib, f' (old.graft lib) = old.graft (f lib)) :
    MovesUp (ε := ε) old id (modify f) (modify f') := by
  intro lib
  rw [outcomeOf_modify, outcomeOf_modify, hf lib]
  rfl

/-- Edits as steps of reading a header. -/
theorem edit {e : Edit α} {e' : Edit β} (h : MovesUp old g e e') :
    MovesUp old g (Build.edit e) (Build.edit e') := by
  intro lib
  rw [outcomeOf_buildEdit, outcomeOf_buildEdit, h lib]
  cases (outcomeOf e lib).1 <;> rfl

end MovesUp

variable {old : Library}

/-! ### Edits -/

namespace Edit

theorem addChild_movesUp (owner child : Nat) :
    MovesUp old id (addChild owner child) (addChild (old.up owner) (old.up child)) := by
  refine MovesUp.get_bind fun lib => ?_
  rw [Library.decl?_graft, Library.decl?_graft]
  cases ho : lib.decl? owner with
  | none => rfl
  | some o =>
    cases hc : lib.decl? child with
    | none => rfl
    | some c =>
      simp only [Option.map_some, Decl.renumber, Body.insert?_renumber]
      cases hb : o.body.insert? c.body child with
      | none =>
        simp only [Option.map_none, Decl.kind, Body.kind, Body.form_renumber]
        rfl
      | some b =>
        have hmoves : ∀ lib : Library, (old.graft lib).update (old.up owner)
            (fun d => { d with body := b.renumber old.up }) =
              old.graft (lib.update owner fun d => { d with body := b }) :=
          fun lib => Library.graft_update _ _ _ fun d => rfl
        exact MovesUp.modify hmoves lib

/-- Creating a declaration whose attributes hold no numbers, inside another one or in none. -/
theorem create_movesUp {body : Body} (parent : Option Nat) {init : Decl → Decl}
    (hbody : body.renumber old.up = body)
    (hinit : ∀ d, init (d.renumber old.up) = (init d).renumber old.up) :
    MovesUp old old.up (create body parent init) (create body (parent.map old.up) init) := by
  refine MovesUp.get_bind fun lib => ?_
  have hblank : (old.graft lib).blankDecl (parent.map old.up) body =
      (lib.blankDecl parent body).renumber old.up := by
    unfold Library.blankDecl Decl.blank Decl.renumber
    rw [hbody, Library.created_graft, Nat.add_comm]
    rfl
  have hid : (old.graft lib).created = old.up lib.created := by
    rw [Library.created_graft, Nat.add_comm]
  dsimp only
  rw [outcomeOf_bind_ok (outcomeOf_set _ _), outcomeOf_bind_ok (outcomeOf_set _ _), hblank, hinit,
    ← Library.graft_append, hid]
  cases parent with
  | none => rfl
  | some p =>
    exact ((addChild_movesUp p lib.created).bind fun _ => MovesUp.pure lib.created) _

end Edit

/-! ### Looking at declarations -/

namespace Build

theorem nameOf_movesUp (a : Nat) : MovesUp old id (nameOf a) (nameOf (old.up a)) := by
  refine MovesUp.get_bind fun lib => ?_
  rw [Library.decl?_graft, Option.map_map]
  rfl

theorem isRecord_movesUp (a : Nat) : MovesUp old id (isRecord a) (isRecord (old.up a)) := by
  refine MovesUp.get_bind fun lib => ?_
  rw [Library.decl?_graft]
  cases hd : lib.decl? a with
  | none => rfl
  | some d =>
    simp only [Option.map_some, Option.any_some, Decl.renumber, Body.isRecord_renumber]
    rfl

end Build

theorem Header.create_movesUp (h : Header) {body : Body} (hbody : body.renumber old.up = body)
    (scope : Nat) (name : String) (n : SyntaxNode) (comment : String) :
    MovesUp old old.up (h.create body scope name n comment)
      (h.create body (old.up scope) name n comment) :=
  MovesUp.edit (Edit.create_movesUp (some scope) hbody fun _ => rfl)

end Bindery

/-!
## Steps of reading a header

A step of reading a header may rely on declarations being there in the forms it expects. It then
leaves a library that still grows from its unit, whether it is refused or not; nothing is lost; its
result can be relied on in turn; and behind other declarations it does the same with numbers moved
up. Steps are put together from parts that have all these properties.
-/

namespace Bindery

/-- Declarations that can be relied on to be there, each of one of some forms. -/
abbrev Known := List (Nat × List Form)

/-- Everything that is relied on is there. -/
def Library.Knows (lib : Library) (known : Known) : Prop :=
  ∀ x ∈ known, lib.HasForm x.1 x.2

theorem Library.Knows.grows {lib out : Library} {known : Known} (h : lib.Knows known)
    (hg : lib.Grows out) : out.Knows known :=
  fun x hx => (h x hx).grows hg

/-- What is known covers what is relied on: each of it is known to be of no more forms. -/
def Known.Covers (known less : Known) : Prop :=
  ∀ x ∈ less, ∃ forms, (x.1, forms) ∈ known ∧ ∀ f ∈ forms, f ∈ x.2

theorem Library.Knows.covers {lib : Library} {known less : Known} (h : lib.Knows known)
    (hc : known.Covers less) : lib.Knows less := by
  intro x hx
  obtain ⟨forms, hmem, hforms⟩ := hc x hx
  obtain ⟨d, hd, hf⟩ := h _ hmem
  exact ⟨d, hd, hforms _ hf⟩

theorem Known.covers_nil (known : Known) : known.Covers [] :=
  fun _ hx => absurd hx List.not_mem_nil

theorem Known.covers_of_mem {known : Known} {id : Nat} {forms forms' : List Form}
    (h : (id, forms) ∈ known) (hsub : ∀ f ∈ forms, f ∈ forms') : known.Covers [(id, forms')] := by
  intro x hx
  obtain rfl := List.mem_singleton.1 hx
  exact ⟨forms, h, hsub⟩

variable {α β γ δ : Type}

/-- A step that relies on some declarations leaves a library that goes on growing from its unit,
whether it is refused or not; nothing is lost, and its result can be relied on. -/
def GrowsBy (known : Known) (m : Build α) (gained : α → Known) : Prop :=
  ∀ lib, lib.Growing → lib.Knows known →
    (outcomeOf m lib).2.Growing ∧ lib.Grows (outcomeOf m lib).2 ∧
      ∀ a, (outcomeOf m lib).1 = .ok a → (outcomeOf m lib).2.Knows (gained a)

namespace GrowsBy

variable {known : Known}

theorem weaken {less : Known} {m : Build α} {gained : α → Known} (h : GrowsBy less m gained)
    (hc : known.Covers less) : GrowsBy known m gained :=
  fun lib hlib hk => h lib hlib (hk.covers hc)

/-- A step that leaves the library alone. -/
theorem of_same {m : Build α} {gained : α → Known} (hsame : ∀ lib, (outcomeOf m lib).2 = lib)
    (hgained : ∀ lib a, lib.Growing → lib.Knows known → (outcomeOf m lib).1 = .ok a →
      lib.Knows (gained a)) : GrowsBy known m gained := by
  intro lib hlib hk
  rw [hsame]
  exact ⟨hlib, .refl lib, fun a ha => hgained lib a hlib hk ha⟩

theorem pure {gained : α → Known} (a : α) (h : known.Covers (gained a)) :
    GrowsBy known (Pure.pure a) gained := by
  refine of_same (fun _ => rfl) fun lib b _ hk hb => ?_
  cases hb
  exact hk.covers h

theorem throw {gained : α → Known} (e : Fault) :
    GrowsBy known (MonadExcept.throw e : Build α) gained :=
  of_same (fun _ => rfl) fun _ _ _ _ ha => by cases ha

theorem bind {m : Build α} {f : α → Build γ} {gained : α → Known} {last : γ → Known}
    (h : GrowsBy known m gained) (hf : ∀ a, GrowsBy (gained a ++ known) (f a) last) :
    GrowsBy known (m >>= f) last := by
  intro lib hlib hk
  obtain ⟨hgrow, hgrows, hgained⟩ := h lib hlib hk
  rw [outcomeOf_bind]
  cases hm : outcomeOf m lib with
  | mk r t =>
    rw [hm] at hgrow hgrows hgained
    cases r with
    | error e => exact ⟨hgrow, hgrows, fun a ha => by cases ha⟩
    | ok a =>
      have hknows : t.Knows (gained a ++ known) := by
        intro x hx
        rcases List.mem_append.1 hx with hx | hx
        · exact hgained a rfl x hx
        · exact hk.grows hgrows x hx
      obtain ⟨hgrow', hgrows', hlast⟩ := hf a t hgrow hknows
      exact ⟨hgrow', hgrows.trans hgrows', hlast⟩

end GrowsBy

/-- What reading a header in steps comes to: `known` is what the step `m` relies on, and `gained`
what can be relied on behind it; `m'` is the same step behind other declarations, and `g` moves the
numbers of the result. -/
structure Reads (old : Library) (known : Known) (g : α → β) (m : Build α) (m' : Build β)
    (gained : α → Known) : Prop where
  /-- Behind other declarations the step does the same. -/
  movesUp : MovesUp old g m m'
  /-- The library goes on growing from its unit. -/
  grows : ∀ lib, lib.Growing → lib.Knows known →
    (outcomeOf m lib).2.Growing ∧ lib.Grows (outcomeOf m lib).2 ∧
      ∀ a, (outcomeOf m lib).1 = .ok a → (outcomeOf m lib).2.Knows (gained a)

namespace Reads

variable {old : Library} {known : Known} {g : α → β} {k : γ → δ}

/-- More can be known than is relied on. -/
theorem weaken {less : Known} {m : Build α} {m' : Build β} {gained : α → Known}
    (h : Reads old less g m m' gained) (hc : known.Covers less) : Reads old known g m m' gained :=
  ⟨h.movesUp, GrowsBy.weaken h.grows hc⟩

/-- What was gained on the way may be left aside. -/
theorem forget {extra : Known} {m : Build α} {m' : Build β} {gained : α → Known}
    (h : Reads old known g m m' gained) : Reads old (extra ++ known) g m m' gained :=
  h.weaken fun x hx => ⟨x.2, List.mem_append_right _ hx, fun _ hf => hf⟩

/-- A step that leaves the library alone. -/
theorem of_same {m : Build α} {m' : Build β} {gained : α → Known} (h : MovesUp old g m m')
    (hsame : ∀ lib, (outcomeOf m lib).2 = lib)
    (hgained : ∀ lib a, lib.Growing → lib.Knows known → (outcomeOf m lib).1 = .ok a →
      lib.Knows (gained a)) : Reads old known g m m' gained :=
  ⟨h, GrowsBy.of_same hsame hgained⟩

theorem pure {gained : α → Known} (a : α) (h : known.Covers (gained a)) :
    Reads old known g (Pure.pure a) (Pure.pure (g a)) gained :=
  ⟨MovesUp.pure a, GrowsBy.pure a h⟩

theorem throw {gained : α → Known} (e : Fault) :
    Reads old known g (MonadExcept.throw e : Build α) (MonadExcept.throw e : Build β) gained :=
  ⟨MovesUp.throw e, GrowsBy.throw e⟩

theorem bind {m : Build α} {m' : Build β} {f : α → Build γ} {f' : β → Build δ}
    {gained : α → Known} {last : γ → Known} (h : Reads old known g m m' gained)
    (hf : ∀ a, Reads old (gained a ++ known) k (f a) (f' (g a)) last) :
    Reads old known k (m >>= f) (m' >>= f') last :=
  ⟨h.movesUp.bind fun a => (hf a).movesUp, GrowsBy.bind h.grows fun a => (hf a).grows⟩

theorem forM {l : List γ} {f f' : γ → Build PUnit}
    (hf : ∀ a ∈ l, Reads old known id (f a) (f' a) fun _ => []) :
    Reads old known id (l.forM f) (l.forM f') fun _ => [] := by
  induction l with
  | nil => exact pure PUnit.unit known.covers_nil
  | cons a l ih =>
    exact (hf a (List.mem_cons_self ..)).bind fun _ =>
      (ih fun x hx => hf x (List.mem_cons_of_mem _ hx))

/-- Steps one after the other, each with the result of the one before it. -/
theorem foldlM {l : List γ} {f : α → γ → Build α} {f' : β → γ → Build β} {gained : α → Known}
    (hf : ∀ a, ∀ c ∈ l, Reads old (gained a ++ known) g (f a c) (f' (g a) c) gained) (a : α) :
    Reads old (gained a ++ known) g (l.foldlM f a) (l.foldlM f' (g a)) gained := by
  induction l generalizing a with
  | nil => exact pure a fun x hx => ⟨x.2, List.mem_append_left _ hx, fun _ hf => hf⟩
  | cons c l ih =>
    rw [List.foldlM_cons, List.foldlM_cons]
    refine (hf a c (List.mem_cons_self ..)).bind fun b => ?_
    refine (ih (fun b x hx => hf b x (List.mem_cons_of_mem _ hx)) b).weaken fun x hx => ?_
    refine ⟨x.2, ?_, fun _ hf => hf⟩
    rcases List.mem_append.1 hx with hx | hx
    · exact List.mem_append_left _ hx
    · exact List.mem_append_right _ (List.mem_append_right _ hx)

/-- Steps one after the other that gain nothing. -/
theorem foldlM_plain {l : List γ} {f : α → γ → Build α} {f' : β → γ → Build β}
    (hf : ∀ a, ∀ c ∈ l, Reads old known g (f a c) (f' (g a) c) fun _ => []) (a : α) :
    Reads old known g (l.foldlM f a) (l.foldlM f' (g a)) fun _ => [] := by
  let gained : α → Known := fun _ => []
  have hfold : Reads old (gained a ++ known) g (l.foldlM f a) (l.foldlM f' (g a)) gained :=
    foldlM hf a
  exact hfold

/-- A change of declarations in what no list, number or scope depends on. -/
theorem modify {f f' : Library → Library} (hmoves : ∀ lib, f' (old.graft lib) = old.graft (f lib))
    (hmatches : ∀ lib : Library, lib.Matches Decl.SameShape (f lib))
    (hnote : ∀ lib, lib.Growing → lib.Knows known → ∀ id e v, (f lib).decl? id = some e →
      e.notes.get? "type_declaration_id" = some v →
        ∃ t : Nat, v = .int t ∧ lib.HasForm t [.record, .enumeration]) :
    Reads old known id (modify f) (modify f') fun _ => [] := by
  refine ⟨MovesUp.modify hmoves, fun lib hlib hk => ?_⟩
  rw [outcomeOf_modify]
  obtain ⟨hgrow, hgrows⟩ := hlib.of_matches (hmatches lib) (hnote lib hlib hk)
  exact ⟨hgrow, hgrows, fun _ _ x hx => absurd hx List.not_mem_nil⟩

end Reads

/-! ### What all parts of a header share -/

variable {old : Library}

theorem Build.nameOf_reads (a : Nat) : Reads old [] id (Build.nameOf a) (Build.nameOf (old.up a))
    fun _ => [] :=
  .of_same (Build.nameOf_movesUp a) (fun _ => rfl) fun _ _ _ _ _ _ hx => absurd hx List.not_mem_nil

/-- Asking whether a scope is a class tells of which forms it is. -/
theorem Build.isRecord_reads (a : Nat) :
    Reads old [(a, [.unit, .space, .record])] id (Build.isRecord a) (Build.isRecord (old.up a))
      fun isRecord => [(a, if isRecord then [.record] else [.unit, .space])] := by
  refine .of_same (Build.isRecord_movesUp a) (fun _ => rfl) fun lib b _ hk hb => ?_
  have hb' : (lib.decl? a).any (·.body.isRecord) = b := by
    cases hb
    rfl
  obtain ⟨d, hd, hf⟩ := hk _ (List.mem_singleton.2 rfl)
  rw [hd, Option.any_some] at hb'
  intro x hx
  obtain rfl := List.mem_singleton.1 hx
  refine ⟨d, hd, ?_⟩
  cases hbody : d.body <;> simp [hbody, Body.form] at hf <;>
    simp [hbody, Body.isRecord, Body.record?] at hb' <;> subst hb' <;> simp [Body.form]

namespace Header

variable (h : Header)

/-- Creating a declaration in one that takes its form in. -/
theorem create_reads {body : Body} (form : Form) (hform : body.form = form)
    (hbody : body.renumber old.up = body) {scope : Nat} {forms : List Form}
    (hforms : ∀ f ∈ forms, (f.listFor? form).isSome = true)
    (hempty : ∀ list, body.listOf list = []) (hdef : body.record?.bind (·.definition) = none)
    (name : String) (n : SyntaxNode) (comment : String) :
    Reads old [(scope, forms)] old.up (h.create body scope name n comment)
      (h.create body (old.up scope) name n comment) fun id => [(id, [form])] := by
  subst hform
  refine ⟨h.create_movesUp hbody scope name n comment, fun lib hlib hk => ?_⟩
  obtain ⟨o, ho, hf⟩ := hk _ (List.mem_singleton.2 rfl)
  let d := h.describe name n comment (lib.blankDecl (some scope) body)
  have hinsert : (o.body.insert? d.body lib.created).isSome = true :=
    Body.insert?_isSome_iff.2 (hforms _ hf)
  obtain ⟨b, hb⟩ := Option.isSome_iff_exists.1 hinsert
  have hcreated := Edit.outcomeOf_create body (h.describe name n comment) ho
    (show d = h.describe name n comment (lib.blankDecl (some scope) body) from rfl)
  rw [hb] at hcreated
  unfold create
  rw [outcomeOf_buildEdit, hcreated]
  obtain ⟨hgrow, hgrows, hnew⟩ := hlib.insert ho hb rfl rfl rfl hempty hdef rfl rfl
  refine ⟨hgrow, hgrows, fun a ha x hx => ?_⟩
  cases ha
  obtain rfl := List.mem_singleton.1 hx
  exact ⟨d, hnew, List.mem_singleton.2 rfl⟩

end Header

end Bindery
