import Bindery.Proofs.Declaration.Renumbered
import Bindery.Proofs.Header.Grown

/-!
# Libraries that differ in headers that failed

A header that cannot be parsed uses up numbers, so what is read of the next ones has other numbers
than it would have without it. Two libraries that the same headers were read into, one of them with
failed ones in between, have the same declarations under other numbers in the same order: a header
that is parsed into both moves up in each, and one that fails in one only leaves numbers there that
nothing refers to.
-/

namespace Bindery.Library

variable {ρ σ : Nat → Nat} {lib out big new : Library}

/-- Which number takes the place of one that was not there yet is of no account. -/
theorem Orderly.renumber_congr (h : lib.Orderly) (he : ∀ k < lib.created, ρ k = σ k) {id : Nat}
    {d : Decl} (hd : lib.decl? id = some d) : d.renumber ρ = d.renumber σ := by
  obtain ⟨hid, horder⟩ := h.number id d hd
  have hlt := lt_created_of_decl? hd
  have hnumber : ρ d.id = σ d.id := he d.id (hid ▸ hlt)
  have hplace : ρ d.order.toNat = σ d.order.toNat := by
    rw [horder, Int.toNat_natCast]
    exact he id hlt
  have hparent : d.parent.map ρ = d.parent.map σ := by
    cases hp : d.parent with
    | none => rfl
    | some p => exact congrArg some (he p (Nat.lt_trans (h.parent id d p hd hp) hlt))
  have hnotes : Fields.renumber ρ d.notes = Fields.renumber σ d.notes := by
    refine Fields.renumber_congr fun v hv => ?_
    obtain ⟨t, rfl, ht⟩ := h.noted id d v hd hv
    rw [Value.renumber_int, Value.renumber_int, he t ht.lt]
  have hbody : d.body.renumber ρ = d.body.renumber σ := by
    refine Body.renumber_congr (fun c hc => ?_) (h.undefined id d hd)
    obtain ⟨list, -, hmem⟩ := Body.mem_children_iff.1 hc
    obtain ⟨e, hce, -⟩ := (h.lists id d list hd).2 c hmem
    exact he c (lt_created_of_decl? hce)
  simp only [Decl.renumber, hnumber, hplace, hparent, hnotes, hbody]

/-- Numbers below `n` are replaced as before, the others by those from `m` on. -/
def stretch (ρ : Nat → Nat) (n m : Nat) (i : Nat) : Nat :=
  if i < n then ρ i else i - n + m

theorem stretch_of_lt {n m i : Nat} (h : i < n) : stretch ρ n m i = ρ i :=
  if_pos h

theorem stretch_add (ρ : Nat → Nat) (n m k : Nat) : stretch ρ n m (k + n) = k + m := by
  unfold stretch
  rw [if_neg (Nat.not_lt.2 (Nat.le_add_left n k)), Nat.add_sub_cancel]

namespace Renumbered

variable (h : lib.Renumbered ρ out)
include h

theorem lt_created {id : Nat} (hid : id < lib.created) : ρ id < out.created := by
  have hslot := h.slots id
  rw [List.getElem?_eq_getElem hid] at hslot
  exact (List.getElem?_eq_some_iff.1 hslot).1

/-- Further declarations that nothing lists. -/
theorem stretched (ho : lib.Orderly) (hunits : ∀ u ∈ lib.units, u < lib.created)
    (hsame : big.units = out.units) (hle : out.created ≤ big.created)
    (hkept : ∀ id < out.created, big.slots[id]? = out.slots[id]?) :
    lib.Renumbered (stretch ρ lib.created big.created) big where
  mono := by
    intro i j hij
    unfold stretch
    split_ifs with hi hj hj
    · exact h.mono hij
    · have := h.lt_created hi
      omega
    · omega
    · omega
  slots := by
    intro id
    by_cases hid : id < lib.created
    · rw [stretch_of_lt hid, hkept _ (h.lt_created hid), h.slots id]
      cases hs : lib.slots[id]? with
      | none => rfl
      | some s =>
        have hd : lib.decl? id = some s.decl := by simp [Library.decl?, hs]
        have hcongr := ho.renumber_congr (ρ := ρ) (σ := stretch ρ lib.created big.created)
          (fun k hk => (stretch_of_lt hk).symm) hd
        simp only [Option.map_some, Slot.renumber, hcongr]
    · obtain ⟨k, rfl⟩ : ∃ k, id = k + lib.created :=
        ⟨id - lib.created, (Nat.sub_add_cancel (Nat.le_of_not_lt hid)).symm⟩
      have hnone : lib.slots[k + lib.created]? = none :=
        List.getElem?_eq_none (Nat.le_add_left _ _)
      rw [stretch_add, hnone]
      exact List.getElem?_eq_none (Nat.le_add_left _ _)
  units := by
    rw [hsame, h.units]
    exact List.map_congr_left fun u hu => (stretch_of_lt (hunits u hu)).symm

/-- What is read of one more header moves up in either library. -/
theorem parsed (hup : ∀ k, ρ (lib.up k) = out.up k) :
    Renumbered ρ { lib.graft new with units := lib.units ++ [lib.created] }
      { out.graft new with units := out.units ++ [out.created] } where
  mono := h.mono
  slots := by
    intro id
    show (out.graft new).slots[ρ id]? = ((lib.graft new).slots[id]?).map (Slot.renumber ρ)
    by_cases hid : id < lib.created
    · rw [slots_graft_of_lt out new (h.lt_created hid), slots_graft_of_lt lib new hid, h.slots id]
    · obtain ⟨k, rfl⟩ : ∃ k, id = lib.up k :=
        ⟨id - lib.created, (Nat.sub_add_cancel (Nat.le_of_not_lt hid)).symm⟩
      have hcomp : ρ ∘ lib.up = out.up := funext hup
      rw [hup, slots_graft, slots_graft, Option.map_map]
      congr 1
      funext s
      show _ = Slot.mk ((s.decl.renumber lib.up).renumber ρ) s.registered
      rw [Decl.renumber_renumber, hcomp]
      rfl
  units := by
    have hzero := hup 0
    simp only [up, Nat.zero_add] at hzero
    rw [h.units, List.map_append, List.map_singleton, hzero]

end Renumbered

/-- Two libraries that headers were read into have the same declarations under other numbers, but
for what the second one does not list. -/
structure Resembles (lib out : Library) : Prop where
  /-- The first one consists of what headers declare. -/
  grown : lib.Grown
  /-- So does the second one. -/
  grown' : out.Grown
  /-- Numbers are all that is different. -/
  renumbered : ∃ ρ, lib.Renumbered ρ out

namespace Resembles

theorem refl_empty (namespaceName libraryName : Value) :
    (empty namespaceName libraryName).Resembles (empty namespaceName libraryName) :=
  ⟨grown_empty _ _, grown_empty _ _, id, strictMono_id, fun _ => rfl, rfl⟩

variable (h : lib.Resembles out)
include h

theorem units_lt : ∀ u ∈ lib.units, u < lib.created := by
  intro u hu
  obtain ⟨d, hd, -⟩ := h.grown.unit u hu
  exact lt_created_of_decl? (decl?_of_registered? hd)

/-- A header that is parsed into both. -/
theorem parsed (hn : new.Growing) :
    Resembles { lib.graft new with units := lib.units ++ [lib.created] }
      { out.graft new with units := out.units ++ [out.created] } := by
  obtain ⟨ρ, hρ⟩ := h.renumbered
  have hstretched := hρ.stretched h.grown.toOrderly h.units_lt rfl (Nat.le_refl _) fun _ _ => rfl
  exact ⟨h.grown.parsed hn, h.grown'.parsed hn, _,
    hstretched.parsed fun k => stretch_add ρ lib.created out.created k⟩

/-- A header that fails in the second one. -/
theorem discarded (hn : new.Growing) : lib.Resembles ((out.graft new).discard out.created) := by
  obtain ⟨ρ, hρ⟩ := h.renumbered
  obtain ⟨hunits, hkept, -⟩ := @Growing.discard_graft out new hn
  have hle : out.created ≤ ((out.graft new).discard out.created).created := by
    have hcreated : ((out.graft new).discard out.created).created = (out.graft new).created :=
      List.length_mapIdx
    rw [hcreated, created_graft]
    exact Nat.le_add_right _ _
  exact ⟨h.grown, h.grown'.failed hn, _,
    hρ.stretched h.grown.toOrderly h.units_lt hunits hle hkept⟩

/-- A header is parsed into both, or fails in the second one as it would in any library, or ends the
run. -/
theorem parseHeader_cases (files : FileTree) (grammar : Grammar) (options : HeaderOptions)
    (header : Value) :
    (∃ new : Library, new.Growing ∧ ∀ lib : Library, lib.parseHeader files grammar options header =
      (.parsed, { lib.graft new with units := lib.units ++ [lib.created] })) ∨
    (∃ reason mid, lib.Resembles mid ∧
      (∀ old : Library, (old.parseHeader files grammar options header).1 = .failed reason) ∧
      out.parseHeader files grammar options header = (.failed reason, mid)) ∨
    ∃ f mid, out.parseHeader files grammar options header = (.aborted f, mid) := by
  cases parseHeader_fate files grammar options header with
  | parsed new hgrowing hsame => exact .inl ⟨new, hgrowing, hsame⟩
  | unread reason hsame =>
    exact .inr (.inl ⟨reason, out, h, fun old => congrArg Prod.fst (hsame old), hsame out⟩)
  | discarded reason new hgrowing hsame =>
    exact .inr (.inl ⟨reason, _, h.discarded hgrowing, fun old => congrArg Prod.fst (hsame old),
      hsame out⟩)
  | aborted f hsame => exact .inr (.inr ⟨f, _, Prod.ext (hsame out).1 rfl⟩)

end Resembles

end Bindery.Library
