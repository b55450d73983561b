import Bindery.Emit.BindingModule
import Bindery.Proofs.Outcome
import Mathlib.Data.List.Infix

/-!
# Lines of a module

A module is written from top to bottom: every step adds lines behind those that are there and comes
back to the level of indentation it began at. What a step shows stays in the module, so the classes
stand in lines above all type expressions, and each type expression stands in a line.
-/

namespace Bindery

/-! ### Adding lines -/

namespace Code

/-- Lines were added to code, whose level is what it was. -/
structure Onto (c c' : Code) : Prop where
  /-- The level is the same. -/
  level : c'.level = c.level
  /-- What a level is written as is the same. -/
  unit : c'.unit = c.unit
  /-- The lines that were there come first. -/
  lines : c.lines <+: c'.lines

variable {c c' c'' : Code}

theorem Onto.refl (c : Code) : c.Onto c :=
  ⟨rfl, rfl, List.prefix_refl _⟩

theorem Onto.trans (h : c.Onto c') (h' : c'.Onto c'') : c.Onto c'' :=
  ⟨h'.level.trans h.level, h'.unit.trans h.unit, h.lines.trans h'.lines⟩

theorem onto_line (c : Code) (text : String) : c.Onto (c.line text) :=
  ⟨rfl, rfl, List.prefix_append _ _⟩

theorem onto_addLines (c : Code) (texts : List String) : c.Onto (c.addLines texts) := by
  unfold addLines
  exact List.foldlRecOn (motive := fun c' : Code => c.Onto c') _ _ (.refl c)
    fun c' h text _ => h.trans (onto_line c' text)

theorem onto_blank (c : Code) (count : Int) : c.Onto (c.blank count) := by
  unfold blank
  split_ifs
  · exact .refl c
  · exact ⟨rfl, rfl, List.prefix_append _ _⟩

/-- A block adds its header, what stands in it, and its footer. -/
theorem Onto.block {header : String} (h : (c.openBlock header).Onto c') (footer : Option String) :
    c.Onto (c'.closeBlock footer) := by
  have hlines := (onto_line c header).lines.trans h.lines
  have hlevel : c'.level - 1 = c.level := by
    rw [h.level]
    exact Nat.add_sub_cancel c.level 1
  cases footer with
  | none => exact ⟨hlevel, h.unit, hlines⟩
  | some f => exact ⟨hlevel, h.unit, hlines.trans (List.prefix_append _ _)⟩

/-- The lines that were added to code. -/
def added (c c' : Code) : List String :=
  c'.lines.drop c.lines.length

theorem Onto.append_added (h : c.Onto c') : c.lines ++ added c c' = c'.lines :=
  (List.prefix_append_drop h.lines).symm

theorem added_of_lines {texts : List String} (h : c'.lines = c.lines ++ texts) :
    added c c' = texts := by
  unfold added
  rw [h, List.drop_left]

/-- Lines that are added in two steps. -/
theorem added_trans (h : c.lines <+: c'.lines) (h' : c'.lines <+: c''.lines) :
    added c c'' = added c c' ++ added c' c'' := by
  obtain ⟨first, hfirst⟩ := h
  obtain ⟨second, hsecond⟩ := h'
  have hboth : c''.lines = c.lines ++ (first ++ second) := by
    rw [← List.append_assoc, hfirst, hsecond]
  rw [added_of_lines hboth, added_of_lines hfirst.symm, added_of_lines hsecond.symm]

/-- What is added on the way is added on the whole. -/
theorem mem_added {line : String} {d d' : Code} (h : c.lines <+: d.lines)
    (hd : d.lines <+: d'.lines) (h' : d'.lines <+: c'.lines) (hline : line ∈ added d d') :
    line ∈ added c c' := by
  rw [added_trans h (hd.trans h'), added_trans hd h']
  exact List.mem_append_right _ (List.mem_append_left _ hline)

end Code

/-! ### Steps that add lines -/

namespace Writing

variable {α β ι : Type}

/-- A step that adds lines and does nothing else. -/
def Appends (w : Writing α) : Prop :=
  ∀ c a c', w.run c = .ok (a, c') → c.Onto c'

/-- A step behind another one is made where that one left the code. -/
theorem exists_of_run_bind {w : Writing α} {k : α → Writing β} {c d : Code} {b : β}
    (h : (w >>= k).run c = .ok (b, d)) :
    ∃ a c', w.run c = .ok (a, c') ∧ (k a).run c' = .ok (b, d) := by
  rw [StateT.run_bind] at h
  obtain ⟨⟨a, c'⟩, hw, hk⟩ := bind_eq_ok_iff.1 h
  exact ⟨a, c', hw, hk⟩

/-- What is looked up for the code leaves it alone. -/
theorem eq_of_run_lift {x : Except Fault α} {c d : Code} {a : α}
    (h : (liftM x : Writing α).run c = .ok (a, d)) : x = .ok a ∧ d = c := by
  cases x with
  | error f => cases h
  | ok a' =>
    cases h
    exact ⟨rfl, rfl⟩

namespace Appends

theorem pure (a : α) : Appends (Pure.pure a : Writing α) := by
  intro c b c' h
  cases h
  exact .refl c

theorem throw (f : Fault) : Appends (throw f : Writing α) := by
  intro c a c' h
  cases h

theorem lift (x : Except Fault α) : Appends (liftM x : Writing α) := by
  intro c a c' h
  rw [(eq_of_run_lift h).2]
  exact .refl c

theorem bind {w : Writing α} {k : α → Writing β} (h : Appends w) (hk : ∀ a, Appends (k a)) :
    Appends (w >>= k) := by
  intro c b d hrun
  obtain ⟨a, c', hw, hkrun⟩ := exists_of_run_bind hrun
  exact (h c a c' hw).trans (hk a c' b d hkrun)

theorem write {f : Code → Code} (hf : ∀ c : Code, c.Onto (f c)) : Appends (write f) := by
  intro c a c' h
  cases h
  exact hf c

theorem line (text : String) : Appends (line text) :=
  write fun c => c.onto_line text

theorem blank (count : Int) : Appends (blank count) :=
  write fun c => c.onto_blank count

theorem comment (text : String) : Appends (comment text) :=
  write fun c => c.onto_addLines _

theorem docstring (text : String) : Appends (docstring text) :=
  write fun c => c.onto_addLines _

theorem block {header : String} {footer : Option String} {w : Writing Unit} (h : Appends w) :
    Appends (block header footer w) := by
  intro c a c' hrun
  unfold Writing.block at hrun
  obtain ⟨_, c₁, hopen, hrun⟩ := exists_of_run_bind hrun
  obtain ⟨_, c₂, hw, hclose⟩ := exists_of_run_bind hrun
  cases hopen
  cases hclose
  exact (h _ _ _ hw).block footer

theorem forM {f : ι → Writing PUnit} {l : List ι} (h : ∀ i ∈ l, Appends (f i)) :
    Appends (l.forM f) := by
  induction l with
  | nil => exact pure _
  | cons i l ih =>
    exact (h i (List.mem_cons_self ..)).bind fun _ =>
      ih fun j hj => h j (List.mem_cons_of_mem _ hj)

theorem filterM {f : ι → Writing Bool} {l : List ι} (h : ∀ i ∈ l, Appends (f i)) :
    Appends (l.filterM f) := by
  suffices haux : ∀ acc : List ι, Appends (List.filterAuxM f l acc) from
    (haux []).bind fun _ => pure _
  induction l with
  | nil => exact fun _ => pure _
  | cons i l ih =>
    intro acc
    unfold List.filterAuxM
    exact (h i (List.mem_cons_self ..)).bind fun _ =>
      ih (fun j hj => h j (List.mem_cons_of_mem _ hj)) _

end Appends

/-- Each step for a member of a list is made somewhere on the way. -/
theorem exists_run_of_mem {f : ι → Writing PUnit} {l : List ι} (hf : ∀ i, Appends (f i))
    {c d : Code} {u : PUnit} (h : (l.forM f).run c = .ok (u, d)) {i : ι} (hi : i ∈ l) :
    ∃ c' d' v, (f i).run c' = .ok (v, d') ∧ c.Onto c' ∧ d'.Onto d := by
  induction l generalizing c with
  | nil => cases hi
  | cons j l ih =>
    obtain ⟨v, c', hfirst, hrest⟩ := exists_of_run_bind (w := f j) (k := fun _ => l.forM f) h
    rcases List.mem_cons.1 hi with rfl | hi
    · exact ⟨c, c', v, hfirst, .refl c, Appends.forM (fun j _ => hf j) c' u d hrest⟩
    · obtain ⟨c₁, d₁, v₁, hrun, hon, hon'⟩ := ih hrest hi
      exact ⟨c₁, d₁, v₁, hrun, (hf j c v c' hfirst).trans hon, hon'⟩

end Writing

/-! ### Parts of a module -/

namespace Emission

open Writing

variable (e : Emission) (o : Options)

theorem appends_provenance (d : Decl) : Appends (e.provenance o d) := by
  unfold provenance
  split_ifs
  · refine (Appends.lift _).bind fun qualified => ?_
    cases d.location <;> exact .comment _
  · exact .pure _

theorem appends_writeStart : Appends (writeStart o) := by
  have hlines : ∀ texts, Appends (write (·.addLines texts)) :=
    fun texts => .write fun c => c.onto_addLines texts
  have hbind : Appends (block "def _bind(name, restype, argtypes):" none do
      block "if _lib is None:" none (line "return None")
      block "try:" none (line "func = getattr(_lib, name)")
      block "except AttributeError:" none (line "return None")
      line "func.restype = restype"
      line "func.argtypes = argtypes"
      line "return func") := by
    refine .block <| (Appends.block (.line _)).bind fun _ => (Appends.block (.line _)).bind fun _ =>
      (Appends.block (.line _)).bind fun _ => ?_
    exact (Appends.line _).bind fun _ => (Appends.line _).bind fun _ => .line _
  unfold writeStart
  refine (Appends.docstring _).bind fun _ => (Appends.comment _).bind fun _ =>
    (Appends.blank 1).bind fun _ => (hlines _).bind fun _ => (Appends.blank 1).bind fun _ => ?_
  split_ifs
  · exact (Appends.line _).bind fun _ => (Appends.line _).bind fun _ =>
      (Appends.blank 2).bind fun _ => hbind
  · exact (Appends.line _).bind fun _ => (Appends.blank 2).bind fun _ => hbind

theorem appends_writeItem (id : Nat) : Appends (e.writeItem id) := by
  unfold writeItem
  split
  · exact .pure _
  · split
    · exact (Appends.lift _).bind fun _ => (Appends.line _).bind fun _ => .pure _
    · exact (Appends.comment _).bind fun _ => .pure _
    · exact .pure _

theorem appends_writeComment (d : Decl) : Appends (writeComment d) := by
  unfold writeComment
  split_ifs
  · exact (Appends.docstring _).bind fun _ => .pure _
  · exact .pure _

theorem appends_writeEnum (d : Decl) : Appends (e.writeEnum o d) := by
  unfold writeEnum
  refine (Appends.blank 2).bind fun _ => (e.appends_provenance o d).bind fun _ => .block ?_
  refine (appends_writeComment d).bind fun isDescribed => ?_
  refine (Appends.filterM fun id _ => e.appends_writeItem id).bind fun written => ?_
  split_ifs
  · exact .line _
  · exact .pure _

theorem appends_mentionMethod (id : Nat) : Appends (e.mentionMethod id) := by
  unfold mentionMethod
  split
  · exact .pure _
  · split
    · exact .pure _
    · exact .comment _

/-- The line that a class starts with. -/
def classHeader (d : Decl) : String :=
  "class " ++ d.name ++ "(" ++
    (if d.body.record?.any (·.isUnion) then "ctypes.Union" else "ctypes.Structure") ++ "):"

/-- A class is written as a block under its header. -/
theorem exists_writeClass_eq (d : Decl) : ∃ body : Writing Unit, Appends body ∧
    e.writeClass o d = (do
      blank 2
      e.provenance o d
      block (classHeader d) none body) := by
  refine ⟨_, ?_, rfl⟩
  refine (appends_writeComment d).bind fun isDescribed => ?_
  have hmethods : Appends (((d.body.record?.map (·.methods)).getD []).forM e.mentionMethod) :=
    .forM fun id _ => e.appends_mentionMethod id
  split_ifs
  · exact (Appends.line _).bind fun _ => hmethods
  · exact hmethods
  · exact (Appends.line _).bind fun _ => .pure _
  · exact .pure _

theorem appends_writeClass (d : Decl) : Appends (e.writeClass o d) := by
  obtain ⟨body, hbody, heq⟩ := e.exists_writeClass_eq o d
  rw [heq]
  exact (Appends.blank 2).bind fun _ => (e.appends_provenance o d).bind fun _ => .block hbody

theorem appends_writeExports (classes : List Decl) : Appends (e.writeExports classes) := by
  have hnames : Appends (do
      blank 2
      block "__all__ = [" (some "]") do
        (e.exports classes).forM fun n => line (Text.quoted n ++ ",")) :=
    (Appends.blank 2).bind fun _ => .block (.forM fun n _ => .line _)
  unfold writeExports
  dsimp only
  split_ifs
  · exact (Appends.throw _).bind fun _ => hnames
  · exact hnames

end Emission

end Bindery
