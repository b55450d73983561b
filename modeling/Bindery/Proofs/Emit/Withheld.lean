import Bindery.Proofs.Emit.Exports
import Bindery.Proofs.Emit.Shown
import Mathlib.Logic.Relation

/-!
# Classes without layout

A class that declares a virtual method has a hidden pointer in its objects, and so has every class
that inherits from it or holds it. Whether a class is laid out is decided by its own marks and its
own methods alone, though: of the classes that are polymorphic through others, just those stay
without layout that are marked as opaque. A base without layout is left out of the layouts on top of
it.
-/

namespace Bindery

/-! ### Lists that are opened -/

namespace Code

/-- Whether a line opens a list. -/
def opensList (line : String) : Bool :=
  line.toList.getLast? == some '['

/-- The lines that were added to code and open a list. -/
def opened (c c' : Code) : List String :=
  (added c c').filter opensList

variable {c c' c'' : Code}

theorem opened_self (c : Code) : opened c c = [] := by
  unfold opened added
  rw [List.drop_length]
  rfl

theorem opened_trans (h : c.lines <+: c'.lines) (h' : c'.lines <+: c''.lines) :
    opened c c'' = opened c c' ++ opened c' c'' := by
  unfold opened
  rw [added_trans h h', List.filter_append]

/-- How a line ends does not depend on what it begins with. -/
theorem opensList_append (before : String) {text : String} (h : text ≠ "") :
    opensList (before ++ text) = opensList text := by
  have hne : text.toList ≠ [] := fun hnil => h (String.toList_eq_nil_iff.1 hnil)
  unfold opensList
  rw [String.toList_append, List.getLast?_append_of_ne_nil _ hne]

theorem opened_line (c : Code) {text : String} (h : opensList text = true) :
    opened c (c.line text) = [times c.level c.unit ++ text] := by
  have hne : text ≠ "" := by
    rintro rfl
    cases h
  have hadded : added c (c.line text) = [times c.level c.unit ++ text] :=
    added_of_lines (by unfold line; rw [if_neg hne])
  unfold opened
  rw [hadded, List.filter_singleton, opensList_append _ hne, h]
  rfl

theorem opened_line_of_not (c : Code) {text : String} (h : opensList text = false) :
    opened c (c.line text) = [] := by
  have hadded : added c (c.line text) =
      [if text = "" then "" else times c.level c.unit ++ text] := added_of_lines rfl
  unfold opened
  rw [hadded, List.filter_eq_nil_iff]
  intro shown hshown
  rw [List.mem_singleton.1 hshown]
  split_ifs with hempty
  · exact Bool.false_ne_true
  · rw [opensList_append _ hempty, h]
    exact Bool.false_ne_true

theorem opened_blank (c : Code) (count : Int) : opened c (c.blank count) = [] := by
  unfold blank
  split_ifs
  · exact opened_self c
  · unfold opened
    rw [added_of_lines rfl, List.filter_eq_nil_iff]
    intro text htext
    rw [List.eq_of_mem_replicate htext]
    exact Bool.false_ne_true

end Code

namespace Writing

variable {α β ι : Type}

/-- A step that adds lines, of which just the given ones open a list, at the level of the step. -/
def Opens (w : Writing α) (headers : List String) : Prop :=
  ∀ c a c', w.run c = .ok (a, c') → c.Onto c' ∧
    Code.opened c c' = headers.map (Code.times c.level c.unit ++ ·)

namespace Opens

variable {w : Writing α} {k : α → Writing β} {headers more : List String}

theorem pure (a : α) : Opens (Pure.pure a : Writing α) [] := by
  intro c b c' h
  cases h
  exact ⟨.refl c, c.opened_self⟩

theorem lift (x : Except Fault α) : Opens (liftM x : Writing α) [] := by
  intro c a c' h
  rw [(eq_of_run_lift h).2]
  exact ⟨.refl c, c.opened_self⟩

theorem bind (h : Opens w headers) (hk : ∀ a, Opens (k a) more) :
    Opens (w >>= k) (headers ++ more) := by
  intro c b d hrun
  obtain ⟨a, c', hw, hkrun⟩ := exists_of_run_bind hrun
  obtain ⟨hon, hheaders⟩ := h c a c' hw
  obtain ⟨hon', hmore⟩ := hk a c' b d hkrun
  refine ⟨hon.trans hon', ?_⟩
  rw [Code.opened_trans hon.lines hon'.lines, hheaders, hmore, hon.level, hon.unit, List.map_append]

/-- What opens nothing can be left out of account. -/
theorem nil_bind (h : Opens w []) (hk : ∀ a, Opens (k a) more) : Opens (w >>= k) more :=
  h.bind hk

theorem line {text : String} (h : Code.opensList text = false) : Opens (line text) [] := by
  intro c a c' hrun
  cases hrun
  exact ⟨c.onto_line text, c.opened_line_of_not h⟩

theorem blank (count : Int) : Opens (blank count) [] := by
  intro c a c' hrun
  cases hrun
  exact ⟨c.onto_blank count, c.opened_blank count⟩

theorem forM {f : ι → Writing PUnit} {g : ι → List String} {l : List ι}
    (h : ∀ i ∈ l, Opens (f i) (g i)) : Opens (l.forM f) (l.flatMap g) := by
  induction l with
  | nil => exact pure _
  | cons i l ih =>
    exact (h i (List.mem_cons_self ..)).bind fun _ =>
      ih fun j hj => h j (List.mem_cons_of_mem _ hj)

/-- Steps that open nothing, for the members of a list. -/
theorem forM_nil {f : ι → Writing PUnit} {l : List ι} (h : ∀ i ∈ l, Opens (f i) []) :
    Opens (l.forM f) [] := by
  have hall := forM h
  rwa [List.flatMap_eq_nil_iff.2 fun _ _ => rfl] at hall

/-- A block that opens nothing inside opens what its header does. -/
theorem block {header footer : String} {w : Writing Unit} (h : Opens w [])
    (hheader : Code.opensList header = true) (hfooter : Code.opensList footer = false) :
    Opens (block header (some footer) w) [header] := by
  intro c a c' hrun
  have hon := Appends.block (fun c a c' hrun => (h c a c' hrun).1) c a c' hrun
  refine ⟨hon, ?_⟩
  unfold Writing.block at hrun
  obtain ⟨_, _, hopen, hrun⟩ := exists_of_run_bind hrun
  obtain ⟨_, c₂, hw, hclose⟩ := exists_of_run_bind hrun
  cases hopen
  cases hclose
  obtain ⟨hinside, hnone⟩ := h _ _ _ hw
  have hopened : Code.opened c (c.openBlock header) = [Code.times c.level c.unit ++ header] :=
    c.opened_line hheader
  have hclosed : Code.opened c₂ (c₂.closeBlock (some footer)) = [] :=
    c₂.dedent.opened_line_of_not hfooter
  have hfirst : c.lines <+: (c.openBlock header).lines := (c.onto_line header).lines
  have hlast : c₂.lines <+: (c₂.closeBlock (some footer)).lines := List.prefix_append _ _
  rw [Code.opened_trans hfirst (hinside.lines.trans hlast),
    Code.opened_trans hinside.lines hlast, hopened, hnone, hclosed]
  rfl

end Opens

end Writing

/-! ### Headers of layouts -/

/-- The line that a layout starts with. -/
def Emission.layoutHeader (d : Decl) : String :=
  d.name ++ "._fields_ = ["

namespace Emission

open Writing

variable (e : Emission)

theorem opensList_layoutHeader (d : Decl) : Code.opensList (layoutHeader d) = true := by
  unfold layoutHeader
  rw [Code.opensList_append _ (by decide)]
  rfl

/-- A layout opens one list, under its header. -/
theorem writeLayout_opens (d : Decl) : Opens (e.writeLayout d) [layoutHeader d] := by
  have hentry : ∀ before : String, Code.opensList (before ++ "),") = false := by
    intro before
    rw [Code.opensList_append _ (by decide)]
    rfl
  have hblock : ∀ places : List (String × Decl), Opens
      (block (d.name ++ "._fields_ = [") (some "]") do
        places.forM fun b => line ("(" ++ Text.quoted b.1 ++ ", " ++ b.2.name ++ "),")
        (e.fieldsOf d).forM fun f => do
          line ("(" ++ Text.quoted f.decl.name ++ ", " ++ (← liftM (e.fieldType f)).text ++ "),"))
      [layoutHeader d] := by
    intro places
    refine .block (Opens.nil_bind ?_ fun _ => ?_) (opensList_layoutHeader d) (by decide)
    · exact .forM_nil fun p _ => .line (hentry _)
    · exact .forM_nil fun f _ => (Opens.lift _).nil_bind fun t => .line (hentry _)
  have hanonymous : ∀ names, Code.opensList (d.name ++ "._anonymous_ = " ++ nameList names) =
      false := by
    intro names
    unfold nameList
    rw [← String.append_assoc, Code.opensList_append _ (by decide)]
    rfl
  unfold writeLayout
  refine (Opens.blank 1).nil_bind fun _ => (Opens.lift _).nil_bind fun bases => ?_
  dsimp only
  split_ifs
  · exact (Opens.line (hanonymous _)).nil_bind fun _ => hblock _
  · exact hblock _

/-- Where a layout is written its bases are found. -/
theorem exists_of_run_writeLayout {d : Decl} {c c' : Code} {u : Unit}
    (h : (e.writeLayout d).run c = .ok (u, c')) : ∃ bs, e.completeBases d = .ok bs := by
  unfold writeLayout at h
  obtain ⟨_, _, -, h⟩ := exists_of_run_bind h
  obtain ⟨bs, _, hlook, -⟩ := exists_of_run_bind h
  exact ⟨bs, (eq_of_run_lift hlook).1⟩

/-- The layouts open a list for each class that is laid out, in their order, and the bases of these
classes are found. -/
theorem exists_of_writeLayouts {c c' : Code} {u : Unit}
    (h : (e.writeLayouts e.library.emittedClasses).run c = .ok (u, c')) :
    ∃ ds, e.laidOut = .ok ds ∧ (∀ d ∈ ds, ∃ bs, e.completeBases d = .ok bs) ∧
      Code.opened c c' = ds.map fun d => Code.times c.level c.unit ++ layoutHeader d := by
  unfold writeLayouts at h
  obtain ⟨classes, c₁, hlook, hwrite⟩ := exists_of_run_bind h
  obtain ⟨hclasses, rfl⟩ := eq_of_run_lift hlook
  unfold laidOut
  rw [hclasses]
  cases hempty : classes.isEmpty with
  | true =>
    rw [List.isEmpty_iff.1 hempty] at hwrite ⊢
    cases hwrite
    exact ⟨[], rfl, fun _ hd => absurd hd List.not_mem_nil, Code.opened_self _⟩
  | false =>
    rw [hempty] at hwrite
    obtain ⟨_, c₂, hblank, hwrite⟩ := exists_of_run_bind hwrite
    obtain ⟨ds, c₃, hlook', hlayouts⟩ := exists_of_run_bind hwrite
    obtain ⟨hds, hsame⟩ := eq_of_run_lift hlook'
    subst hsame
    refine ⟨ds, hds, fun d hd => ?_, ?_⟩
    · obtain ⟨_, _, _, hrun, -⟩ :=
        exists_run_of_mem (fun d => (e.writeLayout_shows d).appends) hlayouts hd
      exact e.exists_of_run_writeLayout hrun
    obtain ⟨hgap, hnone⟩ := Opens.blank 2 _ _ _ hblank
    obtain ⟨hon, hheaders⟩ := Opens.forM (fun d _ => e.writeLayout_opens d) _ _ _ hlayouts
    rw [Code.opened_trans hgap.lines hon.lines, hnone, hheaders, ← List.map_eq_flatMap,
      List.map_map, hgap.level, hgap.unit]
    rfl

/-! ### Places of layouts -/

/-- Of some classes those that have their place have it in the order, and no others are in it. -/
structure Places (classes : List Decl) (s : LayoutState) : Prop where
  /-- Just classes among these are in the order. -/
  subset : s.ordered ⊆ classes
  /-- What has its place is in the order. -/
  done : ∀ id ∈ s.done, ∃ d ∈ s.ordered, d.id = id

theorem pick_subset (classes : List Decl) (ids : List Nat) : pick classes ids ⊆ classes := by
  intro d hd
  obtain ⟨id, -, hid⟩ := List.mem_filterMap.1 (List.mem_mergeSort.1 hd)
  exact List.mem_of_find?_eq_some hid

variable {e} {classes : List Decl}

/-- Placing a class behind the classes it needs takes no place away. -/
theorem placeLayout_keeps {levels : Nat} {s t : LayoutState} {d : Decl} (hd : d ∈ classes)
    (hs : Places classes s) (h : e.placeLayout classes levels s d = .ok t) :
    Places classes t ∧ t.visiting = s.visiting ∧ s.done ⊆ t.done := by
  induction levels generalizing s t d with
  | zero =>
    cases h
    exact ⟨hs, rfl, List.Subset.refl _⟩
  | succ levels ih =>
    unfold placeLayout at h
    split_ifs at h
    · cases h
      exact ⟨hs, rfl, List.Subset.refl _⟩
    · obtain ⟨ids, -, h⟩ := bind_eq_ok_iff.1 h
      obtain ⟨u, hfold, h⟩ := bind_eq_ok_iff.1 h
      cases h
      obtain ⟨hu, hvisiting, hdone⟩ : Places classes u ∧ u.visiting = d.id :: s.visiting ∧
          s.done ⊆ u.done := by
        have hstart : Places classes { s with visiting := d.id :: s.visiting } :=
          ⟨hs.subset, hs.done⟩
        refine of_foldlM_ok (P := fun u : LayoutState => Places classes u ∧
          u.visiting = d.id :: s.visiting ∧ s.done ⊆ u.done) ?_
          ⟨hstart, rfl, List.Subset.refl _⟩ hfold
        rintro c hc u v ⟨hu, hvisiting, hdone⟩ hstep
        obtain ⟨hv, hkept, hmore⟩ := ih (pick_subset classes ids hc) hu hstep
        exact ⟨hv, hkept.trans hvisiting, fun id hid => hmore (hdone hid)⟩
      refine ⟨⟨?_, ?_⟩, ?_, fun id hid => List.mem_cons_of_mem _ (hdone hid)⟩
      · exact List.append_subset.2 ⟨hu.subset, List.cons_subset.2 ⟨hd, List.nil_subset _⟩⟩
      · intro id hid
        rcases List.mem_cons.1 hid with rfl | hid
        · exact ⟨d, List.mem_append_right _ (List.mem_singleton.2 rfl), rfl⟩
        · obtain ⟨c, hc, hsame⟩ := hu.done id hid
          exact ⟨c, List.mem_append_left _ hc, hsame⟩
      · rw [hvisiting, List.erase_cons_head]

/-- Where no class waits for its place, a class that is placed has one. -/
theorem id_mem_done_of_placeLayout {levels : Nat} {s t : LayoutState} {d : Decl}
    (hvisiting : s.visiting = []) (h : e.placeLayout classes (levels + 1) s d = .ok t) :
    d.id ∈ t.done := by
  unfold placeLayout at h
  rw [hvisiting] at h
  split_ifs at h with hplaced
  · cases h
    simpa using hplaced
  · obtain ⟨ids, -, h⟩ := bind_eq_ok_iff.1 h
    obtain ⟨u, -, h⟩ := bind_eq_ok_iff.1 h
    cases h
    exact List.mem_cons_self ..

/-- Classes of different numbers are laid out all, each at its place. -/
theorem mem_iff_of_layoutOrder {ds : List Decl}
    (hids : ∀ a ∈ classes, ∀ b ∈ classes, a.id = b.id → a = b)
    (h : e.layoutOrder classes = .ok ds) {d : Decl} : d ∈ ds ↔ d ∈ classes := by
  unfold layoutOrder at h
  obtain ⟨t, hfold, h⟩ := bind_eq_ok_iff.1 h
  cases h
  suffices hall : ∀ (l : List Decl), l ⊆ classes → ∀ s t : LayoutState, Places classes s →
      s.visiting = [] → l.foldlM (e.placeLayout classes (classes.length + 1)) s = .ok t →
      Places classes t ∧ s.done ⊆ t.done ∧ ∀ c ∈ l, c.id ∈ t.done by
    obtain ⟨ht, -, hdone⟩ := hall classes (List.Subset.refl _) _ t
      ⟨List.nil_subset _, fun _ hid => absurd hid List.not_mem_nil⟩ rfl hfold
    refine ⟨fun hd => ht.subset hd, fun hd => ?_⟩
    obtain ⟨c, hc, hsame⟩ := ht.done d.id (hdone d hd)
    rwa [← hids c (ht.subset hc) d hd hsame]
  intro l
  induction l with
  | nil =>
    rintro - s _ hs - ⟨⟩
    exact ⟨hs, List.Subset.refl _, fun _ hc => absurd hc List.not_mem_nil⟩
  | cons c l ih =>
    intro hsub s t hs hvisiting hrun
    rw [List.foldlM_cons] at hrun
    obtain ⟨u, hfirst, hrest⟩ := bind_eq_ok_iff.1 hrun
    have hc : c ∈ classes := hsub (List.mem_cons_self ..)
    obtain ⟨hu, hkept, hmore⟩ := placeLayout_keeps hc hs hfirst
    obtain ⟨ht, hdone, hall⟩ := ih (fun x hx => hsub (List.mem_cons_of_mem _ hx)) u t hu
      (hkept.trans hvisiting) hrest
    refine ⟨ht, fun id hid => hdone (hmore hid), List.forall_mem_cons.2 ⟨hdone ?_, hall⟩⟩
    exact id_mem_done_of_placeLayout hvisiting hfirst

end Emission

/-! ### Polymorphic classes -/

/-- Whether a class is marked as opaque. -/
def Decl.isOpaque (d : Decl) : Bool :=
  (d.notes.get? "opaque").any (·.truthy)

/-- Whether a class is marked as a value type. -/
def Decl.isValueType (d : Decl) : Bool :=
  d.body.record?.any (·.valueType)

/-- Whether a class declares a virtual method. -/
def Library.declaresVirtual (lib : Library) (d : Decl) : Bool :=
  d.body.record?.any fun r => r.methods.any lib.isVirtualMethod

namespace Emission

variable (e : Emission)

/-- A class has a base, given by name, that is a class of the library. -/
def NamesBase (d b : Decl) : Prop :=
  ∃ names, e.names = .ok names ∧ ∃ base ∈ (d.body.record?.map (·.bases)).getD [],
    (Library.findIn names (baseName base)).bind e.library.decl? = some b ∧ b.body.isRecord = true

/-- A class inherits from the complete definition of a base. -/
def Inherits (d c : Decl) : Prop :=
  ∃ b, e.NamesBase d b ∧ e.resolve b.id = .ok c

/-- A class holds another declaration by value in a field that is not ignored. -/
def Holds (d c : Decl) : Prop :=
  ∃ f ∈ e.fieldsOf d, ∃ id, e.fieldDependency f = .ok (some id) ∧ e.library.decl? id = some c

/-- The objects of a class have objects of another one in them. -/
def Embeds (d c : Decl) : Prop :=
  e.Inherits d c ∨ e.Holds d c

/-- A class declares a virtual method, or what it inherits or holds does. -/
def Polymorphic (d : Decl) : Prop :=
  ∃ c, Relation.ReflTransGen e.Embeds d c ∧ e.library.declaresVirtual c = true

/-- Neither a class nor what it inherits or holds is marked as a value type. -/
def Unmarked (d : Decl) : Prop :=
  ∀ c, Relation.ReflTransGen e.Embeds d c → c.isValueType = false

variable {e}

/-- What a link leads to is a declaration of the library. -/
theorem exists_of_resolve {lib : Library} {id : Nat} {c : Decl} (h : lib.resolve id = .ok c) :
    ∃ k, lib.decl? k = some c := by
  have hget : ∀ {k : Nat} {d : Decl}, lib.get k = .ok d → lib.decl? k = some d := by
    intro k d hd
    unfold Library.get at hd
    split at hd
    · next hfound =>
      cases hd
      exact Library.decl?_of_registered? hfound
    · cases hd
  have hfrom : ∀ (n : Nat) (seen : List Nat) (d : Decl), (∃ k, lib.decl? k = some d) →
      lib.resolveFrom n seen d = .ok c → ∃ k, lib.decl? k = some c := by
    intro n
    induction n with
    | zero =>
      rintro seen d hd ⟨⟩
      exact hd
    | succ n ih =>
      intro seen d hd hrun
      unfold Library.resolveFrom at hrun
      split at hrun
      · cases hrun
        exact hd
      · obtain ⟨next, hnext, hrun⟩ := bind_eq_ok_iff.1 hrun
        split_ifs at hrun
        · cases hrun
          exact ⟨_, hget hnext⟩
        · exact ih _ next ⟨_, hget hnext⟩ hrun
  unfold Library.resolve at h
  obtain ⟨d, hd, h⟩ := bind_eq_ok_iff.1 h
  exact hfrom _ _ d ⟨id, hget hd⟩ h

/-- Where no declaration of the library is marked as a value type, no class involves one. -/
theorem unmarked_of_forall (h : ∀ id c, e.library.decl? id = some c → c.isValueType = false)
    {id : Nat} {d : Decl} (hd : e.library.decl? id = some d) : e.Unmarked d := by
  intro c hreached
  suffices hknown : ∃ k, e.library.decl? k = some c by
    obtain ⟨k, hk⟩ := hknown
    exact h k c hk
  cases hreached with
  | refl => exact ⟨id, hd⟩
  | tail _ hlast =>
    rcases hlast with ⟨b, -, hc⟩ | ⟨_, -, k, -, hk⟩
    · exact exists_of_resolve (eq_ok_of_mapError hc)
    · exact ⟨k, hk⟩

/-- The bases that are laid out are those that a class names and whose definitions are. -/
theorem mem_iff_of_basesOf {d b : Decl} {bs : List Decl} (h : e.basesOf d = .ok bs) :
    b ∈ bs ↔ e.NamesBase d b ∧ ∃ c, e.resolve b.id = .ok c ∧ e.library.hasLayout c = .ok true := by
  unfold basesOf at h
  rw [mem_iff_of_foldlM_ok (P := fun base => ∃ names, e.names = .ok names ∧
    (Library.findIn names (baseName base)).bind e.library.decl? = some b ∧
      b.body.isRecord = true ∧
      ∃ c, e.resolve b.id = .ok c ∧ e.library.hasLayout c = .ok true) ?_ h]
  · unfold NamesBase
    constructor
    · rintro (hnil | ⟨base, hbase, names, hnames, hfound, hrecord, hlaid⟩)
      · cases hnil
      · exact ⟨⟨names, hnames, base, hbase, hfound, hrecord⟩, hlaid⟩
    · rintro ⟨⟨names, hnames, base, hbase, hfound, hrecord⟩, hlaid⟩
      exact .inr ⟨base, hbase, names, hnames, hfound, hrecord, hlaid⟩
  · intro base _ found out hstep
    obtain ⟨names, hnames, hstep⟩ := bind_eq_ok_iff.1 hstep
    simp only [hnames, Except.ok.injEq, exists_eq_left']
    cases hfound : (Library.findIn names (baseName base)).bind e.library.decl? with
    | none =>
      rw [hfound] at hstep
      cases hstep
      simp
    | some known =>
      rw [hfound] at hstep
      dsimp only at hstep
      split_ifs at hstep with hrecord
      · obtain ⟨c, hc, hstep⟩ := bind_eq_ok_iff.1 hstep
        obtain ⟨isLaidOut, hlaid, hstep⟩ := bind_eq_ok_iff.1 hstep
        have hlayout : e.library.hasLayout c = .ok isLaidOut := eq_ok_of_mapError hlaid
        cases isLaidOut <;> cases hstep
        · rw [if_neg Bool.false_ne_true, Option.some.injEq]
          refine ⟨.inl, ?_⟩
          rintro (hmem | ⟨rfl, -, c', hc', htrue⟩)
          · exact hmem
          · rw [hc] at hc'
            cases hc'
            rw [hlayout] at htrue
            cases htrue
        · rw [if_pos rfl, List.mem_append, List.mem_singleton]
          refine or_congr_right ⟨?_, fun hsame => (Option.some.inj hsame.1).symm⟩
          rintro rfl
          exact ⟨rfl, hrecord, c, hc, hlayout⟩
      · cases hstep
        refine ⟨.inl, ?_⟩
        rintro (hmem | ⟨hsame, hother, -⟩)
        · exact hmem
        · cases hsame
          exact absurd hother hrecord

/-- The definitions of bases in a layout are those that the class inherits from and that are laid
out themselves. -/
theorem mem_iff_of_completeBases {d c : Decl} {cs : List Decl} (h : e.completeBases d = .ok cs) :
    c ∈ cs ↔ e.Inherits d c ∧ e.library.hasLayout c = .ok true := by
  unfold completeBases at h
  obtain ⟨bs, hbs, h⟩ := bind_eq_ok_iff.1 h
  rw [mem_iff_of_mapM_ok h]
  constructor
  · rintro ⟨b, hb, hc⟩
    obtain ⟨hnamed, c', hc', hlaid⟩ := (mem_iff_of_basesOf hbs).1 hb
    rw [hc] at hc'
    cases hc'
    exact ⟨⟨b, hnamed, hc⟩, hlaid⟩
  · rintro ⟨⟨b, hnamed, hc⟩, hlaid⟩
    exact ⟨b, (mem_iff_of_basesOf hbs).2 ⟨hnamed, c, hc, hlaid⟩, hc⟩

/-- A class is laid out that is not marked as opaque, and is marked as a value type or declares no
virtual method. -/
theorem hasLayout_eq_true_iff (lib : Library) {d : Decl} (hrecord : d.body.isRecord = true) :
    lib.hasLayout d = .ok true ↔
      d.isOpaque = false ∧ (d.isValueType = true ∨ lib.declaresVirtual d = false) := by
  unfold Library.hasLayout Decl.isOpaque Decl.isValueType Library.declaresVirtual
  cases hbody : d.body <;> simp [hbody, Body.isRecord, Body.record?] at hrecord
  cases hopaque : (d.notes.get? "opaque").any (·.truthy) <;> simp [Body.record?]

/-! ### Modules -/

open Writing

/-- Where the list of names is written, no name occurs in it twice. -/
theorem exports_nodup_of_writeExports {classes : List Decl} {c c' : Code} {u : Unit}
    (h : (e.writeExports classes).run c = .ok (u, c')) : (e.exports classes).Nodup := by
  have hnone : duplicatesOf (e.exports classes) = [] := by
    unfold writeExports at h
    dsimp only at h
    split_ifs at h with hdup
    · cases h
    · simpa using hdup
  rw [List.nodup_iff_count_le_one]
  intro name
  by_contra hmany
  have hmem : name ∈ duplicatesOf (e.exports classes) := by
    refine List.mem_mergeSort.2 (List.mem_eraseDups.2 (List.mem_filter.2 ⟨?_, ?_⟩))
    · exact List.count_pos_iff.1 (by omega)
    · exact decide_eq_true (by omega)
  rw [hnone] at hmem
  cases hmem

/-- Where a module is written, its layouts are written between the classes and the functions, and no
name is given away twice. -/
theorem exists_run_writeLayouts {o : Options} {c last : Code} {u : Unit}
    (h : (e.writeModule o).run c = .ok (u, last)) :
    ∃ above below : Code, c.Onto above ∧
      (e.writeLayouts e.library.emittedClasses).run above = .ok ((), below) ∧ below.Onto last ∧
      (e.exports e.library.emittedClasses).Nodup := by
  unfold writeModule at h
  obtain ⟨_, c₁, hstart, h⟩ := exists_of_run_bind h
  obtain ⟨_, c₂, henums, h⟩ := exists_of_run_bind h
  obtain ⟨_, c₃, hclasses, h⟩ := exists_of_run_bind h
  obtain ⟨_, c₄, hlayouts, h⟩ := exists_of_run_bind h
  have habove : c.Onto c₃ := ((appends_writeStart o c _ c₁ hstart).trans
    (Appends.forM (fun d _ => e.appends_writeEnum o d) c₁ _ c₂ henums)).trans
    (Appends.forM (fun d _ => e.appends_writeClass o d) c₂ _ c₃ hclasses)
  obtain ⟨c₅, hon, hexports⟩ : ∃ c₅, c₄.Onto c₅ ∧
      (e.writeExports e.library.emittedClasses).run c₅ = .ok (u, last) := by
    dsimp only at h
    split_ifs at h
    · obtain ⟨_, c₅, hblank, h⟩ := exists_of_run_bind h
      obtain ⟨_, c₆, hfunctions, hexports⟩ := exists_of_run_bind h
      refine ⟨c₆, (Appends.blank 2 c₄ _ c₅ hblank).trans ?_, hexports⟩
      exact Appends.forM (fun d _ => (e.writeFunction_shows o d).appends) c₅ _ c₆ hfunctions
    · exact ⟨c₄, .refl c₄, h⟩
  exact ⟨c₃, c₄, habove, hlayouts,
    hon.trans (e.appends_writeExports _ c₅ u last hexports), exports_nodup_of_writeExports hexports⟩

theorem name_eq_of_layoutHeader {a b : Decl} (h : layoutHeader a = layoutHeader b) :
    a.name = b.name := by
  have hlists := congrArg String.toList h
  unfold layoutHeader at hlists
  rw [String.toList_append, String.toList_append] at hlists
  exact String.toList_inj.1 (List.append_cancel_right hlists)

/-- Of a tree, the layouts of a module open a list for just those classes that are laid out. -/
theorem layoutHeader_mem_iff {lib : Library} (ht : lib.IsTree) {table : TypeTable}
    (hnames : ((ofLibrary lib table).exports lib.emittedClasses).Nodup) {c c' : Code} {u : Unit}
    (hlevel : c.level = 0)
    (h : ((ofLibrary lib table).writeLayouts lib.emittedClasses).run c = .ok (u, c')) {d : Decl}
    (hd : d ∈ lib.emittedClasses) :
    (layoutHeader d ∈ Code.added c c' ↔ lib.hasLayout d = .ok true) ∧
      (layoutHeader d ∈ Code.added c c' →
        ∃ bs, (ofLibrary lib table).completeBases d = .ok bs) := by
  obtain ⟨ds, hds, hbases, hopened⟩ := exists_of_writeLayouts _ h
  have hids : ∀ a ∈ lib.emittedClasses, ∀ b ∈ lib.emittedClasses, a.id = b.id → a = b :=
    fun a ha b hb => ht.eq_of_mem_walk ((Library.mem_emittedClasses ht).1 ha).1
      ((Library.mem_emittedClasses ht).1 hb).1
  have hclasses : (lib.emittedClasses.map (·.name)).Nodup := by
    unfold exports at hnames
    rw [List.map_append, List.map_append] at hnames
    exact (List.nodup_append.1 (List.nodup_append.1 hnames).1).2.1
  unfold laidOut at hds
  obtain ⟨classes, hpicked, horder⟩ := bind_eq_ok_iff.1 hds
  have hmem : ∀ a, a ∈ classes ↔ a ∈ lib.emittedClasses ∧ lib.hasLayout a = .ok true := by
    intro a
    rw [mem_iff_of_filterM_ok hpicked]
    exact and_congr_right fun _ => ⟨eq_ok_of_mapError, congrArg (Except.mapError Fault.graph)⟩
  have hplaced : ∀ a, a ∈ ds ↔ a ∈ classes := fun a => mem_iff_of_layoutOrder
    (fun a ha b hb => hids a ((hmem a).1 ha).1 b ((hmem b).1 hb).1) horder
  have hshown : layoutHeader d ∈ Code.added c c' ↔ d ∈ ds := by
    have hfilter : layoutHeader d ∈ Code.added c c' ↔ layoutHeader d ∈ Code.opened c c' := by
      unfold Code.opened
      rw [List.mem_filter, and_iff_left (opensList_layoutHeader d)]
    have hplain : ∀ text : String, Code.times 0 c.unit ++ text = text :=
      fun _ => String.empty_append
    rw [hfilter, hopened, hlevel, List.mem_map]
    simp only [hplain]
    constructor
    · rintro ⟨a, ha, hsame⟩
      have hemitted := ((hmem a).1 ((hplaced a).1 ha)).1
      rwa [← List.inj_on_of_nodup_map hclasses hemitted hd (name_eq_of_layoutHeader hsame)]
    · exact fun hin => ⟨d, hin, rfl⟩
  refine ⟨?_, fun hin => hbases d (hshown.1 hin)⟩
  rw [hshown, hplaced, hmem, and_iff_right hd]

/-- Between its classes and its functions, a module has a layout for just those classes that are not
marked as opaque and are marked as value types or declare no virtual method themselves. A layout is
on top of just those bases that are laid out. So the polymorphic classes where no value types are
involved stay without layout exactly if each of them declares a virtual method itself or is marked
as opaque. -/
theorem layout_written_iff {lib : Library} (ht : lib.IsTree) {table : TypeTable} {o : Options}
    {text : String} (h : (ofLibrary lib table).moduleText o = .ok text) :
    let e := ofLibrary lib table
    ∃ above below last : Code, above.level = 0 ∧
      (e.writeLayouts lib.emittedClasses).run above = .ok ((), below) ∧ below.Onto last ∧
      text = last.output ∧
      (∀ d ∈ lib.emittedClasses,
        (layoutHeader d ∈ Code.added above below ↔
          d.isOpaque = false ∧ (d.isValueType = true ∨ lib.declaresVirtual d = false)) ∧
        (layoutHeader d ∈ Code.added above below → ∃ cs, e.completeBases d = .ok cs ∧
          ∀ c, c ∈ cs ↔ e.Inherits d c ∧ lib.hasLayout c = .ok true)) ∧
      ((∀ d ∈ lib.emittedClasses, e.Unmarked d → e.Polymorphic d →
          layoutHeader d ∉ Code.added above below) ↔
        ∀ d ∈ lib.emittedClasses, e.Unmarked d → e.Polymorphic d →
          lib.declaresVirtual d = true ∨ d.isOpaque = true) := by
  intro e
  unfold moduleText at h
  obtain ⟨⟨_, last⟩, hwrite, htext⟩ := bind_eq_ok_iff.1 h
  cases htext
  obtain ⟨above, below, habove, hlayouts, hbelow, hnames⟩ := exists_run_writeLayouts hwrite
  have hwritten : ∀ d ∈ lib.emittedClasses, (layoutHeader d ∈ Code.added above below ↔
      d.isOpaque = false ∧ (d.isValueType = true ∨ lib.declaresVirtual d = false)) := by
    intro d hd
    have hrecord := ((Library.mem_emittedClasses ht).1 hd).2.1
    exact (layoutHeader_mem_iff ht hnames habove.level hlayouts hd).1.trans
      (hasLayout_eq_true_iff lib hrecord)
  refine ⟨above, below, last, habove.level, hlayouts, hbelow, rfl, fun d hd => ?_, ?_⟩
  · refine ⟨hwritten d hd, fun hin => ?_⟩
    obtain ⟨cs, hcs⟩ := (layoutHeader_mem_iff ht hnames habove.level hlayouts hd).2 hin
    exact ⟨cs, hcs, fun c => mem_iff_of_completeBases hcs⟩
  · refine forall₄_congr fun d hd hunmarked _ => ?_
    rw [hwritten d hd, hunmarked d .refl]
    cases d.isOpaque <;> cases lib.declaresVirtual d <;> simp

/-! ### A class on top of another one -/

/-- A class that declares a virtual method. -/
def virtualBase : Decl :=
  { Decl.blank 1 (some 0) (.record ⟨false, true, false, false, [], [], [2], [], [], none⟩) with
    name := "A" }

/-- A class that inherits from it. -/
def virtualHeir : Decl :=
  { Decl.blank 3 (some 0) (.record ⟨false, true, false, false, ["A"], [4], [], [], [], none⟩) with
    name := "B" }

/-- A class that holds it. -/
def virtualHolder : Decl :=
  { Decl.blank 5 (some 0) (.record ⟨false, true, false, false, [], [6], [], [], [], none⟩) with
    name := "C" }

/-- A unit with the three classes. -/
def tower : Library :=
  ⟨.text "", .text "", [0],
    [⟨{ Decl.blank 0 none (.unit ⟨[], [1, 3, 5], [], []⟩ "a.h") with name := "a.h" }, true⟩,
      ⟨virtualBase, true⟩,
      ⟨{ Decl.blank 2 (some 1)
          (.method ⟨"void", [], false⟩ ⟨.everyone, false, true, false, false, false⟩) with
        name := "f" }, true⟩,
      ⟨virtualHeir, true⟩,
      ⟨{ Decl.blank 4 (some 3) (.field "int" .everyone) with name := "x" }, true⟩,
      ⟨virtualHolder, true⟩,
      ⟨{ Decl.blank 6 (some 5) (.field "A" .everyone) with name := "a" }, true⟩]⟩

theorem tower_isTree : tower.IsTree :=
  (Library.isTree_of_isRegular (by decide +kernel)).1

theorem tower_classes : (ofLibrary tower .standard).library.emittedClasses =
    [virtualBase, virtualHeir, virtualHolder] := by
  have hfound : tower.classes.filter Library.isEmitted =
      [virtualBase, virtualHeir, virtualHolder] := rfl
  show Library.inOrder (tower.classes.filter Library.isEmitted) = _
  rw [hfound]
  exact List.mergeSort_of_pairwise (by decide)

theorem tower_module : ∃ c : Code, (ofLibrary tower .standard).moduleText .default = .ok c.output ∧
    layoutHeader virtualHeir ∈ c.lines ∧ layoutHeader virtualHolder ∈ c.lines := by
  have hseen : (((ofLibrary tower .standard).writeModule .default).run
      (.empty "    ")).toOption.any (fun p => p.2.lines.contains (layoutHeader virtualHeir) &&
        p.2.lines.contains (layoutHeader virtualHolder)) = true := by
    unfold writeModule
    rw [tower_classes]
    decide +kernel
  obtain ⟨⟨_, c⟩, hrun, hlines⟩ := exists_of_any hseen
  obtain ⟨hheir, hholder⟩ := Bool.and_eq_true_iff.1 hlines
  exact ⟨c, bind_eq_ok_iff.2 ⟨_, hrun, rfl⟩, List.contains_iff_mem.1 hheir,
    List.contains_iff_mem.1 hholder⟩

theorem tower_embeds : (ofLibrary tower .standard).Embeds virtualHeir virtualBase ∧
    (ofLibrary tower .standard).Embeds virtualHolder virtualBase := by
  have hnames : (ofLibrary tower .standard).names = .ok [("A", 1), ("B", 3), ("C", 5)] := rfl
  refine ⟨.inl ⟨virtualBase, ⟨_, hnames, "A", List.mem_singleton.2 rfl, ?_, rfl⟩, rfl⟩, .inr ?_⟩
  · have hid : Library.findIn [("A", 1), ("B", 3), ("C", 5)] (baseName "A") = some 1 := by
      decide +kernel
    rw [hid]
    rfl
  · have hheld : (((ofLibrary tower .standard).fieldsOf virtualHolder).any fun f =>
        ((ofLibrary tower .standard).fieldDependency f).toOption.any (· == some 1)) = true := by
      decide +kernel
    obtain ⟨f, hf, hid⟩ := List.any_eq_true.1 hheld
    obtain ⟨held, hheld, hone⟩ := exists_of_any hid
    rw [beq_iff_eq.1 hone] at hheld
    exact ⟨f, hf, 1, hheld, rfl⟩

/-- A class that inherits a virtual method and one that holds a class with a virtual method are
laid out, though neither they nor that class are marked as value types. -/
theorem polymorphic_laid_out :
    let e := ofLibrary tower .standard
    tower.IsTree ∧ ∃ c : Code, e.moduleText .default = .ok c.output ∧
      ∀ d ∈ [virtualHeir, virtualHolder], d ∈ tower.emittedClasses ∧ e.Unmarked d ∧
        e.Polymorphic d ∧ layoutHeader d ∈ c.lines := by
  intro e
  obtain ⟨c, hmodule, hheir, hholder⟩ := tower_module
  obtain ⟨hinherits, hholds⟩ := tower_embeds
  have hunmarked : ∀ id d, tower.decl? id = some d → e.Unmarked d := by
    have hall : ∀ s ∈ tower.slots, s.decl.isValueType = false := by decide
    refine fun id d hd => unmarked_of_forall (fun id c hc => ?_) hd
    obtain ⟨s, hs, rfl⟩ := Option.map_eq_some_iff.1 hc
    exact hall s (List.mem_of_getElem? hs)
  have hvirtual : tower.declaresVirtual virtualBase = true := rfl
  have hclasses : tower.emittedClasses = [virtualBase, virtualHeir, virtualHolder] := tower_classes
  refine ⟨tower_isTree, c, hmodule, ?_⟩
  rw [hclasses]
  refine List.forall_mem_cons.2 ⟨?_, List.forall_mem_singleton.2 ?_⟩
  · exact ⟨by simp, hunmarked 3 _ rfl, ⟨virtualBase, .single hinherits, hvirtual⟩, hheir⟩
  · exact ⟨by simp, hunmarked 5 _ rfl, ⟨virtualBase, .single hholds, hvirtual⟩, hholder⟩

/-- The class that declares the virtual method is not laid out, and is no base in the layout of the
one that inherits from it. -/
theorem layout_written_iff_tower : ∃ above below : Code,
    ((ofLibrary tower .standard).writeLayouts tower.emittedClasses).run above = .ok ((), below) ∧
      layoutHeader virtualBase ∉ Code.added above below ∧
      layoutHeader virtualHeir ∈ Code.added above below ∧
      ∃ cs, (ofLibrary tower .standard).completeBases virtualHeir = .ok cs ∧ virtualBase ∉ cs := by
  obtain ⟨c, hmodule, -, -⟩ := tower_module
  obtain ⟨above, below, _, -, hrun, -, -, hall, -⟩ := layout_written_iff tower_isTree hmodule
  have hclasses : tower.emittedClasses = [virtualBase, virtualHeir, virtualHolder] := tower_classes
  rw [hclasses] at hall
  obtain ⟨hbase, -⟩ := hall virtualBase (by simp)
  obtain ⟨hheir, hbases⟩ := hall virtualHeir (by simp)
  have hshown := hheir.2 ⟨rfl, .inr rfl⟩
  obtain ⟨cs, hcs, hiff⟩ := hbases hshown
  refine ⟨above, below, hrun, fun hin => ?_, hshown, cs, hcs, fun hin => ?_⟩
  · obtain ⟨-, hvalue | hplain⟩ := hbase.1 hin
    · cases hvalue
    · cases hplain
  · cases ((hiff virtualBase).1 hin).2

end Emission

end Bindery
