import Bindery.Proofs.Emit.Lines

/-!
# Type expressions of a module

The type expressions of a module are those of the layouts, with bases before fields, and those of
the functions, with the result before the parameters. Where a module is written all of them are
found, and each stands in a line below the headers of all classes.
-/

namespace Bindery

namespace Emission

variable (e : Emission)

/-- The type expressions in the layout of a class. -/
def layoutTypes (d : Decl) : Except Fault (List ForeignType) := do
  let bases ← e.completeBases d
  let fields ← (e.fieldsOf d).mapM e.fieldType
  return bases.map (fun b => .named (.text b.name)) ++ fields

/-- The type expressions with which a function is bound. -/
def bindingTypes (d : Decl) : Except Fault (List ForeignType) :=
  match d.body.prototype? with
  | none => return []
  | some p => do
    let result ← e.lookup p.returnType
    let types ← e.parameterTypes p
    return result.foreignType :: types

/-- The classes whose layouts are written, in their order. -/
def laidOut : Except Fault (List Decl) := do
  e.layoutOrder (← e.library.emittedClasses.filterM fun d =>
    (e.library.hasLayout d).mapError Fault.graph)

/-- The type expressions of a module. -/
def typeExpressions : Except Fault (List ForeignType) := do
  let layouts ← (← e.laidOut).mapM e.layoutTypes
  let bindings ← e.library.emittedFunctions.mapM e.bindingTypes
  return layouts.flatten ++ bindings.flatten

end Emission

namespace Writing

variable {α β ι : Type}

/-- Where a step is made, some type expressions are found, and each of them stands in a line that
was added. -/
def Shows (w : Writing α) (types : Except Fault (List ForeignType)) : Prop :=
  ∀ c a c', w.run c = .ok (a, c') → c.Onto c' ∧ ∃ ts, types = .ok ts ∧
    ∀ t ∈ ts, ∃ line ∈ Code.added c c', t.text.toList <:+: line.toList

theorem Appends.shows {w : Writing α} (h : Appends w) : Shows w (.ok []) := by
  intro c a c' hrun
  exact ⟨h c a c' hrun, [], rfl, fun t ht => nomatch ht⟩

namespace Shows

variable {w : Writing α} {k : α → Writing β} {x y : Except Fault (List ForeignType)}

theorem appends (h : Shows w x) : Appends w :=
  fun c a c' hrun => (h c a c' hrun).1

theorem line {text : String} {ts : List ForeignType}
    (h : ∀ t ∈ ts, t.text.toList <:+: text.toList) : Shows (line text) (.ok ts) := by
  intro c a c' hrun
  cases hrun
  refine ⟨c.onto_line text, ts, rfl, fun t ht => ?_⟩
  have hadded : Code.added c (c.line text) =
      [if text = "" then "" else Code.times c.level c.unit ++ text] := List.drop_left
  rw [hadded]
  refine ⟨_, List.mem_singleton.2 rfl, ?_⟩
  split_ifs with hempty
  · rw [← hempty]
    exact h t ht
  · rw [String.toList_append]
    exact (h t ht).trans (List.suffix_append _ _).isInfix

theorem bind (h : Shows w x) (hk : ∀ a, Shows (k a) y) :
    Shows (w >>= k) (do return (← x) ++ (← y)) := by
  intro c b d hrun
  obtain ⟨a, c', hw, hkrun⟩ := exists_of_run_bind hrun
  obtain ⟨hon, ts, rfl, hts⟩ := h c a c' hw
  obtain ⟨hon', us, rfl, hus⟩ := hk a c' b d hkrun
  refine ⟨hon.trans hon', ts ++ us, rfl, fun t ht => ?_⟩
  rcases List.mem_append.1 ht with ht | ht
  · obtain ⟨text, hmem, hin⟩ := hts t ht
    exact ⟨text, Code.mem_added (List.prefix_refl _) hon.lines hon'.lines hmem, hin⟩
  · obtain ⟨text, hmem, hin⟩ := hus t ht
    exact ⟨text, Code.mem_added hon.lines hon'.lines (List.prefix_refl _) hmem, hin⟩

theorem appends_bind (h : Appends w) (hk : ∀ a, Shows (k a) y) : Shows (w >>= k) y := by
  have hboth := h.shows.bind hk
  cases y <;> exact hboth

theorem bind_appends (h : Shows w x) (hk : ∀ a, Appends (k a)) : Shows (w >>= k) x := by
  have hboth := h.bind fun a => (hk a).shows
  cases x with
  | error f => exact hboth
  | ok ts =>
    have hnil : (do return (← Except.ok ts) ++ (← Except.ok []) : Except Fault _) = .ok ts :=
      congrArg Except.ok (List.append_nil ts)
    rwa [hnil] at hboth

theorem lift_bind {z : Except Fault α} {y : α → Except Fault (List ForeignType)}
    (hk : ∀ a, z = .ok a → Shows (k a) (y a)) : Shows (liftM z >>= k) (z >>= y) := by
  intro c b d hrun
  obtain ⟨a, c', hz, hkrun⟩ := exists_of_run_bind hrun
  obtain ⟨rfl, rfl⟩ := eq_of_run_lift hz
  exact hk a rfl c' b d hkrun

theorem block {header : String} {footer : Option String} {w : Writing Unit} (h : Shows w x) :
    Shows (block header footer w) x := by
  intro c a c' hrun
  have hon := h.appends.block c a c' hrun
  unfold Writing.block at hrun
  obtain ⟨_, c₁, hopen, hrun⟩ := exists_of_run_bind hrun
  obtain ⟨_, c₂, hw, hclose⟩ := exists_of_run_bind hrun
  cases hopen
  cases hclose
  obtain ⟨hinside, ts, rfl, hts⟩ := h _ _ _ hw
  refine ⟨hon, ts, rfl, fun t ht => ?_⟩
  obtain ⟨text, hmem, hin⟩ := hts t ht
  have hfooter : c₂.lines <+: (c₂.closeBlock footer).lines := by
    cases footer with
    | none => exact List.prefix_refl _
    | some f => exact List.prefix_append _ _
  exact ⟨text, Code.mem_added (c.onto_line header).lines hinside.lines hfooter hmem, hin⟩

/-- Steps for the members of a list that show one type expression each. -/
theorem forM_one {f : ι → Writing PUnit} {g : ι → Except Fault ForeignType} {l : List ι}
    (h : ∀ i ∈ l, Shows (f i) (do return [← g i])) : Shows (l.forM f) (l.mapM g) := by
  induction l with
  | nil => exact (Appends.pure _).shows
  | cons i l ih =>
    have hrest := ih fun j hj => h j (List.mem_cons_of_mem _ hj)
    have hboth := (h i (List.mem_cons_self ..)).bind (k := fun _ => l.forM f) fun _ => hrest
    rw [List.mapM_cons]
    cases hi : g i <;> cases hl : l.mapM g <;> rw [hi, hl] at hboth <;> exact hboth

/-- Steps for the members of a list that show several type expressions each. -/
theorem forM {f : ι → Writing PUnit} {g : ι → Except Fault (List ForeignType)} {l : List ι}
    (h : ∀ i ∈ l, Shows (f i) (g i)) : Shows (l.forM f) (do return (← l.mapM g).flatten) := by
  induction l with
  | nil => exact (Appends.pure _).shows
  | cons i l ih =>
    have hrest := ih fun j hj => h j (List.mem_cons_of_mem _ hj)
    have hboth := (h i (List.mem_cons_self ..)).bind (k := fun _ => l.forM f) fun _ => hrest
    rw [List.mapM_cons]
    cases hi : g i <;> cases hl : l.mapM g <;> rw [hi, hl] at hboth <;> exact hboth

end Shows

/-- A block at the outermost level starts with its header as a line. -/
theorem header_mem_of_run_block {header : String} {footer : Option String} {w : Writing Unit}
    (hw : Appends w) {c c' : Code} {u : Unit} (h : (block header footer w).run c = .ok (u, c'))
    (hlevel : c.level = 0) : header ∈ c'.lines := by
  unfold Writing.block at h
  obtain ⟨_, c₁, hopen, h⟩ := exists_of_run_bind h
  obtain ⟨_, c₂, hbody, hclose⟩ := exists_of_run_bind h
  cases hopen
  cases hclose
  have hline : header ∈ (c.line header).lines := by
    refine List.mem_append_right _ (List.mem_singleton.2 ?_)
    rw [hlevel]
    split_ifs with hempty
    · exact hempty
    · exact (String.empty_append).symm
  have hinside : header ∈ c₂.lines := (hw _ _ _ hbody).lines.subset hline
  cases footer with
  | none => exact hinside
  | some f => exact List.mem_append_left _ hinside

end Writing

/-! ### Layouts and functions -/

/-- What is joined with others stands in the whole. -/
theorem infix_intercalate {sep text : String} {texts : List String} (h : text ∈ texts) :
    text.toList <:+: (sep.intercalate texts).toList := by
  induction texts with
  | nil => cases h
  | cons first rest ih =>
    by_cases hrest : rest = []
    · subst hrest
      rw [List.mem_singleton.1 h, String.intercalate_singleton]
    · rw [String.intercalate_cons_of_ne_nil hrest, String.toList_append, String.toList_append]
      rcases List.mem_cons.1 h with rfl | h
      · exact ((List.prefix_append _ _).trans (List.prefix_append _ _)).isInfix
      · exact (ih h).trans (List.suffix_append _ _).isInfix

/-- What stands between two texts stands in the whole. -/
theorem infix_between (before text behind : String) :
    text.toList <:+: (before ++ text ++ behind).toList := by
  rw [String.toList_append, String.toList_append]
  exact ⟨before.toList, behind.toList, rfl⟩

theorem infix_append {text before : String} (h : text.toList <:+: before.toList)
    (behind : String) : text.toList <:+: (before ++ behind).toList := by
  rw [String.toList_append]
  exact h.trans (List.prefix_append _ _).isInfix

namespace Emission

open Writing

variable (e : Emission) (o : Options)

/-- The line of a field, or of a base that is held like one, shows its type. -/
theorem shows_member (name : String) (t : ForeignType) :
    Shows (line ("(" ++ Text.quoted name ++ ", " ++ t.text ++ "),")) (.ok [t]) := by
  refine .line fun u hu => ?_
  rw [List.mem_singleton.1 hu]
  exact infix_between _ _ _

theorem writeLayout_shows (d : Decl) : Shows (e.writeLayout d) (e.layoutTypes d) := by
  unfold writeLayout layoutTypes
  refine .appends_bind (.blank 1) fun _ => .lift_bind fun bases _ => ?_
  have hbases : Shows ((((List.range bases.length).map baseField).zip bases).forM fun p =>
      line ("(" ++ Text.quoted p.1 ++ ", " ++ p.2.name ++ "),"))
      (.ok (bases.map fun b => .named (.text b.name))) := by
    have hzip : (((List.range bases.length).map baseField).zip bases).map (·.2) = bases :=
      List.map_snd_zip (by simp)
    have hone := Shows.forM_one (g := fun p : String × Decl => .ok (.named (.text p.2.name)))
      (l := ((List.range bases.length).map baseField).zip bases)
      fun p _ => shows_member p.1 (.named (.text p.2.name))
    have hpure : (((List.range bases.length).map baseField).zip bases).mapM
        (fun p => (.ok (.named (.text p.2.name)) : Except Fault ForeignType)) =
        .ok (bases.map fun b => .named (.text b.name)) := by
      conv_rhs => rw [← hzip, List.map_map]
      exact List.mapM_pure
    rwa [hpure] at hone
  have hfields : Shows ((e.fieldsOf d).forM fun f => do
      line ("(" ++ Text.quoted f.decl.name ++ ", " ++ (← liftM (e.fieldType f)).text ++ "),"))
      ((e.fieldsOf d).mapM e.fieldType) :=
    .forM_one fun f _ => .lift_bind fun t _ => shows_member f.decl.name t
  have hblock : Shows (block (d.name ++ "._fields_ = [") (some "]") _) _ :=
    .block (hbases.bind fun _ => hfields)
  dsimp only
  split_ifs
  · exact .appends_bind (.line _) fun _ => hblock
  · exact hblock

theorem writeFunction_shows (d : Decl) : Shows (e.writeFunction o d) (e.bindingTypes d) := by
  unfold writeFunction bindingTypes
  refine .appends_bind (.blank 1) fun _ => .appends_bind (e.appends_provenance o d) fun _ => ?_
  cases d.body.prototype? with
  | none => exact (Appends.pure _).shows
  | some p =>
    refine .lift_bind fun result _ => .lift_bind fun types _ => .line fun t ht => ?_
    rcases List.mem_cons.1 ht with rfl | ht
    · exact infix_append (infix_append (infix_between _ _ _) _) _
    · exact (infix_intercalate (List.mem_map_of_mem ht)).trans (infix_between _ _ _)

theorem writeLayouts_shows : Shows (e.writeLayouts e.library.emittedClasses)
    (do return (← (← e.laidOut).mapM e.layoutTypes).flatten) := by
  unfold writeLayouts laidOut
  simp only [bind_assoc]
  refine .lift_bind fun laidOut _ => ?_
  cases hempty : laidOut.isEmpty with
  | true =>
    rw [List.isEmpty_iff.1 hempty]
    exact (Appends.pure _).shows
  | false => exact .appends_bind (.blank 2) fun _ => .lift_bind fun ordered _ => .forM fun d _ =>
      e.writeLayout_shows d

theorem writeFunctions_shows : Shows
    (if !e.library.emittedFunctions.isEmpty then do
      blank 2
      e.library.emittedFunctions.forM (e.writeFunction o)
    else Pure.pure ())
    (do return (← e.library.emittedFunctions.mapM e.bindingTypes).flatten) := by
  cases hempty : e.library.emittedFunctions.isEmpty with
  | true =>
    rw [List.isEmpty_iff.1 hempty]
    exact (Appends.pure _).shows
  | false => exact .appends_bind (.blank 2) fun _ => .forM fun d _ => e.writeFunction_shows o d

/-- What stands behind the classes of a module shows all its type expressions. -/
theorem writeRest_shows : Shows
    (do
      e.writeLayouts e.library.emittedClasses
      let functions := e.library.emittedFunctions
      if !functions.isEmpty then
        blank 2
        functions.forM (e.writeFunction o)
      e.writeExports e.library.emittedClasses)
    e.typeExpressions := by
  have hboth := e.writeLayouts_shows.bind fun _ =>
    (e.writeFunctions_shows o).bind_appends fun _ => e.appends_writeExports e.library.emittedClasses
  have htypes : e.typeExpressions = (do
      return (← (do return (← (← e.laidOut).mapM e.layoutTypes).flatten)) ++
        (← (do return (← e.library.emittedFunctions.mapM e.bindingTypes).flatten))) := by
    unfold typeExpressions
    simp only [bind_assoc, pure_bind]
  rw [htypes]
  cases hempty : e.library.emittedFunctions.isEmpty <;>
    simp only [hempty, bind_assoc, pure_bind] at hboth ⊢ <;> exact hboth

/-- A module that is written defines its classes at the top, each under its header, and shows its
type expressions, which are all found, in lines below. -/
theorem exists_of_writeModule {c c' : Code} {u : Unit} (h : (e.writeModule o).run c = .ok (u, c'))
    (hlevel : c.level = 0) : ∃ mid : Code, mid.Onto c' ∧
      (∀ d ∈ e.library.emittedClasses, classHeader d ∈ mid.lines) ∧
      ∃ types, e.typeExpressions = .ok types ∧
        ∀ t ∈ types, ∃ text ∈ Code.added mid c', t.text.toList <:+: text.toList := by
  unfold writeModule at h
  obtain ⟨_, c₁, hstart, h⟩ := exists_of_run_bind h
  obtain ⟨_, c₂, henums, h⟩ := exists_of_run_bind h
  obtain ⟨_, c₃, hclasses, hrest⟩ := exists_of_run_bind h
  obtain ⟨hon, hshown⟩ := e.writeRest_shows o c₃ u c' hrest
  refine ⟨c₃, hon, fun d hd => ?_, hshown⟩
  have hbefore : c.Onto c₂ := (appends_writeStart o c _ c₁ hstart).trans
    (Appends.forM (fun d _ => e.appends_writeEnum o d) c₁ _ c₂ henums)
  obtain ⟨c₄, c₅, v, hclass, hon₄, hon₅⟩ :=
    exists_run_of_mem (e.appends_writeClass o) hclasses hd
  obtain ⟨body, hbody, heq⟩ := e.exists_writeClass_eq o d
  rw [heq] at hclass
  obtain ⟨_, c₆, hblank, hclass⟩ := exists_of_run_bind hclass
  obtain ⟨_, c₇, hprovenance, hblock⟩ := exists_of_run_bind hclass
  have hzero : c₇.level = 0 := by
    have hon₇ := (hbefore.trans hon₄).trans ((Appends.blank 2 c₄ _ c₆ hblank).trans
      (e.appends_provenance o d c₆ _ c₇ hprovenance))
    rw [hon₇.level, hlevel]
  exact hon₅.lines.subset (header_mem_of_run_block hbody hblock hzero)

end Emission

end Bindery
