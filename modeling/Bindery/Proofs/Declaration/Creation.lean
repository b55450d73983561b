import Bindery.Declaration.Attribute
import Bindery.Proofs.Declaration.Ranked

/-!
# New declarations

Attributes that are given by name change neither the number nor the scope of a new declaration, and
put nothing on its lists: names that would do so are refused beforehand.
-/

namespace Bindery

/-- An assignment leaves the lists of a body alone. -/
theorem Body.listOf_of_assign? {b b' : Body} {name : String} {c : Content}
    (h : b.assign? name c = some b') (list : String) : b'.listOf list = b.listOf list := by
  unfold assign? at h
  split at h
  · split at h <;> cases h
    rfl
  · cases b with
    | unit s file =>
      simp only at h
      split at h
      · obtain ⟨t, -, rfl⟩ := Option.map_eq_some_iff.1 h
        rw [listOf_unit, listOf_unit]
      · cases h
    | record r =>
      obtain ⟨s, hs, rfl⟩ := Option.map_eq_some_iff.1 h
      rw [listOf_record, listOf_record]
      unfold Record.assign? at hs
      split at hs <;> first
        | cases hs
        | (obtain ⟨t, -, rfl⟩ := Option.map_eq_some_iff.1 hs; rfl)
    | function p =>
      obtain ⟨q, hq, rfl⟩ := Option.map_eq_some_iff.1 h
      rw [listOf_function, listOf_function]
      unfold Prototype.assign? at hq
      split at hq <;> first
        | cases hq
        | (obtain ⟨t, -, rfl⟩ := Option.map_eq_some_iff.1 hq; rfl)
    | method p t =>
      simp only at h
      split at h
      · next q hq =>
        cases h
        rw [listOf_method, listOf_method]
        unfold Prototype.assign? at hq
        split at hq <;> first
          | cases hq
          | (obtain ⟨t, -, rfl⟩ := Option.map_eq_some_iff.1 hq; rfl)
      · obtain ⟨u, -, rfl⟩ := Option.map_eq_some_iff.1 h
        rw [listOf_method, listOf_method]
    | enumeration items u s =>
      simp only at h
      split at h <;> first
        | cases h
        | (obtain ⟨t, -, rfl⟩ := Option.map_eq_some_iff.1 h
           rw [listOf_enumeration, listOf_enumeration])
    | _ =>
      simp only at h
      repeat' split at h
      all_goals first
        | cases h
        | (obtain ⟨t, -, rfl⟩ := Option.map_eq_some_iff.1 h; rfl)

/-- Before anything is put there, lists are empty. -/
theorem Body.listOf_blank (f : Form) (list : String) : (blank f).listOf list = [] := by
  by_cases hl : list ∈ (blank f).form.lists
  · rw [form_blank] at hl
    cases f <;> simp only [Form.lists, List.mem_cons, List.not_mem_nil, or_false] at hl <;>
      (repeat' rcases hl with rfl | hl) <;> rfl
  · exact listOf_eq_nil hl

namespace Decl

variable {d e : Decl}

/-- An attribute that is not fixed leaves a declaration in its place. -/
theorem narrows_of_assign? {name : String} {c : Content} (h : d.assign? name c = some e)
    (hname : name ∉ Form.fixedAttributes) : d.Narrows e := by
  unfold assign? at h
  split at h <;> first
    | cases h
    | (simp [Form.fixedAttributes] at hname; done)
    | (obtain ⟨t, -, rfl⟩ := Option.map_eq_some_iff.1 h
       exact ⟨rfl, rfl, rfl, rfl, fun _ => List.Sublist.refl _⟩)
    | (obtain ⟨b, hb, rfl⟩ := Option.map_eq_some_iff.1 h
       exact ⟨rfl, rfl, rfl, Body.form_of_assign? hb, fun list =>
         (Body.listOf_of_assign? hb list).symm ▸ List.Sublist.refl _⟩)

theorem narrows_of_assignAll? {given : List (String × Content)}
    (h : d.assignAll? given = some e) (hnames : ∀ a ∈ given, a.1 ∉ Form.fixedAttributes) :
    d.Narrows e := by
  unfold assignAll? at h
  induction given generalizing d with
  | nil =>
    cases h
    exact .refl _
  | cons a given ih =>
    rw [List.foldlM_cons] at h
    obtain ⟨m, hm, hrest⟩ := Option.bind_eq_some_iff.1 h
    have hfirst := narrows_of_assign? hm (hnames a (List.mem_cons_self ..))
    exact hfirst.trans (ih hrest fun b hb => hnames b (List.mem_cons_of_mem _ hb))

end Decl

/-- Attributes that every new declaration is given anyway are refused. -/
theorem Form.not_fixed_of_given {f : Form} {attributes : Fields}
    {given : List (String × Content)} (h : f.given attributes = .ok given) :
    ∀ a ∈ given, a.1 ∉ fixedAttributes := by
  unfold Form.given contents at h
  obtain ⟨contents, hcontents, h⟩ := bind_eq_ok_iff.1 h
  have hnames : ∀ a ∈ contents, a.1 ∈ attributes.names := by
    intro a ha
    obtain ⟨⟨name, v⟩, hmem, hread⟩ := (mem_iff_of_mapM_ok hcontents).1 ha
    obtain ⟨c, -, hpair⟩ := bind_eq_ok_iff.1 hread
    cases hpair
    exact List.mem_map.2 ⟨(name, v), hmem, rfl⟩
  split at h
  · cases h
  · next hrefusal =>
    cases h
    intro a ha hfixed
    have hname := hnames a (List.mem_filter.1 ha).1
    unfold refusal? at hrefusal
    split at hrefusal
    · cases hrefusal
    · split at hrefusal
      · cases hrefusal
      · next hfind =>
        have hnot := List.find?_eq_none.1 hfind a.1 hname
        exact hnot (List.contains_iff_mem.2 hfixed)

/-- A new declaration has the next number, which is also its place in the order, and the scope and
the form that it was meant to have. Nothing is on its lists. -/
theorem Library.newDecl?_fresh {lib : Library} {f : Form} {parent : Option Nat}
    {attributes : Fields} {given : List (String × Content)} {d : Decl}
    (hgiven : f.given attributes = .ok given) (h : lib.newDecl? f parent given = some d) :
    d.id = lib.created ∧ d.order = lib.created ∧ d.parent = parent ∧ d.body.form = f ∧
      ∀ list, d.body.listOf list = [] := by
  have hnarrows := Decl.narrows_of_assignAll? h (Form.not_fixed_of_given hgiven)
  refine ⟨hnarrows.id, hnarrows.order, hnarrows.parent, ?_, fun list => ?_⟩
  · exact hnarrows.form.trans (Body.form_blank f)
  · exact List.sublist_nil.1 (Body.listOf_blank f list ▸ hnarrows.lists list)

namespace Edit

/-- A declaration that is created in another one is put there, or is refused there and stays by
itself. -/
theorem outcomeOf_create {lib : Library} {p : Nat} {o d : Decl} (body : Body)
    (init : Decl → Decl) (ho : lib.decl? p = some o) (hd : d = init (lib.blankDecl (some p) body)) :
    outcomeOf (create body (some p) init) lib =
      match o.body.insert? d.body lib.created with
      | some b => (.ok lib.created, (lib.append d).update p fun o => { o with body := b })
      | none => (.error (.refuses o.kind d.kind), lib.append d) := by
  have hlt : p ≠ lib.created := Nat.ne_of_lt (Library.lt_created_of_decl? ho)
  unfold create
  rw [outcomeOf_bind_ok (outcomeOf_get lib)]
  dsimp only
  rw [outcomeOf_bind_ok (outcomeOf_set lib _), ← hd, outcomeOf_bind]
  unfold addChild
  rw [outcomeOf_bind_ok (outcomeOf_get _), Library.decl?_append, if_neg hlt,
    Library.decl?_append, if_pos rfl, ho]
  cases hb : o.body.insert? d.body lib.created <;> simp only [hb] <;> rfl

/-- A declaration that is created in no other one stays by itself. -/
theorem outcomeOf_create_none {lib : Library} {d : Decl} {body : Body} {init : Decl → Decl}
    (hd : d = init (lib.blankDecl none body)) :
    outcomeOf (create body none init) lib = (.ok lib.created, lib.append d) := by
  rw [hd]
  rfl

end Edit

end Bindery
