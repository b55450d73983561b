import Bindery.Proofs.Declaration.Kept
import Bindery.Proofs.Pass.Incomplete

/-!
# Merging one class after the other

A class is known by its qualified name: the first complete class of a name is the definition behind
all forward declarations of that name. What becomes of a library when some of its forward
declarations were merged is told at once for all declarations, and merging one more class is a step
from one such library to the next. Qualified names stay on the way, so that what was to be merged in
the beginning is what is merged in the end.
-/

namespace Bindery

/-- Whether a declaration is a class that is fully known. -/
def Decl.isComplete (d : Decl) : Bool :=
  d.body.isRecord && !d.isIncomplete

/-- Links a declaration to its definition. -/
def Decl.linkTo (d : Decl) (definition : Option Nat) : Decl :=
  { d with body := d.body.mapRecord fun r =>
      { r with definition := definition, incomplete := false } }

/-- What the qualified names of a declaration and of all in it are made of stays. -/
structure Decl.SameScope (d e : Decl) : Prop where
  /-- The name stays. -/
  name : e.name = d.name
  /-- The scope it was created in stays. -/
  parent : e.parent = d.parent
  /-- The form stays. -/
  form : e.body.form = d.body.form

namespace Library

/-- Whether two declarations have the same qualified name. -/
def sameName (lib : Library) (c d : Decl) : Bool :=
  (lib.qualifiedName c).toOption.any fun name => (lib.qualifiedName d).toOption == some name

/-- The definition behind a declaration: the first complete class of its qualified name. -/
def definitionFor? (lib : Library) (d : Decl) : Option Decl :=
  lib.classes.find? fun c => !c.isIncomplete && lib.sameName c d

/-- Whether a class is the forward declaration of another one. -/
def isForward (lib : Library) (d : Decl) : Bool :=
  d.isIncomplete && (lib.definitionFor? d).isSome

/-- The forward declarations that have a definition, in the order of the classes. -/
def forwards (lib : Library) : List Decl :=
  lib.classes.filter lib.isForward

/-- The first comment above one of the forward declarations of a class. -/
def handedComment (lib : Library) (forwards : List Decl) (definition : Nat) : String :=
  ((forwards.find? fun d => (lib.definitionFor? d).map (·.id) == some definition &&
    d.comment != "").map (·.comment)).getD ""

/-- Whether what a declaration lists is none of some forward declarations in it. -/
def stays (forwards : List Decl) (owner id : Nat) : Bool :=
  !forwards.any fun d => d.id == id && d.parent == some owner

/-- A declaration after some forward declarations were merged. -/
def mergedDecl (lib : Library) (forwards : List Decl) (id : Nat) (d : Decl) : Decl :=
  if id ∈ forwards.map (·.id) then d.linkTo ((lib.definitionFor? d).map (·.id))
  else
    { d with
      comment := if d.comment = "" then lib.handedComment forwards id else d.comment
      body := d.body.keep (stays forwards id) }

/-- A library after some of its forward declarations were merged. -/
def mergedBy (lib : Library) (forwards : List Decl) : Library :=
  { lib with
    slots := lib.slots.mapIdx fun id s => { s with decl := lib.mergedDecl forwards id s.decl } }

variable {lib : Library} {forwards : List Decl}

/-! ### Libraries after merging -/

theorem decl?_mergedBy (lib : Library) (forwards : List Decl) (id : Nat) :
    (lib.mergedBy forwards).decl? id = (lib.decl? id).map (lib.mergedDecl forwards id) := by
  unfold decl? mergedBy
  rw [List.getElem?_mapIdx]
  cases lib.slots[id]? <;> rfl

theorem registered?_mergedBy (lib : Library) (forwards : List Decl) (id : Nat) :
    (lib.mergedBy forwards).registered? id =
      (lib.registered? id).map (lib.mergedDecl forwards id) := by
  unfold registered? mergedBy
  rw [List.getElem?_mapIdx]
  cases lib.slots[id]? with
  | none => rfl
  | some s => cases hs : s.registered <;> simp [Option.filter, hs]

@[simp] theorem created_mergedBy (lib : Library) (forwards : List Decl) :
    (lib.mergedBy forwards).created = lib.created := by
  unfold created mergedBy
  exact List.length_mapIdx

theorem mergedDecl_of_mem {id : Nat} {d : Decl} (h : id ∈ forwards.map (·.id)) :
    lib.mergedDecl forwards id d = d.linkTo ((lib.definitionFor? d).map (·.id)) :=
  if_pos h

theorem mergedDecl_of_not_mem {id : Nat} {d : Decl} (h : id ∉ forwards.map (·.id)) :
    lib.mergedDecl forwards id d =
      { d with
        comment := if d.comment = "" then lib.handedComment forwards id else d.comment
        body := d.body.keep (stays forwards id) } :=
  if_neg h

/-- An empty comment is no comment to hand over. -/
theorem ite_empty_comment (d : Decl) : (if d.comment = "" then "" else d.comment) = d.comment := by
  split_ifs with h
  · exact h.symm
  · rfl

/-- Where nothing is merged, nothing is changed. -/
@[simp] theorem mergedBy_nil (lib : Library) : lib.mergedBy [] = lib := by
  have hdecl : ∀ id d, lib.mergedDecl [] id d = d := by
    intro id d
    rw [mergedDecl_of_not_mem List.not_mem_nil]
    show { d with
      comment := if d.comment = "" then "" else d.comment, body := d.body.keep fun _ => true } = d
    rw [ite_empty_comment, Body.keep_true]
  unfold mergedBy
  simp only [hdecl]
  rw [List.mapIdx_eq_iff.2]
  intro i
  cases lib.slots[i]? <;> rfl

theorem sameScope_mergedDecl (lib : Library) (forwards : List Decl) (id : Nat) (d : Decl) :
    d.SameScope (lib.mergedDecl forwards id d) := by
  by_cases h : id ∈ forwards.map (·.id)
  · rw [mergedDecl_of_mem h]
    refine ⟨rfl, rfl, ?_⟩
    unfold Decl.linkTo
    cases d.body <;> rfl
  · rw [mergedDecl_of_not_mem h]
    exact ⟨rfl, rfl, Body.form_keep ..⟩

theorem matches_mergedBy (lib : Library) (forwards : List Decl) :
    lib.Matches Decl.SameScope (lib.mergedBy forwards) := by
  intro id
  unfold mergedBy
  rw [List.getElem?_mapIdx]
  cases lib.slots[id]? with
  | none => exact .none
  | some s => exact .some ⟨rfl, sameScope_mergedDecl lib forwards id s.decl⟩

/-- Declarations of the same names in the same scopes have the same qualified names. -/
theorem Matches.toOption_qualifiedName {out : Library} (h : lib.Matches Decl.SameScope out)
    {d e : Decl} (hde : d.SameScope e) :
    (out.qualifiedName e).toOption = (lib.qualifiedName d).toOption := by
  have hagree := h.outward (fun _ _ hde => hde.parent) hde
  unfold Library.qualifiedName
  revert hagree
  cases lib.outward d <;> cases out.outward e <;> intro hagree <;> cases hagree
  · rfl
  · next ds es hall =>
    have hnames : joinNames (·.name) es = joinNames (·.name) ds := by
      suffices hmap : (es.filter (·.kind ≠ .unit)).map (·.name) =
          (ds.filter (·.kind ≠ .unit)).map (·.name) by
        unfold joinNames
        rw [hmap]
      induction hall with
      | nil => rfl
      | @cons d e ds es hde _ ih =>
        have hkind : e.kind = d.kind := congrArg Form.kind hde.form
        simp only [List.filter_cons, hkind]
        split_ifs
        · rw [List.map_cons, List.map_cons, ih, hde.name]
        · exact ih
    show some (joinNames _ es) = some (joinNames _ ds)
    rw [hnames]

/-- Merging forward declarations leaves all qualified names as they are. -/
theorem qualifiedName_mergedDecl (lib : Library) (forwards : List Decl) (id : Nat) (d : Decl) :
    ((lib.mergedBy forwards).qualifiedName (lib.mergedDecl forwards id d)).toOption =
      (lib.qualifiedName d).toOption :=
  (matches_mergedBy lib forwards).toOption_qualifiedName (sameScope_mergedDecl lib forwards id d)

/-! ### Finding definitions -/

/-- The table of definitions has the first complete class of each qualified name. -/
theorem find?_of_definitions {table : List (String × Nat)} (h : lib.definitions = .ok table)
    {d : Decl} {name : String} (hname : lib.qualifiedName d = .ok name) :
    (table.find? (·.1 == name)).map (·.2) = (lib.definitionFor? d).map (·.id) := by
  have hsame : ∀ c, lib.sameName c d = true ↔ lib.qualifiedName c = .ok name := by
    intro c
    unfold sameName
    rw [hname]
    cases lib.qualifiedName c with
    | error f => simp [Except.toOption]
    | ok q => simp [Except.toOption, eq_comm (a := name)]
  -- what the table has of this name is what it had before, or the first class of the name
  suffices hfold : ∀ (l : List Decl) (found out : List (String × Nat)),
      l.foldlM (fun table d => do
        let name ← lib.qualifiedName d
        return if table.any (·.1 == name) then table else table ++ [(name, d.id)]) found = .ok out →
      (out.find? (·.1 == name)).map (·.2) =
        ((found.find? (·.1 == name)).map (·.2)).or ((l.find? (lib.sameName · d)).map (·.id)) by
    rw [hfold _ [] table h, List.find?_filter]
    simp only [Bool.decide_and, Bool.decide_coe]
    rfl
  intro l
  induction l with
  | nil =>
    rintro found _ ⟨⟩
    simp
  | cons c l ih =>
    intro found out hout
    rw [List.foldlM_cons] at hout
    obtain ⟨mid, hmid, hout⟩ := bind_eq_ok_iff.1 hout
    obtain ⟨q, hq, hmid⟩ := bind_eq_ok_iff.1 hmid
    cases hmid
    rw [ih _ _ hout, List.find?_cons]
    by_cases hcq : q = name
    · subst hcq
      rw [(hsame c).2 hq]
      cases hany : found.find? (·.1 == q) with
      | none =>
        have hnone : found.any (·.1 == q) = false := by
          rw [List.any_eq_false]
          exact fun x hx => List.find?_eq_none.1 hany x hx
        simp [hnone, hany]
      | some x =>
        have hsome : found.any (·.1 == q) = true :=
          List.any_eq_true.2 ⟨x, List.mem_of_find?_eq_some hany,
            by simpa using List.find?_some hany⟩
        simp [hsome, hany]
    · have hother : lib.sameName c d = false := by
        rw [Bool.eq_false_iff, Ne, hsame, hq]
        exact fun heq => hcq (Except.ok.inj heq)
      rw [hother]
      split_ifs
      · rfl
      · simp [hcq]

/-! ### One class more -/

theorem handedComment_append (lib : Library) (forwards : List Decl) (c : Decl) (id : Nat) :
    lib.handedComment (forwards ++ [c]) id =
      if (lib.definitionFor? c).map (·.id) = some id ∧ lib.handedComment forwards id = "" then
        c.comment
      else lib.handedComment forwards id := by
  unfold handedComment
  rw [List.find?_append]
  cases hfound : forwards.find? fun d => (lib.definitionFor? d).map (·.id) == some id &&
      d.comment != "" with
  | some d =>
    have hne := List.find?_some hfound
    simp only [Bool.and_eq_true, bne_iff_ne] at hne
    simp [hne.2]
  | none =>
    by_cases hdef : (lib.definitionFor? c).map (·.id) = some id
    · by_cases hempty : c.comment = "" <;> simp [hdef, hempty]
    · simp [hdef]

theorem stays_append (forwards : List Decl) (c : Decl) (owner id : Nat) :
    stays (forwards ++ [c]) owner id =
      (stays forwards owner id && !(c.id == id && c.parent == some owner)) := by
  simp [stays]

theorem slots_update (lib : Library) (id : Nat) (f : Decl → Decl) (k : Nat) :
    (lib.update id f).slots[k]? =
      lib.slots[k]?.map fun s => { s with decl := if id = k then f s.decl else s.decl } := by
  unfold update
  rw [List.getElem?_modify]
  split_ifs <;> cases lib.slots[k]? <;> rfl

theorem slots_mergedBy (lib : Library) (forwards : List Decl) (k : Nat) :
    (lib.mergedBy forwards).slots[k]? =
      lib.slots[k]?.map fun s => { s with decl := lib.mergedDecl forwards k s.decl } := by
  unfold mergedBy
  rw [List.getElem?_mapIdx]

theorem registered?_update (lib : Library) (id : Nat) (f : Decl → Decl) (k : Nat) :
    (lib.update id f).registered? k =
      (lib.registered? k).map fun d => if id = k then f d else d := by
  unfold registered?
  rw [slots_update]
  cases lib.slots[k]? with
  | none => rfl
  | some s => cases hs : s.registered <;> simp [Option.filter, hs]

/-- A change that leaves every declaration alone changes nothing. -/
theorem update_of_forall {f : Decl → Decl} (hf : ∀ d, f d = d) (k : Nat) : lib.update k f = lib := by
  have hslot : (fun s : Slot => { s with decl := f s.decl }) = id := by
    funext s
    rw [hf]
    rfl
  unfold update
  rw [hslot, List.modify_id]

/-- Linking a forward declaration, told without a look at its comment. -/
theorem link_eq (lib : Library) (id definition : Nat) :
    lib.link id definition = (lib.update id (·.linkTo (some definition))).update definition fun d =>
      { d with comment := if d.comment = "" then ((lib.decl? id).map (·.comment)).getD ""
        else d.comment } := by
  unfold link
  dsimp only
  split_ifs with hempty
  · -- an empty comment makes no difference to the definition
    rw [hempty]
    exact (update_of_forall (fun d => by rw [ite_empty_comment]) definition).symm
  · congr 1
    funext d
    split_ifs <;> rfl

/-- What is known of a class that is to be merged after some others. -/
structure Mergeable (lib : Library) (forwards : List Decl) (c e : Decl) (p : Nat) (o : Decl) :
    Prop where
  /-- The class is kept under its number. -/
  decl : lib.decl? c.id = some c
  /-- It has a definition. -/
  definition : lib.definitionFor? c = some e
  /-- It holds nothing. -/
  empty : c.body.children = []
  /-- It was not merged before. -/
  fresh : c.id ∉ forwards.map (·.id)
  /-- Nothing is merged into it. -/
  last : ∀ d ∈ forwards, (lib.definitionFor? d).map (·.id) ≠ some c.id
  /-- The definition is not merged into anything. -/
  complete : e.id ≠ c.id ∧ e.id ∉ forwards.map (·.id)
  /-- The class was created in its owner. -/
  parent : c.parent = some p
  /-- The owner is registered. -/
  owner : lib.registered? p = some o
  /-- Under its own number. -/
  number : o.id = p
  /-- The owner lists nothing twice. -/
  nodup : o.body.children.Nodup
  /-- The owner lists the class. -/
  listed : c.id ∈ o.body.children
  /-- The owner is not merged into anything. -/
  whole : p ≠ c.id ∧ p ∉ forwards.map (·.id)

namespace Mergeable

variable {c e o : Decl} {p : Nat} (h : lib.Mergeable forwards c e p o)
include h

/-- A class that is to be merged was left alone so far. -/
theorem mergedDecl_eq : lib.mergedDecl forwards c.id c = c := by
  have hcomment : lib.handedComment forwards c.id = "" := by
    unfold handedComment
    rw [List.find?_eq_none.2]
    · rfl
    · intro d hd
      simp [h.last d hd]
  rw [mergedDecl_of_not_mem h.fresh, hcomment, ite_empty_comment, Body.keep_of_nil h.empty]

/-- What its owner is left with. -/
theorem erase?_owner : (o.body.keep (stays forwards p)).erase? c.id =
    some (o.body.keep (stays (forwards ++ [c]) p)) := by
  have hlisted : c.id ∈ (o.body.keep (stays forwards p)).children := by
    rw [Body.children_keep, List.mem_filter]
    refine ⟨h.listed, ?_⟩
    unfold stays
    rw [Bool.not_eq_true', List.any_eq_false]
    intro d hd hsame
    rw [Bool.and_eq_true, beq_iff_eq] at hsame
    exact h.fresh (hsame.1 ▸ List.mem_map_of_mem hd)
  have hnodup : (o.body.keep (stays forwards p)).children.Nodup := by
    rw [Body.children_keep]
    exact h.nodup.filter _
  rw [Body.erase?_eq_keep hnodup hlisted, Body.keep_keep]
  congr 2
  funext id
  rw [stays_append, h.parent]
  simp [bne, Bool.beq_comm]

/-- What becomes of one declaration when the class is linked and leaves its owner. -/
theorem mergedDecl_append {k : Nat} {d : Decl} (hd : lib.decl? k = some d) :
    lib.mergedDecl (forwards ++ [c]) k d =
      (let before := lib.mergedDecl forwards k d
      let linked := if c.id = k then before.linkTo (some e.id) else before
      let handed := if e.id = k then
          { linked with comment := if linked.comment = "" then c.comment else linked.comment }
        else linked
      if p = k then { handed with body := o.body.keep (stays (forwards ++ [c]) p) } else handed) := by
  dsimp only
  by_cases hself : c.id = k
  · subst hself
    obtain rfl : c = d := Option.some.inj (h.decl.symm.trans hd)
    rw [if_neg h.whole.1, if_neg h.complete.1, if_pos rfl, h.mergedDecl_eq,
      mergedDecl_of_mem (by simp), h.definition]
    rfl
  by_cases hgone : k ∈ forwards.map (·.id)
  · have howner : p ≠ k := fun heq => h.whole.2 (heq ▸ hgone)
    have hdefinition : e.id ≠ k := fun heq => h.complete.2 (heq ▸ hgone)
    rw [if_neg howner, if_neg hdefinition, if_neg hself, mergedDecl_of_mem hgone,
      mergedDecl_of_mem (by rw [List.map_append]; exact List.mem_append_left _ hgone)]
  · have hgone' : k ∉ (forwards ++ [c]).map (·.id) := by
      simp [hgone, Ne.symm hself]
    have hcomment : lib.handedComment (forwards ++ [c]) k =
        if e.id = k ∧ lib.handedComment forwards k = "" then c.comment
        else lib.handedComment forwards k := by
      rw [handedComment_append, h.definition]
      simp
    have hbody : d.body.keep (stays (forwards ++ [c]) k) =
        if p = k then o.body.keep (stays (forwards ++ [c]) p)
        else d.body.keep (stays forwards k) := by
      split_ifs with howner
      · subst howner
        rw [decl?_of_registered? h.owner] at hd
        cases hd
        rfl
      · congr 1
        funext id
        rw [stays_append, h.parent]
        simp [howner]
    rw [if_neg hself, mergedDecl_of_not_mem hgone, mergedDecl_of_not_mem hgone', hcomment, hbody]
    by_cases hempty : d.comment = "" <;> by_cases hdefinition : e.id = k <;>
      by_cases howner : p = k <;> simp [hempty, hdefinition, howner]

/-- Linking the class and taking it out of its owner. -/
theorem update_link :
    (((lib.mergedBy forwards).link c.id e.id).update p fun d =>
      { d with body := o.body.keep (stays (forwards ++ [c]) p) }) =
        lib.mergedBy (forwards ++ [c]) := by
  have hcomment : (((lib.mergedBy forwards).decl? c.id).map (·.comment)).getD "" = c.comment := by
    rw [decl?_mergedBy, h.decl, Option.map_some, h.mergedDecl_eq]
    rfl
  rw [link_eq, hcomment]
  have hslots : ((((lib.mergedBy forwards).update c.id (·.linkTo (some e.id))).update e.id fun d =>
      { d with comment := if d.comment = "" then c.comment else d.comment }).update p fun d =>
        { d with body := o.body.keep (stays (forwards ++ [c]) p) }).slots =
      (lib.mergedBy (forwards ++ [c])).slots := by
    refine List.ext_getElem? fun k => ?_
    simp only [slots_update, slots_mergedBy, Option.map_map]
    cases hs : lib.slots[k]? with
    | none => rfl
    | some s =>
      have hd : lib.decl? k = some s.decl := by simp [decl?, hs]
      simp only [Option.map_some, Function.comp, h.mergedDecl_append hd]
  unfold update mergedBy at hslots ⊢
  simp only at hslots ⊢
  rw [hslots]

/-- Merging the class. -/
theorem outcomeOf_remove_link :
    outcomeOf (Edit.remove c.id) ((lib.mergedBy forwards).link c.id e.id) =
      (.ok (), lib.mergedBy (forwards ++ [c])) := by
  obtain ⟨d, hd, hparent⟩ : ∃ d, ((lib.mergedBy forwards).link c.id e.id).decl? c.id = some d ∧
      d.parent = some p := by
    rw [link_eq, decl?_update, if_neg h.complete.1, decl?_update, if_pos rfl, decl?_mergedBy,
      h.decl, Option.map_some, h.mergedDecl_eq]
    exact ⟨_, rfl, h.parent⟩
  obtain ⟨o', ho', hid, hbody⟩ : ∃ o', ((lib.mergedBy forwards).link c.id e.id).registered? p =
      some o' ∧ o'.id = p ∧ o'.body = o.body.keep (stays forwards p) := by
    rw [link_eq, registered?_update, registered?_update, registered?_mergedBy, h.owner]
    simp only [Option.map_some, if_neg h.whole.1.symm, mergedDecl_of_not_mem h.whole.2]
    refine ⟨_, rfl, ?_, ?_⟩
    · split_ifs <;> exact h.number
    · split_ifs <;> rfl
  rw [Edit.outcomeOf_remove_of_erase? hd hparent ho' hid (hbody ▸ h.erase?_owner), h.update_link]

end Mergeable

/-! ### Going through the classes -/

/-- A definition is a complete class of the same qualified name. -/
theorem of_definitionFor? {d e : Decl} (he : lib.definitionFor? d = some e) :
    e ∈ lib.classes ∧ e.isIncomplete = false ∧ lib.sameName e d = true := by
  have hfound := List.find?_some he
  simp only [Bool.and_eq_true, Bool.not_eq_true'] at hfound
  exact ⟨List.mem_of_find?_eq_some he, hfound⟩

section

variable (h : lib.IsTree)
include h

theorem IsTree.classes_nodup : (lib.classes.map (·.id)).Nodup :=
  ((h.classes_perm).map (·.id)).nodup_iff.2 (h.walk_nodup.sublist (List.filter_sublist.map _))

/-- A complete class and one that is not have different numbers. -/
theorem IsTree.id_ne_of_isIncomplete {c e : Decl} (hc : c ∈ lib.classes) (he : e ∈ lib.classes)
    (hincomplete : c.isIncomplete = true) (hcomplete : e.isIncomplete = false) : e.id ≠ c.id := by
  intro hsame
  rw [List.inj_on_of_nodup_map h.classes_nodup he hc hsame, hincomplete] at hcomplete
  cases hcomplete

/-- No class has the number of one before it. -/
theorem IsTree.id_notMem_before {before after : List Decl} {c : Decl}
    (hsplit : lib.classes = before ++ c :: after) :
    c.id ∉ (before.filter lib.isForward).map (·.id) := by
  intro hin
  obtain ⟨d, hd, hsame⟩ := List.mem_map.1 hin
  have hids := h.classes_nodup
  rw [hsplit, List.map_append, List.map_cons, List.nodup_append] at hids
  exact hids.2.2 d.id (List.mem_map_of_mem (List.mem_filter.1 hd).1) c.id
    (List.mem_cons_self ..) hsame

variable (hs : lib.ScopesAgree)
  (hempty : ∀ d ∈ lib.walk, d.isIncomplete = true → d.body.children = [])
include hs hempty

/-- A forward declaration can be merged after those before it. -/
theorem exists_mergeable {before after : List Decl} {c : Decl}
    (hsplit : lib.classes = before ++ c :: after) (hc : lib.isForward c = true) :
    ∃ e p o, lib.Mergeable (before.filter lib.isForward) c e p o := by
  obtain ⟨hincomplete, hdefined⟩ := Bool.and_eq_true_iff.1 hc
  obtain ⟨e, he⟩ := Option.isSome_iff_exists.1 hdefined
  obtain ⟨hemem, hecomplete, -⟩ := of_definitionFor? he
  have hmem : c ∈ lib.classes := hsplit ▸ List.mem_append_right _ (List.mem_cons_self ..)
  obtain ⟨p, hp, hl⟩ := h.exists_owner_of_mem_classes hmem
  obtain ⟨o, ho, hid⟩ := h.registered p hp
  have hlisted : c.id ∈ o.body.children := by
    obtain ⟨o', ho', hlisted⟩ := hl
    rw [decl?_of_registered? ho] at ho'
    cases ho'
    exact hlisted
  have hbefore : ∀ d ∈ before.filter lib.isForward, d ∈ lib.classes ∧ d.isIncomplete = true := by
    intro d hd
    obtain ⟨hd, hforward⟩ := List.mem_filter.1 hd
    exact ⟨hsplit ▸ List.mem_append_left _ hd, (Bool.and_eq_true_iff.1 hforward).1⟩
  -- the owner holds something, so it is not incomplete itself
  have howner : ∀ d ∈ lib.classes, d.isIncomplete = true → p ≠ d.id := by
    rintro d hd hincomplete rfl
    have hdecl := (h.attached_of_mem_classes hd).2
    rw [decl?_of_registered? ho] at hdecl
    cases hdecl
    have hnone := hempty o (List.mem_filter.1 (h.classes_perm.subset hd)).1 hincomplete
    rw [hnone] at hlisted
    cases hlisted
  refine ⟨e, p, o, (h.attached_of_mem_classes hmem).2, he,
    hempty c (List.mem_filter.1 (h.classes_perm.subset hmem)).1 hincomplete,
    h.id_notMem_before hsplit, ?_, ⟨?_, ?_⟩,
    hs.listed_parent p c.id c hp hl (h.attached_of_mem_classes hmem).2, ho, hid,
    h.children_nodup p o hp (decl?_of_registered? ho), hlisted, howner c hmem hincomplete, ?_⟩
  · intro d _ hdef
    obtain ⟨b, hb, hsame⟩ := Option.map_eq_some_iff.1 hdef
    obtain ⟨hbmem, hbcomplete, -⟩ := of_definitionFor? hb
    exact h.id_ne_of_isIncomplete hmem hbmem hincomplete hbcomplete hsame
  · exact h.id_ne_of_isIncomplete hmem hemem hincomplete hecomplete
  · intro hin
    obtain ⟨d, hd, hsame⟩ := List.mem_map.1 hin
    obtain ⟨hdmem, hdincomplete⟩ := hbefore d hd
    exact h.id_ne_of_isIncomplete hdmem hemem hdincomplete hecomplete hsame.symm
  · intro hin
    obtain ⟨d, hd, hsame⟩ := List.mem_map.1 hin
    obtain ⟨hdmem, hdincomplete⟩ := hbefore d hd
    exact howner d hdmem hdincomplete hsame.symm

end

end Library

theorem eq_ok_of_toOption {ε α : Type} {x : Except ε α} {a : α} (h : x.toOption = some a) :
    x = .ok a := by
  cases x with
  | error e => cases h
  | ok b => exact congrArg Except.ok (Option.some.inj h)

namespace PassM

/-- What a pass has come to when it went through some classes. -/
def merged (s : PassState Library) (classes : List Decl) : PassState Library :=
  { s with
    library := s.library.mergedBy (classes.filter s.library.isForward)
    tally := { s.tally with
      resolved := s.tally.resolved ++ (classes.filter s.library.isForward).map (·.id)
      unresolved := s.tally.unresolved ++
        (classes.filter fun d => d.isIncomplete && !s.library.isForward d).map (·.id) } }

section

variable {s : PassState Library} (h : s.library.IsTree) (hs : s.library.ScopesAgree)
  (hempty : ∀ d ∈ s.library.walk, d.isIncomplete = true → d.body.children = [])
  {table : List (String × Nat)} (htable : s.library.definitions = .ok table)
include h hs hempty htable

/-- Merging a class after those before it. -/
theorem outcomeOf_resolveClass {before after : List Decl} {c : Decl}
    (hsplit : s.library.classes = before ++ c :: after) :
    outcomeOf (resolveClass table c.id) (merged s before) = (.ok (), merged s (before ++ [c])) := by
  have hmem : c ∈ s.library.classes := hsplit ▸ List.mem_append_right _ (List.mem_cons_self ..)
  obtain ⟨hattached, hdecl⟩ := h.attached_of_mem_classes hmem
  have hnow : (merged s before).library.decl? c.id =
      some (s.library.mergedDecl (before.filter s.library.isForward) c.id c) := by
    show (s.library.mergedBy _).decl? c.id = _
    rw [Library.decl?_mergedBy, hdecl]
    rfl
  have hincomplete :
      (s.library.mergedDecl (before.filter s.library.isForward) c.id c).isIncomplete =
        c.isIncomplete := by
    rw [Library.mergedDecl_of_not_mem (h.id_notMem_before hsplit)]
    exact (Body.record?_keep _ c.body).1
  unfold resolveClass
  rw [outcomeOf_bind_ok (outcomeOf_get _), hnow]
  dsimp only
  rw [hincomplete]
  cases hc : c.isIncomplete with
  | false =>
    have hforward : s.library.isForward c = false := by simp [Library.isForward, hc]
    simp [merged, hc, hforward]
  | true =>
    obtain ⟨name, hname⟩ := Library.exists_qualifiedName h hs hattached hdecl
    have hstill : (merged s before).library.qualifiedName
        (s.library.mergedDecl (before.filter s.library.isForward) c.id c) = .ok name := by
      have hsame := Library.qualifiedName_mergedDecl s.library
        (before.filter s.library.isForward) c.id c
      rw [hname] at hsame
      exact eq_ok_of_toOption hsame
    have hfind := Library.find?_of_definitions htable hname
    rw [if_pos rfl, outcomeOf_bind, outcomeOf_look, hstill]
    simp only [Except.mapError]
    cases hentry : table.find? (·.1 == name) with
    | none =>
      rw [hentry, Option.map_none, eq_comm, Option.map_eq_none_iff] at hfind
      have hforward : s.library.isForward c = false := by simp [Library.isForward, hfind]
      simp [count, merged, hc, hforward]
    | some entry =>
      rw [hentry, Option.map_some, eq_comm] at hfind
      obtain ⟨e, he, hdefinition⟩ := Option.map_eq_some_iff.1 hfind
      have hforward : s.library.isForward c = true := by simp [Library.isForward, hc, he]
      obtain ⟨e', p, o, hmergeable⟩ := Library.exists_mergeable h hs hempty hsplit hforward
      obtain rfl : e = e' := Option.some.inj (he.symm.trans hmergeable.definition)
      dsimp only
      rw [← hdefinition]
      have hlink : outcomeOf (edit (modify (·.link c.id e.id))) (merged s before) =
          (.ok (), { merged s before with
            library := (merged s before).library.link c.id e.id }) := by
        rw [outcomeOf_edit, outcomeOf_modify]
        rfl
      have hremove : outcomeOf (edit (Edit.remove c.id))
          { merged s before with library := (merged s before).library.link c.id e.id } =
            (.ok (), { merged s before with
              library := s.library.mergedBy (before.filter s.library.isForward ++ [c]) }) := by
        rw [outcomeOf_edit]
        have hremove : outcomeOf (Edit.remove c.id) ((merged s before).library.link c.id e.id) = _ :=
          hmergeable.outcomeOf_remove_link
        simp only [hremove, Except.mapError]
      rw [outcomeOf_bind_ok hlink, outcomeOf_bind_ok hremove]
      simp [merged, count, hforward, hc]

omit htable

/-- Merging forward declarations goes through all classes. -/
theorem outcomeOf_resolveIncomplete :
    outcomeOf resolveIncomplete s = (.ok (), merged s s.library.classes) := by
  obtain ⟨table, htable⟩ := Library.exists_definitions h hs
  have hforM : ∀ before after, s.library.classes = before ++ after →
      outcomeOf ((after.map (·.id)).forM (resolveClass table)) (merged s before) =
        (.ok (), merged s (before ++ after)) := by
    intro before after
    induction after generalizing before with
    | nil =>
      intro _
      rw [List.append_nil]
      rfl
    | cons c after ih =>
      intro hsplit
      rw [List.map_cons, outcomeOf_forM_cons,
        outcomeOf_bind_ok (outcomeOf_resolveClass h hs hempty htable hsplit),
        ih (before ++ [c]) (by rw [hsplit, List.append_assoc]; rfl), List.append_assoc]
      rfl
  have hstart : merged s [] = s := by simp [merged]
  unfold resolveIncomplete
  rw [outcomeOf_bind, outcomeOf_look, htable]
  simp only [Except.mapError]
  rw [outcomeOf_bind_ok (outcomeOf_get s)]
  have hall := hforM [] s.library.classes rfl
  rwa [hstart] at hall

end

end PassM

end Bindery
