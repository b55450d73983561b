import Bindery.Header.Members
import Bindery.Proofs.Declaration.Creation
import Bindery.Proofs.Header.Growth

/-!
# Fields of classes

While the body of a class is read, the class gets a field for each declarator of a data member, in
order, and no other field. What was declared before keeps what it is and only lists more, and of the
lists of fields only the one of the class that is read gets longer.
-/

namespace Bindery

/-! ### The members of a class -/

namespace SyntaxNode

mutual

/-- The members that a node in the body of a class stands for: itself, or those inside conditional
text. -/
def members : SyntaxNode → List SyntaxNode
  | ⟨kind, start, stop, named, missing, field, children⟩ =>
    if "preproc_".toList.isPrefixOf kind.toList then membersAmong children
    else [⟨kind, start, stop, named, missing, field, children⟩]

/-- The members among the nodes in the body of a class. -/
def membersAmong : List SyntaxNode → List SyntaxNode
  | [] => []
  | n :: ns => n.members ++ membersAmong ns

end

/-- Whether a node starts a piece of conditional text. -/
def isConditional (n : SyntaxNode) : Bool :=
  "preproc_".toList.isPrefixOf n.kind.toList

theorem members_eq (n : SyntaxNode) :
    n.members = if n.isConditional then membersAmong n.children else [n] := by
  obtain ⟨kind, start, stop, named, missing, field, children⟩ := n
  unfold isConditional
  rw [members]

theorem size_eq (n : SyntaxNode) : n.size = 1 + sizes n.children := by
  obtain ⟨kind, start, stop, named, missing, field, children⟩ := n
  rw [size]

theorem membersAmong_eq (nodes : List SyntaxNode) :
    membersAmong nodes = nodes.flatMap members := by
  induction nodes with
  | nil => rfl
  | cons n nodes ih => rw [membersAmong, ih, List.flatMap_cons]

mutual

theorem size_le_of_mem_members : ∀ n : SyntaxNode, ∀ m ∈ n.members, m.size ≤ n.size
  | ⟨kind, start, stop, named, missing, field, children⟩, m, hm => by
    rw [members] at hm
    split at hm
    · have hle := size_le_of_mem_membersAmong children m hm
      rw [SyntaxNode.size]
      omega
    · rw [List.mem_singleton.1 hm]

theorem size_le_of_mem_membersAmong : ∀ nodes : List SyntaxNode,
    ∀ m ∈ membersAmong nodes, m.size ≤ sizes nodes
  | [], _, hm => nomatch hm
  | n :: ns, m, hm => by
    rw [membersAmong] at hm
    rw [sizes]
    rcases List.mem_append.1 hm with hm | hm
    · have hle := size_le_of_mem_members n m hm
      omega
    · have hle := size_le_of_mem_membersAmong ns m hm
      omega

end

/-- Nodes that have all their children among them. -/
def Inward (N : SyntaxNode → Prop) : Prop :=
  ∀ n c, N n → c ∈ n.children → N c

theorem Inward.child? {N : SyntaxNode → Prop} (hN : Inward N) {n c : SyntaxNode} (hn : N n)
    {field : String} (hc : n.child? field = some c) : N c :=
  hN n c hn (child?_mem hc)

/-- The members in the body of the class that a node declares. -/
def bodyMembers (n : SyntaxNode) : List SyntaxNode :=
  membersAmong (((n.child? "body").map (·.children)).getD [])

end SyntaxNode

namespace Header

variable (h : Header)

/-- Whether a declarator declares a function. A pointer to a function is none. -/
def declaresFunction (c : SyntaxNode) : Bool :=
  let d := Declarator.unwrap h.source c
  d.function.isSome && !d.isFunctionPointer

/-- The declarators of a member that declare data. -/
def dataDeclarators (n : SyntaxNode) : List SyntaxNode :=
  if n.kind = "field_declaration" then
    (n.childrenAt "declarator").filter fun c => !h.declaresFunction c
  else []

/-- The declarators of the data of a member, each with the member. -/
def declaredData (n : SyntaxNode) : List (SyntaxNode × SyntaxNode) :=
  (h.dataDeclarators n).map (n, ·)

end Header

/-! ### Libraries in which fields are added -/

/-- Only fields go to the list of fields. -/
theorem Form.fields_eq_iff {owner child : Form} {list : String}
    (h : owner.listFor? child = some list) : "fields" = list ↔ child = .field := by
  cases owner <;> cases child <;> simp [listFor?] at h <;> subst h <;> simp

/-- What has the form of a class is one. -/
theorem Body.exists_record {b : Body} (h : b.form = .record) : ∃ r, b = .record r := by
  cases b <;> first
    | exact ⟨_, rfl⟩
    | cases h

namespace Library

/-- A library in which a class got fields. All that was declared before is what it was but for what
it lists, and no other list of fields got longer. -/
def Gains (lib out : Library) (owner : Nat) (ids : List Nat) : Prop :=
  ∀ p d, lib.decl? p = some d → ∃ b, out.decl? p = some { d with body := b } ∧
    b.form = d.body.form ∧
    b.listOf "fields" = d.body.listOf "fields" ++ (if p = owner then ids else []) ∧
    (d.body.form = .field → b = d.body)

variable {lib mid out : Library} {owner : Nat} {ids ids' : List Nat}

theorem Gains.refl (lib : Library) (owner : Nat) : lib.Gains lib owner [] := by
  intro p d hd
  refine ⟨d.body, hd, rfl, ?_, fun _ => rfl⟩
  rw [ite_self, List.append_nil]

theorem Gains.trans (h : lib.Gains mid owner ids) (h' : mid.Gains out owner ids') :
    lib.Gains out owner (ids ++ ids') := by
  intro p d hd
  obtain ⟨b, hb, hform, hlist, hfield⟩ := h p d hd
  obtain ⟨b', hb', hform', hlist', hfield'⟩ := h' p _ hb
  refine ⟨b', hb', hform'.trans hform, ?_, fun hf => ?_⟩
  · rw [hlist', hlist, List.append_assoc]
    by_cases hp : p = owner
    · rw [if_pos hp, if_pos hp, if_pos hp]
    · rw [if_neg hp, if_neg hp, if_neg hp]
      rfl
  · exact (hfield' (hform.trans hf)).trans (hfield hf)

/-- Where no field was added, it does not matter for which class. -/
theorem Gains.any (h : lib.Gains out owner []) (other : Nat) : lib.Gains out other [] := by
  intro p d hd
  obtain ⟨b, hb, hform, hlist, hfield⟩ := h p d hd
  rw [ite_self] at hlist
  exact ⟨b, hb, hform, by rw [ite_self]; exact hlist, hfield⟩

/-- Fields of a class that is new are none of what was declared before. -/
theorem Gains.of_new (h : lib.Gains mid owner []) (h' : mid.Gains out lib.created ids) :
    lib.Gains out owner [] := by
  intro p d hd
  obtain ⟨b, hb, hform, hlist, hfield⟩ := h p d hd
  obtain ⟨b', hb', hform', hlist', hfield'⟩ := h' p _ hb
  have hp : p ≠ lib.created := Nat.ne_of_lt (lt_created_of_decl? hd)
  refine ⟨b', hb', hform'.trans hform, ?_, fun hf => ?_⟩
  · rw [hlist', if_neg hp, List.append_nil]
    exact hlist
  · exact (hfield' (hform.trans hf)).trans (hfield hf)

/-- What is new may change without a change of what was declared before. -/
theorem Gains.update_new (h : lib.Gains out owner ids) {id : Nat} (hid : lib.created ≤ id)
    (f : Decl → Decl) : lib.Gains (out.update id f) owner ids := by
  intro p d hd
  have hp : id ≠ p := Nat.ne_of_gt (Nat.lt_of_lt_of_le (lt_created_of_decl? hd) hid)
  rw [decl?_update, if_neg hp]
  exact h p d hd

theorem Gains.exists_decl? (h : lib.Gains out owner ids) {p : Nat}
    (hp : ∃ d, lib.decl? p = some d) : ∃ d, out.decl? p = some d := by
  obtain ⟨d, hd⟩ := hp
  obtain ⟨b, hb, -⟩ := h p d hd
  exact ⟨_, hb⟩

theorem Gains.created_le (h : lib.Gains out owner ids) : lib.created ≤ out.created := by
  by_contra hlt
  obtain ⟨d, hd⟩ := h.exists_decl? (exists_decl?_of_lt (Nat.lt_of_not_le hlt))
  exact absurd (lt_created_of_decl? hd) (Nat.lt_irrefl _)

/-- What is there afterwards had its form before, if it was there. -/
theorem Gains.hasForm (h : lib.Gains out owner ids) {p : Nat} (hp : p < lib.created)
    {forms : List Form} (hform : out.HasForm p forms) : lib.HasForm p forms := by
  obtain ⟨d, hd⟩ := exists_decl?_of_lt hp
  obtain ⟨b, hb, hsame, -⟩ := h p d hd
  obtain ⟨e, he, hf⟩ := hform
  rw [hb] at he
  cases he
  exact ⟨d, hd, hsame ▸ hf⟩

/-- A declaration that was read at a node, in a scope. -/
def DeclaresAt (out : Library) (h : Header) (scope id : Nat) (n : SyntaxNode) : Prop :=
  ∃ d, out.decl? id = some d ∧ d.parent = some scope ∧ d.location = some (h.location n)

theorem DeclaresAt.gains {h : Header} {scope id : Nat} {n : SyntaxNode}
    (hat : mid.DeclaresAt h scope id n) (hg : mid.Gains out owner ids) :
    out.DeclaresAt h scope id n := by
  obtain ⟨d, hd, hparent, hlocation⟩ := hat
  obtain ⟨b, hb, -⟩ := hg id d hd
  exact ⟨_, hb, hparent, hlocation⟩

/-- A declaration is the field of a class for a declarator of a data member: it has its name and its
place, and if it refers to a type, then to the one that the member defines. -/
def RecordsField (out : Library) (h : Header) (owner id : Nat) (m : SyntaxNode × SyntaxNode) :
    Prop :=
  ∃ d type access, out.decl? id = some d ∧ d.body = .field type access ∧
    d.name = (Declarator.unwrap h.source m.2).name ∧ d.parent = some owner ∧
    d.location = some (h.location m.2) ∧ d.ignored = false ∧
    ∀ v, d.notes.get? "type_declaration_id" = some v →
      ∃ t node, v = .int (t : Nat) ∧ m.1.child? "type" = some node ∧ out.DeclaresAt h owner t node

theorem RecordsField.gains {h : Header} {scope id : Nat} {m : SyntaxNode × SyntaxNode}
    (hat : mid.RecordsField h scope id m) (hg : mid.Gains out owner ids) :
    out.RecordsField h scope id m := by
  obtain ⟨d, type, access, hd, hbody, hname, hparent, hlocation, hignored, hlink⟩ := hat
  obtain ⟨b, hb, -, -, hfield⟩ := hg id d hd
  have hsame : b = d.body := hfield (by rw [hbody]; rfl)
  subst hsame
  refine ⟨d, type, access, hb, hbody, hname, hparent, hlocation, hignored, fun v hv => ?_⟩
  obtain ⟨t, node, hvt, hnode, ht⟩ := hlink v hv
  exact ⟨t, node, hvt, hnode, ht.gains hg⟩

/-- A class that was read at a node: it has fields for the data that its members declare, in order,
and no others. -/
def RecordsClass (out : Library) (h : Header) (id : Nat) (n : SyntaxNode) : Prop :=
  ∃ d r, out.decl? id = some d ∧ d.body = .record r ∧ d.location = some (h.location n) ∧
    List.Forall₂ (out.RecordsField h id) r.fields (n.bodyMembers.flatMap h.declaredData)

/-- A class keeps its fields when another one gets some. -/
theorem RecordsClass.gains {h : Header} {id : Nat} {n : SyntaxNode}
    (hat : mid.RecordsClass h id n) (hg : mid.Gains out owner ids) (hid : id ≠ owner) :
    out.RecordsClass h id n := by
  obtain ⟨d, r, hd, hbody, hlocation, hfields⟩ := hat
  obtain ⟨b, hb, hform, hlist, -⟩ := hg id d hd
  obtain ⟨s, rfl⟩ := Body.exists_record (hform.trans (by rw [hbody]; rfl))
  have hsame : s.fields = r.fields := by
    rw [if_neg hid, List.append_nil, hbody, Body.listOf_record, Body.listOf_record] at hlist
    exact hlist
  exact ⟨_, s, hb, rfl, hlocation, hsame ▸ hfields.imp fun _ _ hf => hf.gains hg⟩

/-- What is put into a scope lengthens the list of fields if it is a field. -/
theorem gains_of_insert {p : Nat} {o d : Decl} {b : Body} (ho : lib.decl? p = some o)
    (hb : o.body.insert? d.body lib.created = some b) :
    lib.Gains ((lib.append d).update p fun o => { o with body := b }) p
      (if d.body.form = .field then [lib.created] else []) := by
  obtain ⟨list, hfor, hform, hlists⟩ := Body.insert?_eq_some hb
  have hfields := Form.fields_eq_iff hfor
  have hnot : o.body.form ≠ .field := by
    intro hf
    rw [hf] at hfor
    cases hfor
  intro q e he
  have hq : q ≠ lib.created := Nat.ne_of_lt (lt_created_of_decl? he)
  rw [decl?_update, decl?_append, if_neg hq]
  by_cases hpq : p = q
  · subst hpq
    rw [ho] at he
    cases he
    rw [if_pos rfl, if_pos rfl, ho]
    refine ⟨b, rfl, hform, ?_, fun hf => absurd hf hnot⟩
    rw [hlists "fields"]
    by_cases hf : d.body.form = .field
    · rw [if_pos (hfields.2 hf), if_pos hf]
    · rw [if_neg (fun hl => hf (hfields.1 hl)), if_neg hf, List.append_nil]
  · rw [if_neg hpq, if_neg (Ne.symm hpq)]
    exact ⟨e.body, he, rfl, (List.append_nil _).symm, fun _ => rfl⟩

/-- What reading a part of a header comes to for the fields of classes: one class got fields for the
data in `slots`, and every class that is new has those of the node it was read at, which is one of
the nodes `N`. -/
structure Acquires (lib : Library) (h : Header) (N : SyntaxNode → Prop) (owner : Nat)
    (slots : List (SyntaxNode × SyntaxNode)) (out : Library) : Prop where
  /-- The class got fields. -/
  gained : ∃ ids, lib.Gains out owner ids ∧ List.Forall₂ (out.RecordsField h owner) ids slots
  /-- New classes have theirs. -/
  classes : ∀ id, lib.created ≤ id → out.HasForm id [.record] → ∃ n, N n ∧ out.RecordsClass h id n

namespace Acquires

variable {h : Header} {N : SyntaxNode → Prop} {slots slots' : List (SyntaxNode × SyntaxNode)}

theorem refl (lib : Library) (h : Header) (N : SyntaxNode → Prop) (owner : Nat) :
    lib.Acquires h N owner [] lib := by
  refine ⟨⟨[], .refl lib owner, .nil⟩, fun id hid hform => ?_⟩
  exact absurd hform.lt (Nat.not_lt_of_le hid)

theorem trans (hl : lib.Acquires h N owner slots mid) (hm : mid.Acquires h N owner slots' out)
    (howner : owner < lib.created) : lib.Acquires h N owner (slots ++ slots') out := by
  obtain ⟨⟨ids, hg, hfields⟩, hclasses⟩ := hl
  obtain ⟨⟨ids', hg', hfields'⟩, hclasses'⟩ := hm
  refine ⟨⟨ids ++ ids', hg.trans hg', ?_⟩, fun id hid hform => ?_⟩
  · exact List.rel_append (hfields.imp fun _ _ hf => hf.gains hg') hfields'
  · by_cases hold : id < mid.created
    · obtain ⟨n, hn, hclass⟩ := hclasses id hid (hg'.hasForm hold hform)
      exact ⟨n, hn, hclass.gains hg' (Nat.ne_of_gt (Nat.lt_of_lt_of_le howner hid))⟩
    · exact hclasses' id (Nat.le_of_not_lt hold) hform

end Acquires

end Library

/-! ### Steps that add fields -/

open Library

variable {α β : Type} {h : Header} {N : SyntaxNode → Prop} {owner : Nat} {P P' : Library → Prop}
  {slots slots' : List (SyntaxNode × SyntaxNode)}

/-- What reading a part of a header comes to for the fields of a class: where `P` holds and the step
`m` is not refused, the class gets fields for the data in `slots`, new classes have been read at
nodes among `N`, and `Q` holds of the result. -/
def Adds (h : Header) (N : SyntaxNode → Prop) (owner : Nat) (P : Library → Prop)
    (slots : List (SyntaxNode × SyntaxNode)) (m : Build α) (Q : α → Library → Prop) : Prop :=
  ∀ lib a out, owner < lib.created → P lib → outcomeOf m lib = (.ok a, out) →
    lib.Acquires h N owner slots out ∧ Q a out

/-- What goes on holding while classes get fields. -/
def Lasting (P : Library → Prop) : Prop :=
  ∀ lib out owner ids, lib.Gains out owner ids → P lib → P out

/-- There is a declaration of a number. -/
abbrev Library.Has (id : Nat) (lib : Library) : Prop :=
  ∃ d, lib.decl? id = some d

theorem lasting_has (id : Nat) : Lasting (Has id) :=
  fun _ _ _ _ hg hhas => hg.exists_decl? hhas

theorem lasting_declaresAt (h : Header) (scope id : Nat) (n : SyntaxNode) :
    Lasting (·.DeclaresAt h scope id n) :=
  fun _ _ _ _ hg hat => hat.gains hg

theorem Library.DeclaresAt.has {lib : Library} {h : Header} {scope id : Nat} {n : SyntaxNode}
    (hat : lib.DeclaresAt h scope id n) : lib.Has id := by
  obtain ⟨d, hd, -⟩ := hat
  exact ⟨d, hd⟩

namespace Adds

variable {m : Build α} {Q Q' : α → Library → Prop} {R : β → Library → Prop}

theorem pure {a : α} (hQ : ∀ lib, P lib → Q a lib) :
    Adds h N owner P [] (Pure.pure a : Build α) Q := by
  intro lib b out _ hP hrun
  cases hrun
  exact ⟨.refl lib h N owner, hQ lib hP⟩

theorem throw (f : Fault) : Adds h N owner P slots (MonadExcept.throw f : Build α) Q := by
  intro lib b out _ _ hrun
  cases hrun

theorem bind {f : α → Build β} (hm : Adds h N owner P slots m Q)
    (hf : ∀ a, Adds h N owner (Q a) slots' (f a) R) :
    Adds h N owner P (slots ++ slots') (m >>= f) R := by
  intro lib b out howner hP hrun
  obtain ⟨a, mid, hfirst, hrest⟩ := exists_of_outcomeOf_bind hrun
  obtain ⟨hacquires, hQ⟩ := hm lib a mid howner hP hfirst
  obtain ⟨ids, hgains, -⟩ := hacquires.gained
  have hmid : owner < mid.created := Nat.lt_of_lt_of_le howner hgains.created_le
  obtain ⟨hacquires', hR⟩ := hf a mid b out hmid hQ hrest
  exact ⟨hacquires.trans hacquires' howner, hR⟩

/-- A step behind one that adds nothing. -/
theorem behind {f : α → Build β} (hm : Adds h N owner P [] m Q)
    (hf : ∀ a, Adds h N owner (Q a) slots (f a) R) : Adds h N owner P slots (m >>= f) R :=
  hm.bind hf

/-- What a step relies on still holds behind it if it lasts. -/
theorem keep (hP : Lasting P) (hm : Adds h N owner P slots m Q) :
    Adds h N owner P slots m fun a lib => P lib ∧ Q a lib := by
  intro lib a out howner hlib hrun
  obtain ⟨hacquires, hQ⟩ := hm lib a out howner hlib hrun
  obtain ⟨ids, hgains, -⟩ := hacquires.gained
  exact ⟨hacquires, hP lib out owner ids hgains hlib, hQ⟩

theorem mono (hm : Adds h N owner P slots m Q) (hP : ∀ lib, P' lib → P lib)
    (hQ : ∀ a lib, Q a lib → Q' a lib) : Adds h N owner P' slots m Q' := by
  intro lib a out howner hlib hrun
  obtain ⟨hacquires, hpost⟩ := hm lib a out howner (hP lib hlib) hrun
  exact ⟨hacquires, hQ a out hpost⟩

/-- A step behind one of which nothing is known but what it adds. -/
theorem andThen {f : α → Build β} (hP : Lasting P) (hm : Adds h N owner P slots m fun _ _ => True)
    (hf : ∀ a, Adds h N owner P slots' (f a) R) :
    Adds h N owner P (slots ++ slots') (m >>= f) R :=
  (hm.keep hP).bind fun a => (hf a).mono (fun _ hlib => hlib.1) fun _ _ hR => hR

/-- A step behind which nothing more is added. -/
theorem andFinally {f : α → Build β} (hm : Adds h N owner P slots m Q)
    (hf : ∀ a, Adds h N owner (Q a) [] (f a) R) : Adds h N owner P slots (m >>= f) R := by
  have hbind := hm.bind hf
  rwa [List.append_nil] at hbind

theorem forM {l : List α} {f : α → Build PUnit} {s : α → List (SyntaxNode × SyntaxNode)}
    (hP : Lasting P) (hf : ∀ a ∈ l, Adds h N owner P (s a) (f a) fun _ _ => True) :
    Adds h N owner P (l.flatMap s) (l.forM f) fun _ _ => True := by
  induction l with
  | nil => exact pure fun _ _ => trivial
  | cons a l ih =>
    exact (hf a (List.mem_cons_self ..)).andThen hP fun _ =>
      ih fun x hx => hf x (List.mem_cons_of_mem _ hx)

theorem foldlM {l : List α} {f : β → α → Build β} {s : α → List (SyntaxNode × SyntaxNode)}
    (hP : Lasting P) (hf : ∀ b, ∀ a ∈ l, Adds h N owner P (s a) (f b a) fun _ _ => True) (b : β) :
    Adds h N owner P (l.flatMap s) (l.foldlM f b) fun _ _ => True := by
  induction l generalizing b with
  | nil => exact pure fun _ _ => trivial
  | cons a l ih =>
    rw [List.foldlM_cons]
    exact (hf b a (List.mem_cons_self ..)).andThen hP fun c =>
      ih (fun b x hx => hf b x (List.mem_cons_of_mem _ hx)) c

/-- Steps none of which adds anything. -/
theorem forM_spares {l : List α} {f : α → Build PUnit} (hP : Lasting P)
    (hf : ∀ a ∈ l, Adds h N owner P [] (f a) fun _ _ => True) :
    Adds h N owner P [] (l.forM f) fun _ _ => True := by
  have hall := forM hP hf
  rwa [List.flatMap_eq_nil_iff.2 fun _ _ => rfl] at hall

theorem foldlM_spares {l : List α} {f : β → α → Build β} (hP : Lasting P)
    (hf : ∀ b, ∀ a ∈ l, Adds h N owner P [] (f b a) fun _ _ => True) (b : β) :
    Adds h N owner P [] (l.foldlM f b) fun _ _ => True := by
  have hall := foldlM hP hf b
  rwa [List.flatMap_eq_nil_iff.2 fun _ _ => rfl] at hall

/-- A step that only looks at the library. -/
theorem of_same (hsame : ∀ lib, (outcomeOf m lib).2 = lib) :
    Adds h N owner P [] m fun _ lib => P lib := by
  intro lib a out _ hP hrun
  obtain rfl : lib = out := by rw [← hsame lib, hrun]
  exact ⟨.refl lib h N owner, hP⟩

end Adds

/-- A change of what is inside a declaration, but for its form and its fields. -/
theorem Library.acquires_update {h : Header} {N : SyntaxNode → Prop} {owner id : Nat}
    {f : Body → Body} (lib : Library)
    (hform : ∀ b, (f b).form = b.form) (hlist : ∀ b, (f b).listOf "fields" = b.listOf "fields")
    (hfield : ∀ b, b.form = .field → f b = b) :
    lib.Acquires h N owner [] (lib.update id fun d => { d with body := f d.body }) := by
  refine ⟨⟨[], fun p d hd => ?_, .nil⟩, fun p hp hclass => ?_⟩
  · rw [decl?_update, ite_self, List.append_nil]
    by_cases hp : id = p
    · rw [if_pos hp, hd]
      exact ⟨f d.body, rfl, hform _, hlist _, hfield _⟩
    · rw [if_neg hp]
      exact ⟨d.body, hd, rfl, rfl, fun _ => rfl⟩
  · have hlt := hclass.lt
    rw [created_update] at hlt
    exact absurd hlt (Nat.not_lt_of_le hp)

namespace Header

variable (h : Header)

/-! ### New declarations -/

/-- A declaration that is created in one that is there has the next number and is as it was
described, and the other one lists it. -/
theorem exists_of_create {body : Body} {scope : Nat} {name comment : String} {n : SyntaxNode}
    {lib out : Library} {id : Nat} (hscope : lib.Has scope)
    (hrun : outcomeOf (h.create body scope name n comment) lib = (.ok id, out)) :
    let d := h.describe name n comment (lib.blankDecl (some scope) body)
    ∃ o b, lib.decl? scope = some o ∧ o.body.insert? body lib.created = some b ∧
      id = lib.created ∧ out = (lib.append d).update scope fun o => { o with body := b } := by
  intro d
  obtain ⟨o, ho⟩ := hscope
  have hedit := Edit.outcomeOf_create body (h.describe name n comment) ho
    (show d = h.describe name n comment (lib.blankDecl (some scope) body) from rfl)
  have hbody : d.body = body := rfl
  unfold create at hrun
  rw [outcomeOf_buildEdit, hedit, hbody] at hrun
  cases hb : o.body.insert? body lib.created with
  | none =>
    rw [hb] at hrun
    cases hrun
  | some b =>
    rw [hb] at hrun
    cases hrun
    exact ⟨o, b, ho, hb, rfl, rfl⟩

/-- What creating a declaration leaves. -/
theorem create_gains {body : Body} {scope : Nat} {name comment : String} {n : SyntaxNode}
    {lib out : Library} {id : Nat} (hscope : lib.Has scope)
    (hrun : outcomeOf (h.create body scope name n comment) lib = (.ok id, out)) :
    id = lib.created ∧ out.created = lib.created + 1 ∧
      out.decl? id = some (h.describe name n comment (lib.blankDecl (some scope) body)) ∧
      lib.Gains out scope (if body.form = .field then [id] else []) := by
  obtain ⟨o, b, ho, hb, rfl, rfl⟩ := h.exists_of_create hscope hrun
  have hne : scope ≠ lib.created := Nat.ne_of_lt (lt_created_of_decl? ho)
  refine ⟨rfl, ?_, ?_, ?_⟩
  · rw [created_update, created_append]
  · rw [decl?_update, if_neg hne, decl?_append, if_pos rfl]
  · exact gains_of_insert
      (d := h.describe name n comment (lib.blankDecl (some scope) body)) ho hb

/-- Creating what is no field and no class adds no fields. -/
theorem create_adds {body : Body} (form : Form) (hform : body.form = form)
    (hother : form ≠ .field ∧ form ≠ .record) (scope : Nat) (name : String) (n : SyntaxNode)
    (comment : String) :
    Adds h N owner (Has scope) [] (h.create body scope name n comment)
      fun id out => out.DeclaresAt h scope id n := by
  subst hform
  intro lib id out howner hscope hrun
  obtain ⟨rfl, hcreated, hnew, hgains⟩ := h.create_gains hscope hrun
  rw [if_neg hother.1] at hgains
  refine ⟨⟨⟨[], ?_, .nil⟩, fun p hp hform => ?_⟩, _, hnew, rfl, rfl⟩
  · exact hgains.any owner
  · -- the only number that is new is not that of a class
    have hlt := hform.lt
    obtain rfl : p = lib.created := by omega
    obtain ⟨d, hd, hf⟩ := hform
    rw [hnew] at hd
    cases hd
    exact absurd (List.mem_singleton.1 hf) hother.2

end Header

end Bindery
