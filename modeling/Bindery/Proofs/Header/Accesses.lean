import Bindery.Proofs.Header.Declaring
import Bindery.Proofs.Header.Storage

/-!
# Access levels of members

The data members and methods of a class that was read have the access level that was in force where
they stand. A level that is set in conditional text is in force up to the end of that text, and the
one before it again behind it, so they have the level of the last access specifier before them
exactly where both are the same.
-/

namespace Bindery

open Library SyntaxNode

/-- Whether something is declared as a data member or a method of the class where a path begins. -/
def Declared.isDirect (e : Declared) : Bool :=
  e.path.isEmpty && e.access.isSome

namespace Header

variable (h : Header)

/-! ### Access levels in document order -/

/-- The access level that a node sets, if it is an access specifier. -/
def accessSet? (n : SyntaxNode) : Option Access :=
  if n.kind = "access_specifier" then (h.accessOf n).toOption else none

/-- The access level that the last access specifier among nodes sets, or else the first one. -/
def lastAccess (first : Access) (nodes : List SyntaxNode) : Access :=
  (nodes.filterMap h.accessSet?).getLastD first

/-- Nodes, each with the access level of the last access specifier before it. -/
def ordered (first : Access) (nodes : List SyntaxNode) : List (SyntaxNode × Access) :=
  nodes.mapIdx fun i n => (n, h.lastAccess first (nodes.take i))

theorem accessBehind_eq (access : Access) (n : SyntaxNode) :
    h.accessBehind access n = (h.accessSet? n).getD access := by
  unfold accessBehind accessSet?
  split_ifs <;> rfl

theorem lastAccess_cons (first : Access) (n : SyntaxNode) (nodes : List SyntaxNode) :
    h.lastAccess first (n :: nodes) = h.lastAccess (h.accessBehind first n) nodes := by
  rw [accessBehind_eq, lastAccess, lastAccess, List.filterMap_cons]
  cases h.accessSet? n with
  | none => rfl
  | some a => rw [List.getLastD_cons, Option.getD_some]

theorem ordered_cons (first : Access) (n : SyntaxNode) (nodes : List SyntaxNode) :
    h.ordered first (n :: nodes) = (n, first) :: h.ordered (h.accessBehind first n) nodes := by
  unfold ordered
  rw [List.mapIdx_cons]
  refine congrArg _ ?_
  congr 1
  funext i m
  rw [List.take_succ_cons, h.lastAccess_cons]

theorem ordered_append (first : Access) (before nodes : List SyntaxNode) :
    h.ordered first (before ++ nodes) =
      h.ordered first before ++ h.ordered (h.lastAccess first before) nodes := by
  induction before generalizing first with
  | nil => rfl
  | cons n before ih =>
    rw [List.cons_append, ordered_cons, ordered_cons, ih, List.cons_append, h.lastAccess_cons]

theorem ordered_fst (first : Access) (nodes : List SyntaxNode) :
    (h.ordered first nodes).map (·.1) = nodes := by
  induction nodes generalizing first with
  | nil => rfl
  | cons n nodes ih => rw [ordered_cons, List.map_cons, ih]

/-- Nodes none of which sets an access level. -/
def SetNone (nodes : List SyntaxNode) : Prop :=
  ∀ n ∈ nodes, n.kind ≠ "access_specifier"

theorem accessBehind_of_ne {n : SyntaxNode} (hn : n.kind ≠ "access_specifier") (access : Access) :
    h.accessBehind access n = access :=
  if_neg hn

theorem accessBehind_conditional {n : SyntaxNode} (hn : n.isConditional = true) (access : Access) :
    h.accessBehind access n = access := by
  refine h.accessBehind_of_ne (fun hkind => ?_) access
  rw [not_conditional hkind (by decide)] at hn
  cases hn

theorem lastAccess_of_setNone {nodes : List SyntaxNode} (hnodes : SetNone nodes) (first : Access) :
    h.lastAccess first nodes = first := by
  induction nodes with
  | nil => rfl
  | cons n nodes ih =>
    obtain ⟨hn, hrest⟩ := List.forall_mem_cons.1 hnodes
    rw [h.lastAccess_cons, h.accessBehind_of_ne hn, ih hrest]

theorem ordered_of_setNone {nodes : List SyntaxNode} (hnodes : SetNone nodes) (first : Access) :
    h.ordered first nodes = nodes.map (·, first) := by
  induction nodes with
  | nil => rfl
  | cons n nodes ih =>
    obtain ⟨hn, hrest⟩ := List.forall_mem_cons.1 hnodes
    rw [h.ordered_cons, h.accessBehind_of_ne hn, ih hrest, List.map_cons]

mutual

theorem placed_of_setNone : ∀ (access : Access) (n : SyntaxNode), SetNone n.members →
    h.placed access n = n.members.map (·, access)
  | access, ⟨kind, start, stop, named, missing, field, children⟩, hn => by
    rw [members] at hn ⊢
    rw [placed]
    split_ifs with hkind
    · rw [if_pos hkind] at hn
      exact placedAmong_of_setNone access children hn
    · rfl

theorem placedAmong_of_setNone : ∀ (access : Access) (nodes : List SyntaxNode),
    SetNone (membersAmong nodes) →
      h.placedAmong access nodes = (membersAmong nodes).map (·, access)
  | _, [], _ => rfl
  | access, n :: ns, hnodes => by
    rw [membersAmong] at hnodes ⊢
    obtain ⟨hn, hrest⟩ := List.forall_mem_append.1 hnodes
    have hbehind : h.accessBehind access n = access := by
      by_cases hconditional : n.isConditional = true
      · exact h.accessBehind_conditional hconditional access
      · refine h.accessBehind_of_ne (hn n ?_) access
        rw [members_eq, if_neg hconditional]
        exact List.mem_singleton_self n
    rw [placedAmong, placed_of_setNone access n hn, hbehind, placedAmong_of_setNone _ ns hrest,
      List.map_append]

end

/-- Where nothing in conditional text sets an access level, every member is given the one of the
last access specifier before it. -/
theorem placedAmong_eq_ordered {nodes : List SyntaxNode}
    (hnodes : ∀ n ∈ nodes, n.isConditional = true → SetNone n.members) (first : Access) :
    h.placedAmong first nodes = h.ordered first (membersAmong nodes) := by
  induction nodes generalizing first with
  | nil => rfl
  | cons n nodes ih =>
    obtain ⟨hn, hrest⟩ := List.forall_mem_cons.1 hnodes
    rw [placedAmong, membersAmong, h.ordered_append, ih hrest]
    cases hconditional : n.isConditional with
    | true =>
      have hnone := hn hconditional
      rw [h.placed_of_setNone first n hnone, h.ordered_of_setNone hnone,
        h.lastAccess_of_setNone hnone, h.accessBehind_conditional hconditional]
    | false =>
      rw [h.placed_eq, members_eq, hconditional]
      simp only [Bool.false_eq_true, if_false, h.ordered_cons, h.lastAccess_cons]
      rfl

/-! ### What members declare -/

/-- The members of a class, each with the access level it is given. -/
def placedMembers (n : SyntaxNode) : List (SyntaxNode × Access) :=
  h.placedAmong (firstAccess n) (((n.child? "body").map (·.children)).getD [])

/-- The members of a class, each with the access level of the last access specifier before it, or
the one for the first members. -/
def orderedMembers (n : SyntaxNode) : List (SyntaxNode × Access) :=
  h.ordered (firstAccess n) n.bodyMembers

/-- The data members and methods that members of a class declare. -/
def memberDeclarations (ms : List (SyntaxNode × Access)) : List Declared :=
  ms.flatMap fun m => h.ownDeclared true [] m.2 m.1

/-- Whether a member of a class declares data or methods. -/
def declaresMember (n : SyntaxNode) : Bool :=
  !(h.ownDeclared true [] .everyone n).isEmpty

/-- Two ways to give access levels to members, which agree where something is declared. -/
def SameAccess (ms ms' : List (SyntaxNode × Access)) : Prop :=
  List.Forall₂ (fun m m' => h.declaresMember m.1 = true → m.2 = m'.2) ms ms'

theorem declaratorDeclared_member (path : ScopePath) (access : Access) (n c : SyntaxNode) :
    h.declaratorDeclared true path access n c =
      (h.declaratorDeclared true [] .everyone n c).map fun e =>
        { e with path := path, access := some access } := by
  unfold declaratorDeclared
  simp only [callable, if_true, Bool.true_or, Bool.and_true]
  split
  all_goals first
    | rfl
    | (split_ifs <;> rfl)

/-- A member declares the same with every access level. -/
theorem ownDeclared_member (path : ScopePath) (access : Access) (n : SyntaxNode) :
    h.ownDeclared true path access n =
      (h.ownDeclared true [] .everyone n).map fun e =>
        { e with path := path, access := some access } := by
  unfold ownDeclared
  rw [List.map_flatMap]
  exact List.flatMap_congr fun c _ => h.declaratorDeclared_member path access n c

theorem mem_ownDeclared {path : ScopePath} {access : Access} {n : SyntaxNode} {e : Declared}
    (he : e ∈ h.ownDeclared true path access n) : e.path = path ∧ e.access = some access := by
  rw [ownDeclared_member] at he
  obtain ⟨-, -, rfl⟩ := List.mem_map.1 he
  exact ⟨rfl, rfl⟩

theorem accesses_ownDeclared (access : Access) (n : SyntaxNode) :
    (h.ownDeclared true [] access n).map (·.access) =
      List.replicate (h.ownDeclared true [] .everyone n).length (some access) := by
  rw [ownDeclared_member, List.map_map]
  exact List.map_const' ..

theorem memberDeclarations_of_sameAccess {ms ms' : List (SyntaxNode × Access)}
    (hsame : ms.map (·.1) = ms'.map (·.1)) (hsameAccess : h.SameAccess ms ms') :
    h.memberDeclarations ms = h.memberDeclarations ms' := by
  unfold memberDeclarations
  induction hsameAccess with
  | nil => rfl
  | @cons m m' ms ms' hm _ ih =>
    rw [List.map_cons, List.map_cons, List.cons.injEq] at hsame
    obtain ⟨hnode, hrest⟩ := hsame
    rw [List.flatMap_cons, List.flatMap_cons, ih hrest, ← hnode]
    cases hdeclares : h.declaresMember m.1 with
    | true => rw [hm hdeclares]
    | false =>
      have hnone : h.ownDeclared true [] .everyone m.1 = [] := by
        simpa [declaresMember] using hdeclares
      rw [h.ownDeclared_member [] m.2, h.ownDeclared_member [] m'.2, hnone]
      rfl

theorem sameAccess_of_accesses {ms ms' : List (SyntaxNode × Access)}
    (hsame : ms.map (·.1) = ms'.map (·.1))
    (haccess : (h.memberDeclarations ms).map (·.access) =
      (h.memberDeclarations ms').map (·.access)) : h.SameAccess ms ms' := by
  unfold memberDeclarations at haccess
  induction ms generalizing ms' with
  | nil =>
    obtain rfl := List.map_eq_nil_iff.1 hsame.symm
    exact .nil
  | cons m ms ih =>
    obtain ⟨m', ms', rfl, hnode, hrest⟩ := List.map_eq_cons_iff.1 hsame.symm
    rw [List.flatMap_cons, List.flatMap_cons, List.map_append, List.map_append,
      accesses_ownDeclared, accesses_ownDeclared, hnode] at haccess
    obtain ⟨hfirst, hothers⟩ := List.append_inj haccess (by simp)
    refine .cons (fun hdeclares => ?_) (ih hrest.symm hothers)
    rcases List.replicate_right_inj'.1 hfirst with hnone | haccess
    · rw [declaresMember, List.length_eq_zero_iff.1 hnone] at hdeclares
      cases hdeclares
    · exact Option.some.inj haccess

/-- What the definition of a type declares has no access level or is further inside. -/
theorem indirect_of_mem_typeDeclared {path : ScopePath} {t : SyntaxNode}
    {otherName : Option String} {e : Declared} (he : e ∈ h.typeDeclared path t otherName) :
    e.access = none ∨ path.length < e.path.length := by
  induction hsize : t.size using Nat.strongRecOn generalizing path t otherName with
  | ind k ih =>
    subst hsize
    rw [typeDeclared_eq] at he
    split_ifs at he
    · rw [List.mem_singleton.1 he]
      exact .inl rfl
    · exact absurd he List.not_mem_nil
    · exact absurd he List.not_mem_nil
    · rcases List.mem_cons.1 he with rfl | he
      · exact .inl rfl
      cases hbody : t.child? "body" with
      | none =>
        rw [hbody] at he
        exact absurd he List.not_mem_nil
      | some body =>
        rw [hbody] at he
        obtain ⟨m, hm, he⟩ := List.mem_flatMap.1 he
        -- what the member itself declares is in the class, so it is one step further inside
        rcases List.mem_append.1 he with he | he
        · cases hdefined : h.definedType? true m.1 with
          | none =>
            rw [hdefined] at he
            exact absurd he List.not_mem_nil
          | some defined =>
            rw [hdefined] at he
            have hmember := h.size_le_of_mem_placedAmong _ _ m hm
            have htype := h.size_of_definedType? hdefined
            have hinside := body.sizes_children_lt_size
            have hlt := size_child?_lt hbody
            refine (ih defined.1.size (by omega) he rfl).imp_right fun hlonger => ?_
            rw [List.length_append, List.length_singleton] at hlonger
            omega
        · refine .inr ?_
          rw [(h.mem_ownDeclared he).1, List.length_append, List.length_singleton]
          omega

/-- What the members of a class declare without the types that they define. -/
theorem filter_declaredAt (access : Access) (n : SyntaxNode) :
    (h.declaredAt true [] access n).filter Declared.isDirect = h.ownDeclared true [] access n := by
  have htype : (h.typeOf [] (h.definedType? true n)).filter Declared.isDirect = [] := by
    refine List.filter_eq_nil_iff.2 fun e he => ?_
    cases hdefined : h.definedType? true n with
    | none =>
      rw [hdefined] at he
      exact absurd he List.not_mem_nil
    | some defined =>
      rw [hdefined] at he
      rcases h.indirect_of_mem_typeDeclared he with hnone | hlonger
      · simp [Declared.isDirect, hnone]
      · have hpath : e.path ≠ [] := List.ne_nil_of_length_pos hlonger
        simp [Declared.isDirect, hpath]
  have hown : ∀ e ∈ h.ownDeclared true [] access n, e.isDirect = true := by
    intro e he
    obtain ⟨hpath, haccess⟩ := h.mem_ownDeclared he
    simp [Declared.isDirect, hpath, haccess]
  rw [declaredAt, List.filter_append, htype, List.nil_append, List.filter_eq_self.2 hown]

theorem filter_declared (ms : List (SyntaxNode × Access)) :
    (ms.flatMap fun m => h.declaredAt true [] m.2 m.1).filter Declared.isDirect =
      h.memberDeclarations ms := by
  rw [List.filter_flatMap]
  exact List.flatMap_congr fun m _ => h.filter_declaredAt m.2 m.1

end Header

namespace Library

variable {lib out : Library} {h : Header} {root id : Nat}

/-! ### Members of classes that were read -/

/-- A data member or a method that was created in a class. -/
def IsMember (lib : Library) (owner id : Nat) : Prop :=
  owner < id ∧ ∃ d, lib.decl? id = some d ∧ d.parent = some owner ∧
    d.body.form ∈ [Form.field, .method]

/-- Of what stands for something that a class declares, the members of the class itself stand for
what its members declare without the types that they define. -/
theorem Represents.isMember_iff {e : Declared} (hr : lib.Represents h root id e) :
    lib.IsMember root id ↔ e.isDirect = true := by
  obtain ⟨d, scope, hd, -, -, -, haccess, hlt, hholds, hat⟩ := hr
  obtain ⟨-, d', -, -, hd', hparent, -, -⟩ := hholds
  have hdecl := decl?_of_registered? hd
  rw [hdecl] at hd'
  cases hd'
  have hform : d.body.form ∈ [Form.field, .method] ↔ e.access.isSome = true := by
    rw [← haccess]
    cases d.body <;> simp [Body.form, Body.access?]
  have hscope : scope = root ↔ e.path = [] := by
    constructor
    · rintro rfl
      by_contra hpath
      exact absurd (hat.lt_of_ne_nil hpath) (Nat.lt_irrefl _)
    · rintro hpath
      rw [hpath] at hat
      exact hat.eq_root
  rw [Declared.isDirect, Bool.and_eq_true, ← hform, List.isEmpty_iff, ← hscope]
  constructor
  · rintro ⟨-, d', hd', hparent', hmember⟩
    rw [hdecl] at hd'
    cases hd'
    rw [hparent] at hparent'
    exact ⟨Option.some.inj hparent', hmember⟩
  · rintro ⟨rfl, hmember⟩
    exact ⟨hlt, d, hdecl, hparent, hmember⟩

/-- The access level of a declaration, if it has one. -/
def access? (lib : Library) (id : Nat) : Option Access :=
  (lib.decl? id).bind (·.body.access?)

/-- What stands for something that a header declares has its access level. -/
theorem accesses_of_represents {ids : List Nat} {es : List Declared}
    (hall : List.Forall₂ (lib.Represents h root) ids es) :
    ids.map lib.access? = es.map (·.access) := by
  rw [← List.forall₂_eq_eq_eq, List.forall₂_map_left_iff, List.forall₂_map_right_iff]
  refine hall.imp fun k e hr => ?_
  obtain ⟨d, -, hd, -, -, -, haccess, -, -, -⟩ := hr
  rw [access?, decl?_of_registered? hd, Option.bind_some, haccess]

/-- A class that was just created has no namespaces, nor has anything behind it. -/
theorem Creates.spacesApart_self {scope : Nat} {d : Decl} (hc : lib.Creates scope id d out)
    (hform : d.body.form = .record) : out.SpacesApart id := by
  intro p e hp he
  have hlt := lt_created_of_decl? he
  rw [hc.created, ← hc.number] at hlt
  obtain rfl : p = id := by omega
  rw [decl?_of_registered? hc.registered] at he
  cases he
  have hnone : d.body.listOf "namespaces" = [] := Body.listOf_eq_nil (by rw [hform]; decide)
  rw [hnone]
  exact ⟨.nil, fun c hc => absurd hc List.not_mem_nil⟩

end Library

namespace Header

variable (h : Header)

/-- Reading the members of a class declares what they declare, told from the class on. -/
theorem declares_of_fullMembers {nodes : List SyntaxNode} {owner : Nat} {access : Access}
    {lib out : Library} {u : Unit} (hapart : lib.SpacesApart owner)
    (hclass : lib.HasForm owner [.record])
    (hrun : outcomeOf (h.fullMembers nodes owner access) lib = (.ok u, out)) :
    lib.Declares h owner
      ((h.placedAmong access nodes).flatMap fun m => h.declaredAt true [] m.2 m.1) out :=
  (h.fullMembers_declaring (h.fullRecord_declaring _) owner access lib u out hapart
    ⟨.root, hclass⟩ hrun).1

/-- Behind the creation of a class, reading it declares what its members declare. -/
theorem exists_declares_of_fullRecord {n : SyntaxNode} {scope : Nat} {comment : String}
    {otherName : Option String} {lib out : Library} {id : Nat} (hscope : lib.Has scope)
    (hrun : outcomeOf (h.fullRecord n scope comment otherName) lib = (.ok (some id), out)) :
    ∃ mid : Library, mid.created = id + 1 ∧ mid.Declares h id
      ((h.placedMembers n).flatMap fun m => h.declaredAt true [] m.2 m.1) out := by
  rw [fullRecord_eq] at hrun
  split_ifs at hrun
  · cases hrun
  · obtain ⟨id', mid, hcreate, hrest⟩ := exists_of_outcomeOf_bind hrun
    have hc := h.creates_of_create hscope hcreate
    -- what stands where is told from the class on, as if it were a unit
    have hapart : mid.SpacesApart id' := hc.spacesApart_self rfl
    have hclass : mid.HasForm id' [.record] :=
      ⟨_, decl?_of_registered? hc.registered, List.mem_singleton.2 rfl⟩
    have hcreated : mid.created = id' + 1 := by rw [hc.created, hc.number]
    unfold placedMembers
    cases hbody : n.child? "body" with
    | none =>
      rw [hbody] at hrest
      cases hrest
      exact ⟨_, hcreated, .refl hapart⟩
    | some body =>
      rw [hbody] at hrest
      obtain ⟨u, last, hmembers, hlast⟩ := exists_of_outcomeOf_bind hrest
      cases hlast
      rw [firstAccess_eq] at hmembers
      exact ⟨mid, hcreated, h.declares_of_fullMembers hapart hclass hmembers⟩

/-- The data members and methods of a class that was read are those that its members declare, each
with the access level that was in force there. They have the level of the last access specifier
before them, or the one for the first members if there is none, exactly where the two agree. -/
theorem readRecord_accesses {levels : Nat} {n : SyntaxNode} (hlevels : n.size ≤ levels)
    {scope : Nat} {comment : String} {otherName : Option String} {lib out : Library} {id : Nat}
    (hscope : lib.Has scope)
    (hrun : (h.readRecord levels n scope comment otherName).perform lib = (.ok (some id), out)) :
    ∃ ids : List Nat, ids.Pairwise (· < ·) ∧ (∀ k, k ∈ ids ↔ out.IsMember id k) ∧
      List.Forall₂ (out.Represents h id) ids (h.memberDeclarations (h.placedMembers n)) ∧
      (List.Forall₂ (out.Represents h id) ids (h.memberDeclarations (h.orderedMembers n)) ↔
        h.SameAccess (h.placedMembers n) (h.orderedMembers n)) := by
  classical
  rw [build_perform, h.readRecord_eq_full hlevels] at hrun
  obtain ⟨mid, hcreated, hdeclares⟩ := h.exists_declares_of_fullRecord hscope hrun
  obtain ⟨ids, hsorted, hids, hall⟩ := hdeclares.represents
  have hmembers : List.Forall₂ (out.Represents h id) (ids.filter fun k => out.IsMember id k)
      (h.memberDeclarations (h.placedMembers n)) := by
    rw [← h.filter_declared]
    exact List.rel_filter (fun k e hr => decide_eq_true_iff.trans hr.isMember_iff) hall
  refine ⟨_, hsorted.filter _, fun k => ?_, hmembers, ?_⟩
  · rw [List.mem_filter, decide_eq_true_eq, hids, and_iff_right_iff_imp]
    rintro ⟨hlt, d, hd, -, hform⟩
    refine ⟨by omega, d, hd, ?_⟩
    revert hform
    cases d.body.form <;> decide
  · -- the two differ in nothing but access levels
    have hsame : (h.placedMembers n).map (·.1) = (h.orderedMembers n).map (·.1) := by
      rw [placedMembers, orderedMembers, h.placedAmong_fst, h.ordered_fst]
      rfl
    constructor
    · intro hordered
      exact h.sameAccess_of_accesses hsame
        ((accesses_of_represents hmembers).symm.trans (accesses_of_represents hordered))
    · intro hsameAccess
      rwa [← h.memberDeclarations_of_sameAccess hsame hsameAccess]

end Header

/-! ### A class with an access specifier in conditional text -/

/-- A header with a class whose members are public in conditional text. -/
def conditionalHeader : Header :=
  let lines := ["class W \x7b", "#ifdef X", "public:", "  int a;", "#endif", "  int b;", "\x7d;"]
  ⟨"a.h", ("\n".intercalate lines).toUTF8.toList⟩

/-- The class in the tree of the header. -/
def conditionalClass : SyntaxNode :=
  ruleNode "class_specifier" 0 53 none
    [ruleNode "type_identifier" 6 7 (some "name") [],
      ruleNode "field_declaration_list" 8 53 (some "body")
        [ruleNode "preproc_ifdef" 10 42 none
            [ruleNode "identifier" 17 18 (some "name") [],
              ruleNode "access_specifier" 19 25 none [],
              memberNode 29 35 [typeNode 29 32, declaratorNode 33 34]],
          memberNode 45 51 [typeNode 45 48, declaratorNode 49 50]]]

/-- The member in the conditional text is public, and the one behind it is not. -/
theorem readRecord_accesses_conditional : ∃ (out : Library) (ids : List Nat),
    conditionalClass.size ≤ 20 ∧ oneUnit.Has 0 ∧
      (conditionalHeader.readRecord 20 conditionalClass 0 "" none).perform oneUnit =
        (.ok (some 1), out) ∧
      (∀ k, k ∈ ids ↔ out.IsMember 1 k) ∧
      ids.map out.access? = [some .everyone, some .classOnly] := by
  have hlevels : conditionalClass.size ≤ 20 := by decide +kernel
  have hunit : oneUnit.Has 0 := ⟨_, rfl⟩
  let out := ((conditionalHeader.readRecord 20 conditionalClass 0 "" none).perform oneUnit).2
  have hrun : (conditionalHeader.readRecord 20 conditionalClass 0 "" none).perform oneUnit =
      (.ok (some 1), out) :=
    perform_eq_of_toOption (by decide +kernel)
  have haccesses : (conditionalHeader.memberDeclarations
      (conditionalHeader.placedMembers conditionalClass)).map (·.access) =
        [some .everyone, some .classOnly] := by
    decide +kernel
  obtain ⟨ids, -, hids, hall, -⟩ := conditionalHeader.readRecord_accesses hlevels hunit hrun
  refine ⟨out, ids, hlevels, hunit, hrun, hids, ?_⟩
  rw [Library.accesses_of_represents hall, haccesses]

/-- The last access specifier before the second member is `public`, but the member is private. -/
theorem readRecord_not_ordered : ∃ out,
    (conditionalHeader.readRecord 20 conditionalClass 0 "" none).perform oneUnit =
        (.ok (some 1), out) ∧
      (out.decl? 3).map (fun d => (d.name, d.parent, d.body.access?)) =
        some ("b", some 1, some .classOnly) ∧
      (conditionalHeader.memberDeclarations (conditionalHeader.orderedMembers
          conditionalClass)).map (fun e => (e.name, e.access)) =
        [("a", some .everyone), ("b", some .everyone)] :=
  ⟨_, perform_eq_of_toOption (by decide +kernel), by decide +kernel, by decide +kernel⟩

end Bindery
