import Bindery.Proofs.Header.Declaring
import Bindery.Proofs.Header.Storage

/-!
# Namespaces of headers

In a unit that was read, the namespaces of one scope have names of their own, so a path of names
leads to one namespace at most, however often and in whatever way it was written. All that the
header declares is held by the scope of its path, and has a qualified name made of the names around
it and its own.
-/

namespace Bindery

/-- The names around something that a header declares, and its own. -/
def Declared.qualifiedName (e : Declared) : String :=
  "::".intercalate (e.path.map (·.2) ++ [e.name])

namespace Library

variable {lib : Library} {root : Nat} {path : ScopePath}

/-! ### One namespace at a path -/

/-- What stands inside of a scope is held by what stands at the path of that scope. -/
theorem ScopeAt.exists_holds {last : Form × String} {id : Nat}
    (hat : lib.ScopeAt root (path ++ [last]) id) :
    ∃ scope d, lib.ScopeAt root path scope ∧ lib.Holds scope id ∧ lib.decl? id = some d ∧
      d.body.form = last.1 ∧ d.name = last.2 := by
  generalize hpath : path ++ [last] = whole at hat
  cases hat with
  | root => exact absurd hpath (List.append_ne_nil_of_right_ne_nil _ nofun)
  | inside hscope hholds _ hd hform _ =>
    obtain ⟨rfl, rfl⟩ := List.concat_inj.1 (by simpa using hpath)
    exact ⟨_, _, hscope, hholds, decl?_of_registered? hd, hform, rfl⟩

/-- Two namespaces at one path are the same. -/
theorem SpacesApart.scope_unique (hapart : lib.SpacesApart root) {names : List String} {p q : Nat}
    (hp : lib.ScopeAt root (.spaces names) p) (hq : lib.ScopeAt root (.spaces names) q) :
    p = q := by
  induction names using List.reverseRecOn generalizing p q with
  | nil => rw [hp.eq_root, hq.eq_root]
  | append_singleton names name ih =>
    rw [ScopePath.spaces, List.map_append, List.map_singleton] at hp hq
    obtain ⟨scope, d, hscope, hholds, hd, hform, hname⟩ := hp.exists_holds
    obtain ⟨scope', d', hscope', hholds', hd', hform', hname'⟩ := hq.exists_holds
    -- both are on one list then, and of one name
    obtain rfl := ih hscope hscope'
    have hlisted : ∀ {id : Nat} {d : Decl}, lib.Holds scope id → lib.decl? id = some d →
        d.body.form = .space → ∃ o, lib.decl? scope = some o ∧
          id ∈ o.body.listOf "namespaces" := by
      rintro id d ⟨o, e, list, ho, he, -, hlist, hmem⟩ hd hform
      rw [hd] at he
      cases he
      rw [hform] at hlist
      obtain rfl := (Form.namespaces_eq_iff hlist).2 rfl
      exact ⟨o, ho, hmem⟩
    obtain ⟨o, ho, hmem⟩ := hlisted hholds hd hform
    obtain ⟨o', ho', hmem'⟩ := hlisted hholds' hd' hform'
    rw [ho] at ho'
    cases ho'
    obtain ⟨hnames, -⟩ := hapart scope o hscope.le ho
    have hsymm : Std.Symm fun a b => lib.name? a ≠ lib.name? b := ⟨fun _ _ => Ne.symm⟩
    by_contra hne
    refine hnames.forall hmem hmem' hne ?_
    rw [name?, name?, hd, hd', Option.map_some, Option.map_some, hname, hname']

/-! ### Qualified names -/

/-- The names on a way outward, from the outside in. Units have no part in it. -/
def outwardNames (ds : List Decl) : List String :=
  ((ds.filter (·.kind ≠ .unit)).map (·.name)).reverse

theorem outwardNames_cons {d : Decl} (hd : d.body.form ≠ .unit) (ds : List Decl) :
    outwardNames (d :: ds) = outwardNames ds ++ [d.name] := by
  have hkind : d.kind ≠ .unit := by
    revert hd
    unfold Decl.kind Body.kind
    cases d.body.form <;> simp [Form.kind]
  rw [outwardNames, List.filter_cons_of_pos (by simpa using hkind), List.map_cons,
    List.reverse_cons]
  rfl

/-- A unit that is inside of nothing. -/
def Outermost (lib : Library) (root : Nat) : Prop :=
  ∃ d, lib.registered? root = some d ∧ d.body.form = .unit ∧ d.parent = none

theorem outwardFrom_parent {d o : Decl} {scope levels : Nat} {ds : List Decl}
    (hparent : d.parent = some scope) (ho : lib.registered? scope = some o)
    (hrest : lib.outwardFrom levels o = .ok ds) :
    lib.outwardFrom (levels + 1) d = .ok (d :: ds) := by
  simp only [outwardFrom, parentOf, hparent, get, ho]
  show (do let rest ← lib.outwardFrom levels o; pure (d :: rest)) = Except.ok (d :: ds)
  rw [hrest]
  rfl

/-- From a scope outward there are the names of its path. -/
theorem ScopeAt.exists_outwardFrom (hroot : lib.Outermost root) {scope : Nat}
    (hat : lib.ScopeAt root path scope) : ∃ d, lib.registered? scope = some d ∧
      ∀ levels, scope ≤ levels → ∃ ds, lib.outwardFrom levels d = .ok ds ∧
        outwardNames ds = path.map (·.2) := by
  induction hat with
  | root =>
    obtain ⟨d, hd, hform, hparent⟩ := hroot
    have hkind : d.kind = .unit := congrArg Form.kind hform
    refine ⟨d, hd, fun levels _ => ⟨[d], ?_, by simp [outwardNames, hkind]⟩⟩
    cases levels with
    | zero => rfl
    | succ levels =>
      simp only [outwardFrom, parentOf, hparent]
      rfl
  | @inside path scope id d form _ hholds hlt hd hform hscope ih =>
    obtain ⟨o, ho, hout⟩ := ih
    obtain ⟨-, e, -, -, he, hparent, -, -⟩ := hholds
    rw [decl?_of_registered? hd] at he
    cases he
    refine ⟨d, hd, fun levels hlevels => ?_⟩
    -- a level is left for each scope, since scopes have smaller numbers
    obtain ⟨levels, rfl⟩ : ∃ k, levels = k + 1 := ⟨levels - 1, by omega⟩
    obtain ⟨ds, hds, hnames⟩ := hout levels (by omega)
    refine ⟨d :: ds, outwardFrom_parent hparent ho hds, ?_⟩
    rw [outwardNames_cons, hnames, List.map_append, List.map_singleton]
    rintro hunit
    rw [← hform, hunit] at hscope
    exact absurd hscope (by decide)

/-- What stands for something that a header declares has its qualified name. -/
theorem Represents.exists_qualifiedName (hroot : lib.Outermost root) {h : Header} {id : Nat}
    {e : Declared} (hr : lib.Represents h root id e) (hdeclared : lib.HasForm id declaredForms) :
    ∃ d, lib.decl? id = some d ∧ lib.qualifiedName d = .ok e.qualifiedName := by
  obtain ⟨d, scope, hd, -, hname, -, -, hlt, hholds, hat⟩ := hr
  obtain ⟨o, ho, hout⟩ := hat.exists_outwardFrom hroot
  obtain ⟨-, d', -, -, hd', hparent, -, -⟩ := hholds
  rw [decl?_of_registered? hd] at hd'
  cases hd'
  obtain ⟨d', hd', hmem⟩ := hdeclared
  rw [decl?_of_registered? hd] at hd'
  cases hd'
  have hform : d.body.form ≠ .unit := by
    rintro hunit
    rw [hunit] at hmem
    exact absurd hmem (by decide)
  obtain ⟨levels, hlevels⟩ : ∃ k, lib.created = k + 1 ∧ scope ≤ k :=
    ⟨lib.created - 1, by have := lt_created_of_decl? (decl?_of_registered? hd); omega⟩
  obtain ⟨ds, hds, hnames⟩ := hout levels hlevels.2
  have houtward : lib.outward d = .ok (d :: ds) := by
    rw [outward, hlevels.1, outwardFrom_parent hparent ho hds]
  refine ⟨d, decl?_of_registered? hd, ?_⟩
  rw [qualifiedName, houtward]
  show Except.ok ("::".intercalate (outwardNames (d :: ds))) = _
  rw [outwardNames_cons hform, hnames, hname]
  rfl

end Library

namespace Header

open Library SyntaxNode

variable (h : Header)

/-! ### Units that were read -/

/-- A unit that is new and empty leaves everything as it was. -/
theorem declares_append_unit (lib : Library) {d : Decl} {file : String}
    (hbody : d.body = .unit .empty file) : lib.Declares h lib.created [] (lib.append d) := by
  have honly : ∀ {p : Nat} {e : Decl}, lib.created ≤ p → (lib.append d).decl? p = some e →
      e = d := by
    intro p e hp he
    have hlt := lt_created_of_decl? he
    rw [created_append] at hlt
    rw [decl?_append, if_pos (by omega)] at he
    exact (Option.some.inj he).symm
  have hapart : (lib.append d).SpacesApart lib.created := by
    intro p e hp he
    have hnone : d.body.listOf "namespaces" = [] := by rw [hbody]; rfl
    rw [honly hp he, hnone]
    exact ⟨.nil, fun c hc => absurd hc List.not_mem_nil⟩
  refine .nothing (.append lib d) hapart fun id hid hdeclared => ?_
  obtain ⟨e, he, hmem⟩ := hdeclared
  have hunit : Form.unit ∉ declaredForms := by decide
  rw [honly hid he, hbody] at hmem
  exact hunit hmem

/-- A unit that was read declares what its header declares, below a unit that is inside of
nothing. -/
theorem declares_of_readUnit {name : String} {defines : List Value} {tree : SyntaxNode}
    {lib out : Library} (hrun : h.readUnit name defines tree lib = (.parsed, out)) :
    out.units.getLast? = some lib.created ∧ out.Outermost lib.created ∧
      lib.Declares h lib.created (h.declared tree) out := by
  obtain ⟨d, hbody, hparent, hopen⟩ := h.exists_outcomeOf_openUnit name defines lib
  have hunit : (lib.append d).registered? lib.created = some d := by
    rw [registered?_append, if_pos rfl]
  have hform : d.body.form = .unit := by rw [hbody]; rfl
  have hfirst := h.declares_append_unit lib hbody
  unfold readUnit at hrun
  rw [build_perform, hopen] at hrun
  simp only [build_perform, readItems_tree] at hrun
  cases hread : outcomeOf (h.fullItems (h.commented none tree.children) lib.created)
      (lib.append d) with
  | mk r last =>
    rw [hread] at hrun
    cases r with
    | error f =>
      dsimp only at hrun
      split_ifs at hrun <;> cases hrun
    | ok u =>
      cases hrun
      have hopens : (lib.append d).Opens lib.created [] false lib.created :=
        ⟨.root, d, decl?_of_registered? hunit, by rw [hform]; decide⟩
      obtain ⟨hdeclares, -⟩ := h.fullItems_declaring (h.commented none tree.children) []
        lib.created _ u last hfirst.apart hopens hread
      rw [h.flatMap_commented fun _ => h.itemDeclared_comment] at hdeclares
      obtain ⟨e, he, hde⟩ := hdeclares.widens.exists_registered? hunit
      refine ⟨List.getLast?_concat .., ⟨e, he, hde.form.trans hform, hde.parent.trans hparent⟩, ?_⟩
      exact (hfirst.trans hdeclares).withUnits _

/-- In a unit that was read, namespaces of one scope have different names, and a path of names leads
to one namespace at most. The classes, enumerations, functions and data members there are, in order,
for all that the header declares; each is in the scope of its path and has the qualified name that
is made of the names on the path and its own. -/
theorem readUnit_namespaces {name : String} {defines : List Value} {tree : SyntaxNode}
    {lib out : Library} (hrun : h.readUnit name defines tree lib = (.parsed, out)) :
    out.units.getLast? = some lib.created ∧
      (∀ p d, lib.created ≤ p → out.decl? p = some d →
        (d.body.listOf "namespaces").Pairwise fun a b => out.name? a ≠ out.name? b) ∧
      (∀ names p q, out.ScopeAt lib.created (.spaces names) p →
        out.ScopeAt lib.created (.spaces names) q → p = q) ∧
      ∃ ids : List Nat, ids.Pairwise (· < ·) ∧
        (∀ id, id ∈ ids ↔ lib.created ≤ id ∧ out.HasForm id declaredForms) ∧
        List.Forall₂ (fun id e => out.Represents h lib.created id e ∧
          ∃ d, out.decl? id = some d ∧ out.qualifiedName d = .ok e.qualifiedName) ids
          (h.declared tree) := by
  obtain ⟨hunit, hroot, hdeclares⟩ := h.declares_of_readUnit hrun
  obtain ⟨ids, hsorted, hids, hall⟩ := hdeclares.represents
  refine ⟨hunit, fun p d hp hd => (hdeclares.apart p d hp hd).1,
    fun names p q hp hq => hdeclares.apart.scope_unique hp hq, ids, hsorted, hids, ?_⟩
  have hforms : ∀ id ∈ ids, out.HasForm id declaredForms := fun id hid => ((hids id).1 hid).2
  exact ((List.forall₂_and_left _ _).2 ⟨hforms, hall⟩).imp fun id e hr =>
    ⟨hr.2, hr.2.exists_qualifiedName hroot hr.1⟩

end Header

/-! ### Namespaces that are opened again -/

/-- A header with a compound namespace, whose parts are opened again below a linkage block, the
inner one in conditional text. A namespace without name follows. -/
def reopenedHeader : Header :=
  let lines := ["namespace a::b \x7b", "struct S;", "\x7d", "extern \"C\" \x7b", "namespace a \x7b",
    "#ifdef X", "namespace b \x7b enum E \x7b K \x7d; \x7d", "#endif",
    "namespace \x7b int f(); \x7d", "\x7d", "\x7d"]
  ⟨"a.h", ("\n".intercalate lines).toUTF8.toList⟩

/-- A node of a namespace, with the node of its name if it has one. -/
abbrev namespaceNode (start stop : Nat) (name : List SyntaxNode) (bodyStart : Nat)
    (items : List SyntaxNode) : SyntaxNode :=
  ruleNode "namespace_definition" start stop none
    (name ++ [ruleNode "declaration_list" bodyStart stop (some "body") items])

/-- The class in the tree of the header. -/
def reopenedClass : SyntaxNode :=
  ruleNode "struct_specifier" 17 25 none [ruleNode "type_identifier" 24 25 (some "name") []]

/-- The enumeration in the tree of the header. -/
def reopenedEnumeration : SyntaxNode :=
  ruleNode "enum_specifier" 79 91 none
    [ruleNode "type_identifier" 84 85 (some "name") [],
      ruleNode "enumerator_list" 86 91 (some "body") [itemNode 88 89 []]]

/-- The function in the tree of the header. -/
def reopenedFunction : SyntaxNode :=
  ruleNode "declaration" 114 122 none
    [ruleNode "primitive_type" 114 117 (some "type") [],
      ruleNode "function_declarator" 118 121 (some "declarator")
        [ruleNode "identifier" 118 119 (some "declarator") [],
          ruleNode "parameter_list" 119 121 (some "parameters") []]]

/-- The tree of the header. -/
def reopenedTree : SyntaxNode :=
  ruleNode "translation_unit" 0 128 none
    [namespaceNode 0 28 [ruleNode "nested_namespace_specifier" 10 14 (some "name") []] 15
        [reopenedClass],
      ruleNode "linkage_specification" 29 128 none
        [ruleNode "declaration_list" 40 128 (some "body")
          [namespaceNode 42 126 [ruleNode "namespace_identifier" 52 53 (some "name") []] 54
            [ruleNode "preproc_ifdef" 56 101 none
                [ruleNode "identifier" 63 64 (some "name") [],
                  namespaceNode 65 94 [ruleNode "namespace_identifier" 75 76 (some "name") []] 77
                    [reopenedEnumeration]],
              namespaceNode 102 124 [] 112 [reopenedFunction]]]]]

theorem HeaderOutcome.eq_parsed {o : HeaderOutcome} (ho : o.isParsed = true) : o = .parsed := by
  cases o with
  | parsed => rfl
  | _ => cases ho

/-- The class and the enumeration are in one namespace. -/
theorem readUnit_namespaces_reopened : ∃ out ids,
    reopenedHeader.readUnit "a.h" [] reopenedTree (.empty .null .null) = (.parsed, out) ∧
      List.Forall₂ (fun id name => ∃ d, out.decl? id = some d ∧ out.qualifiedName d = .ok name) ids
        ["a::b::S", "a::b::E", "a::::f"] := by
  have hparsed := HeaderOutcome.eq_parsed
    (o := (reopenedHeader.readUnit "a.h" [] reopenedTree (.empty .null .null)).1)
    (by decide +kernel)
  have hnames : (reopenedHeader.declared reopenedTree).map (·.qualifiedName) =
      ["a::b::S", "a::b::E", "a::::f"] := by
    decide +kernel
  obtain ⟨-, -, -, ids, -, -, hall⟩ := reopenedHeader.readUnit_namespaces (Prod.ext hparsed rfl)
  refine ⟨_, ids, Prod.ext hparsed rfl, ?_⟩
  rw [← hnames, List.forall₂_map_right_iff]
  exact hall.imp fun _ _ hr => hr.2

end Bindery
