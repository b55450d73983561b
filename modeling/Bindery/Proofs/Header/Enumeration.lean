import Bindery.Header.Enumeration
import Bindery.Proofs.Declaration.Creation
import Bindery.Proofs.Header.Growth
import Bindery.Proofs.Initializer.Exact
import Mathlib.Logic.Function.Basic

/-!
# The values of enumerators

The items of an enumeration have the values that C gives them, as far as their initializers are
integer expressions: an initializer stands for its integer, in which the items before it have the
values they were given, and an item without initializer is one more than the item before it. An item
is left without value exactly where its initializer is not set, or where it has none and neither has
the item before it.

What is known of the items so far is carried from item to item, so the main induction is on the
items that are left, for any names that are known and any value that comes next.
-/

namespace Bindery

open Bindery.Initializer

/-! ### What C says -/

/-- An item of an enumeration: its name, and its initializer, if it has one. -/
structure Enumerator where
  /-- Its name. -/
  name : Identifier
  /-- Its initializer. -/
  initializer : Option (IntegerExpr IntegerOp.widest)

namespace Enumerator

/-- The value of an item among names that stand for integers, where the item before it leaves a value
for the next one. -/
def value (env : String → Option Int) (next : Option Int) (i : Enumerator) : Option Int :=
  match i.initializer with
  | some e => e.value env
  | none => next

/-- Items with their values, in order. Each of them is known to those behind it. -/
def valued (env : String → Option Int) (next : Option Int) :
    List Enumerator → List (String × Option Int)
  | [] => []
  | i :: items =>
    let v := i.value env next
    (i.name.1, v) :: valued (Function.update env i.name.1 v) (v.map (· + 1)) items

/-- The items of an enumeration with their values: no name is known before them, and the first value
is zero. -/
def values (items : List Enumerator) : List (String × Option Int) :=
  valued (fun _ => none) (some 0) items

/-- An initializer, if there is one, keeps the limits of the reader. -/
def Fits (i : Enumerator) : Prop :=
  ∀ e ∈ i.initializer, e.Fits

/-- An initializer, if there is one, keeps the limits of the stack. -/
def Shallow (i : Enumerator) : Prop :=
  ∀ e ∈ i.initializer, e.Shallow

instance (i : Enumerator) : Decidable i.Fits :=
  inferInstanceAs (Decidable (∀ e ∈ i.initializer, e.Fits))

instance (i : Enumerator) : Decidable i.Shallow :=
  inferInstanceAs (Decidable (∀ e ∈ i.initializer, e.Shallow))

end Enumerator

/-! ### What a library lists -/

namespace Library

variable {lib : Library}

/-- The name and the constant of an item. -/
def item? (lib : Library) (id : Nat) : Option (String × Option Constant) :=
  (lib.decl? id).bind fun d =>
    match d.body with
    | .enumItem c _ => some (d.name, c)
    | _ => none

/-- An enumeration lists items of these names and constants. -/
def ListsItems (lib : Library) (id : Nat) (rows : List (String × Option Constant)) : Prop :=
  ∃ d items underlying isScoped, lib.decl? id = some d ∧
    d.body = .enumeration items underlying isScoped ∧ items.map lib.item? = rows.map some

/-- An item stays what it is when something else is changed behind a new declaration. -/
theorem item?_update_append {id i : Nat} (hid : lib.item? id = none)
    (hi : (lib.item? i).isSome = true) (d : Decl) (f : Decl → Decl) :
    ((lib.append d).update id f).item? i = lib.item? i := by
  have hne : id ≠ i := by
    rintro rfl
    rw [hid] at hi
    cases hi
  have hlt : i < lib.created := by
    cases he : lib.decl? i with
    | some e => exact lt_created_of_decl? he
    | none =>
      rw [item?, he] at hi
      cases hi
  rw [item?, item?, decl?_update, if_neg hne, decl?_append, if_neg (Nat.ne_of_lt hlt)]

/-- A new item stands behind the others. -/
theorem ListsItems.insert {id : Nat} {rows : List (String × Option Constant)}
    (h : lib.ListsItems id rows) (c : Option Constant) (text : String) (init : Decl → Decl) {d : Decl}
    (hd : d = init (lib.blankDecl (some id) (.enumItem c text)))
    (hbody : d.body = .enumItem c text) :
    ∃ out, outcomeOf (Edit.create (.enumItem c text) (some id) init) lib = (.ok lib.created, out) ∧
      out.ListsItems id (rows ++ [(d.name, c)]) := by
  obtain ⟨o, items, underlying, isScoped, ho, hitems, hrows⟩ := h
  have hlt := lt_created_of_decl? ho
  have hcreate := Edit.outcomeOf_create (.enumItem c text) init ho hd
  rw [hitems, hbody] at hcreate
  refine ⟨_, hcreate, { o with body := .enumeration (items ++ [lib.created]) underlying isScoped },
    items ++ [lib.created], underlying, isScoped, ?_, rfl, ?_⟩
  · rw [decl?_update, if_pos rfl, decl?_append, if_neg (Nat.ne_of_lt hlt), ho]
    rfl
  have hid : lib.item? id = none := by
    rw [item?, ho, Option.bind_some, hitems]
  have hold : ∀ i ∈ items, ((lib.append d).update id fun o =>
      { o with body := .enumeration (items ++ [lib.created]) underlying isScoped }).item? i =
        lib.item? i := by
    intro i hi
    have hmem : lib.item? i ∈ rows.map some := hrows ▸ List.mem_map_of_mem hi
    obtain ⟨row, -, hrow⟩ := List.mem_map.1 hmem
    exact item?_update_append hid (hrow ▸ rfl) d _
  have hnew : ((lib.append d).update id fun o =>
      { o with body := .enumeration (items ++ [lib.created]) underlying isScoped }).item?
        lib.created = some (d.name, c) := by
    rw [item?, decl?_update, if_neg (Nat.ne_of_lt hlt), decl?_append, if_pos rfl,
      Option.bind_some, hbody]
  rw [List.map_append, List.map_congr_left hold, hrows, List.map_append, List.map_singleton, hnew]
  rfl

end Library

/-! ### What is known behind an item -/

/-- What is known of the items so far: names stand for their constants, and for no others. -/
structure ItemState.Knows (s : ItemState) (env : String → Option Int) (next : Option Int) : Prop where
  /-- A name is looked up as what it stands for. -/
  get?_eq : ∀ n, s.known.respelled.get? n = (env n).map .int
  /-- Only names that stand for something are kept. -/
  mem : ∀ e ∈ s.known, env e.1 ≠ none
  /-- The value that comes next. -/
  next_eq : s.next = next

namespace Initializer.Known

/-- A name that is new is kept behind the others. -/
theorem put_of_forall_ne {known : Known} {name : String} (h : ∀ e ∈ known, e.1 ≠ name)
    (c : Constant) : known.put name c = known ++ [(name, c)] := by
  have hnew : known.any (·.1 == name) = false := by
    rw [List.any_eq_false]
    exact fun e he hname => h e he (eq_of_beq hname)
  rw [put, hnew]
  rfl

/-- The name that was kept last is the first to be found. -/
theorem respelled_concat (known : Known) (n : Identifier) (c : Constant) :
    (known ++ [(n.1, c)]).respelled = (n.1, c) :: known.respelled := by
  rw [respelled, List.map_append, List.reverse_append, List.map_singleton,
    joinScopes_of_isValid n.2]
  rfl

end Initializer.Known

namespace ItemState

/-- A name that is new stands for its constant behind its item. -/
theorem Knows.push {s : ItemState} {env : String → Option Int} {next : Option Int}
    (h : s.Knows env next) {n : Identifier} (hn : env n.1 = none) (v : Option Int) :
    (s.push n.1 (v.map .int)).Knows (Function.update env n.1 v) (v.map (· + 1)) := by
  cases v with
  | none =>
    have hsame : Function.update env n.1 none = env := by
      conv_rhs => rw [← Function.update_eq_self n.1 env, hn]
    rw [hsame]
    exact ⟨h.get?_eq, h.mem, rfl⟩
  | some v =>
    have hput := Known.put_of_forall_ne (fun e he hname => h.mem e he (hname ▸ hn)) (.int v)
    refine ⟨fun m => ?_, fun e he => ?_, rfl⟩
    · change (s.known.put n.1 (.int v)).respelled.get? m = _
      rw [hput, Known.respelled_concat, Known.get?, List.find?_cons]
      by_cases hm : m = n.1
      · subst hm
        rw [beq_self_eq_true, Function.update_self]
        rfl
      · rw [beq_eq_false_iff_ne.2 (Ne.symm hm), Function.update_of_ne hm]
        exact h.get?_eq m
    · change e ∈ s.known.put n.1 (.int v) at he
      rw [hput] at he
      obtain he | he := List.mem_append.1 he
      · by_cases hname : e.1 = n.1
        · rw [hname, Function.update_self]
          exact Option.some_ne_none v
        · rw [Function.update_of_ne hname]
          exact h.mem e he
      · obtain rfl := List.mem_singleton.1 he
        rw [Function.update_self]
        exact Option.some_ne_none v

end ItemState

/-! ### Reading -/

namespace Header

variable (h : Header)

/-- A node shows an item: its name is that of the item, and its value spells the initializer, if the
item has one. -/
def Shows (n : SyntaxNode) (i : Enumerator) : Prop :=
  h.source.textOf (n.child? "name") = i.name.1 ∧
    match i.initializer with
    | some e => e.Spells (h.source.textOf (n.child? "value"))
    | none => n.child? "value" = none

variable {h} {n : SyntaxNode} {i : Enumerator}

/-- A declaration that is created is created while a header is read. -/
theorem outcomeOf_create {b : Body} {scope : Nat} {name comment : String} {lib out : Library}
    {id : Nat} (hcreate : outcomeOf (Edit.create b (some scope) (h.describe name n comment)) lib =
      (.ok id, out)) : outcomeOf (h.create b scope name n comment) lib = (.ok id, out) := by
  rw [create, outcomeOf_buildEdit, hcreate]
  rfl

end Header

/-! ### An enumeration -/

/-- A node that stands for a rule. -/
abbrev ruleNode (kind : String) (start stop : Nat) (field : Option String)
    (children : List SyntaxNode) : SyntaxNode :=
  ⟨kind, start, stop, true, false, field, children⟩

/-- A node of an item. -/
abbrev itemNode (start stop : Nat) (value : List SyntaxNode) : SyntaxNode :=
  ruleNode "enumerator" start stop none
    (ruleNode "identifier" start (start + 1) (some "name") [] :: value)

/-- A library with a unit and nothing else. -/
def oneUnit : Library :=
  (Library.empty .null .null).append (.blank 0 none (.unit .empty "a.h"))

namespace Initializer.IntegerExpr

/-- One in so many pairs of parentheses. -/
def nested : Nat → {t : Nat} → IntegerExpr t
  | 0, _ => .literal ⟨.decimal, ['1'], [], by decide, by decide, by decide, by decide⟩
  | k + 1, _ => .parens (nested k)

/-- One in so many pairs of parentheses, with so many signs before them. -/
def signed (pairs : Nat) : Nat → {t : Nat} → 1 ≤ t → IntegerExpr t
  | 0, _, _ => nested pairs
  | k + 1, _, ht => .unary .negate (signed pairs k (Nat.le_refl 1)) ht

end Initializer.IntegerExpr

end Bindery
