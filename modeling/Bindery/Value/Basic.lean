/-!
# Values

Configuration files, option mappings and the notes attached to declarations hold values of no fixed
type: nothing, truth values, integers of any size, doubles, texts, lists, and objects whose fields
keep their order.
-/

namespace Bindery

/-- A value of a configuration or of a note. -/
inductive Value where
  /-- Nothing. -/
  | null
  /-- A truth value. -/
  | bool (b : Bool)
  /-- An integer of any size. -/
  | int (n : Int)
  /-- A double, by its bits. -/
  | float (bits : UInt64)
  /-- A text. -/
  | text (s : String)
  /-- A list. -/
  | list (items : List Value)
  /-- An object, its fields in order. -/
  | object (fields : List (String × Value))
deriving Repr, Inhabited

/-- Fields in order, each name once. -/
abbrev Fields := List (String × Value)

namespace Fields

/-- The value of a field. -/
def get? : Fields → String → Option Value
  | [], _ => none
  | (n, v) :: rest, name => if n == name then some v else get? rest name

/-- Gives a field a value. A new field comes last, a known one keeps its place. -/
def put : Fields → String → Value → Fields
  | [], name, v => [(name, v)]
  | (n, w) :: rest, name, v => if n == name then (n, v) :: rest else (n, w) :: put rest name v

/-- The names of the fields, in order. -/
def names (fields : Fields) : List String :=
  fields.map (·.1)

theorem get?_put_self (fields : Fields) (name : String) (v : Value) :
    get? (put fields name v) name = some v := by
  induction fields with
  | nil => simp [put, get?]
  | cons p rest ih =>
    obtain ⟨n, w⟩ := p
    by_cases h : n = name
    · simp [put, get?, h]
    · simp [put, get?, h, ih]

theorem names_put (fields : Fields) (name : String) (v : Value) :
    names (put fields name v) =
      if name ∈ names fields then names fields else names fields ++ [name] := by
  induction fields with
  | nil => simp [put, names]
  | cons p rest ih =>
    obtain ⟨n, w⟩ := p
    by_cases h : n = name
    · subst h; simp [put, names]
    · have h' : ¬ name = n := fun e => h e.symm
      simp only [names] at ih
      by_cases hm : name ∈ rest.map (·.1)
      · simp [put, names, h, h', ih, hm]
      · simp [put, names, h, h', ih, hm]

theorem get?_put_of_ne (fields : Fields) {name other : String} (h : other ≠ name) (v : Value) :
    get? (put fields name v) other = get? fields other := by
  induction fields with
  | nil => simp [put, get?, h.symm]
  | cons f rest ih =>
    obtain ⟨n, w⟩ := f
    by_cases hn : n = name
    · subst hn
      simp [put, get?, h.symm]
    · have hput : put ((n, w) :: rest) name v = (n, w) :: put rest name v := by simp [put, hn]
      rw [hput]
      by_cases ho : n = other <;> simp [get?, ho, ih]

/-- The names of fields are those that have a value. -/
theorem mem_names_iff {fields : Fields} {name : String} :
    name ∈ names fields ↔ ∃ v, get? fields name = some v := by
  induction fields with
  | nil => simp [names, get?]
  | cons f rest ih =>
    obtain ⟨n, w⟩ := f
    unfold names at ih ⊢
    rw [List.map_cons, List.mem_cons, ih]
    by_cases h : n = name
    · simp [get?, h]
    · have h' : name ≠ n := fun he => h he.symm
      simp [get?, h, h']

theorem names_put_of_get? {fields : Fields} {name : String} {w : Value}
    (h : get? fields name = some w) (v : Value) : names (put fields name v) = names fields := by
  rw [names_put, if_pos (mem_names_iff.2 ⟨w, h⟩)]

theorem get?_append (fields more : Fields) (name : String) :
    get? (fields ++ more) name = (get? fields name).or (get? more name) := by
  induction fields with
  | nil => rfl
  | cons f rest ih =>
    obtain ⟨n, v⟩ := f
    rw [List.cons_append, get?, get?]
    split
    · rfl
    · exact ih

theorem names_append (fields more : Fields) : (fields ++ more).names = fields.names ++ more.names :=
  List.map_append

end Fields

namespace Value

/-- Whether a value counts as true: null, false, zero and whatever is empty do not. -/
def truthy : Value → Bool
  | null => false
  | bool b => b
  | int n => n != 0
  | float bits => bits != 0 && bits != 0x8000000000000000
  | text s => s != ""
  | list items => !items.isEmpty
  | object fields => !fields.isEmpty

/-- Whether a value is nothing. -/
def isNull : Value → Bool
  | null => true
  | _ => false

/-- The name of a value's type in messages. -/
def typeName : Value → String
  | null => "NoneType"
  | bool _ => "bool"
  | int _ => "int"
  | float _ => "float"
  | text _ => "str"
  | list _ => "list"
  | object _ => "dict"

/-- What a walk over a value visits: the items of a list, the characters of a text, the names of an
object's fields. Other values cannot be walked over. -/
def items? : Value → Option (List Value)
  | list items => some items
  | text s => some (s.toList.map fun c => text (String.ofList [c]))
  | object fields => some (fields.map fun f => text f.1)
  | _ => none

/-- The items of a list; any other value has none. -/
def listItems : Value → List Value
  | list items => items
  | _ => []

/-- The fields of an object; any other value has none. -/
def objectFields : Value → Fields
  | object fields => fields
  | _ => []

/-- The field of a name, if there is one. -/
def field? (v : Value) (name : String) : Option Value :=
  Fields.get? v.objectFields name

/-- The field of a name; nothing where there is none. -/
def field (v : Value) (name : String) : Value :=
  (v.field? name).getD null

/-- The text that a value is. -/
def text? : Value → Option String
  | text s => some s
  | _ => none

/-- A text that may be absent, as a value. -/
def ofText? : Option String → Value
  | some s => text s
  | none => null

/-- Texts as a value. -/
def ofTexts (texts : List String) : Value :=
  list (texts.map text)

end Value

end Bindery
