import Bindery.Header.Search
import Bindery.Options.Load
import Bindery.Value.Compare
import Bindery.Value.Misfit
import Bindery.Value.Sorting

/-!
# Options from data

A configuration, and what options are overridden with, can be given as any value. The keys of a
mapping need not be texts, although no option has another key. A configuration that is no mapping is
walked over for its keys, which have to be known; and since no option is named by two characters,
none of its items can be a name with a value.
-/

namespace Bindery.Options

/-- The values among some that no option is named by, each once. -/
def unknownAmong (values : List Value) : List Value :=
  let isOption (v : Value) : Bool := v.text?.any keys.contains
  (values.filter (!isOption ·)).foldl
    (fun vs v => if vs.any (·.same v) then vs else vs ++ [v]) []

/-- A configuration is refused for keys that no option has. They are told in order, as texts. -/
def refuseKeys {α : Type} (unknown : List Value) : Except Fault α := do
  let sorted ← (Sorted.ofList Value.before unknown).outcome.mapError .misfit
  refuse (.unknownKeys (← (Value.parts sorted).mapError .misfit))

/-- The fields of a mapping whose keys are texts. -/
def textFields? (data : List (Value × Value)) : Option Fields :=
  data.mapM fun entry => entry.1.text?.map (·, entry.2)

/-- Options from a mapping, whose keys can be any values. -/
def ofMapping (data : List (Value × Value)) (here : Path) (base : Option Path) :
    Except Fault Options :=
  match textFields? data with
  | some fields => ofConfig fields here base
  | none => refuseKeys (unknownAmong (data.map (·.1)))

/-- The fields of a configuration that is no mapping, if it is empty. -/
def fieldsOf (data : Value) : Except Fault Fields := do
  match data.items? with
  | none => throw (.misfit (.notIterable data.typeName))
  | some items => do
    items.forM fun v =>
      match v.keyFault? with
      | some m => throw (.misfit m)
      | none => pure ()
    match unknownAmong items, items with
    | [], [] => return []
    | [], v :: _ => throw (.misfit (.notAPair 0 (v.items?.getD []).length))
    | unknown, _ => refuseKeys unknown

/-- Options from a configuration that is given as data, and so is the directory at which its
relative paths are read. -/
def ofData (data base : Value) (here : Path) : Except Fault Options := do
  let base ←
    match base with
    | .null => pure none
    | v => some <$> pathOfValue v
  match data with
  | .object fields => ofMapping (fields.map fun f => (.text f.1, f.2)) here base
  | _ => ofConfig (← fieldsOf data) here base

/-- Options with overrides that are given as data. -/
def mergeData (o : Options) (overrides : Value) : Except Fault Options := do
  match overrides with
  | .object fields => o.merge fields
  | v => do
    let _ ← o.toFields
    throw (.misfit (.noOperation v.typeName "items"))

/-- Options from a configuration file whose path is given as data. -/
def loadData (files : FileTree) (yaml : YamlReader) (path : Value) : Except Fault Options := do
  load files yaml (← pathOfValue path)

/-- Options with values by name, which only an object has. -/
def ofArguments (arguments : Value) : Except Fault Options :=
  match arguments with
  | .object fields => ofFields fields
  | v => .error (.misfit (.notArguments "cxxbind.pipeline.config.Options" v.typeName))

/-- Where all keys are texts, a mapping is read by its fields. -/
theorem ofMapping_texts (fields : Fields) (here : Path) (base : Option Path) :
    ofMapping (fields.map fun f => (.text f.1, f.2)) here base = ofConfig fields here base := by
  have hfields : textFields? (fields.map fun f => (.text f.1, f.2)) = some fields := by
    unfold textFields?
    induction fields with
    | nil => rfl
    | cons f fields ih => rw [List.map_cons, List.mapM_cons, ih]; rfl
  unfold ofMapping
  rw [hfields]

/-- No value can stand for a configuration but a mapping and what has no items. -/
theorem fieldsOf_eq_ok (data : Value) (fields : Fields) (h : fieldsOf data = .ok fields) :
    fields = [] := by
  unfold fieldsOf at h
  split at h
  · cases h
  · rename_i items _
    cases hk : (items.forM fun v =>
        match v.keyFault? with
        | some m => (throw (Fault.misfit m) : Except Fault Unit)
        | none => pure ()) with
    | error e => rw [hk] at h; cases h
    | ok _ =>
      rw [hk] at h
      simp only [bind, Except.bind] at h
      split at h
      · simpa [pure, Except.pure] using h.symm
      · cases h
      · unfold refuseKeys refuse at h
        simp only [bind, Except.bind] at h
        split at h
        · cases h
        · split at h <;> cases h

end Bindery.Options
