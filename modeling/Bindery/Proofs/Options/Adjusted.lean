import Bindery.Options.Load
import Bindery.Proofs.Outcome

/-!
# What a configuration makes of its values

Reading a configuration changes the values of some options one after the other and takes the rest as
it is. Each change looks at one value alone, so what becomes of a configuration is settled value by
value: nothing is lost and nothing is added, the first value that cannot be changed ends it, and the
options have the values that are left or else those that were chosen before.
-/

namespace Bindery

namespace Options

/-! ### Options by name -/

/-- The value of the option of a name. -/
def valueOf (o : Options) (key : String) : Value :=
  match key with
  | "defines" => o.defines
  | "include_dirs" => o.includeDirs
  | "headers" => o.headers
  | "namespace" => o.namespaceName
  | "output_dir" => o.outputDir
  | "library_name" => o.libraryName
  | "template" => o.template
  | "assembly" => o.assembly
  | "debug" => o.debug
  | "verbose" => o.verbose
  | _ => .null

theorem valueOf_put (o : Options) {name : String} (hname : name ∈ keys) (v : Value)
    (key : String) : (o.put name v).valueOf key = if key = name then v else o.valueOf key := by
  by_cases h : key = name
  · subst h
    rw [if_pos rfl]
    simp only [keys, List.mem_cons, List.not_mem_nil, or_false] at hname
    rcases hname with rfl | rfl | rfl | rfl | rfl | rfl | rfl | rfl | rfl | rfl <;> rfl
  · rw [if_neg h]
    simp only [keys, List.mem_cons, List.not_mem_nil, or_false] at hname
    rcases hname with rfl | rfl | rfl | rfl | rfl | rfl | rfl | rfl | rfl | rfl <;>
      (unfold valueOf; split <;> first | rfl | exact absurd rfl h)

theorem valueOf_foldl_put {fields : Fields} (hnodup : fields.names.Nodup)
    (hknown : ∀ name ∈ fields.names, name ∈ keys) (o : Options) (key : String) :
    (fields.foldl (fun o f => o.put f.1 f.2) o).valueOf key =
      (fields.get? key).getD (o.valueOf key) := by
  induction fields generalizing o with
  | nil => rfl
  | cons f rest ih =>
    obtain ⟨name, v⟩ := f
    obtain ⟨hfresh, hnodup⟩ := List.nodup_cons.1 hnodup
    obtain ⟨hname, hknown⟩ := List.forall_mem_cons.1 hknown
    rw [List.foldl_cons, ih hnodup hknown, valueOf_put o hname]
    by_cases h : key = name
    · subst h
      have hnone : Fields.get? rest key = none :=
        Option.eq_none_iff_forall_ne_some.2 fun v hv => hfresh (Fields.mem_names_iff.2 ⟨v, hv⟩)
      simp [Fields.get?, hnone]
    · have h' : name ≠ key := fun he => h he.symm
      simp [Fields.get?, h, h']

/-- Fields that all name options give options with their values. -/
theorem exists_ofFields {fields : Fields} (hnodup : fields.names.Nodup)
    (hknown : ∀ name ∈ fields.names, name ∈ keys) :
    ∃ o, ofFields fields = .ok o ∧
      ∀ key, o.valueOf key = (fields.get? key).getD (default.valueOf key) := by
  have hnone : fields.find? (fun f => !keys.contains f.1) = none := by
    refine List.find?_eq_none.2 fun f hf => ?_
    simpa using hknown f.1 (List.mem_map_of_mem hf)
  unfold ofFields
  rw [hnone]
  exact ⟨_, rfl, valueOf_foldl_put hnodup hknown default⟩

/-! ### Values that are changed one after the other -/

section

variable {f : String → Value → Except Fault Value} {data out : Fields} {names : List String}

/-- Why the value of an option cannot be changed, if it is given and cannot. -/
def faultAt (f : String → Value → Except Fault Value) (data : Fields) (key : String) :
    Option Fault :=
  (data.get? key).bind fun v =>
    match f key v with
    | .error e => some e
    | .ok _ => none

theorem faultAt_eq_some_iff {key : String} {e : Fault} :
    faultAt f data key = some e ↔ ∃ v, data.get? key = some v ∧ f key v = .error e := by
  unfold faultAt
  cases data.get? key with
  | none => simp
  | some v => cases h : f key v <;> simp [h]

theorem faultAt_eq_none_iff {key : String} :
    faultAt f data key = none ↔ ∀ v, data.get? key = some v → ∃ w, f key v = .ok w := by
  unfold faultAt
  cases data.get? key with
  | none => simp
  | some v => cases h : f key v <;> simp [h]

/-- The values of some options have been changed, and nothing else. -/
structure Adjusted (f : String → Value → Except Fault Value) (names : List String)
    (data out : Fields) : Prop where
  /-- The same options are given. -/
  names_eq : out.names = data.names
  /-- Other values stay. -/
  kept : ∀ key, key ∉ names → out.get? key = data.get? key
  /-- A value that is given is changed. -/
  adjusted : ∀ key ∈ names, ∀ v, data.get? key = some v →
    ∃ w, f key v = .ok w ∧ out.get? key = some w

/-- A value that is there now was given. -/
theorem Adjusted.exists_of_get? (h : Adjusted f names data out) {key : String} {w : Value}
    (hw : out.get? key = some w) : ∃ v, data.get? key = some v :=
  Fields.mem_names_iff.1 (h.names_eq ▸ Fields.mem_names_iff.2 ⟨w, hw⟩)

theorem Adjusted.nil (data : Fields) : Adjusted f [] data data :=
  ⟨rfl, fun _ _ => rfl, fun _ h => absurd h List.not_mem_nil⟩

/-- Whether another value can be changed does not depend on what was changed before. -/
theorem Adjusted.faultAt (h : Adjusted f names data out) {key : String} (hkey : key ∉ names) :
    faultAt f out key = faultAt f data key := by
  unfold Options.faultAt
  rw [h.kept key hkey]

theorem Adjusted.cons {key : String} {next : Fields} (hfirst : Adjusted f [key] data next)
    (hrest : Adjusted f names next out) (hfresh : key ∉ names) :
    Adjusted f (key :: names) data out where
  names_eq := hrest.names_eq.trans hfirst.names_eq
  kept other hother := by
    obtain ⟨hne, hother⟩ := not_or.1 (mt List.mem_cons.2 hother)
    exact (hrest.kept other hother).trans
      (hfirst.kept other (mt List.mem_singleton.1 hne))
  adjusted other hother v hv := by
    rcases List.mem_cons.1 hother with rfl | hmem
    · obtain ⟨w, hw, hnext⟩ := hfirst.adjusted other (List.mem_singleton_self other) v hv
      exact ⟨w, hw, (hrest.kept other hfresh).trans hnext⟩
    · have hne : other ∉ [key] := mt List.mem_singleton.1 (ne_of_mem_of_not_mem hmem hfresh)
      exact hrest.adjusted other hmem v ((hfirst.kept other hne).trans hv)

theorem adjust_of_fault {key : String} {e : Fault} (h : faultAt f data key = some e) :
    adjust f data key = .error e := by
  obtain ⟨v, hv, he⟩ := faultAt_eq_some_iff.1 h
  unfold adjust
  rw [hv]
  dsimp only
  rw [he]
  rfl

theorem exists_adjust {key : String} (h : faultAt f data key = none) :
    ∃ out, adjust f data key = .ok out ∧ Adjusted f [key] data out := by
  unfold adjust
  cases hv : data.get? key with
  | none =>
    refine ⟨data, rfl, rfl, fun _ _ => rfl, fun other hother v hother' => ?_⟩
    rw [List.mem_singleton.1 hother, hv] at hother'
    cases hother'
  | some v =>
    obtain ⟨w, hw⟩ := faultAt_eq_none_iff.1 h v hv
    refine ⟨data.put key w, by dsimp only; rw [hw]; rfl, Fields.names_put_of_get? hv w, ?_, ?_⟩
    · intro other hother
      exact data.get?_put_of_ne (mt List.mem_singleton.2 hother) w
    · intro other hother v' hv'
      obtain rfl := List.mem_singleton.1 hother
      rw [hv] at hv'
      cases hv'
      exact ⟨w, hw, data.get?_put_self other w⟩

theorem adjustAll_cons (key : String) (names : List String) (data : Fields) :
    adjustAll f (key :: names) data = adjust f data key >>= adjustAll f names := by
  unfold adjustAll
  rw [List.foldlM_cons]

/-- Where every value can be changed, all of them are. -/
theorem exists_adjustAll (hnodup : names.Nodup) (h : ∀ key ∈ names, faultAt f data key = none) :
    ∃ out, adjustAll f names data = .ok out ∧ Adjusted f names data out := by
  induction names generalizing data with
  | nil => exact ⟨data, rfl, .nil data⟩
  | cons key names ih =>
    obtain ⟨hfresh, hnodup⟩ := List.nodup_cons.1 hnodup
    obtain ⟨hkey, hrest⟩ := List.forall_mem_cons.1 h
    obtain ⟨next, hnext, hfirst⟩ := exists_adjust hkey
    have hkept : ∀ other ∈ names, faultAt f next other = none := by
      intro other hother
      rw [hfirst.faultAt (mt List.mem_singleton.1 (ne_of_mem_of_not_mem hother hfresh))]
      exact hrest other hother
    obtain ⟨out, hout, hbehind⟩ := ih hnodup hkept
    exact ⟨out, by rw [adjustAll_cons, hnext]; exact hout, hfirst.cons hbehind hfresh⟩

/-- The first value that cannot be changed ends the changes. -/
theorem adjustAll_of_fault (hnodup : names.Nodup) {e : Fault}
    (h : names.findSome? (faultAt f data) = some e) : adjustAll f names data = .error e := by
  induction names generalizing data with
  | nil => cases h
  | cons key names ih =>
    obtain ⟨hfresh, hnodup⟩ := List.nodup_cons.1 hnodup
    rw [adjustAll_cons]
    rw [List.findSome?_cons] at h
    cases hkey : faultAt f data key with
    | some e' =>
      rw [hkey] at h
      cases h
      rw [adjust_of_fault hkey]
      rfl
    | none =>
      rw [hkey] at h
      obtain ⟨next, hnext, hfirst⟩ := exists_adjust hkey
      have hsame : names.findSome? (faultAt f next) = names.findSome? (faultAt f data) := by
        rw [← List.head?_filterMap, ← List.head?_filterMap]
        refine congrArg List.head? (List.filterMap_congr fun other hother => ?_)
        exact hfirst.faultAt (mt List.mem_singleton.1 (ne_of_mem_of_not_mem hother hfresh))
      rw [hnext]
      exact ih hnodup (hsame.trans h)

end

/-! ### Configurations -/

variable {data : Fields} {here : Path} {base : Option Path}

/-- A key that no option has is refused. -/
theorem ofConfig_of_unknown (here : Path) (base : Option Path) {name : String}
    (hname : name ∈ data.names) (hunknown : name ∉ keys) : ∃ names,
      ofConfig data here base = .error (.config (.unknownKeys names)) := by
  have hmem : name ∈ (data.names.filter (!keys.contains ·)).mergeSort (· ≤ ·) :=
    List.mem_mergeSort.2 (List.mem_filter.2 ⟨hname, by simpa using hunknown⟩)
  have hsome : (!((data.names.filter (!keys.contains ·)).mergeSort (· ≤ ·)).isEmpty) = true := by
    rw [Bool.not_eq_true', ← Bool.not_eq_true, List.isEmpty_iff]
    exact List.ne_nil_of_mem hmem
  unfold ofConfig
  dsimp only
  rw [if_pos hsome]
  exact ⟨_, rfl⟩

theorem ofConfig_of_known (hknown : ∀ name ∈ data.names, name ∈ keys) :
    ofConfig data here base = ofKnown data here base := by
  have hnone : data.names.filter (!keys.contains ·) = [] := by
    refine List.filter_eq_nil_iff.2 fun name hname => ?_
    simpa using hknown name hname
  unfold ofConfig
  rw [hnone, List.mergeSort_nil]
  rfl

end Options

end Bindery
