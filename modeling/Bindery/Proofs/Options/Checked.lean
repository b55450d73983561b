import Bindery.Options.Given
import Bindery.Proofs.Options.Adjusted
import Bindery.Proofs.Transform.Registry

/-!
# Checked configurations

A configuration gives options whose lists are lists of texts if all of its keys are options, every
list option that is given is a text or a list, and every path that is read at its directory can be
read. It is settled value by value what becomes of such a configuration. Any other one ends at the
first list that cannot be read or at a path, or nothing in place of a list stays in it.
-/

namespace Bindery

namespace Value

/-! ### Values of list options -/

/-- The texts that a value of a list option stands for. -/
def givenTexts? : Value → Option (List String)
  | text s => some [s]
  | list items => if areWritable items then some (items.map (·.shown)) else none
  | _ => none

/-- Whether a value is refused as the value of a list option. -/
def isNoList : Value → Bool
  | null | text _ | list _ => false
  | _ => true

/-- Whether a value is a list with an integer that is too long to be written. -/
def isOverlong : Value → Bool
  | list items => !areWritable items
  | _ => false

end Value

namespace Options

variable {data out : Fields} {here : Path} {base : Option Path}

theorem listValue_eq_error_iff {key : String} {v : Value} {e : Fault} :
    listValue key v = .error e ↔ v.isNoList = true ∧ e = .config (.notAList key) ∨
      v.isOverlong = true ∧ e = .tooManyDigits := by
  cases v with
  | list items =>
    cases h : Value.areWritable items <;>
      simp [listValue, Value.isNoList, Value.isOverlong, h, @eq_comm _ e]
  | _ => simp [listValue, Value.isNoList, Value.isOverlong, refuse, @eq_comm _ e]

theorem listValue_eq_ok_iff {key : String} {v w : Value} :
    listValue key v = .ok w ↔ v = .null ∧ w = .null ∨
      ∃ texts, v.givenTexts? = some texts ∧ w = Value.ofTexts texts := by
  cases v with
  | list items =>
    cases h : Value.areWritable items <;>
      simp [listValue, Value.givenTexts?, h, @eq_comm _ w]
  | _ => simp [listValue, Value.givenTexts?, refuse, @eq_comm _ w]

/-! ### Paths that are read at a directory -/

section

variable {dir : Path} {text : String} {texts : List String} {v w : Value} {e : Fault}

/-- A text can be read as a path at a directory. -/
def Readable (dir : Path) (text : String) : Prop :=
  (Path.ofText text).isAbsolute = false → (dir.join (.ofText text)).hasZero = false

instance : Decidable (Readable dir text) :=
  inferInstanceAs (Decidable (_ → _))

/-- The path that a text stands for at a directory. -/
def placed (here dir : Path) (text : String) : String :=
  if (Path.ofText text).isAbsolute then (Path.ofText text).text
  else (Path.resolve here (dir.join (.ofText text))).text

theorem resolveAt_of_readable (h : Readable dir text) :
    resolveAt here dir text = .ok (placed here dir text) := by
  unfold resolveAt placed
  cases habsolute : (Path.ofText text).isAbsolute with
  | true => simp [habsolute]
  | false => simp [habsolute, h habsolute]

theorem resolveAt_of_not_readable (here : Path) (h : ¬ Readable dir text) :
    ∃ f, resolveAt here dir text = .error (.file f) := by
  obtain ⟨habsolute, hzero⟩ := Classical.not_imp.1 h
  unfold resolveAt
  exact ⟨⟨.zeroCharacter, .ofText text⟩, by simp [habsolute, hzero]⟩

theorem pathList_texts (h : ∀ text ∈ texts, Readable dir text) :
    pathList here dir (.ofTexts texts) = .ok (.ofTexts (texts.map (placed here dir))) := by
  have hpaths : (texts.map Value.text).mapM (fun v => resolveAt here dir v.shown) =
      .ok (texts.map (placed here dir)) := by
    induction texts with
    | nil => rfl
    | cons text texts ih =>
      obtain ⟨hfirst, hrest⟩ := List.forall_mem_cons.1 h
      have hread : resolveAt here dir (Value.text text).shown = .ok (placed here dir text) :=
        resolveAt_of_readable hfirst
      rw [List.map_cons, List.mapM_cons, hread, ih hrest]
      rfl
  unfold pathList Value.ofTexts
  show ((texts.map Value.text).mapM (fun v => resolveAt here dir v.shown) >>= _) = _
  rw [hpaths]
  rfl

theorem readable_of_pathList (h : pathList here dir (.ofTexts texts) = .ok w) :
    ∀ text ∈ texts, Readable dir text := by
  unfold pathList Value.ofTexts at h
  obtain ⟨items, hitems, h⟩ := bind_eq_ok_iff.1 h
  cases hitems
  obtain ⟨paths, hpaths, -⟩ := bind_eq_ok_iff.1 h
  intro text htext
  obtain ⟨path, hpath⟩ := exists_of_mapM_ok hpaths (List.mem_map_of_mem htext)
  by_contra hunread
  obtain ⟨f, hf⟩ := resolveAt_of_not_readable here hunread
  rw [show resolveAt here dir (Value.text text).shown = _ from hf] at hpath
  cases hpath

/-- A list of paths that cannot be read is not refused as a configuration. -/
theorem ne_config_of_pathList (h : pathList here dir v = .error e) (f : ConfigFault) :
    e ≠ .config f := by
  rintro rfl
  unfold pathList itemsOf at h
  cases hitems : v.items? with
  | none => rw [hitems] at h; cases h
  | some items =>
    rw [hitems] at h
    replace h : (items.mapM fun v => resolveAt here dir v.shown) >>= _ = _ := h
    cases hpaths : items.mapM fun v => resolveAt here dir v.shown with
    | ok paths => rw [hpaths] at h; cases h
    | error e =>
      rw [hpaths] at h
      cases h
      obtain ⟨item, -, hitem⟩ := exists_of_mapM_error hpaths
      by_cases hread : Readable dir item.shown
      · rw [resolveAt_of_readable hread] at hitem
        cases hitem
      · obtain ⟨f, hf⟩ := resolveAt_of_not_readable here hread
        rw [hf] at hitem
        cases hitem

/-- A value can stand for a path: it can be told, and read if it looks like a path. -/
def Placeable (dir : Path) (v : Value) : Prop :=
  v.truthy = true → v.isWritable = true ∧ (looksLikePath v.shown = true → Readable dir v.shown)

instance : Decidable (Placeable dir v) :=
  inferInstanceAs (Decidable (_ → _ ∧ (_ → _)))

theorem pathValue_of_placeable (h : Placeable dir v) : pathValue here dir v =
    .ok (if v.truthy = true ∧ looksLikePath v.shown = true then .text (placed here dir v.shown)
      else v) := by
  unfold pathValue
  cases htruthy : v.truthy with
  | false => simp
  | true =>
    obtain ⟨hwritable, hread⟩ := h htruthy
    cases hlooks : looksLikePath v.shown with
    | false => simp [hwritable]
    | true => simp [hwritable, resolveAt_of_readable (hread hlooks), Except.map]

theorem pathValue_of_not_placeable (here : Path) (h : ¬ Placeable dir v) :
    pathValue here dir v = .error .tooManyDigits ∨
      ∃ f, pathValue here dir v = .error (.file f) := by
  obtain ⟨htruthy, h⟩ := Classical.not_imp.1 h
  unfold pathValue
  cases hwritable : v.isWritable with
  | false => simp [htruthy]
  | true =>
    obtain ⟨hlooks, hread⟩ := Classical.not_imp.1 fun hread => h ⟨hwritable, hread⟩
    obtain ⟨f, hf⟩ := resolveAt_of_not_readable here hread
    exact .inr ⟨f, by simp [htruthy, hlooks, hf, Except.map]⟩

theorem placeable_of_pathValue (h : pathValue here dir v = .ok w) : Placeable dir v := by
  by_contra hnot
  rcases pathValue_of_not_placeable here hnot with he | ⟨f, he⟩ <;>
    · rw [he] at h
      cases h

theorem ne_config_of_pathValue (h : pathValue here dir v = .error e) (f : ConfigFault) :
    e ≠ .config f := by
  rintro rfl
  by_cases hplace : Placeable dir v
  · rw [pathValue_of_placeable hplace] at h
    cases h
  · rcases pathValue_of_not_placeable here hplace with he | ⟨f, he⟩ <;>
      · rw [he] at h
        cases h

end

/-! ### Configurations that are read -/

/-- A configuration gives options: all of its keys are options, its lists are given as texts or as
lists, and what is read at its directory can be read. -/
structure Usable (data : Fields) (base : Option Path) : Prop where
  /-- All keys are options. -/
  known : ∀ name ∈ data.names, name ∈ keys
  /-- Lists are given as texts or as lists. -/
  lists : ∀ key ∈ listKeys, ∀ v, data.get? key = some v → ∃ texts, v.givenTexts? = some texts
  /-- Paths of lists can be read. -/
  paths : ∀ dir, base = some dir → ∀ key ∈ pathListKeys, ∀ v texts, data.get? key = some v →
    v.givenTexts? = some texts → ∀ text ∈ texts, Readable dir text
  /-- Other paths can be read. -/
  single : ∀ dir, base = some dir → ∀ key ∈ pathKeys, ∀ v, data.get? key = some v →
    Placeable dir v

theorem usable_iff : Usable data base ↔ (∀ name ∈ data.names, name ∈ keys) ∧
    (∀ key ∈ listKeys, ∀ v ∈ data.get? key, v.givenTexts?.isSome = true) ∧
      (∀ dir ∈ base, ∀ key ∈ pathListKeys, ∀ v ∈ data.get? key, ∀ texts ∈ v.givenTexts?,
        ∀ text ∈ texts, Readable dir text) ∧
      ∀ dir ∈ base, ∀ key ∈ pathKeys, ∀ v ∈ data.get? key, Placeable dir v :=
  ⟨fun h => ⟨h.known, fun key hkey v hv => Option.isSome_iff_exists.2 (h.lists key hkey v hv),
      fun dir hdir key hkey v hv texts htexts => h.paths dir hdir key hkey v texts hv htexts,
      h.single⟩,
    fun ⟨hknown, hlists, hpaths, hsingle⟩ => ⟨hknown,
      fun key hkey v hv => Option.isSome_iff_exists.1 (hlists key hkey v hv),
      fun dir hdir key hkey v texts hv htexts => hpaths dir hdir key hkey v hv texts htexts,
      hsingle⟩⟩

instance : Decidable (Usable data base) :=
  decidable_of_iff _ usable_iff.symm

/-- What becomes of the texts of a list option. -/
def settledTexts (here : Path) (base : Option Path) (key : String) (texts : List String) :
    List String :=
  match base with
  | some dir => if key ∈ pathListKeys then texts.map (placed here dir) else texts
  | none => texts

/-- What becomes of a value that can be a path. -/
def settledValue (here : Path) (base : Option Path) (v : Value) : Value :=
  match base with
  | some dir =>
    if v.truthy = true ∧ looksLikePath v.shown = true then .text (placed here dir v.shown) else v
  | none => v

/-- What becomes of the values of a configuration. -/
structure Settled (here : Path) (base : Option Path) (data out : Fields) : Prop where
  /-- The same options are given. -/
  names_eq : out.names = data.names
  /-- Lists are lists of texts. -/
  lists : ∀ key ∈ listKeys, ∀ v texts, data.get? key = some v → v.givenTexts? = some texts →
    out.get? key = some (.ofTexts (settledTexts here base key texts))
  /-- What can be a path is read if it looks like one. -/
  single : ∀ key ∈ pathKeys, ∀ v, data.get? key = some v →
    out.get? key = some (settledValue here base v)
  /-- Other values stay. -/
  rest : ∀ key, key ∉ listKeys → key ∉ pathKeys → out.get? key = data.get? key

theorem Usable.faultAt_listValue (h : Usable data base) :
    ∀ key ∈ listKeys, faultAt listValue data key = none := by
  intro key hkey
  refine faultAt_eq_none_iff.2 fun v hv => ?_
  obtain ⟨texts, htexts⟩ := h.lists key hkey v hv
  exact ⟨.ofTexts texts, listValue_eq_ok_iff.2 (.inr ⟨texts, htexts, rfl⟩)⟩

/-- Lists that are given as texts or as lists are lists of texts, once they are read. -/
theorem Adjusted.lists {next : Fields} (h : Adjusted listValue listKeys data next) {key : String}
    (hkey : key ∈ listKeys) {v : Value} (hv : data.get? key = some v) {texts : List String}
    (htexts : v.givenTexts? = some texts) : next.get? key = some (.ofTexts texts) := by
  obtain ⟨w, hw, hnext⟩ := h.adjusted key hkey v hv
  rcases listValue_eq_ok_iff.1 hw with ⟨rfl, -⟩ | ⟨texts', htexts', rfl⟩
  · cases htexts
  · rw [htexts] at htexts'
    cases htexts'
    exact hnext

/-- Options are named once among those that are changed. -/
theorem nodup_keys : listKeys.Nodup ∧ pathListKeys.Nodup ∧ pathKeys.Nodup := by
  decide

/-- A configuration that can be read is read. -/
theorem exists_ofKnown (here : Path) (h : Usable data base) :
    ∃ out, ofKnown data here base = ofFields out ∧ Settled here base data out := by
  have hpathLists : ∀ key ∈ pathListKeys, key ∈ listKeys ∧ key ∉ pathKeys := by decide
  have hpaths : ∀ key ∈ pathKeys, key ∉ listKeys ∧ key ∉ pathListKeys := by decide
  obtain ⟨first, hfirst, hlists⟩ := exists_adjustAll nodup_keys.1 h.faultAt_listValue
  have hkept : ∀ key ∈ pathKeys, first.get? key = data.get? key := fun key hkey =>
    hlists.kept key (hpaths key hkey).1
  unfold ofKnown
  rw [hfirst]
  cases base with
  | none =>
    exact ⟨first, rfl, hlists.names_eq, fun key hkey v texts hv htexts =>
      hlists.lists hkey hv htexts, fun key hkey v hv => (hkept key hkey).trans hv,
      fun key hkey _ => hlists.kept key hkey⟩
  | some dir =>
    have hread : ∀ key ∈ pathListKeys, ∀ v texts, data.get? key = some v →
        v.givenTexts? = some texts → pathList here dir (.ofTexts texts) =
          .ok (.ofTexts (texts.map (placed here dir))) := fun key hkey v texts hv htexts =>
      pathList_texts (h.paths dir rfl key hkey v texts hv htexts)
    have hlistPaths : ∀ key ∈ pathListKeys,
        faultAt (fun _ => pathList here dir) first key = none := by
      intro key hkey
      refine faultAt_eq_none_iff.2 fun w hw => ?_
      obtain ⟨v, hv⟩ := hlists.exists_of_get? hw
      have hlist := (hpathLists key hkey).1
      obtain ⟨texts, htexts⟩ := h.lists key hlist v hv
      rw [hlists.lists hlist hv htexts] at hw
      cases hw
      exact ⟨_, hread key hkey v texts hv htexts⟩
    obtain ⟨second, hsecond, hplaced⟩ := exists_adjustAll nodup_keys.2.1 hlistPaths
    have hkept' : ∀ key ∈ pathKeys, second.get? key = data.get? key := fun key hkey =>
      (hplaced.kept key (hpaths key hkey).2).trans (hkept key hkey)
    have hpathValues : ∀ key ∈ pathKeys,
        faultAt (fun _ => pathValue here dir) second key = none := by
      intro key hkey
      refine faultAt_eq_none_iff.2 fun v hv => ?_
      rw [hkept' key hkey] at hv
      exact ⟨_, pathValue_of_placeable (h.single dir rfl key hkey v hv)⟩
    obtain ⟨third, hthird, hsingle⟩ := exists_adjustAll nodup_keys.2.2 hpathValues
    refine ⟨third, ?_, ?_, ?_, ?_, ?_⟩
    · show adjustAll _ pathListKeys first >>= _ = _
      rw [hsecond]
      show adjustAll _ pathKeys second >>= _ = _
      rw [hthird]
      rfl
    · exact hsingle.names_eq.trans (hplaced.names_eq.trans hlists.names_eq)
    · intro key hkey v texts hv htexts
      have hapart : key ∉ pathKeys := fun hp => (hpaths key hp).1 hkey
      have hfirstKey := hlists.lists hkey hv htexts
      rw [hsingle.kept key hapart]
      by_cases hp : key ∈ pathListKeys
      · obtain ⟨w, hw, hsecondKey⟩ := hplaced.adjusted key hp _ hfirstKey
        rw [hread key hp v texts hv htexts] at hw
        cases hw
        simp only [settledTexts, if_pos hp, hsecondKey]
      · simp only [settledTexts, if_neg hp, hplaced.kept key hp, hfirstKey]
    · intro key hkey v hv
      obtain ⟨w, hw, hthirdKey⟩ := hsingle.adjusted key hkey v ((hkept' key hkey).trans hv)
      rw [pathValue_of_placeable (h.single dir rfl key hkey v hv)] at hw
      cases hw
      exact hthirdKey
    · intro key hlist hpath
      have hp : key ∉ pathListKeys := fun hp => hlist (hpathLists key hp).1
      exact ((hsingle.kept key hpath).trans (hplaced.kept key hp)).trans (hlists.kept key hlist)

/-- A configuration that can be read gives options. -/
theorem exists_ofConfig (here : Path) (hnodup : data.names.Nodup) (h : Usable data base) :
    ∃ o out, ofConfig data here base = .ok o ∧ Settled here base data out ∧
      ∀ key, o.valueOf key = (out.get? key).getD (default.valueOf key) := by
  obtain ⟨out, hout, hsettled⟩ := exists_ofKnown here h
  obtain ⟨o, ho, hvalues⟩ := exists_ofFields (hsettled.names_eq ▸ hnodup)
    fun name hname => h.known name (hsettled.names_eq ▸ hname)
  exact ⟨o, out, by rw [ofConfig_of_known h.known, hout, ho], hsettled, hvalues⟩

/-! ### What a configuration comes to -/

/-- A configuration came through all changes of its values. -/
inductive Passed (here : Path) : Option Path → Fields → Fields → Prop where
  /-- Without a directory. -/
  | plain {data out : Fields} : Adjusted listValue listKeys data out → Passed here none data out
  /-- With a directory at which its paths are read. -/
  | placed {data first second out : Fields} {dir : Path} :
    Adjusted listValue listKeys data first →
    Adjusted (fun _ => pathList here dir) pathListKeys first second →
    Adjusted (fun _ => pathValue here dir) pathKeys second out → Passed here (some dir) data out

theorem Passed.names_eq (h : Passed here base data out) : out.names = data.names := by
  cases h with
  | plain hlists => exact hlists.names_eq
  | placed hlists hplaced hsingle =>
    exact hsingle.names_eq.trans (hplaced.names_eq.trans hlists.names_eq)

/-- Changes of values come to their end, or the first one that fails ends them. -/
theorem adjustAll_cases {f : String → Value → Except Fault Value} {names : List String}
    (hnodup : names.Nodup) (data : Fields) :
    (∃ key ∈ names, ∃ v e, data.get? key = some v ∧ f key v = .error e ∧
        names.findSome? (faultAt f data) = some e ∧ adjustAll f names data = .error e) ∨
      names.findSome? (faultAt f data) = none ∧
        ∃ out, adjustAll f names data = .ok out ∧ Adjusted f names data out := by
  cases h : names.findSome? (faultAt f data) with
  | some e =>
    obtain ⟨key, hkey, he⟩ := List.exists_of_findSome?_eq_some h
    obtain ⟨v, hv, hfault⟩ := faultAt_eq_some_iff.1 he
    exact .inl ⟨key, hkey, v, e, hv, hfault, rfl, adjustAll_of_fault hnodup h⟩
  | none => exact .inr ⟨rfl, exists_adjustAll hnodup (List.findSome?_eq_none_iff.1 h)⟩

/-- A configuration in which all keys are options ends at the first list that cannot be read, or at
a path that cannot, which is no refusal, or else it comes through all changes. -/
theorem ofKnown_cases (hnodup : data.names.Nodup) (hknown : ∀ name ∈ data.names, name ∈ keys)
    (here : Path) (base : Option Path) :
    (∃ e, listKeys.findSome? (faultAt listValue data) = some e ∧
        ofKnown data here base = .error e) ∨
      listKeys.findSome? (faultAt listValue data) = none ∧
        ((∃ e, (∀ f, e ≠ .config f) ∧ ofKnown data here base = .error e) ∨
          ∃ o out, ofKnown data here base = .ok o ∧ Passed here base data out ∧
            ∀ key, o.valueOf key = (out.get? key).getD (default.valueOf key)) := by
  have hoptions {out : Fields} (hpassed : Passed here base data out) :
      ∃ o, ofFields out = .ok o ∧ ∀ key, o.valueOf key =
        (out.get? key).getD (default.valueOf key) :=
    exists_ofFields (hpassed.names_eq ▸ hnodup) fun name hname =>
      hknown name (hpassed.names_eq ▸ hname)
  unfold ofKnown
  rcases adjustAll_cases (f := listValue) nodup_keys.1 data with
    ⟨-, -, -, e, -, -, hfind, he⟩ | ⟨hfind, first, hfirst, hlists⟩
  · exact .inl ⟨e, hfind, by rw [he]; rfl⟩
  refine .inr ⟨hfind, ?_⟩
  rw [hfirst]
  cases base with
  | none =>
    obtain ⟨o, ho, hvalues⟩ := hoptions (.plain hlists)
    exact .inr ⟨o, first, ho, .plain hlists, hvalues⟩
  | some dir =>
    rcases adjustAll_cases (f := fun _ => pathList here dir) nodup_keys.2.1 first with
      ⟨-, -, v, e, -, hfault, -, he⟩ | ⟨-, second, hsecond, hplaced⟩
    · refine .inl ⟨e, ne_config_of_pathList hfault, ?_⟩
      show adjustAll _ pathListKeys first >>= _ = _
      rw [he]
      rfl
    rcases adjustAll_cases (f := fun _ => pathValue here dir) nodup_keys.2.2 second with
      ⟨-, -, v, e, -, hfault, -, he⟩ | ⟨-, third, hthird, hsingle⟩
    · refine .inl ⟨e, ne_config_of_pathValue hfault, ?_⟩
      show adjustAll _ pathListKeys first >>= _ = _
      rw [hsecond]
      show adjustAll _ pathKeys second >>= _ = _
      rw [he]
      rfl
    · obtain ⟨o, ho, hvalues⟩ := hoptions (.placed hlists hplaced hsingle)
      refine .inr ⟨o, third, ?_, .placed hlists hplaced hsingle, hvalues⟩
      show adjustAll _ pathListKeys first >>= _ = _
      rw [hsecond]
      show adjustAll _ pathKeys second >>= _ = _
      rw [hthird]
      exact ho

end Options

end Bindery
