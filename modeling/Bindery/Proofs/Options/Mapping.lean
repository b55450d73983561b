import Bindery.Proofs.Options.Checked
import Bindery.Proofs.Sorting

/-!
# Options from mappings

A mapping is refused as a configuration, or it gives options whose lists are lists of texts, which
can be told and overridden then. Which of both becomes of it is settled by its fields. What becomes
neither is not checked: a key that is no text, nothing in place of a list, an integer that is too
long to be written, and a path that cannot be read.
-/

namespace Bindery

namespace Options

variable {data out : Fields} {here : Path} {base : Option Path}

/-! ### Options whose lists are lists of texts -/

/-- The lists among options are lists of texts. -/
def HoldTexts (o : Options) : Prop :=
  ∀ key ∈ listKeys, ∃ texts, o.valueOf key = .ofTexts texts

/-- A configuration that is read gives lists of texts. -/
theorem Settled.holdTexts (h : Settled here base data out) (husable : Usable data base)
    {o : Options} (hvalues : ∀ key, o.valueOf key = (out.get? key).getD (default.valueOf key)) :
    o.HoldTexts := by
  intro key hkey
  rw [hvalues]
  cases hv : data.get? key with
  | some v =>
    obtain ⟨texts, htexts⟩ := husable.lists key hkey v hv
    exact ⟨_, by rw [h.lists key hkey v texts hv htexts]; rfl⟩
  | none =>
    have hnone : out.get? key = none := by
      refine Option.eq_none_iff_forall_ne_some.2 fun w hw => ?_
      obtain ⟨v, hv'⟩ := Fields.mem_names_iff.1 (h.names_eq ▸ Fields.mem_names_iff.2 ⟨w, hw⟩)
      rw [hv] at hv'
      cases hv'
    refine ⟨[], ?_⟩
    rw [hnone, Option.getD_none]
    simp only [listKeys, List.mem_cons, List.not_mem_nil, or_false] at hkey
    rcases hkey with rfl | rfl | rfl <;> rfl

/-- Lists of texts come of a configuration that can be read: nothing in place of a list stays what
it is without a directory, and at one it is no list of paths. -/
theorem Passed.usable (h : Passed here base data out) (hknown : ∀ name ∈ data.names, name ∈ keys)
    (hnull : ∀ key ∈ listKeys, out.get? key ≠ some .null) : Usable data base := by
  have hgiven {first : Fields} (hlists : Adjusted listValue listKeys data first)
      (hfirst : ∀ key ∈ listKeys, first.get? key ≠ some .null) : ∀ key ∈ listKeys, ∀ v,
        data.get? key = some v → ∃ texts, v.givenTexts? = some texts := by
    intro key hkey v hv
    obtain ⟨w, hw, hfirstKey⟩ := hlists.adjusted key hkey v hv
    rcases listValue_eq_ok_iff.1 hw with ⟨-, rfl⟩ | ⟨texts, htexts, -⟩
    · exact absurd hfirstKey (hfirst key hkey)
    · exact ⟨texts, htexts⟩
  cases h with
  | plain hlists =>
    refine ⟨hknown, hgiven hlists hnull, ?_, ?_⟩ <;>
      · rintro _ ⟨⟩
  | @placed _ first second _ dir hlists hplaced hsingle =>
    have hapart : ∀ key ∈ listKeys, key ∉ pathKeys := by decide
    have hpathLists : ∀ key ∈ pathListKeys, key ∈ listKeys := by decide
    have hpathKeys : ∀ key ∈ pathKeys, key ∉ listKeys ∧ key ∉ pathListKeys := by decide
    refine ⟨hknown, hgiven hlists fun key hkey hfirst => ?_, ?_, ?_⟩
    · by_cases hp : key ∈ pathListKeys
      · obtain ⟨w, hw, -⟩ := hplaced.adjusted key hp _ hfirst
        cases hw
      · refine hnull key hkey ?_
        rw [hsingle.kept key (hapart key hkey), hplaced.kept key hp, hfirst]
    · rintro _ ⟨⟩ key hkey v texts hv htexts
      obtain ⟨w, hw, -⟩ := hplaced.adjusted key hkey _
        (hlists.lists (hpathLists key hkey) hv htexts)
      exact readable_of_pathList hw
    · rintro _ ⟨⟩ key hkey v hv
      obtain ⟨hlist, hp⟩ := hpathKeys key hkey
      obtain ⟨w, hw, -⟩ := hsingle.adjusted key hkey v
        (by rw [hplaced.kept key hp, hlists.kept key hlist, hv])
      exact placeable_of_pathValue hw

/-- Lists are lists of texts exactly if the configuration can be read. -/
theorem ofConfig_holdTexts_iff (hnodup : data.names.Nodup) :
    (∃ o, ofConfig data here base = .ok o ∧ o.HoldTexts) ↔ Usable data base := by
  constructor
  · rintro ⟨o, ho, htexts⟩
    have hknown : ∀ name ∈ data.names, name ∈ keys := by
      intro name hname
      by_contra hunknown
      obtain ⟨names, he⟩ := ofConfig_of_unknown here base hname hunknown
      rw [he] at ho
      cases ho
    rw [ofConfig_of_known hknown] at ho
    rcases ofKnown_cases hnodup hknown here base with
      ⟨e, -, he⟩ | ⟨-, ⟨e, -, he⟩ | ⟨o', out, ho', hpassed, hvalues⟩⟩
    · rw [he] at ho
      cases ho
    · rw [he] at ho
      cases ho
    · rw [ho'] at ho
      cases ho
      refine hpassed.usable hknown fun key hkey hnull => ?_
      obtain ⟨texts, hlist⟩ := htexts key hkey
      rw [hvalues, hnull] at hlist
      cases hlist
  · intro h
    obtain ⟨o, out, ho, hsettled, hvalues⟩ := exists_ofConfig here hnodup h
    exact ⟨o, ho, hsettled.holdTexts h hvalues⟩

/-! ### Configurations that are refused -/

/-- A configuration is refused: for a key that no option has, or for a list option whose value is no
list, behind list options that can be read. -/
inductive Refused (data : Fields) : Prop where
  /-- A key is no option. -/
  | unknown {name : String} : name ∈ data.names → name ∉ keys → Refused data
  /-- The first list that cannot be read is none. -/
  | noList {before after : List String} {key : String} {v : Value} :
    listKeys = before ++ key :: after → data.get? key = some v → v.isNoList = true →
    (∀ other ∈ before, ∀ w, data.get? other = some w →
      w.isNoList = false ∧ w.isOverlong = false) → Refused data

theorem faultAt_listValue_eq_none_iff {key : String} : faultAt listValue data key = none ↔
    ∀ w, data.get? key = some w → w.isNoList = false ∧ w.isOverlong = false := by
  rw [faultAt_eq_none_iff]
  refine forall₂_congr fun w _ => ?_
  constructor
  · rintro ⟨v, hv⟩
    constructor <;>
      · refine Bool.eq_false_iff.2 fun h => ?_
        first
        | rw [listValue_eq_error_iff.2 (.inl ⟨h, rfl⟩)] at hv
        | rw [listValue_eq_error_iff.2 (.inr ⟨h, rfl⟩)] at hv
        cases hv
  · rintro ⟨hlist, hlong⟩
    cases h : listValue key w with
    | ok v => exact ⟨v, rfl⟩
    | error e => rcases listValue_eq_error_iff.1 h with ⟨h, -⟩ | ⟨h, -⟩ <;> simp_all

/-- Among known keys only a value that is no list is refused, if no list before it is overlong. -/
theorem refused_iff (hknown : ∀ name ∈ data.names, name ∈ keys) : Refused data ↔
    ∃ f, listKeys.findSome? (faultAt listValue data) = some (.config f) := by
  constructor
  · intro h
    cases h with
    | unknown hname hunknown => exact absurd (hknown _ hname) hunknown
    | @noList before after key v hsplit hv hno hbefore =>
      refine ⟨.notAList key, List.findSome?_eq_some_iff.2 ⟨before, key, after, hsplit, ?_, ?_⟩⟩
      · exact faultAt_eq_some_iff.2 ⟨v, hv, listValue_eq_error_iff.2 (.inl ⟨hno, rfl⟩)⟩
      · exact fun other hother => faultAt_listValue_eq_none_iff.2 (hbefore other hother)
  · rintro ⟨f, hf⟩
    obtain ⟨before, key, after, hsplit, hkey, hbefore⟩ := List.findSome?_eq_some_iff.1 hf
    obtain ⟨v, hv, he⟩ := faultAt_eq_some_iff.1 hkey
    rcases listValue_eq_error_iff.1 he with ⟨hno, -⟩ | ⟨-, he⟩
    · exact .noList hsplit hv hno fun other hother =>
        faultAt_listValue_eq_none_iff.1 (hbefore other hother)
    · cases he

/-- A configuration is refused as one for a key that is unknown or a value that is no list, and for
nothing else. -/
theorem ofConfig_config_iff (hnodup : data.names.Nodup) :
    (∃ f, ofConfig data here base = .error (.config f)) ↔ Refused data := by
  by_cases hknown : ∀ name ∈ data.names, name ∈ keys
  · rw [ofConfig_of_known hknown, refused_iff hknown]
    rcases ofKnown_cases hnodup hknown here base with
      ⟨e, hfind, he⟩ | ⟨hfind, ⟨e, hother, he⟩ | ⟨o, -, ho, -⟩⟩
    · rw [he, hfind]
      simp
    · rw [he, hfind]
      simp [hother]
    · rw [ho, hfind]
      simp
  · obtain ⟨name, hname, hunknown⟩ : ∃ name ∈ data.names, name ∉ keys := by
      by_contra h
      exact hknown fun name hname => by_contra fun hunknown => h ⟨name, hname, hunknown⟩
    obtain ⟨names, he⟩ := ofConfig_of_unknown here base hname hunknown
    exact iff_of_true ⟨_, he⟩ (.unknown hname hunknown)

/-! ### Keys of any type -/

/-- Keys that are all texts are names of fields. -/
theorem eq_map_of_textFields? {data : List (Value × Value)} {fields : Fields}
    (h : textFields? data = some fields) : data = fields.map fun f => (.text f.1, f.2) := by
  unfold textFields? at h
  induction data generalizing fields with
  | nil => cases h; rfl
  | cons entry data ih =>
    obtain ⟨key, v⟩ := entry
    rw [List.mapM_cons] at h
    obtain ⟨f, hf, h⟩ := Option.bind_eq_some_iff.1 h
    obtain ⟨rest, hrest, h⟩ := Option.bind_eq_some_iff.1 h
    cases h
    cases key <;> cases hf
    rw [ih hrest, List.map_cons]

/-- A key that is no text is among the keys. -/
theorem exists_of_textFields? {data : List (Value × Value)} (h : textFields? data = none) :
    ∃ v ∈ data.map (·.1), v.text? = none := by
  unfold textFields? at h
  induction data with
  | nil => cases h
  | cons entry data ih =>
    rw [List.mapM_cons] at h
    cases htext : entry.1.text? with
    | none => exact ⟨entry.1, List.mem_cons_self .., htext⟩
    | some s =>
      obtain ⟨v, hv, hnone⟩ := ih (by
        cases hrest : data.mapM fun entry => entry.1.text?.map (·, entry.2) with
        | none => rfl
        | some rest => rw [htext, hrest] at h; cases h)
      exact ⟨v, List.mem_cons_of_mem _ hv, hnone⟩

/-- A value that is no text is the same as no text. -/
theorem text?_eq_none_of_same {v w : Value} (h : w.same v = true) (hv : v.text? = none) :
    w.text? = none := by
  cases w with
  | text s =>
    rw [Value.text_same_iff.1 h] at hv
    cases hv
  | _ => rfl

/-- A value that is no text is among those that no option is named by, or one that is the same. -/
theorem exists_mem_unknownAmong {values : List Value} (h : ∃ v ∈ values, v.text? = none) :
    ∃ v ∈ unknownAmong values, v.text? = none := by
  have hfold (rest acc : List Value) (h : ∃ v, (v ∈ acc ∨ v ∈ rest) ∧ v.text? = none) :
      ∃ v ∈ rest.foldl (fun vs v => if vs.any (·.same v) then vs else vs ++ [v]) acc,
        v.text? = none := by
    induction rest generalizing acc with
    | nil => simpa using h
    | cons u rest ih =>
      obtain ⟨v, hv, hnone⟩ := h
      rw [List.foldl_cons]
      apply ih
      split
      · next hany =>
        obtain ⟨w, hw, hsame⟩ := List.any_eq_true.1 hany
        rcases hv with hacc | hv
        · exact ⟨v, .inl hacc, hnone⟩
        rcases List.mem_cons.1 hv with rfl | hrest
        · exact ⟨w, .inl hw, text?_eq_none_of_same hsame hnone⟩
        · exact ⟨v, .inr hrest, hnone⟩
      · refine ⟨v, ?_, hnone⟩
        rw [List.mem_append, List.mem_singleton, or_assoc, ← List.mem_cons]
        exact hv
  obtain ⟨v, hv, hnone⟩ := h
  exact hfold _ [] ⟨v, .inr (List.mem_filter.2 ⟨hv, by simp [hnone]⟩), hnone⟩

/-- Keys that are not all texts cannot be told. -/
theorem refuseKeys_of_not_text {α : Type} {unknown : List Value}
    (h : ∃ v ∈ unknown, v.text? = none) :
    ∃ m, (refuseKeys unknown : Except Fault α) = .error (.misfit m) := by
  obtain ⟨m, hm⟩ := Value.exists_not_told h
  refine ⟨m, ?_⟩
  unfold refuseKeys
  cases hsorted : (Sorted.ofList Value.before unknown).outcome with
  | error e =>
    rw [hsorted] at hm
    cases hm
    rfl
  | ok sorted =>
    rw [hsorted] at hm
    have hparts : Value.parts sorted = .error m := hm
    simp only [Except.mapError, hparts, bind, Except.bind]

/-- Options from a mapping with a key that is no text. -/
theorem ofMapping_of_not_text {data : List (Value × Value)} (here : Path) (base : Option Path)
    (h : textFields? data = none) : ∃ m, ofMapping data here base = .error (.misfit m) := by
  unfold ofMapping
  rw [h]
  exact refuseKeys_of_not_text (exists_mem_unknownAmong (exists_of_textFields? h))

/-- Keys that are pairwise not the same are different names, where they are texts. -/
theorem nodup_names (h : (data.map fun f => (Value.text f.1, f.2)).Pairwise
    fun entry other => entry.1.same other.1 = false) : data.names.Nodup := by
  unfold Fields.names
  refine List.pairwise_map.2 ((List.pairwise_map.1 h).imp fun {f g} hfg heq => ?_)
  rw [heq, Value.same_text_iff.2 rfl] at hfg
  cases hfg

/-! ### What is done with options then -/

/-- Fields have the options in their order, and their lists are lists. -/
structure Walkable (fields : Fields) : Prop where
  /-- All options are there. -/
  names_eq : fields.names = keys
  /-- Their lists are lists. -/
  lists : ∀ key ∈ listKeys, ∃ items, fields.get? key = some (.list items)

/-- Options whose lists are lists can be told. -/
theorem exists_toFields {o : Options} (h : ∀ key ∈ listKeys, ∃ items, o.valueOf key = .list items) :
    ∃ fields, o.toFields = .ok fields ∧ Walkable fields := by
  obtain ⟨defines, hdefines⟩ := h "defines" (by decide)
  obtain ⟨dirs, hdirs⟩ := h "include_dirs" (by decide)
  obtain ⟨headers, hheaders⟩ := h "headers" (by decide)
  have hdefines : o.defines = .list defines := hdefines
  have hdirs : o.includeDirs = .list dirs := hdirs
  have hheaders : o.headers = .list headers := hheaders
  refine ⟨_, by unfold toFields; rw [hdefines, hdirs, hheaders]; rfl, rfl, fun key hkey => ?_⟩
  simp only [listKeys, List.mem_cons, List.not_mem_nil, or_false] at hkey
  rcases hkey with rfl | rfl | rfl <;> exact ⟨_, rfl⟩

/-- An option can be overridden with a value: with anything, unless it is a list that is to be
extended with what cannot be walked over. -/
def Fitting (key : String) (v : Value) : Prop :=
  key ∈ keys ∧ (key ∈ listKeys → v ≠ .null → v.items?.isSome = true)

theorem Walkable.put {fields : Fields} (h : Walkable fields) {key : String} (hkey : key ∈ keys)
    {v : Value} (hv : key ∈ listKeys → ∃ items, v = .list items) : Walkable (fields.put key v) where
  names_eq := by rw [Fields.names_put, if_pos (h.names_eq ▸ hkey), h.names_eq]
  lists other hother := by
    by_cases hsame : other = key
    · subst hsame
      obtain ⟨items, rfl⟩ := hv hother
      exact ⟨items, fields.get?_put_self other _⟩
    · rw [fields.get?_put_of_ne hsame]
      exact h.lists other hother

theorem exists_override {fields : Fields} (h : Walkable fields) {key : String} {v : Value}
    (hv : Fitting key v) : ∃ next, override fields key v = .ok next ∧ Walkable next := by
  obtain ⟨old, hold⟩ := Fields.mem_names_iff.1 (h.names_eq ▸ hv.1)
  unfold override
  rw [hold]
  by_cases hnull : v = .null
  · subst hnull
    exact ⟨fields, rfl, h⟩
  by_cases hlist : key ∈ listKeys
  · obtain ⟨items, hitems⟩ := h.lists key hlist
    rw [hold] at hitems
    cases hitems
    obtain ⟨more, hmore⟩ := Option.isSome_iff_exists.1 (hv.2 hlist hnull)
    have hcontains : listKeys.contains key = true := by simpa using hlist
    refine ⟨fields.put key (.list (items ++ more)), ?_, h.put hv.1 fun _ => ⟨_, rfl⟩⟩
    cases v with
    | null => exact absurd rfl hnull
    | _ =>
      dsimp only
      rw [if_pos hcontains]
      unfold itemsOf
      rw [hmore]
      rfl
  · have hcontains : ¬ listKeys.contains key = true := by simpa using hlist
    have hput (w : Value) : Walkable (fields.put key w) := h.put hv.1 fun hl => absurd hl hlist
    cases v with
    | null => exact absurd rfl hnull
    | _ =>
      dsimp only
      rw [if_neg hcontains]
      exact ⟨_, rfl, hput _⟩

/-- Options whose lists are lists can be overridden with all that fits, and told again. -/
theorem exists_merge {o : Options} (h : ∀ key ∈ listKeys, ∃ items, o.valueOf key = .list items)
    {overrides : Fields} (hfit : ∀ f ∈ overrides, Fitting f.1 f.2) :
    ∃ o', o.merge overrides = .ok o' ∧ ∃ fields, o'.toFields = .ok fields := by
  obtain ⟨fields, hfields, hwalkable⟩ := exists_toFields h
  obtain ⟨out, hout, hlast⟩ := exists_foldlM_keeping
    (fun f hf _ hnow => exists_override hnow (hfit f hf)) hwalkable
  have hnodup : out.names.Nodup := by
    rw [hlast.names_eq]
    decide
  obtain ⟨o', ho', hvalues⟩ := exists_ofFields hnodup fun _ hname => hlast.names_eq ▸ hname
  have hlists : ∀ key ∈ listKeys, ∃ items, o'.valueOf key = .list items := by
    intro key hkey
    obtain ⟨items, hitems⟩ := hlast.lists key hkey
    exact ⟨items, by rw [hvalues, hitems]; rfl⟩
  obtain ⟨told, htold, -⟩ := exists_toFields hlists
  refine ⟨o', ?_, told, htold⟩
  unfold merge
  rw [hfields]
  show (overrides.foldlM (fun data f => override data f.1 f.2) fields >>= _) = _
  rw [hout]
  exact ho'

/-! ### Mappings -/

theorem ofMapping_iff {data : List (Value × Value)} {P : Except Fault Options → Prop}
    {Q : Fields → Prop} (hmisfit : ∀ m, ¬ P (.error (.misfit m)))
    (hfields : ∀ fields : Fields, data = fields.map (fun f => (.text f.1, f.2)) →
      (P (ofConfig fields here base) ↔ Q fields)) :
    P (ofMapping data here base) ↔
      ∃ fields : Fields, data = fields.map (fun f => (.text f.1, f.2)) ∧ Q fields := by
  constructor
  · intro h
    cases htexts : textFields? data with
    | none =>
      obtain ⟨m, hm⟩ := ofMapping_of_not_text here base htexts
      exact absurd (hm ▸ h) (hmisfit m)
    | some fields =>
      have hdata := eq_map_of_textFields? htexts
      refine ⟨fields, hdata, (hfields fields hdata).1 ?_⟩
      rwa [hdata, ofMapping_texts] at h
  · rintro ⟨fields, hdata, h⟩
    rw [hdata, ofMapping_texts]
    exact (hfields fields hdata).2 h

/-- A mapping is refused as a configuration exactly if all of its keys are texts and one of them is
no option, or the first list that cannot be read is no list. It gives options whose lists are lists
of texts exactly if all of its keys are options and all that is read can be read. These options can
be told and overridden. -/
theorem ofMapping_checked_iff {data : List (Value × Value)}
    (hkeys : data.Pairwise fun entry other => entry.1.same other.1 = false)
    (here : Path) (base : Option Path) :
    ((∃ f, ofMapping data here base = .error (.config f)) ↔
        ∃ fields : Fields, data = fields.map (fun f => (.text f.1, f.2)) ∧ Refused fields) ∧
      ((∃ o, ofMapping data here base = .ok o ∧ o.HoldTexts) ↔
        ∃ fields : Fields, data = fields.map (fun f => (.text f.1, f.2)) ∧ Usable fields base) ∧
      ∀ o, ofMapping data here base = .ok o → o.HoldTexts →
        (∃ fields, o.toFields = .ok fields) ∧
          ∀ overrides : Fields, (∀ f ∈ overrides, Fitting f.1 f.2) →
            ∃ o', o.merge overrides = .ok o' ∧ ∃ fields, o'.toFields = .ok fields := by
  have hdone : ∀ o : Options, o.HoldTexts → (∃ fields, o.toFields = .ok fields) ∧
      ∀ overrides : Fields, (∀ f ∈ overrides, Fitting f.1 f.2) →
        ∃ o', o.merge overrides = .ok o' ∧ ∃ fields, o'.toFields = .ok fields := by
    intro o htexts
    have hlists : ∀ key ∈ listKeys, ∃ items, o.valueOf key = .list items := fun key hkey =>
      (htexts key hkey).elim fun texts h => ⟨_, h⟩
    obtain ⟨fields, hfields, -⟩ := exists_toFields hlists
    exact ⟨⟨fields, hfields⟩, fun overrides hfit => exists_merge hlists hfit⟩
  refine ⟨?_, ?_, fun o _ => hdone o⟩
  · refine ofMapping_iff (P := fun r => ∃ f, r = .error (.config f)) ?_ ?_
    · rintro m ⟨f, hf⟩
      cases hf
    · rintro fields rfl
      exact ofConfig_config_iff (nodup_names hkeys)
  · refine ofMapping_iff (P := fun r => ∃ o, r = .ok o ∧ o.HoldTexts) ?_ ?_
    · rintro m ⟨o, ho, -⟩
      cases ho
    · rintro fields rfl
      exact ofConfig_holdTexts_iff (nodup_names hkeys)

/-- A header that is told by a text is read, and one that is told by a number is refused. -/
theorem ofMapping_checked_iff_header :
    ([(.text "headers", .text "a.h")] : List (Value × Value)).Pairwise
        (fun entry other => entry.1.same other.1 = false) ∧
      (∃ o, ofMapping [(.text "headers", .text "a.h")] ⟨.absolute, []⟩
        (some ⟨.absolute, ["base"]⟩) = .ok o ∧ o.HoldTexts) ∧
      ∃ f, ofMapping [(.text "headers", .int 1)] ⟨.absolute, []⟩ none = .error (.config f) := by
  have hkeys (v : Value) : ([(.text "headers", v)] : List (Value × Value)).Pairwise
      (fun entry other => entry.1.same other.1 = false) := List.pairwise_singleton ..
  refine ⟨hkeys _,
    (ofMapping_checked_iff (hkeys _) _ _).2.1.2 ⟨[("headers", .text "a.h")], rfl, ?_⟩,
    (ofMapping_checked_iff (hkeys _) _ _).1.2 ⟨[("headers", .int 1)], rfl, ?_⟩⟩
  · decide
  · refine @Refused.noList _ ["defines", "include_dirs"] [] "headers" _ rfl rfl rfl ?_
    simp [Fields.get?]

/-- Nothing in place of headers is no refusal at a directory, and without one it is taken as it
is. -/
theorem ofMapping_no_headers :
    ofMapping [(.text "headers", .null)] ⟨.absolute, []⟩ (some ⟨.absolute, ["base"]⟩) =
        .error (.misfit (.notIterable "NoneType")) ∧
      ofMapping [(.text "headers", .null)] ⟨.absolute, []⟩ none =
        .ok { default with headers := .null } := by
  have htexts (base : Option Path) :=
    (ofMapping_texts [("headers", .null)] ⟨.absolute, []⟩ base).trans
      (ofConfig_of_known (by decide))
  exact ⟨(htexts _).trans rfl, (htexts _).trans rfl⟩

end Options

end Bindery
