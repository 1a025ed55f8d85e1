import ClusterPlan.Entity.Options
import ClusterPlan.Proofs.Except
import ClusterPlan.Proofs.Fields
import ClusterPlan.Proofs.Sequence

/-!
# What is read from the options of an entity

A value is given for a field if the options have it under the name of the field and it is not null.
A field is read as what the given value stands for, and as its default if none is given. Each reader
succeeds exactly with the values that are in the form of its field, provided that the options have
no tags and one entry for each key.
-/

namespace ClusterPlan

namespace Yaml

/-- There is no tag in the value, nor in a part of it. -/
inductive Untagged : Yaml → Prop
  | null : Untagged .null
  | bool (b : Bool) : Untagged (.bool b)
  | number (n : Number) : Untagged (.number n)
  | string (s : String) : Untagged (.string s)
  | sequence {items : List Yaml} (h : ∀ item ∈ items, Untagged item) : Untagged (.sequence items)
  | mapping {entries : List (Yaml × Yaml)} (hkeys : ∀ entry ∈ entries, Untagged entry.1)
    (hvalues : ∀ entry ∈ entries, Untagged entry.2) : Untagged (.mapping entries)

variable {v : Yaml} {entries : List (Yaml × Yaml)}

theorem Untagged.untagged_eq (h : v.Untagged) : v.untagged = v := by
  cases h <;> rfl

theorem Untagged.isNull_eq_true_iff (h : v.Untagged) : v.isNull = true ↔ v = .null := by
  rw [isNull, h.untagged_eq]
  cases v <;> simp

theorem Untagged.text?_eq_some_iff (h : v.Untagged) {s : String} :
    v.text? = some s ↔ v = .string s := by
  rw [text?, h.untagged_eq]
  cases v <;> simp

attribute [simp] Untagged.null Untagged.bool Untagged.number Untagged.string

@[simp] theorem untagged_sequence_iff {items : List Yaml} :
    (sequence items).Untagged ↔ ∀ item ∈ items, item.Untagged := by
  constructor
  · intro h
    cases h with
    | sequence h => exact h
  · exact .sequence

@[simp] theorem untagged_mapping_iff :
    (mapping entries).Untagged ↔ ∀ entry ∈ entries, entry.1.Untagged ∧ entry.2.Untagged := by
  constructor
  · intro h entry hentry
    cases h with
    | mapping hkeys hvalues => exact ⟨hkeys entry hentry, hvalues entry hentry⟩
  · exact fun h ↦ .mapping (fun entry hentry ↦ (h entry hentry).1)
      fun entry hentry ↦ (h entry hentry).2

/-! ### Keys of a mapping -/

theorem keysDistinct_value (h : (mapping entries).keysDistinct = true) {entry : Yaml × Yaml}
    (hentry : entry ∈ entries) : entry.2.keysDistinct = true := by
  rw [keysDistinct] at h
  induction entries with
  | nil => cases hentry
  | cons first rest ih =>
    simp only [keysDistinctEntries, Bool.and_eq_true] at h
    obtain ⟨⟨⟨-, hvalue⟩, -⟩, hrest⟩ := h
    rcases List.mem_cons.mp hentry with rfl | hentry
    · exact hvalue
    · exact ih hrest hentry

/-- Under a text there is the value of the one entry that has it as its key. -/
theorem lookup_eq_some_iff (h : (mapping entries).keysDistinct = true) {name : String} :
    lookup name entries = some v ↔ (.string name, v) ∈ entries := by
  rw [keysDistinct] at h
  induction entries with
  | nil => simp [lookup]
  | cons entry rest ih =>
    obtain ⟨key, value⟩ := entry
    simp only [keysDistinctEntries, Bool.and_eq_true, List.all_eq_true] at h
    obtain ⟨⟨-, hfresh⟩, hrest⟩ := h
    cases key with
    | string s =>
      rw [lookup, List.mem_cons, Prod.mk.injEq, string.injEq]
      by_cases hs : s = name
      · subst hs
        have hnone : (string s, v) ∉ rest := fun hmem ↦ by simpa [same] using hfresh _ hmem
        simp [hnone, eq_comm]
      · simp [hs, Ne.symm hs, ih hrest]
    | _ => simp [lookup, ih hrest]

end Yaml

namespace Entity

/-! ### Given values -/

/-- The options have the value under the name of a field. A null value is not given. -/
def Given (options : Yaml) (field : String) (v : Yaml) : Prop :=
  ∃ entries, options = .mapping entries ∧ (.string field, v) ∈ entries ∧ v ≠ .null

/-- Whatever is given for the field is in a form. -/
def Allows (options : Yaml) (field : String) (form : Yaml → Prop) : Prop :=
  ∀ v, Given options field v → form v

/-- A value is given for the field, in a form. -/
def Requires (options : Yaml) (field : String) (form : Yaml → Prop) : Prop :=
  ∃ v, Given options field v ∧ form v

/-- What the value that is given for the field stands for, in a form. -/
def Gives {α : Type} (options : Yaml) (field : String) (form : Yaml → α → Prop) (a : α) : Prop :=
  ∃ v, Given options field v ∧ form v a

/-- What the field is read as: what the given value stands for, and a default where none is. -/
inductive Reads {α : Type} (options : Yaml) (field : String) (form : Yaml → α → Prop)
    (default : α) : α → Prop
  | given {a : α} (h : Gives options field form a) : Reads options field form default a
  | absent (h : ∀ v, ¬Given options field v) : Reads options field form default default

/-- All keys of the options are known fields. Null options have none. -/
inductive HasOnly (known : List String) : Yaml → Prop
  | null : HasOnly known .null
  | mapping {entries : List (Yaml × Yaml)}
    (h : ∀ entry ∈ entries, ∃ field ∈ known, entry.1 = .string field) :
    HasOnly known (.mapping entries)

theorem HasOnly.exists_ofYaml {known : List String} {options : Yaml} (h : HasOnly known options) :
    ∃ entries, Options.ofYaml options = .ok entries := by
  cases h with
  | null => exact ⟨[], rfl⟩
  | mapping _ => exact ⟨_, rfl⟩

/-! ### Forms of values -/

def IsText (v : Yaml) (s : String) : Prop := v = .string s

/-- Not all of the text is blank. -/
def IsFilledText (v : Yaml) (s : String) : Prop := IsText v s ∧ Text.isBlankText s = false

/-- A text, or a number that stands for its own text. -/
def IsTextOrNumber (v : Yaml) (s : String) : Prop := IsText v s ∨ ∃ n, v = .number n ∧ n.text = s

def IsPort (v : Yaml) (port : Nat) : Prop :=
  v = .number (.int port) ∧ 1 ≤ port ∧ port ≤ 65535

/-- A list, item by item. -/
def IsList {α : Type} (form : Yaml → α → Prop) (v : Yaml) (as : List α) : Prop :=
  ∃ items, v = .sequence items ∧ List.Forall₂ form items as

def IsFilledList {α : Type} (form : Yaml → α → Prop) (v : Yaml) (as : List α) : Prop :=
  IsList form v as ∧ as ≠ []

/-- The text that a scalar stands for. Null stands for the empty text. -/
inductive IsScalar : Yaml → String → Prop
  | null : IsScalar .null ""
  | bool (b : Bool) : IsScalar (.bool b) (toString b)
  | number (n : Yaml.Number) : IsScalar (.number n) n.text
  | string (s : String) : IsScalar (.string s) s

/-- A mapping from texts to scalars. -/
def IsScalarMap (v : Yaml) : Prop :=
  ∃ entries, v = .mapping entries ∧
    ∀ entry ∈ entries, ∃ name text, entry.1 = .string name ∧ IsScalar entry.2 text

/-- The fields are those of a mapping, the values as texts, in order of the names. -/
def IsTextMap (v : Yaml) (fields : List (String × String)) : Prop :=
  ∃ entries, v = .mapping entries ∧ InOrder fields ∧
    ∀ name text, (name, text) ∈ fields ↔
      ∃ value, (.string name, value) ∈ entries ∧ IsScalar value text

/-! ### Steps of the readers -/

namespace Options

variable {v : Yaml} {entries : Options} {field : String}

theorem checkKnown_eq_ok_iff {known : List String} :
    entries.checkKnown known = .ok () ↔ ∀ entry ∈ entries, entry.1.text?.getD "" ∈ known := by
  induction entries with
  | nil => simp [checkKnown]
  | cons entry rest ih =>
    obtain ⟨key, value⟩ := entry
    rw [checkKnown, List.forall_mem_cons, ← ih]
    by_cases hkey : key.text?.getD "" ∈ known <;> simp [hkey]

theorem itemTexts_eq_mapM (field : String) (numbers : Bool) (items : List Yaml) :
    itemTexts field numbers items = items.mapM (itemText field numbers) := by
  induction items with
  | nil => rfl
  | cons item rest ih =>
    rw [itemTexts, List.mapM_cons, ih]
    cases itemText field numbers item <;> rfl

theorem itemText_false_eq_ok_iff {s : String} :
    itemText field false v = .ok s ↔ IsText v s := by
  cases v <;> simp [itemText, IsText]

theorem itemText_true_eq_ok_iff {s : String} :
    itemText field true v = .ok s ↔ IsTextOrNumber v s := by
  cases v <;> simp [itemText, IsTextOrNumber, IsText]

/-- The step that `portItems` takes with each item. -/
def portOf (field : String) (item : Yaml) : Except Complaint Nat :=
  (port? item).elim (.error (.wrongPort field item)) .ok

theorem portItems_eq_mapM (field : String) (items : List Yaml) :
    portItems field items = items.mapM (portOf field) := by
  induction items with
  | nil => rfl
  | cons item rest ih =>
    rw [portItems, List.mapM_cons, ih, portOf]
    cases port? item <;> rfl

theorem portOf_eq_ok_iff (hv : v.Untagged) {port : Nat} :
    portOf field v = .ok port ↔ IsPort v port := by
  rw [portOf, port?, hv.untagged_eq]
  cases v with
  | number n =>
    cases n with
    | int n =>
      have hlimit : portLimit = 65535 := rfl
      simp only [IsPort, Yaml.number.injEq, Yaml.Number.int.injEq]
      by_cases hport : 0 < n ∧ n ≤ portLimit
      · rw [if_pos hport, Option.elim_some, Except.ok.injEq]
        omega
      · rw [if_neg hport, Option.elim_none]
        refine iff_of_false nofun ?_
        omega
    | float x => simp [IsPort]
  | _ => simp [IsPort]

theorem scalarText?_eq_some_iff {s : String} : scalarText? v = some s ↔ IsScalar v s := by
  constructor
  · intro hs
    cases v with
    | bool b => cases b <;> (cases hs; constructor)
    | sequence | mapping | tagged => cases hs
    | _ =>
      cases hs
      constructor
  · rintro (_ | b | n | s)
    next => rfl
    next => cases b <;> rfl
    next => rfl
    next => rfl

/-- The step that `entryTexts` takes with each entry. -/
def entryText (field : String) (entry : Yaml × Yaml) : Except Complaint (String × String) :=
  match entry.1.text? with
  | none => .error (.wrongKey field entry.1)
  | some name =>
    match scalarText? entry.2 with
    | none => .error (.wrongEntry field name entry.2)
    | some s => .ok (name, s)

theorem entryTexts_eq_mapM (field : String) (pairs : List (Yaml × Yaml)) :
    entryTexts field pairs = pairs.mapM (entryText field) := by
  induction pairs with
  | nil => rfl
  | cons pair rest ih =>
    obtain ⟨key, value⟩ := pair
    rw [entryTexts, List.mapM_cons, ih]
    simp only [entryText]
    cases key.text? with
    | none => rfl
    | some name => cases scalarText? value <;> rfl

theorem entryText_eq_ok_iff {entry : Yaml × Yaml} (hkey : entry.1.Untagged)
    {text : String × String} :
    entryText field entry = .ok text ↔ entry.1 = .string text.1 ∧ IsScalar entry.2 text.2 := by
  rw [← hkey.text?_eq_some_iff, ← scalarText?_eq_some_iff, entryText]
  cases entry.1.text? with
  | none => simp
  | some name =>
    cases scalarText? entry.2 with
    | none => simp
    | some s => simp [Prod.ext_iff]

theorem entryTexts_eq_ok_iff (hv : (Yaml.mapping entries).Untagged)
    {texts : List (String × String)} :
    entryTexts field entries = .ok texts ↔
      List.Forall₂ (fun entry text ↦ entry.1 = .string text.1 ∧ IsScalar entry.2 text.2)
        entries texts := by
  rw [entryTexts_eq_mapM, mapM_eq_ok_iff]
  exact forall₂_congr_of_mem fun entry hentry _ ↦
    entryText_eq_ok_iff (Yaml.untagged_mapping_iff.mp hv entry hentry).1

theorem exists_entryTexts_iff (hv : (Yaml.mapping entries).Untagged) :
    (∃ texts, entryTexts field entries = .ok texts) ↔
      ∀ entry ∈ entries, ∃ name text, entry.1 = .string name ∧ IsScalar entry.2 text := by
  rw [entryTexts_eq_mapM, exists_mapM_eq_ok_iff]
  refine forall₂_congr fun entry hentry ↦ ?_
  rw [not_failsAt_iff]
  have hkey := (Yaml.untagged_mapping_iff.mp hv entry hentry).1
  simp only [entryText_eq_ok_iff hkey, Prod.exists]

/-- Scalars that stand under different names give texts under different names. -/
theorem nodup_of_entryTexts (hdistinct : (Yaml.mapping entries).keysDistinct = true)
    {texts : List (String × String)}
    (h : List.Forall₂ (fun entry text ↦ entry.1 = .string text.1 ∧ IsScalar entry.2 text.2)
      entries texts) : (texts.map Prod.fst).Nodup := by
  rw [Yaml.keysDistinct] at hdistinct
  induction h with
  | nil => exact List.nodup_nil
  | @cons entry text rest others hentry hrest ih =>
    simp only [Yaml.keysDistinctEntries, Bool.and_eq_true, List.all_eq_true] at hdistinct
    obtain ⟨⟨-, hfresh⟩, hothers⟩ := hdistinct
    refine List.nodup_cons.mpr ⟨fun hmem ↦ ?_, ih hothers⟩
    obtain ⟨other, hother, hname⟩ := List.mem_map.mp hmem
    obtain ⟨later, hlater, hkey, -⟩ := exists_left_of_forall₂ hrest hother
    have hsame := hfresh later hlater
    rw [hentry.1, hkey, hname] at hsame
    simp [Yaml.same] at hsame

end Options

/-! ### Readers -/

/-- The entries of options without tags, with one entry for each key. -/
structure IsRead (options : Yaml) (entries : Options) : Prop where
  ofYaml : Options.ofYaml options = .ok entries
  untagged : options.Untagged
  keysDistinct : options.keysDistinct = true

namespace IsRead

variable {α : Type} {options v : Yaml} {entries : Options} {field : String}

theorem get?_eq_some_iff (h : IsRead options entries) :
    entries.get? field = some v ↔ Given options field v := by
  obtain ⟨hofYaml, huntagged, hdistinct⟩ := h
  rw [Options.get?, Option.filter_eq_some_iff, Given]
  cases options with
  | null =>
    obtain rfl := Except.ok.inj hofYaml
    simp [Yaml.lookup]
  | mapping =>
    obtain rfl := Except.ok.inj hofYaml
    rw [Yaml.lookup_eq_some_iff hdistinct]
    simp only [Yaml.mapping.injEq, exists_eq_left']
    refine and_congr_right fun hmem ↦ ?_
    have hnull := (Yaml.untagged_mapping_iff.mp huntagged _ hmem).2.isNull_eq_true_iff
    simp [← hnull]
  | _ => cases hofYaml

theorem get?_eq_none_iff (h : IsRead options entries) :
    entries.get? field = none ↔ ∀ v, ¬Given options field v := by
  simp only [← h.get?_eq_some_iff, Option.eq_none_iff_forall_ne_some, ne_eq]

theorem untagged_of_given (h : IsRead options entries) (hv : Given options field v) :
    v.Untagged := by
  obtain ⟨pairs, rfl, hmem, -⟩ := hv
  exact (Yaml.untagged_mapping_iff.mp h.untagged _ hmem).2

theorem keysDistinct_of_given (h : IsRead options entries) (hv : Given options field v) :
    v.keysDistinct = true := by
  obtain ⟨pairs, rfl, hmem, -⟩ := hv
  exact Yaml.keysDistinct_value h.keysDistinct hmem

theorem given_unique (h : IsRead options entries) {w : Yaml} (hv : Given options field v)
    (hw : Given options field w) : v = w :=
  Option.some.inj ((h.get?_eq_some_iff.mpr hv).symm.trans (h.get?_eq_some_iff.mpr hw))

theorem gives_iff_of_given {form : Yaml → α → Prop} {a : α} (h : IsRead options entries)
    (hv : Given options field v) : Gives options field form a ↔ form v a := by
  constructor
  · rintro ⟨w, hw, hform⟩
    exact h.given_unique hw hv ▸ hform
  · exact fun hform ↦ ⟨v, hv, hform⟩

/-- Some value is read exactly if what is given stands for one. -/
theorem exists_reads_iff (h : IsRead options entries) {form : Yaml → α → Prop} {default : α} :
    (∃ a, Reads options field form default a) ↔ Allows options field (∃ a, form · a) := by
  constructor
  · rintro ⟨a, ha⟩ v hv
    cases ha with
    | given ha => exact ⟨a, (h.gives_iff_of_given hv).mp ha⟩
    | absent hnone => exact absurd hv (hnone v)
  · intro hallows
    cases hget : entries.get? field with
    | none => exact ⟨default, .absent (h.get?_eq_none_iff.mp hget)⟩
    | some v =>
      have hv := h.get?_eq_some_iff.mp hget
      obtain ⟨a, ha⟩ := hallows v hv
      exact ⟨a, .given ⟨v, hv, ha⟩⟩

/-- A reader that gives its default for an absent field, and else what the value stands for. -/
theorem eq_ok_iff_reads (h : IsRead options entries) {form : Yaml → α → Prop} {default a : α}
    {read : Except Complaint α} (habsent : entries.get? field = none → read = .ok default)
    (hgiven : ∀ v, entries.get? field = some v → (read = .ok a ↔ form v a)) :
    read = .ok a ↔ Reads options field form default a := by
  cases hget : entries.get? field with
  | none =>
    have hnone := h.get?_eq_none_iff.mp hget
    rw [habsent hget, Except.ok.injEq]
    constructor
    · rintro rfl
      exact .absent hnone
    · intro ha
      cases ha with
      | given ha =>
        obtain ⟨v, hv, -⟩ := ha
        exact absurd hv (hnone v)
      | absent _ => rfl
  | some v =>
    have hv := h.get?_eq_some_iff.mp hget
    refine ((hgiven v hget).trans (h.gives_iff_of_given hv).symm).trans ⟨.given, fun ha ↦ ?_⟩
    cases ha with
    | given ha => exact ha
    | absent hnone => exact absurd hv (hnone v)

/-- A reader that fails for an absent field, and else gives what the value stands for. -/
theorem eq_ok_iff_gives (h : IsRead options entries) {form : Yaml → α → Prop} {a : α}
    {read : Except Complaint α} (habsent : entries.get? field = none → read ≠ .ok a)
    (hgiven : ∀ v, entries.get? field = some v → (read = .ok a ↔ form v a)) :
    read = .ok a ↔ Gives options field form a := by
  cases hget : entries.get? field with
  | none =>
    have hnone := h.get?_eq_none_iff.mp hget
    refine iff_of_false (habsent hget) ?_
    rintro ⟨v, hv, -⟩
    exact hnone v hv
  | some v =>
    exact (hgiven v hget).trans (h.gives_iff_of_given (h.get?_eq_some_iff.mp hget)).symm

theorem exists_gives_iff {form : Yaml → α → Prop} :
    (∃ a, Gives options field form a) ↔ Requires options field (∃ a, form · a) := by
  simp only [Gives, Requires]
  constructor
  · rintro ⟨a, v, hv, ha⟩
    exact ⟨v, hv, a, ha⟩
  · rintro ⟨v, hv, a, ha⟩
    exact ⟨a, v, hv, ha⟩

/-! ### Known fields -/

theorem checkKnown_iff (h : IsRead options entries) {known : List String} (hknown : "" ∉ known) :
    entries.checkKnown known = .ok () ↔ HasOnly known options := by
  obtain ⟨hofYaml, huntagged, -⟩ := h
  rw [Options.checkKnown_eq_ok_iff]
  cases options with
  | null =>
    obtain rfl := Except.ok.inj hofYaml
    exact iff_of_true (by simp) .null
  | mapping entries =>
    obtain rfl := Except.ok.inj hofYaml
    have hkey : ∀ entry ∈ entries, entry.1.text?.getD "" ∈ known ↔
        ∃ field ∈ known, entry.1 = .string field := by
      intro entry hentry
      have hkey := (Yaml.untagged_mapping_iff.mp huntagged entry hentry).1
      -- A key that is no text is checked as the empty one, which is no field.
      simp only [← hkey.text?_eq_some_iff]
      cases entry.1.text? <;> simp [hknown]
    constructor
    · exact fun h ↦ .mapping fun entry hentry ↦ (hkey entry hentry).mp (h entry hentry)
    · rintro (_ | h) entry hentry
      exact (hkey entry hentry).mpr (h entry hentry)
  | _ => cases hofYaml

/-! ### Texts and numbers -/

theorem text?_eq_ok_iff (h : IsRead options entries) {found : Option String} :
    entries.text? field = .ok found ↔
      Reads options field (fun v found ↦ ∃ s, IsText v s ∧ found = some s) none found := by
  refine h.eq_ok_iff_reads (fun hget ↦ by rw [Options.text?, hget]) fun v hget ↦ ?_
  rw [Options.text?, hget]
  cases v <;> simp [IsText, eq_comm]

theorem exists_text?_iff (h : IsRead options entries) :
    (∃ found, entries.text? field = .ok found) ↔ Allows options field (∃ s, IsText · s) := by
  simp only [h.text?_eq_ok_iff, h.exists_reads_iff, Allows]
  refine forall₂_congr fun v _ ↦ ⟨?_, ?_⟩
  · rintro ⟨-, s, hs, -⟩
    exact ⟨s, hs⟩
  · rintro ⟨s, hs⟩
    exact ⟨some s, s, hs, rfl⟩

theorem eq_some_iff_of_text? (h : IsRead options entries) {found : Option String}
    (hfound : entries.text? field = .ok found) {s : String} :
    found = some s ↔ Gives options field IsText s := by
  rw [h.text?_eq_ok_iff] at hfound
  cases hfound with
  | absent hnone =>
    refine iff_of_false nofun ?_
    rintro ⟨v, hv, -⟩
    exact hnone v hv
  | given hfound =>
    obtain ⟨v, hv, t, rfl, rfl⟩ := hfound
    rw [h.gives_iff_of_given hv, IsText, Option.some.injEq, Yaml.string.injEq]

theorem reads_of_text? (h : IsRead options entries) {found : Option String} {default : String}
    (hfound : entries.text? field = .ok found) :
    Reads options field IsText default (found.getD default) := by
  rw [h.text?_eq_ok_iff] at hfound
  cases hfound with
  | absent hnone => exact .absent hnone
  | given hfound =>
    obtain ⟨v, hv, s, hs, rfl⟩ := hfound
    exact .given ⟨v, hv, hs⟩

theorem requiredText_eq_ok_iff (h : IsRead options entries) {s : String} :
    entries.requiredText field = .ok s ↔ Gives options field IsFilledText s := by
  refine h.eq_ok_iff_gives (fun hget ↦ ?_) fun v hget ↦ ?_
  · simp [Options.requiredText, Options.text?, hget]
  · rw [Options.requiredText, Options.text?, hget]
    cases v with
    | string t =>
      simp only [IsFilledText, IsText, Yaml.string.injEq, ← Bool.not_eq_true]
      exact Except.ite_error_eq_ok_iff (p := (Text.isBlankText · = true))
    | _ => simp [IsFilledText, IsText]

theorem exists_requiredText_iff (h : IsRead options entries) :
    (∃ s, entries.requiredText field = .ok s) ↔
      Requires options field (∃ s, IsFilledText · s) := by
  simp only [h.requiredText_eq_ok_iff, exists_gives_iff]

theorem exists_filledText?_iff (h : IsRead options entries) :
    (∃ found, entries.filledText? field = .ok found) ↔ Allows options field (∃ s, IsText · s) := by
  rw [← h.exists_text?_iff]
  exact Except.exists_map_eq_ok_iff

theorem eq_some_iff_of_filledText? (h : IsRead options entries) {found : Option String}
    (hfound : entries.filledText? field = .ok found) {s : String} :
    found = some s ↔ Gives options field IsFilledText s := by
  obtain ⟨text, htext, rfl⟩ := Except.map_eq_ok_iff.mp hfound
  rw [Option.filter_eq_some_iff, h.eq_some_iff_of_text? htext]
  simp only [Gives, IsFilledText, ← and_assoc, exists_and_right, Bool.not_eq_true']

/-! ### Lists -/

section Texts

variable {numbers : Bool} {form : Yaml → String → Prop} {texts : List String}

theorem texts_eq_ok_iff_of_get? (hget : entries.get? field = some v)
    (hform : ∀ {item s}, Options.itemText field numbers item = .ok s ↔ form item s) :
    entries.texts field numbers = .ok texts ↔ IsList form v texts := by
  rw [Options.texts, hget]
  cases v with
  | sequence items => simp [Options.itemTexts_eq_mapM, mapM_eq_ok_iff, hform, IsList]
  | _ => simp [IsList]

theorem texts_eq_ok_iff (h : IsRead options entries)
    (hform : ∀ {item s}, Options.itemText field numbers item = .ok s ↔ form item s) :
    entries.texts field numbers = .ok texts ↔ Reads options field (IsList form) [] texts :=
  h.eq_ok_iff_reads (fun hget ↦ by rw [Options.texts, hget])
    fun _ hget ↦ texts_eq_ok_iff_of_get? hget hform

theorem exists_texts_iff (h : IsRead options entries)
    (hform : ∀ {item s}, Options.itemText field numbers item = .ok s ↔ form item s) :
    (∃ texts, entries.texts field numbers = .ok texts) ↔
      Allows options field (∃ texts, IsList form · texts) := by
  simp only [h.texts_eq_ok_iff hform, h.exists_reads_iff]

theorem requiredTexts_eq_ok_iff (h : IsRead options entries)
    (hform : ∀ {item s}, Options.itemText field numbers item = .ok s ↔ form item s) :
    entries.requiredTexts field numbers = .ok texts ↔
      Gives options field (IsFilledList form) texts := by
  refine h.eq_ok_iff_gives (fun hget ↦ ?_) fun v hget ↦ ?_
  · simp [Options.requiredTexts, hget]
  · rw [Options.requiredTexts, hget, IsFilledList, ← texts_eq_ok_iff_of_get? hget hform]
    cases entries.texts field numbers with
    | error e => simp
    | ok found =>
      cases found with
      | nil => simp +contextual [eq_comm]
      | cons first rest => simp +contextual [eq_comm]

theorem exists_requiredTexts_iff (h : IsRead options entries)
    (hform : ∀ {item s}, Options.itemText field numbers item = .ok s ↔ form item s) :
    (∃ texts, entries.requiredTexts field numbers = .ok texts) ↔
      Requires options field (∃ texts, IsFilledList form · texts) := by
  simp only [h.requiredTexts_eq_ok_iff hform, exists_gives_iff]

end Texts

theorem ports_eq_ok_iff (h : IsRead options entries) {ports : List Nat} :
    entries.ports field = .ok ports ↔ Reads options field (IsList IsPort) [] ports := by
  refine h.eq_ok_iff_reads (fun hget ↦ by rw [Options.ports, hget]) fun v hget ↦ ?_
  have hv : v.Untagged := h.untagged_of_given (h.get?_eq_some_iff.mp hget)
  rw [Options.ports, hget]
  cases v with
  | sequence items =>
    have hitems : List.Forall₂ (fun item port ↦ Options.portOf field item = .ok port) items ports ↔
        List.Forall₂ IsPort items ports :=
      forall₂_congr_of_mem fun item hitem _ ↦
        Options.portOf_eq_ok_iff (Yaml.untagged_sequence_iff.mp hv item hitem)
    simp [Options.portItems_eq_mapM, mapM_eq_ok_iff, hitems, IsList]
  | _ => simp [IsList]

theorem exists_ports_iff (h : IsRead options entries) :
    (∃ ports, entries.ports field = .ok ports) ↔
      Allows options field (∃ ports, IsList IsPort · ports) := by
  simp only [h.ports_eq_ok_iff, h.exists_reads_iff]

/-! ### Mappings of texts -/

theorem exists_textMap_iff (h : IsRead options entries) :
    (∃ fields, entries.textMap field = .ok fields) ↔ Allows options field IsScalarMap := by
  cases hget : entries.get? field with
  | none =>
    have hnone := h.get?_eq_none_iff.mp hget
    exact iff_of_true ⟨[], by rw [Options.textMap, hget]⟩ fun v hv ↦ absurd hv (hnone v)
  | some v =>
    have hv := h.get?_eq_some_iff.mp hget
    have hallows : Allows options field IsScalarMap ↔ IsScalarMap v :=
      ⟨fun hall ↦ hall v hv, fun hmap w hw ↦ h.given_unique hv hw ▸ hmap⟩
    rw [hallows, Options.textMap, hget]
    cases v with
    | mapping pairs =>
      have htexts : (∃ texts, Options.entryTexts field pairs = .ok texts) ↔ _ :=
        Options.exists_entryTexts_iff (h.untagged_of_given hv)
      simp only [IsScalarMap, Yaml.mapping.injEq, exists_eq_left', ← htexts]
      exact Except.exists_map_eq_ok_iff
    | _ => simp [IsScalarMap]

theorem reads_of_textMap (h : IsRead options entries) {fields : List (String × String)}
    (hfields : entries.textMap field = .ok fields) :
    Reads options field IsTextMap [] fields := by
  rw [Options.textMap] at hfields
  cases hget : entries.get? field with
  | none =>
    rw [hget] at hfields
    obtain rfl := Except.ok.inj hfields
    exact .absent (h.get?_eq_none_iff.mp hget)
  | some v =>
    have hv := h.get?_eq_some_iff.mp hget
    rw [hget] at hfields
    cases v with
    | mapping pairs =>
      obtain ⟨texts, htexts, rfl⟩ := Except.map_eq_ok_iff.mp hfields
      rw [Options.entryTexts_eq_ok_iff (h.untagged_of_given hv)] at htexts
      have hnodup := Options.nodup_of_entryTexts (h.keysDistinct_of_given hv) htexts
      -- No name stands twice, so that sorting keeps all of the texts.
      refine .given ⟨_, hv, pairs, rfl, inOrder_sortFields texts, fun name text ↦ ?_⟩
      rw [mem_sortFields_iff hnodup]
      constructor
      · intro hmem
        obtain ⟨⟨key, value⟩, hentry, rfl, htext⟩ := exists_left_of_forall₂ htexts hmem
        exact ⟨value, hentry, htext⟩
      · rintro ⟨value, hentry, htext⟩
        obtain ⟨⟨found, shown⟩, hmem, hname, hshown⟩ := exists_right_of_forall₂ htexts hentry
        obtain rfl := Yaml.string.inj hname
        rw [← Options.scalarText?_eq_some_iff] at htext hshown
        obtain rfl := Option.some.inj (htext.symm.trans hshown)
        exact hmem
    | _ => cases hfields

end IsRead

end Entity

end ClusterPlan
