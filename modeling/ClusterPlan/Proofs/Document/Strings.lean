import ClusterPlan.Registry.Document

/-!
# Strings of a document

The strings of a value stand in sequences, mappings and tagged values at any depth; keys of mappings
are none of them. Putting other texts in the places that they were taken from, in the order in which
they were taken, is the same as changing each where it stands. Of a document, only the options of
keys, volumes and servers are changed, and it has the sections that it had, with their entities
under the same names.
-/

namespace ClusterPlan.Document

open Entity

/-! ### Strings of a value -/

mutual

/-- The value with each of its strings changed where it stands. -/
def mapStrings (f : String → String) : Yaml → Yaml
  | .string s => .string (f s)
  | .sequence items => .sequence (mapItems f items)
  | .mapping entries => .mapping (mapEntries f entries)
  | .tagged tag value => .tagged tag (mapStrings f value)
  | .null => .null
  | .bool b => .bool b
  | .number n => .number n

def mapItems (f : String → String) : List Yaml → List Yaml
  | [] => []
  | item :: rest => mapStrings f item :: mapItems f rest

def mapEntries (f : String → String) : List (Yaml × Yaml) → List (Yaml × Yaml)
  | [] => []
  | (key, value) :: rest => (key, mapStrings f value) :: mapEntries f rest

end

section Refill

variable (f : String → String)

mutual

/-- Texts behind those of the value are left over. -/
theorem refill_leaves_append : ∀ (value : Yaml) (rest : List String),
    refill value ((leaves value).map f ++ rest) = (mapStrings f value, rest)
  | .string s, rest => by simp [leaves, refill, mapStrings]
  | .sequence items, rest => by
    rw [leaves, refill, refillItems_leaves_append items rest, mapStrings]
  | .mapping entries, rest => by
    rw [leaves, refill, refillEntries_leaves_append entries rest, mapStrings]
  | .tagged tag value, rest => by
    rw [leaves, refill, refill_leaves_append value rest, mapStrings]
  | .null, rest => by simp [leaves, refill, mapStrings]
  | .bool b, rest => by simp [leaves, refill, mapStrings]
  | .number n, rest => by simp [leaves, refill, mapStrings]

theorem refillItems_leaves_append : ∀ (items : List Yaml) (rest : List String),
    refillItems items ((leavesOfItems items).map f ++ rest) = (mapItems f items, rest)
  | [], rest => by simp [leavesOfItems, refillItems, mapItems]
  | item :: items, rest => by
    rw [leavesOfItems, List.map_append, List.append_assoc, refillItems, refill_leaves_append item]
    dsimp only
    rw [refillItems_leaves_append items rest, mapItems]

theorem refillEntries_leaves_append : ∀ (entries : List (Yaml × Yaml)) (rest : List String),
    refillEntries entries ((leavesOfEntries entries).map f ++ rest) = (mapEntries f entries, rest)
  | [], rest => by simp [leavesOfEntries, refillEntries, mapEntries]
  | (key, value) :: entries, rest => by
    rw [leavesOfEntries, List.map_append, List.append_assoc, refillEntries,
      refill_leaves_append value]
    dsimp only
    rw [refillEntries_leaves_append entries rest, mapEntries]

end

theorem refill_leaves (value : Yaml) :
    (refill value ((leaves value).map f)).1 = mapStrings f value := by
  have hrefill := refill_leaves_append f value []
  rw [List.append_nil] at hrefill
  rw [hrefill]

end Refill

mutual

@[simp]
theorem mapStrings_id : ∀ value : Yaml, mapStrings id value = value
  | .string s => by rw [mapStrings, id]
  | .sequence items => by rw [mapStrings, mapItems_id]
  | .mapping entries => by rw [mapStrings, mapEntries_id]
  | .tagged tag value => by rw [mapStrings, mapStrings_id]
  | .null => by rw [mapStrings]
  | .bool b => by rw [mapStrings]
  | .number n => by rw [mapStrings]

@[simp]
theorem mapItems_id : ∀ items : List Yaml, mapItems id items = items
  | [] => by rw [mapItems]
  | item :: rest => by rw [mapItems, mapStrings_id, mapItems_id]

@[simp]
theorem mapEntries_id : ∀ entries : List (Yaml × Yaml), mapEntries id entries = entries
  | [] => by rw [mapEntries]
  | (key, value) :: rest => by rw [mapEntries, mapStrings_id, mapEntries_id]

end

/-! ### Strings of sections -/

section Sections

variable (f : String → String)

def mapOptions (entries : Entries) : Entries :=
  entries.map fun (name, options) ↦ (name, mapStrings f options)

/-- The strings of services are left as they are. -/
def mapSection (kind : Kind) (entries : Entries) : Entries :=
  if kind = .service then entries else mapOptions f entries

def mapSections (sections : Sections) : Sections :=
  sections.map fun (kind, entries) ↦ (kind, mapSection f kind entries)

/-- Whether a key of a document stands for entities whose strings are rendered. -/
def isRenderedKey : Yaml → Bool
  | .string key => [Kind.sshKey, .volume, .server].any (·.sectionName == key)
  | _ => false

def mapRoot (root : List (Yaml × Yaml)) : List (Yaml × Yaml) :=
  root.map fun (key, value) ↦ (key, if isRenderedKey key then mapStrings f value else value)

/-- The document with each string of its keys, volumes and servers changed where it stands. -/
def mapDocument : Yaml → Yaml
  | .mapping root => .mapping (mapRoot f root)
  | other => other

theorem lookup_mapRoot (name : String) (root : List (Yaml × Yaml)) :
    Yaml.lookup name (mapRoot f root) = (Yaml.lookup name root).map fun value ↦
      if isRenderedKey (.string name) then mapStrings f value else value := by
  induction root with
  | nil => rfl
  | cons entry rest ih =>
    obtain ⟨key, value⟩ := entry
    rw [mapRoot, List.map_cons, ← mapRoot]
    cases key with
    | string key =>
      rw [Yaml.lookup, Yaml.lookup, ih]
      split
      next hkey => rw [hkey, Option.map_some]
      next => rfl
    | _ => exact ih

theorem entriesOf_mapEntries (kind : Kind) (entries : List (Yaml × Yaml)) :
    entriesOf kind (mapEntries f entries) = (entriesOf kind entries).map (mapOptions f) := by
  induction entries with
  | nil =>
    rw [mapEntries, entriesOf]
    rfl
  | cons entry rest ih =>
    obtain ⟨key, options⟩ := entry
    rw [mapEntries, entriesOf, entriesOf, ih]
    cases key.text? with
    | none => rfl
    | some name =>
      cases entriesOf kind rest with
      | error fault => rfl
      | ok entries => rfl

theorem isRenderedKey_sectionName (kind : Kind) :
    isRenderedKey (.string kind.sectionName) = !decide (kind = .service) := by
  cases kind <;> rfl

/-- A section that is none before is none after, for the same reason. -/
theorem sectionOf_mapRoot (root : List (Yaml × Yaml)) (kind : Kind) :
    sectionOf (mapRoot f root) kind = (sectionOf root kind).map (mapSection f kind) := by
  unfold sectionOf
  rw [lookup_mapRoot, isRenderedKey_sectionName]
  by_cases hservice : kind = .service
  · have hself : (mapSection f kind) = id := by
      funext entries
      rw [mapSection, if_pos hservice, id]
    have hid (result : Except Fault Entries) : result.map id = result := by
      cases result <;> rfl
    simp only [hservice, decide_true, Bool.not_true, Bool.false_eq_true, if_false, Option.map_id']
    rw [← hservice, hself, hid]
  · have hmap : mapSection f kind = mapOptions f := by
      funext entries
      rw [mapSection, if_neg hservice]
    simp only [hservice, decide_false, Bool.not_false, if_true, hmap]
    cases Yaml.lookup kind.sectionName root with
    | none => rfl
    | some value =>
      cases value with
      | mapping entries =>
        rw [Option.map_some, mapStrings]
        exact entriesOf_mapEntries f kind entries
      | _ => rfl

theorem sectionsOf_mapRoot (root : List (Yaml × Yaml)) (kinds : List Kind) :
    sectionsOf (mapRoot f root) kinds = (sectionsOf root kinds).map (mapSections f) := by
  induction kinds with
  | nil => rfl
  | cons kind rest ih =>
    rw [sectionsOf, sectionsOf, sectionOf_mapRoot, ih]
    cases sectionOf root kind with
    | error fault => rfl
    | ok entries =>
      cases sectionsOf root rest with
      | error fault => rfl
      | ok sections => rfl

theorem sections_mapDocument (document : Yaml) :
    sections (mapDocument f document) = (sections document).map (mapSections f) := by
  cases document with
  | mapping root =>
    have hunknown : ((mapRoot f root).find? fun (key, _) ↦ !isSectionName key).map (·.1) =
        (root.find? fun (key, _) ↦ !isSectionName key).map (·.1) := by
      rw [mapRoot, List.find?_map, Option.map_map]
      rfl
    rw [mapDocument]
    unfold sections
    dsimp only
    rw [sectionsOf_mapRoot]
    cases hfind : root.find? fun (key, _) ↦ !isSectionName key with
    | none =>
      rw [hfind, Option.map_none, Option.map_eq_none_iff] at hunknown
      rw [hunknown]
    | some entry =>
      rw [hfind, Option.map_some, Option.map_eq_some_iff] at hunknown
      obtain ⟨found, hfound, hkey⟩ := hunknown
      rw [hfound]
      exact congrArg (fun key ↦ Except.error (Fault.unknownKey key)) hkey
  | null => exact (sectionsOf_mapRoot f [] order)
  | _ => rfl

end Sections

end ClusterPlan.Document
