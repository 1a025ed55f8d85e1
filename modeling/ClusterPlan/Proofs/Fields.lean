import ClusterPlan.Json.Basic
import ClusterPlan.Proofs.Sequence
import Mathlib.Data.String.Basic

/-!
# Fields in order of their names

Fields whose names are in order are a mapping: a name is looked up as the one value that stands
under it. A field that is inserted is found under its name, and all else is found as before. So it
is with a row of insertions, if their names are all different, in whatever order they are made.
-/

namespace ClusterPlan

variable {α : Type} {name : String} {value : α} {fields : List (String × α)}

/-- The names are in order, and so no two of them are the same. -/
def InOrder (fields : List (String × α)) : Prop := fields.Pairwise fun a b ↦ a.1 < b.1

theorem InOrder.nodup (h : InOrder fields) : (fields.map Prod.fst).Nodup :=
  List.pairwise_map.mpr (h.imp fun hlt ↦ ne_of_lt hlt)

theorem lookup_eq_none_iff_notMem : fields.lookup name = none ↔ name ∉ fields.map Prod.fst := by
  simp only [List.lookup_eq_none_iff, List.mem_map, bne_iff_ne, not_exists, not_and]
  exact forall₂_congr fun field _ ↦ ne_comm

theorem lookup_eq_some_iff_of_nodup (h : (fields.map Prod.fst).Nodup) :
    fields.lookup name = some value ↔ (name, value) ∈ fields := by
  induction fields with
  | nil => simp
  | cons field rest ih =>
    obtain ⟨first, v⟩ := field
    obtain ⟨hfresh, hrest⟩ := List.nodup_cons.mp h
    rw [lookup_cons_eq_ite, List.mem_cons, Prod.mk.injEq]
    by_cases hname : name = first
    · subst hname
      have hnone : (name, value) ∉ rest :=
        fun hmem ↦ hfresh (List.mem_map.mpr ⟨(name, value), hmem, rfl⟩)
      simp [hnone, eq_comm]
    · simp [hname, ih hrest]

/-- Where each value is answered by its own step, a name is looked up as what its value is answered
by. -/
theorem lookup_zip_eq_some_iff {ε β : Type} {f : α → Except ε β} {answers : List β} {answer : β}
    (h : List.Forall₂ (fun value answer ↦ f value = .ok answer) (fields.map Prod.snd) answers) :
    ((fields.map Prod.fst).zip answers).lookup name = some answer ↔
      ∃ value, fields.lookup name = some value ∧ f value = .ok answer := by
  induction fields generalizing answers with
  | nil => simp
  | cons field rest ih =>
    obtain ⟨first, value⟩ := field
    obtain ⟨answered, others, hanswered, hothers, rfl⟩ := List.forall₂_cons_left_iff.mp h
    rw [List.map_cons, List.zip_cons_cons, lookup_cons_eq_ite, lookup_cons_eq_ite]
    by_cases hname : name = first
    · simp [hname, hanswered]
    · simp [hname, ih hothers]

/-! ### Insertions -/

theorem lookup_insertSorted (name : String) (value : α) (fields : List (String × α))
    (other : String) :
    (insertSorted name value fields).lookup other =
      if other = name then some value else fields.lookup other := by
  induction fields with
  | nil => exact lookup_cons_eq_ite []
  | cons field rest ih =>
    obtain ⟨first, v⟩ := field
    rw [insertSorted]
    split
    next => exact lookup_cons_eq_ite _
    next =>
      split
      next hsame => exact hsame ▸ lookup_cons_replace v rest
      next hother => exact lookup_cons_of_ne (Ne.symm hother) ih v

theorem mem_insertSorted {field : String × α} (h : field ∈ insertSorted name value fields) :
    field = (name, value) ∨ field ∈ fields := by
  induction fields with
  | nil => exact .inl (List.mem_singleton.mp h)
  | cons first rest ih =>
    rw [insertSorted] at h
    split at h
    next => exact List.mem_cons.mp h
    next =>
      split at h
      next => exact (List.mem_cons.mp h).imp_right (List.mem_cons_of_mem first)
      next =>
        rcases List.mem_cons.mp h with rfl | h
        · exact .inr List.mem_cons_self
        · exact (ih h).imp_right (List.mem_cons_of_mem first)

theorem mem_names_insertSorted {other : String} :
    other ∈ (insertSorted name value fields).map Prod.fst ↔
      other = name ∨ other ∈ fields.map Prod.fst := by
  rw [← not_iff_not, not_or, ← lookup_eq_none_iff_notMem, ← lookup_eq_none_iff_notMem,
    lookup_insertSorted]
  split
  next hname => simp [hname]
  next hname => simp [hname]

theorem inOrder_insertSorted (h : InOrder fields) (name : String) (value : α) :
    InOrder (insertSorted name value fields) := by
  induction fields with
  | nil => exact List.pairwise_singleton _ _
  | cons field rest ih =>
    obtain ⟨first, v⟩ := field
    obtain ⟨hfirst, hrest⟩ := List.pairwise_cons.mp h
    rw [insertSorted]
    split
    next hbefore =>
      refine List.pairwise_cons.mpr ⟨?_, h⟩
      rintro field (_ | ⟨_, hfield⟩)
      · exact hbefore
      · exact hbefore.trans (hfirst field hfield)
    next hbefore =>
      split
      next hsame => exact List.pairwise_cons.mpr ⟨hsame ▸ hfirst, hrest⟩
      next hother =>
        refine List.pairwise_cons.mpr ⟨fun field hfield ↦ ?_, ih hrest⟩
        rcases mem_insertSorted hfield with rfl | hfield
        · exact lt_of_le_of_ne (not_lt.mp hbefore) (Ne.symm hother)
        · exact hfirst field hfield

/-- What is inserted field by field lies over what was there. -/
theorem lookup_foldl_insertSorted {upper : List (String × α)} (h : (upper.map Prod.fst).Nodup)
    (fields : List (String × α)) (name : String) :
    (upper.foldl (fun merged (key, value) ↦ insertSorted key value merged) fields).lookup name =
      (upper.lookup name).or (fields.lookup name) := by
  induction upper generalizing fields with
  | nil => rfl
  | cons field rest ih =>
    obtain ⟨first, v⟩ := field
    obtain ⟨hfresh, hrest⟩ := List.nodup_cons.mp h
    rw [List.foldl_cons, ih hrest, lookup_insertSorted, lookup_cons_eq_ite]
    by_cases hname : name = first
    · have hnone : rest.lookup name = none := lookup_eq_none_iff_notMem.mpr (hname ▸ hfresh)
      rw [if_pos hname, if_pos hname, hnone]
      rfl
    · rw [if_neg hname, if_neg hname]

theorem inOrder_foldl_insertSorted (h : InOrder fields) (upper : List (String × α)) :
    InOrder (upper.foldl (fun merged (key, value) ↦ insertSorted key value merged) fields) := by
  induction upper generalizing fields with
  | nil => exact h
  | cons field rest ih => exact ih (inOrder_insertSorted h field.1 field.2)

theorem inOrder_sortFields (fields : List (String × α)) : InOrder (sortFields fields) :=
  inOrder_foldl_insertSorted List.Pairwise.nil fields

/-- Sorting leaves out no name, and adds none. -/
theorem mem_names_sortFields :
    name ∈ (sortFields fields).map Prod.fst ↔ name ∈ fields.map Prod.fst := by
  have hfold (sorted : List (String × α)) :
      name ∈ (fields.foldl (fun sorted (k, v) ↦ insertSorted k v sorted) sorted).map Prod.fst ↔
        name ∈ fields.map Prod.fst ∨ name ∈ sorted.map Prod.fst := by
    induction fields generalizing sorted with
    | nil => simp
    | cons field rest ih =>
      rw [List.foldl_cons, ih, mem_names_insertSorted, List.map_cons, List.mem_cons, or_assoc,
        or_left_comm]
  exact (hfold []).trans (by simp)

theorem mem_sortFields_iff (h : (fields.map Prod.fst).Nodup) :
    (name, value) ∈ sortFields fields ↔ (name, value) ∈ fields := by
  have hlookup : (sortFields fields).lookup name = (fields.lookup name).or none :=
    lookup_foldl_insertSorted h [] name
  rw [← lookup_eq_some_iff_of_nodup (inOrder_sortFields fields).nodup, hlookup, Option.or_none,
    lookup_eq_some_iff_of_nodup h]

end ClusterPlan
