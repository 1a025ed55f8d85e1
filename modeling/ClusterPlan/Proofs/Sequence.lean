import ClusterPlan.Proofs.Except
import Mathlib.Data.List.Forall2
import Mathlib.Data.List.Nodup

/-!
# The same step with every member of a list

A step taken with every member of a list succeeds when each of them lets it, with their results in
order. Otherwise it fails as it does with the first member that does not.

Where the members have keys of their own, a search for a key finds the one member that has it.
-/

namespace ClusterPlan

variable {ε α β γ : Type}

section Forall₂

variable {R : α → β → Prop} {as : List α} {bs : List β}

theorem exists_right_of_forall₂ (h : List.Forall₂ R as bs) {a : α} (ha : a ∈ as) :
    ∃ b ∈ bs, R a b := by
  induction h with
  | nil => exact absurd ha List.not_mem_nil
  | cons hab _ ih =>
    rcases List.mem_cons.mp ha with rfl | ha
    · exact ⟨_, .head _, hab⟩
    · obtain ⟨b, hb, hrel⟩ := ih ha
      exact ⟨b, .tail _ hb, hrel⟩

theorem exists_left_of_forall₂ (h : List.Forall₂ R as bs) {b : β} (hb : b ∈ bs) :
    ∃ a ∈ as, R a b :=
  exists_right_of_forall₂ h.flip hb

theorem forall₂_congr_of_mem {S : α → β → Prop} (h : ∀ a ∈ as, ∀ b, R a b ↔ S a b) :
    List.Forall₂ R as bs ↔ List.Forall₂ S as bs := by
  induction as generalizing bs with
  | nil => rw [List.forall₂_nil_left_iff, List.forall₂_nil_left_iff]
  | cons a as ih =>
    rw [List.forall₂_cons_left_iff, List.forall₂_cons_left_iff]
    simp only [h a List.mem_cons_self, ih fun a' ha' ↦ h a' (List.mem_cons_of_mem a ha')]

end Forall₂

/-- The first member of a list that has a property. -/
structure IsFirst (p : α → Prop) (as : List α) (a : α) : Prop where
  holds : p a
  exists_split : ∃ before after, as = before ++ a :: after ∧ ∀ b ∈ before, ¬p b

section IsFirst

variable {p : α → Prop} {a b : α} {as : List α}

theorem not_isFirst_nil : ¬IsFirst p [] a := by
  rintro ⟨-, before, after, hsplit, -⟩
  simp at hsplit

theorem isFirst_cons_of_pos (hb : p b) : IsFirst p (b :: as) a ↔ b = a := by
  constructor
  · rintro ⟨-, before, after, hsplit, hbefore⟩
    cases before with
    | nil => exact (List.cons.inj hsplit).1
    | cons c before =>
      obtain ⟨rfl, -⟩ := List.cons.inj hsplit
      exact absurd hb (hbefore b List.mem_cons_self)
  · rintro rfl
    exact ⟨hb, [], as, rfl, by simp⟩

theorem isFirst_cons_of_neg (hb : ¬p b) : IsFirst p (b :: as) a ↔ IsFirst p as a := by
  constructor
  · rintro ⟨ha, before, after, hsplit, hbefore⟩
    cases before with
    | nil =>
      obtain ⟨rfl, -⟩ := List.cons.inj hsplit
      exact absurd ha hb
    | cons c before =>
      obtain ⟨-, htail⟩ := List.cons.inj hsplit
      exact ⟨ha, before, after, htail, fun d hd ↦ hbefore d (List.mem_cons_of_mem c hd)⟩
  · rintro ⟨ha, before, after, rfl, hbefore⟩
    exact ⟨ha, b :: before, after, rfl, List.forall_mem_cons.mpr ⟨hb, hbefore⟩⟩

theorem IsFirst.mem (h : IsFirst p as a) : a ∈ as := by
  obtain ⟨before, after, rfl, -⟩ := h.exists_split
  simp

theorem IsFirst.unique (ha : IsFirst p as a) (hb : IsFirst p as b) : a = b := by
  induction as with
  | nil => exact absurd ha not_isFirst_nil
  | cons c as ih =>
    by_cases hc : p c
    · rw [isFirst_cons_of_pos hc] at ha hb
      exact ha.symm.trans hb
    · rw [isFirst_cons_of_neg hc] at ha hb
      exact ih ha hb

/-- What fits less of the members and still the first of them fits none before it. -/
theorem IsFirst.of_imp {q : α → Prop} (h : IsFirst p as a) (ha : q a) (hq : ∀ b, q b → p b) :
    IsFirst q as a := by
  obtain ⟨before, after, hsplit, hbefore⟩ := h.exists_split
  exact ⟨ha, before, after, hsplit, fun b hb hqb ↦ hbefore b hb (hq b hqb)⟩

theorem isFirst_append {bs : List α} :
    IsFirst p (as ++ bs) a ↔ IsFirst p as a ∨ (∀ c ∈ as, ¬p c) ∧ IsFirst p bs a := by
  induction as with
  | nil => simp [not_isFirst_nil]
  | cons c as ih =>
    rw [List.cons_append, List.forall_mem_cons]
    by_cases hc : p c
    · simp [isFirst_cons_of_pos hc, hc]
    · simp [isFirst_cons_of_neg hc, hc, ih]

theorem exists_isFirst (h : ∃ a ∈ as, p a) : ∃ a, IsFirst p as a := by
  induction as with
  | nil => simp at h
  | cons c as ih =>
    by_cases hc : p c
    · exact ⟨c, (isFirst_cons_of_pos hc).mpr rfl⟩
    · obtain ⟨a, ha, hpa⟩ := h
      have hmem : a ∈ as := (List.mem_cons.mp ha).resolve_left fun heq ↦ hc (heq ▸ hpa)
      obtain ⟨b, hb⟩ := ih ⟨a, hmem, hpa⟩
      exact ⟨b, (isFirst_cons_of_neg hc).mpr hb⟩

end IsFirst

/-! ### Steps that may fail -/

def FailsAt (f : α → Except ε β) (a : α) : Prop := ∃ e, f a = .error e

section mapM

variable {f : α → Except ε β} {as : List α} {a : α}

theorem not_failsAt_of_eq_ok {b : β} (h : f a = .ok b) : ¬FailsAt f a := by
  rintro ⟨e, he⟩
  cases h.symm.trans he

theorem not_failsAt_iff : ¬FailsAt f a ↔ ∃ b, f a = .ok b := by
  constructor
  · intro h
    cases hfa : f a with
    | ok b => exact ⟨b, rfl⟩
    | error e => exact absurd ⟨e, hfa⟩ h
  · rintro ⟨b, hb⟩
    exact not_failsAt_of_eq_ok hb

theorem mapM_eq_ok_iff {bs : List β} :
    as.mapM f = .ok bs ↔ List.Forall₂ (fun a b ↦ f a = .ok b) as bs := by
  induction as generalizing bs with
  | nil =>
    have hnil : ([] : List α).mapM f = .ok [] := List.mapM_nil
    rw [hnil, List.forall₂_nil_left_iff, Except.ok.injEq, eq_comm]
  | cons a as ih =>
    rw [List.mapM_cons, Except.bind_eq_ok_iff, List.forall₂_cons_left_iff]
    simp only [Except.bind_eq_ok_iff, ih]
    constructor
    · rintro ⟨b, hb, bs, hbs, heq⟩
      exact ⟨b, bs, hb, hbs, (Except.ok.inj heq).symm⟩
    · rintro ⟨b, bs, hb, hbs, rfl⟩
      exact ⟨b, hb, bs, hbs, rfl⟩

theorem mapM_eq_error_iff {e : ε} :
    as.mapM f = .error e ↔ ∃ a, IsFirst (FailsAt f) as a ∧ f a = .error e := by
  induction as with
  | nil =>
    rw [List.mapM_nil]
    constructor
    · intro h
      cases h
    · rintro ⟨a, ha, -⟩
      exact absurd ha not_isFirst_nil
  | cons a as ih =>
    rw [List.mapM_cons]
    cases hfa : f a with
    | error e' =>
      have hfails : FailsAt f a := ⟨e', hfa⟩
      have hhead : (Except.error e' >>= fun b ↦ as.mapM f >>= fun bs ↦ pure (b :: bs)) =
          .error e' := rfl
      simp only [hhead, isFirst_cons_of_pos hfails, exists_eq_left', hfa, Except.error.injEq]
    | ok b =>
      have hrest : (Except.ok b >>= fun b ↦ as.mapM f >>= fun bs ↦ pure (b :: bs)) =
          (as.mapM f).map (b :: ·) := rfl
      simp only [hrest, Except.map_eq_error_iff, ih, isFirst_cons_of_neg (not_failsAt_of_eq_ok hfa)]

theorem exists_mapM_eq_ok_iff : (∃ bs, as.mapM f = .ok bs) ↔ ∀ a ∈ as, ¬FailsAt f a := by
  constructor
  · rintro ⟨bs, hbs⟩ a ha
    obtain ⟨b, -, hb⟩ := exists_right_of_forall₂ (mapM_eq_ok_iff.mp hbs) ha
    exact not_failsAt_of_eq_ok hb
  · intro h
    cases hf : as.mapM f with
    | ok bs => exact ⟨bs, rfl⟩
    | error e =>
      obtain ⟨a, hfirst, -⟩ := mapM_eq_error_iff.mp hf
      exact absurd hfirst.holds (h a hfirst.mem)

/-- Two steps in one pass, where the first of them succeeds with all members. -/
theorem mapM_bind_of_mapM_eq_ok {g : β → Except ε γ} {bs : List β} (h : as.mapM f = .ok bs) :
    as.mapM (fun a ↦ f a >>= g) = bs.mapM g := by
  rw [mapM_eq_ok_iff] at h
  induction h with
  | nil => rfl
  | cons hab _ ih =>
    rw [List.mapM_cons, List.mapM_cons, ih, hab]
    rfl

theorem mapM_bind_eq_ok_iff {g : β → Except ε γ} {cs : List γ} :
    as.mapM (fun a ↦ f a >>= g) = .ok cs ↔ ∃ bs, as.mapM f = .ok bs ∧ bs.mapM g = .ok cs := by
  constructor
  · intro h
    have hnone : ∀ a ∈ as, ¬FailsAt f a := by
      rintro a ha ⟨e, he⟩
      exact exists_mapM_eq_ok_iff.mp ⟨cs, h⟩ a ha ⟨e, by simp only [he]; rfl⟩
    obtain ⟨bs, hbs⟩ := exists_mapM_eq_ok_iff.mpr hnone
    exact ⟨bs, hbs, mapM_bind_of_mapM_eq_ok hbs ▸ h⟩
  · rintro ⟨bs, hbs, hcs⟩
    rw [mapM_bind_of_mapM_eq_ok hbs, hcs]

end mapM

section mapMOption

variable {f : α → Option β} {as : List α}

theorem mapM_eq_some_iff {bs : List β} :
    as.mapM f = some bs ↔ List.Forall₂ (fun a b ↦ f a = some b) as bs := by
  induction as generalizing bs with
  | nil => simp [eq_comm]
  | cons a as ih =>
    simp only [List.mapM_cons, Option.bind_eq_bind, Option.bind_eq_some_iff, ih,
      List.forall₂_cons_left_iff, Option.pure_def, Option.some.injEq]
    constructor
    · rintro ⟨b, hb, bs, hbs, heq⟩
      exact ⟨b, bs, hb, hbs, heq.symm⟩
    · rintro ⟨b, bs, hb, hbs, rfl⟩
      exact ⟨b, hb, bs, hbs, rfl⟩

theorem exists_mapM_eq_some_iff :
    (∃ bs, as.mapM f = some bs) ↔ ∀ a ∈ as, ∃ b, f a = some b := by
  simp only [mapM_eq_some_iff]
  constructor
  · rintro ⟨bs, hbs⟩ a ha
    obtain ⟨b, -, hb⟩ := exists_right_of_forall₂ hbs ha
    exact ⟨b, hb⟩
  · intro h
    induction as with
    | nil => exact ⟨[], .nil⟩
    | cons a as ih =>
      rw [List.forall_mem_cons] at h
      obtain ⟨⟨b, hb⟩, hrest⟩ := h
      obtain ⟨bs, hbs⟩ := ih hrest
      exact ⟨b :: bs, .cons hb hbs⟩

end mapMOption

/-! ### Keys -/

theorem lookup_cons_eq_ite [BEq α] [LawfulBEq α] [DecidableEq α] {key other : α} {value : β}
    (entries : List (α × β)) :
    ((key, value) :: entries).lookup other =
      if other = key then some value else entries.lookup other := by
  rw [List.lookup_cons]
  by_cases h : other = key
  · rw [if_pos h, h, beq_self_eq_true]
  · rw [if_neg h, beq_eq_false_iff_ne.mpr h]

/-- The entry of a key gives way to another of the same key. -/
theorem lookup_cons_replace [BEq α] [LawfulBEq α] [DecidableEq α] {key other : α} {value : β}
    (old : β) (entries : List (α × β)) :
    ((key, value) :: entries).lookup other =
      if other = key then some value else ((key, old) :: entries).lookup other := by
  rw [lookup_cons_eq_ite, lookup_cons_eq_ite]
  split <;> rfl

/-- An entry of another key stands before those among which one is put. -/
theorem lookup_cons_of_ne [BEq α] [LawfulBEq α] [DecidableEq α] {first key other : α} {value : β}
    {before after : List (α × β)} (hfirst : first ≠ key)
    (h : after.lookup other = if other = key then some value else before.lookup other) (v : β) :
    ((first, v) :: after).lookup other =
      if other = key then some value else ((first, v) :: before).lookup other := by
  rw [lookup_cons_eq_ite, lookup_cons_eq_ite, h]
  by_cases hother : other = first
  · rw [if_pos hother, if_pos hother, if_neg fun hkey ↦ hfirst (hother.symm.trans hkey)]
  · rw [if_neg hother, if_neg hother]

theorem find?_eq_some_iff_of_nodup [BEq β] [LawfulBEq β] {key : α → β} {as : List α}
    (h : (as.map key).Nodup) {b : β} {a : α} :
    as.find? (key · == b) = some a ↔ a ∈ as ∧ key a = b := by
  constructor
  · intro hfound
    exact ⟨List.mem_of_find?_eq_some hfound, by simpa using List.find?_some hfound⟩
  · rintro ⟨ha, rfl⟩
    have hsome : (as.find? (key · == key a)).isSome = true :=
      List.find?_isSome.mpr ⟨a, ha, beq_self_eq_true _⟩
    obtain ⟨found, hfound⟩ := Option.isSome_iff_exists.mp hsome
    have hkey : key found = key a := by simpa using List.find?_some hfound
    rw [hfound, List.inj_on_of_nodup_map h (List.mem_of_find?_eq_some hfound) ha hkey]

/-- A search for each of some keys that are all there finds one member for each key, in the order of
the keys. -/
theorem forall₂_filterMap_find? [BEq β] [LawfulBEq β] {key : α → β} {as : List α} {keys : List β}
    (h : ∀ b ∈ keys, ∃ a ∈ as, key a = b) :
    List.Forall₂ (fun b a ↦ a ∈ as ∧ key a = b) keys
      (keys.filterMap fun b ↦ as.find? (key · == b)) := by
  induction keys with
  | nil => exact .nil
  | cons b rest ih =>
    obtain ⟨hb, hrest⟩ := List.forall_mem_cons.mp h
    have hsome : (as.find? (key · == b)).isSome := by simpa using hb
    obtain ⟨a, hfound⟩ := Option.isSome_iff_exists.mp hsome
    simp only [List.filterMap_cons, hfound]
    exact .cons ⟨List.mem_of_find?_eq_some hfound, by simpa using List.find?_some hfound⟩ (ih hrest)

/-- What is found first in a list is found at a position, and at no position before. -/
theorem exists_getElem?_of_findSome? {f : α → Option β} {as : List α} {b : β}
    (h : as.findSome? f = some b) :
    ∃ (i : ℕ) (a : α), as[i]? = some a ∧ f a = some b ∧
      ∀ j < i, ∀ a', as[j]? = some a' → f a' = none := by
  obtain ⟨before, a, after, rfl, ha, hbefore⟩ := List.findSome?_eq_some_iff.mp h
  refine ⟨before.length, a, by simp, ha, fun j hj a' ha' ↦ hbefore a' ?_⟩
  rw [List.getElem?_append_left hj] at ha'
  exact List.mem_of_getElem? ha'

end ClusterPlan
