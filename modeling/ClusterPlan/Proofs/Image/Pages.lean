import ClusterPlan.Image.Pages
import ClusterPlan.Proofs.Activity
import ClusterPlan.Proofs.Sequence
import Mathlib.Order.Lattice.Nat
import Mathlib.Order.Bounds.Basic

/-!
# Listings that end

A listing ends with the first of its pages that fails or is not full. All pages up to that one are
asked for, each once and in their order, and no other. If the last of them is there, the listing
has the items of all of them in order; otherwise it fails as the last one does.

Nothing is said of a listing all of whose pages are full.
-/

namespace ClusterPlan.Pages

open Activity (log_andThen log_andThen_of_eq_error result_andThen)

variable {κ ε α : Type}

/-- What each page answers, and after how many waits. No page is asked for twice, so the number of
a page settles what it answers. -/
structure Source (ε α : Type) where
  waits : ℕ → ℕ
  answer : ℕ → Except ε (List α)

namespace Source

/-- Every request for a page is recorded by its number. -/
def fetch (source : Source ε α) (page : ℕ) : Activity ℕ ε (List α) :=
  .call page (source.waits page) (source.answer page)

/-- Nothing more is asked for behind such a page. -/
inductive EndsAt (source : Source ε α) (page : ℕ) : Prop
  | failed {e : ε} (h : source.answer page = .error e) : EndsAt source page
  | short {items : List α} (h : source.answer page = .ok items) (hshort : items.length < size) :
      EndsAt source page

/-- The numbers that a page can have, of the pages that end the listing. -/
def ends (source : Source ε α) : Set ℕ :=
  {page | 1 ≤ page ∧ page ≤ lastNumber ∧ source.EndsAt page}

/-- The listing ends with a page: it has been asked for after all pages before it, and nothing after
it, and its answer settles what the listing comes to. -/
structure EndsWith (source : Source ε α) (last : ℕ) : Prop where
  asked : (collect source.fetch).log = List.range' 1 last
  complete : ∀ items, source.answer last = .ok items → ∃ pages : List (List α),
    List.Forall₂ (fun page items ↦ source.answer page = .ok items) (List.range' 1 last) pages ∧
      (collect source.fetch).result = .ok pages.flatten
  failure : ∀ e, source.answer last = .error e → (collect source.fetch).result = .error e

end Source

/-! ### One page -/

section Step

variable {fetch : ℕ → Activity κ ε (List α)} {page left : ℕ} {items : List α}

/-- A page that is full is followed by those behind it. -/
theorem log_collectFrom_of_full (h : (fetch page).result = .ok items)
    (hfull : size ≤ items.length) :
    (collectFrom fetch page (left + 1)).log =
      (fetch page).log ++ (collectFrom fetch (page + 1) left).log := by
  rw [collectFrom, log_andThen h, if_neg (not_lt.mpr hfull)]
  exact congrArg _ (Activity.log_andThen_of_silent _ fun _ ↦ rfl)

theorem result_collectFrom_of_full (h : (fetch page).result = .ok items)
    (hfull : size ≤ items.length) :
    (collectFrom fetch page (left + 1)).result =
      (collectFrom fetch (page + 1) left).result.map (items ++ ·) := by
  rw [collectFrom, result_andThen, h]
  change (if items.length < size then _ else _ : Activity κ ε (List α)).result = _
  rw [if_neg (not_lt.mpr hfull), result_andThen]
  rfl

/-- A page that fails or is not full is all there is. -/
theorem collectFrom_of_end (h : ∀ items, (fetch page).result = .ok items → items.length < size) :
    collectFrom fetch page (left + 1) = fetch page := by
  calc
    _ = (fetch page).andThen pure := by
      unfold collectFrom Activity.andThen
      cases hresult : (fetch page).result with
      | error e => rfl
      | ok items => simp only [if_pos (h items hresult)]
    _ = fetch page := Activity.andThen_pure _

end Step

/-! ### All pages up to the end -/

/-- From a page on, so many full ones stand before one that fails or is not full. -/
inductive EndsAfter (fetch : ℕ → Activity κ ε (List α)) : (page full : ℕ) → Prop
  | here {page : ℕ} (h : ∀ items, (fetch page).result = .ok items → items.length < size) :
      EndsAfter fetch page 0
  | later {page full : ℕ} {items : List α} (h : (fetch page).result = .ok items)
      (hfull : size ≤ items.length) (rest : EndsAfter fetch (page + 1) full) :
      EndsAfter fetch page (full + 1)

section Run

variable {fetch : ℕ → Activity κ ε (List α)} {page full : ℕ}

/-- The calls are those of all pages up to the end, page by page. -/
theorem EndsAfter.log_collectFrom (h : EndsAfter fetch page full) (left : ℕ) :
    (collectFrom fetch page (full + 1 + left)).log =
      (List.range' page (full + 1)).flatMap fun page ↦ (fetch page).log := by
  induction h with
  | here hend =>
    rw [zero_add, add_comm, collectFrom_of_end hend, List.range'_one, List.flatMap_singleton]
  | @later page full items hitems hfull _ ih =>
    have hrange : List.range' page (full + 1 + 1) = page :: List.range' (page + 1) (full + 1) :=
      List.range'_succ
    rw [add_right_comm, log_collectFrom_of_full hitems hfull, ih, hrange, List.flatMap_cons]

/-- The listing comes to what its pages come to one after the other. -/
theorem EndsAfter.result_collectFrom (h : EndsAfter fetch page full) (left : ℕ) :
    (collectFrom fetch page (full + 1 + left)).result =
      ((List.range' page (full + 1)).mapM fun page ↦ (fetch page).result).map List.flatten := by
  induction h with
  | @here page hend =>
    rw [zero_add, add_comm, collectFrom_of_end hend, List.range'_one, List.mapM_cons]
    cases (fetch page).result with
    | error e => rfl
    | ok items => exact congrArg Except.ok (List.append_nil items).symm
  | @later page full items hitems hfull _ ih =>
    have hrange : List.range' page (full + 1 + 1) = page :: List.range' (page + 1) (full + 1) :=
      List.range'_succ
    rw [add_right_comm, result_collectFrom_of_full hitems hfull, ih, hrange, List.mapM_cons, hitems]
    cases (List.range' (page + 1) (full + 1)).mapM fun page ↦ (fetch page).result with
    | error e => rfl
    | ok pages => rfl

end Run

/-! ### Sources -/

namespace Source

variable {source : Source ε α} {page last : ℕ}

theorem exists_of_not_endsAt (h : ¬source.EndsAt page) :
    ∃ items, source.answer page = .ok items ∧ size ≤ items.length := by
  cases hanswer : source.answer page with
  | error e => exact absurd (.failed hanswer) h
  | ok items => exact ⟨items, rfl, not_lt.mp fun hshort ↦ h (.short hanswer hshort)⟩

theorem EndsAt.length_lt (h : source.EndsAt page) {items : List α}
    (hitems : source.answer page = .ok items) : items.length < size := by
  cases h with
  | failed herror => cases hitems.symm.trans herror
  | short hother hshort => exact Except.ok.inj (hother.symm.trans hitems) ▸ hshort

section IsLeast

variable (h : IsLeast source.ends last)
include h

/-- The pages before the first that ends a listing are full. -/
theorem exists_of_lt_first (hpage : 1 ≤ page) (hlt : page < last) :
    ∃ items, source.answer page = .ok items ∧ size ≤ items.length := by
  refine exists_of_not_endsAt fun hends ↦ ?_
  have hle : last ≤ page := h.2 ⟨hpage, hlt.le.trans h.1.2.1, hends⟩
  exact absurd hlt (not_lt.mpr hle)

theorem endsAfter_first (hpage : 1 ≤ page) {full : ℕ} (hlast : page + full = last) :
    EndsAfter source.fetch page full := by
  induction full generalizing page with
  | zero =>
    obtain rfl : page = last := hlast
    exact .here fun items hitems ↦ h.1.2.2.length_lt hitems
  | succ full ih =>
    obtain ⟨items, hitems, hfull⟩ := exists_of_lt_first h hpage (by omega)
    exact .later hitems hfull (ih (Nat.le_succ_of_le hpage) (by omega))

theorem not_failsAt_of_lt_first : ∀ page ∈ List.range' 1 (last - 1),
    ¬FailsAt source.answer page := by
  intro page hpage
  obtain ⟨hone, hlt⟩ := List.mem_range'_1.mp hpage
  obtain ⟨items, hitems, -⟩ := exists_of_lt_first h hone (by omega)
  exact not_failsAt_of_eq_ok hitems

theorem range'_first : List.range' 1 last = List.range' 1 (last - 1) ++ [last] := by
  have hpos : 1 ≤ last := h.1.1
  obtain ⟨full, rfl⟩ := Nat.exists_eq_add_of_le' hpos
  rw [Nat.add_sub_cancel, List.range'_1_concat, add_comm]

theorem endsWith_of_isLeast : source.EndsWith last := by
  have hpos : 1 ≤ last := h.1.1
  have hbound : last ≤ lastNumber := h.1.2.1
  have hend : EndsAfter source.fetch 1 (last - 1) := endsAfter_first h le_rfl (by omega)
  have hleft : last - 1 + 1 + (lastNumber - last) = lastNumber := by omega
  have hlast : last - 1 + 1 = last := by omega
  -- Of all the pages that may be asked for, those behind the last one are what is left over.
  have hresult : (collect source.fetch).result =
      ((List.range' 1 last).mapM source.answer).map List.flatten := by
    have hrun := hend.result_collectFrom (lastNumber - last)
    rwa [hleft, hlast] at hrun
  constructor
  · have hrun := hend.log_collectFrom (lastNumber - last)
    rw [hleft, hlast] at hrun
    exact hrun.trans (List.flatMap_singleton' _)
  · intro items hitems
    have hnone : ∀ page ∈ List.range' 1 last, ¬FailsAt source.answer page := by
      rw [range'_first h, List.forall_mem_append, List.forall_mem_singleton]
      exact ⟨not_failsAt_of_lt_first h, not_failsAt_of_eq_ok hitems⟩
    obtain ⟨pages, hpages⟩ := exists_mapM_eq_ok_iff.mpr hnone
    refine ⟨pages, mapM_eq_ok_iff.mp hpages, ?_⟩
    rw [hresult, hpages]
    rfl
  · intro e herror
    have hfirst : IsFirst (FailsAt source.answer) (List.range' 1 last) last :=
      ⟨⟨e, herror⟩, _, [], range'_first h, not_failsAt_of_lt_first h⟩
    rw [hresult, mapM_eq_error_iff.mpr ⟨last, hfirst, herror⟩]
    rfl

end IsLeast

/-- If a listing ends at all, it ends with the first page that fails or is not full. -/
theorem endsWith_first (h : source.ends.Nonempty) :
    ∃ last, IsLeast source.ends last ∧ source.EndsWith last := by
  have hleast : IsLeast source.ends (sInf source.ends) := ⟨Nat.sInf_mem h, fun _ ↦ Nat.sInf_le⟩
  exact ⟨_, hleast, endsWith_of_isLeast hleast⟩

/-! ### A listing of full pages -/

/-- So many full pages, and behind them only empty ones. -/
def ofFull (pages : ℕ) : Source String ℕ where
  waits page := page
  answer page := .ok (if page ≤ pages then List.replicate size page else [])

theorem isLeast_ends_ofFull {pages : ℕ} (h : pages < lastNumber) :
    IsLeast (ofFull pages).ends (pages + 1) := by
  have hafter : (ofFull pages).answer (pages + 1) = .ok [] := by simp [ofFull]
  refine ⟨⟨Nat.le_add_left 1 pages, h, .short hafter (by decide)⟩, ?_⟩
  rintro page ⟨-, -, hends⟩
  by_contra hle
  have hfull : (ofFull pages).answer page = .ok (List.replicate size page) := by
    simp [ofFull, show page ≤ pages by omega]
  exact absurd (hends.length_lt hfull) (by simp)

/-- Where no page is partly full, an empty page has to be asked for. -/
theorem endsWith_first_ofFull :
    (ofFull 2).ends.Nonempty ∧ (collect (ofFull 2).fetch).log = [1, 2, 3] ∧
      (collect (ofFull 2).fetch).result =
        .ok (List.replicate size 1 ++ List.replicate size 2) := by
  have hleast : IsLeast (ofFull 2).ends 3 := isLeast_ends_ofFull (by decide)
  obtain ⟨last, hfirst, hends⟩ := endsWith_first hleast.nonempty
  obtain rfl := hfirst.unique hleast
  obtain ⟨pages, hpages, hresult⟩ := hends.complete [] rfl
  have hall : (.ok pages : Except String _) =
      .ok [List.replicate size 1, List.replicate size 2, []] :=
    (mapM_eq_ok_iff.mpr hpages).symm.trans rfl
  obtain rfl := Except.ok.inj hall
  exact ⟨hleast.nonempty, hends.asked, hresult⟩

end Source

end ClusterPlan.Pages
