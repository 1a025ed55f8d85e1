import ClusterPlan.Decimal.Reader

/-!
# Whole numbers read back

A whole number is read from its digits, with any number of zeros and perhaps a plus in front, and
from nothing else. So it is read back from the digits that it is written with, if it keeps to the
limit. Nothing is said of fractions.
-/

namespace ClusterPlan.Decimal

theorem digitInBase?_ten {c : Char} (h : c.isDigit) :
    digitInBase? 10 c = some (c.toNat - '0'.toNat) := by
  have hvalue : c.toNat - '0'.toNat < 10 := by
    obtain ⟨-, hnine⟩ := Char.isDigit_iff_toNat.mp h
    have hcodes : '0'.toNat = 48 ∧ '9'.toNat = 57 := ⟨rfl, rfl⟩
    omega
  unfold digitInBase?
  rw [if_pos h]
  exact Option.filter_some_pos (by simpa using hvalue)

/-- Digits are read on from what stands before them. -/
theorem foldlM_digits {cs : List Char} (h : ∀ c ∈ cs, c.isDigit) (before : Nat) :
    cs.foldlM (fun n c ↦ (digitInBase? 10 c).map (10 * n + ·)) before =
      some (Nat.ofDigitChars 10 cs before) := by
  induction cs generalizing before with
  | nil => rfl
  | cons c rest ih =>
    have hrest : ∀ d ∈ rest, d.isDigit := fun d hd ↦ h d (List.mem_cons_of_mem c hd)
    rw [List.foldlM_cons, digitInBase?_ten (h c (by simp)), Nat.ofDigitChars_cons]
    exact ih hrest _

/-- Only digits are read. -/
theorem isDigit_of_digitInBase? {c : Char} {value : Nat} (h : digitInBase? 10 c = some value) :
    c.isDigit := by
  obtain ⟨hvalue, hten⟩ := Option.filter_eq_some_iff.mp h
  have hlt : value < 10 := by simpa using hten
  have hcodes : 'a'.toNat = 97 ∧ 'A'.toNat = 65 := ⟨rfl, rfl⟩
  split at hvalue
  next hdigit => exact hdigit
  next =>
    -- The letters of greater bases stand for ten and more.
    split at hvalue
    next =>
      cases hvalue
      omega
    next =>
      split at hvalue
      next =>
        cases hvalue
        omega
      next => cases hvalue

theorem isDigit_of_foldlM {cs : List Char} {before n : Nat}
    (h : cs.foldlM (fun n c ↦ (digitInBase? 10 c).map (10 * n + ·)) before = some n) :
    ∀ c ∈ cs, c.isDigit := by
  induction cs generalizing before with
  | nil => exact nofun
  | cons c rest ih =>
    rw [List.foldlM_cons] at h
    obtain ⟨next, hnext, hrest⟩ := Option.bind_eq_some_iff.mp h
    obtain ⟨value, hvalue, -⟩ := Option.map_eq_some_iff.mp hnext
    exact List.forall_mem_cons.mpr ⟨isDigit_of_digitInBase? hvalue, ih hrest⟩

/-- A nonempty run of decimal digits. -/
structure IsDigits (cs : List Char) : Prop where
  ne_nil : cs ≠ []
  isDigit : ∀ c ∈ cs, c.isDigit

theorem readInBase?_eq_some_iff {cs : List Char} {n : Nat} :
    readInBase? 10 cs = some n ↔ IsDigits cs ∧ Nat.ofDigitChars 10 cs 0 = n := by
  unfold readInBase?
  split
  next hempty =>
    obtain rfl := List.isEmpty_iff.mp hempty
    exact iff_of_false (by simp) fun h ↦ h.1.ne_nil rfl
  next hne =>
    constructor
    · intro h
      have hdigits := isDigit_of_foldlM h
      rw [foldlM_digits hdigits] at h
      exact ⟨⟨by simpa using hne, hdigits⟩, Option.some.inj h⟩
    · rintro ⟨hdigits, rfl⟩
      exact foldlM_digits hdigits.isDigit 0

/-- The number is written by decimal digits, with any number of zeros and perhaps a plus in front. -/
def Writes (cs : List Char) (n : Nat) : Prop :=
  ∃ digits, IsDigits digits ∧ (cs = digits ∨ cs = '+' :: digits) ∧ Nat.ofDigitChars 10 digits 0 = n

theorem readBounded?_eq_some_iff {limit n : Nat} {cs : List Char} :
    readBounded? limit cs = some n ↔ Writes cs n ∧ n ≤ limit := by
  unfold readBounded?
  dsimp only
  rw [Option.filter_eq_some_iff, readInBase?_eq_some_iff, decide_eq_true_iff]
  refine and_congr_left fun _ ↦ ?_
  split
  next rest =>
    constructor
    · exact fun h ↦ ⟨rest, h.1, .inr rfl, h.2⟩
    · rintro ⟨digits, hdigits, rfl | hplus, hn⟩
      · exact absurd (hdigits.isDigit '+' List.mem_cons_self) (by decide)
      · obtain rfl := (List.cons.inj hplus).2
        exact ⟨hdigits, hn⟩
  next hplus =>
    constructor
    · exact fun h ↦ ⟨cs, h.1, .inl rfl, h.2⟩
    · rintro ⟨digits, hdigits, rfl | rfl, hn⟩
      · exact ⟨hdigits, hn⟩
      · exact absurd rfl (hplus digits)

theorem isDigits_toString (n : Nat) : IsDigits (toString n).toList := by
  rw [Nat.toString_eq_repr, Nat.toList_repr]
  exact ⟨Nat.toDigits_ne_nil, fun c hc ↦ Nat.isDigit_of_mem_toDigits (by decide) (by decide) hc⟩

theorem ofDigitChars_toString (n : Nat) : Nat.ofDigitChars 10 (toString n).toList 0 = n := by
  rw [Nat.toString_eq_repr, Nat.toList_repr, Nat.ofDigitChars_ten_toDigits]

theorem writes_toString (n : Nat) : Writes (toString n).toList n :=
  ⟨_, isDigits_toString n, .inl rfl, ofDigitChars_toString n⟩

/-- Different numbers have different texts. -/
theorem eq_of_toString_eq {m n : Nat} (h : toString m = toString n) : m = n := by
  rw [← ofDigitChars_toString m, h, ofDigitChars_toString]

theorem readBounded?_toString {limit n : Nat} (h : n ≤ limit) :
    readBounded? limit (toString n).toList = some n :=
  readBounded?_eq_some_iff.mpr ⟨writes_toString n, h⟩

end ClusterPlan.Decimal
