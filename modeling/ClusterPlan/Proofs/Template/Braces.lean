import Mathlib.Data.List.Basic
import Mathlib.Tactic.MkIffOfInductiveProp

/-!
# Braces that close

A text closes some braces that are open before it when it closes these and all that it opens, and
at no place more than are open. A text is balanced when it closes none but its own.

Whether a text closes the braces before it is settled from its first character on, as a scanner
does it that counts the open ones.
-/

namespace ClusterPlan.Template

/-- The text closes `depth` braces that are open in front of it. -/
@[mk_iff]
structure Closes (depth : Nat) (cs : List Char) : Prop where
  bounded : ∀ start, start <+: cs → start.count '\x7d' ≤ depth + start.count '\x7b'
  total : cs.count '\x7d' = depth + cs.count '\x7b'

abbrev IsBalanced (cs : List Char) : Prop := Closes 0 cs

section Closes

variable {depth : Nat} {cs : List Char}

@[simp]
theorem closes_nil : Closes depth [] ↔ depth = 0 := by
  constructor
  · intro h
    simpa using h.total.symm
  · rintro rfl
    refine ⟨fun start hstart ↦ ?_, rfl⟩
    rw [List.prefix_nil.mp hstart]
    simp

theorem closes_cons {c : Char} :
    Closes depth (c :: cs) ↔
      (∀ start, start <+: cs → (c :: start).count '\x7d' ≤ depth + (c :: start).count '\x7b') ∧
        (c :: cs).count '\x7d' = depth + (c :: cs).count '\x7b' := by
  constructor
  · intro h
    exact ⟨fun start hstart ↦ h.bounded _ (List.cons_prefix_cons.mpr ⟨rfl, hstart⟩), h.total⟩
  · rintro ⟨hbounded, htotal⟩
    refine ⟨fun start hstart ↦ ?_, htotal⟩
    rcases List.prefix_cons_iff.mp hstart with rfl | ⟨tail, rfl, htail⟩
    · simp
    · exact hbounded tail htail

@[simp]
theorem closes_open : Closes depth ('\x7b' :: cs) ↔ Closes (depth + 1) cs := by
  have hopens (start : List Char) : ('\x7b' :: start).count '\x7b' = 1 + start.count '\x7b' := by
    rw [List.count_cons_self, Nat.add_comm]
  have hcloses (start : List Char) : ('\x7b' :: start).count '\x7d' = start.count '\x7d' :=
    List.count_cons_of_ne (by decide)
  simp only [closes_cons, hopens, hcloses, ← Nat.add_assoc]
  rw [closes_iff]

@[simp]
theorem closes_close : Closes (depth + 1) ('\x7d' :: cs) ↔ Closes depth cs := by
  have hopens (start : List Char) : ('\x7d' :: start).count '\x7b' = start.count '\x7b' :=
    List.count_cons_of_ne (by decide)
  have hcloses (start : List Char) : ('\x7d' :: start).count '\x7d' = start.count '\x7d' + 1 :=
    List.count_cons_self
  simp only [closes_cons, hopens, hcloses, Nat.add_right_comm depth 1, Nat.add_le_add_iff_right,
    Nat.add_right_cancel_iff]
  rw [closes_iff]

@[simp]
theorem not_isBalanced_close : ¬IsBalanced ('\x7d' :: cs) := by
  intro h
  have := h.bounded ['\x7d'] (by simp)
  exact absurd this (by decide)

theorem closes_other {c : Char} (hopen : c ≠ '\x7b') (hclose : c ≠ '\x7d') :
    Closes depth (c :: cs) ↔ Closes depth cs := by
  have hopens (start : List Char) : (c :: start).count '\x7b' = start.count '\x7b' :=
    List.count_cons_of_ne hopen
  have hcloses (start : List Char) : (c :: start).count '\x7d' = start.count '\x7d' :=
    List.count_cons_of_ne hclose
  simp only [closes_cons, hopens, hcloses]
  rw [closes_iff]

/-- Texts that stand one behind the other close together what each of them closes. -/
theorem Closes.append {more : Nat} {ds : List Char} (h : Closes depth cs) (hds : Closes more ds) :
    Closes (depth + more) (cs ++ ds) := by
  induction cs generalizing depth with
  | nil =>
    obtain rfl := closes_nil.mp h
    simpa using hds
  | cons c cs ih =>
    by_cases hopen : c = '\x7b'
    · subst hopen
      rw [List.cons_append, closes_open, Nat.add_right_comm]
      exact ih (closes_open.mp h)
    by_cases hclose : c = '\x7d'
    · subst hclose
      cases depth with
      | zero => exact absurd h not_isBalanced_close
      | succ depth =>
        rw [List.cons_append, Nat.add_right_comm, closes_close]
        exact ih (closes_close.mp h)
    · rw [List.cons_append, closes_other hopen hclose]
      exact ih ((closes_other hopen hclose).mp h)

theorem isBalanced_append {ds : List Char} (h : IsBalanced cs) (hds : IsBalanced ds) :
    IsBalanced (cs ++ ds) :=
  h.append hds

/-- Balanced text is so between two braces as well. -/
theorem IsBalanced.braced (h : IsBalanced cs) : IsBalanced ('\x7b' :: (cs ++ ['\x7d'])) := by
  have hclose : Closes 1 ['\x7d'] := closes_close.mpr (closes_nil.mpr rfl)
  rw [IsBalanced, closes_open, Nat.add_comm]
  exact h.append hclose

def isBrace (c : Char) : Bool := c = '\x7b' ∨ c = '\x7d'

/-- What else stands in a text does not matter. -/
theorem closes_filter : Closes depth (cs.filter isBrace) ↔ Closes depth cs := by
  induction cs generalizing depth with
  | nil => rfl
  | cons c cs ih =>
    by_cases hopen : c = '\x7b'
    · subst hopen
      rw [List.filter_cons_of_pos rfl, closes_open, closes_open, ih]
    by_cases hclose : c = '\x7d'
    · subst hclose
      rw [List.filter_cons_of_pos rfl]
      cases depth with
      | zero => simp
      | succ depth => rw [closes_close, closes_close, ih]
    · rw [List.filter_cons_of_neg (by simp [isBrace, hopen, hclose]), ih,
        closes_other hopen hclose]

end Closes

end ClusterPlan.Template
