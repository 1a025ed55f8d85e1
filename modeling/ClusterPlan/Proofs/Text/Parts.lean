import ClusterPlan.Text.Blank
import ClusterPlan.Text.Split
import Mathlib.Data.List.Infix

/-!
# Parts of texts

The parts between the separators of a text have no separators themselves, and put together again
they are the text. What stands in front of the first separator, or behind the last one, is the part
without one. A mark of several characters is found wherever a text has it. A trimmed text neither
begins nor ends with a blank, and every such text is its own trimming.
-/

namespace ClusterPlan.Text

section Split

variable {separator : Char}

theorem splitAt_ne_nil (cs : List Char) : splitAt separator cs ≠ [] := by
  induction cs with
  | nil => exact List.cons_ne_nil _ _
  | cons c rest ih =>
    rw [splitAt]
    split
    · exact List.cons_ne_nil _ _
    · split
      · exact List.cons_ne_nil _ _
      · exact List.cons_ne_nil _ _

theorem splitAt_append_cons (before after : List Char) :
    splitAt separator (before ++ separator :: after) =
      splitAt separator before ++ splitAt separator after := by
  induction before with
  | nil => simp [splitAt]
  | cons c rest ih =>
    rw [List.cons_append, splitAt, splitAt, ih]
    split
    · rfl
    · cases hrest : splitAt separator rest with
      | nil => exact absurd hrest (splitAt_ne_nil rest)
      | cons first others => rfl

theorem splitAt_of_notMem {cs : List Char} (h : separator ∉ cs) : splitAt separator cs = [cs] := by
  induction cs with
  | nil => rfl
  | cons c rest ih =>
    rw [List.mem_cons, not_or] at h
    rw [splitAt, if_neg fun hc ↦ h.1 hc.symm, ih h.2]

theorem two_le_length_splitAt {cs : List Char} (h : separator ∈ cs) :
    2 ≤ (splitAt separator cs).length := by
  obtain ⟨before, after, rfl⟩ := List.append_of_mem h
  have hpos (part : List Char) : 0 < (splitAt separator part).length :=
    List.length_pos_iff.mpr (splitAt_ne_nil part)
  rw [splitAt_append_cons, List.length_append]
  exact Nat.add_le_add (hpos before) (hpos after)

theorem splitAt_eq_splitOn (cs : List Char) : splitAt separator cs = cs.splitOn separator := by
  induction cs with
  | nil => rfl
  | cons c rest ih =>
    rw [splitAt, ih]
    simp only [List.splitOn, List.splitOnP_cons_eq_if_modifyHead, beq_iff_eq]
    split
    · rfl
    · cases hrest : rest.splitOnP (· == separator) with
      | nil => exact absurd hrest (List.splitOnP_ne_nil _ _)
      | cons first others => rfl

theorem intercalate_splitAt (cs : List Char) : [separator].intercalate (splitAt separator cs) = cs := by
  rw [splitAt_eq_splitOn, List.intercalate_splitOn]

theorem splitAt_intercalate {parts : List (List Char)} (hparts : ∀ part ∈ parts, separator ∉ part)
    (hne : parts ≠ []) : splitAt separator ([separator].intercalate parts) = parts := by
  rw [splitAt_eq_splitOn, List.splitOn_intercalate _ hparts hne]

theorem eq_or_mem_of_mem_intercalate {parts : List (List Char)} {c : Char}
    (h : c ∈ [separator].intercalate parts) : c = separator ∨ ∃ part ∈ parts, c ∈ part := by
  induction parts with
  | nil => simp at h
  | cons first others ih =>
    cases others with
    | nil => exact .inr ⟨first, List.mem_cons_self, by simpa using h⟩
    | cons second others =>
      rw [List.intercalate_cons_cons, List.append_assoc, List.mem_append, List.singleton_append,
        List.mem_cons] at h
      rcases h with hfirst | hseparator | hothers
      · exact .inr ⟨first, List.mem_cons_self, hfirst⟩
      · exact .inl hseparator
      · exact (ih hothers).imp_right fun ⟨part, hpart, hc⟩ ↦
          ⟨part, List.mem_cons_of_mem first hpart, hc⟩

theorem separator_notMem_of_mem_splitAt {cs part : List Char} (h : part ∈ splitAt separator cs) :
    separator ∉ part := by
  induction cs generalizing part with
  | nil => simp_all [splitAt]
  | cons c rest ih =>
    rw [splitAt] at h
    split at h
    next => exact (List.mem_cons.mp h).elim (fun hnil ↦ hnil ▸ List.not_mem_nil) ih
    next hc =>
      cases hrest : splitAt separator rest with
      | nil => exact absurd hrest (splitAt_ne_nil rest)
      | cons first others =>
        rw [hrest] at h ih
        rcases List.mem_cons.mp h with rfl | hothers
        · rw [List.mem_cons, not_or]
          exact ⟨fun heq ↦ hc heq.symm, ih List.mem_cons_self⟩
        · exact ih (List.mem_cons_of_mem first hothers)

theorem splitLast?_eq_none_iff {cs : List Char} :
    splitLast? separator cs = none ↔ separator ∉ cs := by
  induction cs with
  | nil => simp [splitLast?]
  | cons c rest ih =>
    rw [splitLast?, List.mem_cons, not_or, ← ih]
    cases splitLast? separator rest with
    | some parts => simp
    | none => simp [eq_comm]

theorem splitLast?_append_cons {after : List Char} (h : separator ∉ after) (before : List Char) :
    splitLast? separator (before ++ separator :: after) = some (before, after) := by
  induction before with
  | nil => rw [List.nil_append, splitLast?, splitLast?_eq_none_iff.mpr h, if_pos rfl]
  | cons c rest ih => rw [List.cons_append, splitLast?, ih]

theorem splitLast?_eq_some_iff {cs before after : List Char} :
    splitLast? separator cs = some (before, after) ↔
      cs = before ++ separator :: after ∧ separator ∉ after := by
  constructor
  · intro h
    induction cs generalizing before with
    | nil => cases h
    | cons c rest ih =>
      rw [splitLast?] at h
      split at h
      next front back hrest =>
        obtain ⟨rfl, rfl⟩ := Prod.mk.inj (Option.some.inj h)
        obtain ⟨hsplit, hback⟩ := ih hrest
        exact ⟨congrArg (c :: ·) hsplit, hback⟩
      next hrest =>
        split at h
        next hc =>
          obtain ⟨rfl, rfl⟩ := Prod.mk.inj (Option.some.inj h)
          exact ⟨congrArg (· :: rest) hc, splitLast?_eq_none_iff.mp hrest⟩
        next => cases h
  · rintro ⟨rfl, hafter⟩
    exact splitLast?_append_cons hafter before

theorem splitFirst?_append_cons {before : List Char} (h : separator ∉ before) (after : List Char) :
    splitFirst? separator (before ++ separator :: after) = some (before, after) := by
  induction before with
  | nil => rw [List.nil_append, splitFirst?, if_pos rfl]
  | cons c rest ih =>
    rw [List.mem_cons, not_or] at h
    rw [List.cons_append, splitFirst?, if_neg fun hc ↦ h.1 hc.symm, ih h.2, Option.map_some]

theorem splitFirst?_of_notMem {cs : List Char} (h : separator ∉ cs) :
    splitFirst? separator cs = none := by
  induction cs with
  | nil => rfl
  | cons c rest ih =>
    rw [List.mem_cons, not_or] at h
    rw [splitFirst?, if_neg fun hc ↦ h.1 hc.symm, ih h.2, Option.map_none]

end Split

/-! ### Marks -/

section Mark

variable {mark cs before after : List Char}

theorem eq_append_of_splitFirstText? (h : splitFirstText? mark cs = some (before, after)) :
    cs = before ++ (mark ++ after) := by
  induction cs generalizing before with
  | nil =>
    rw [splitFirstText?] at h
    split at h
    next hmark =>
      cases h
      simpa using hmark.symm
    next => cases h
  | cons c rest ih =>
    rw [splitFirstText?] at h
    split at h
    next hmark =>
      cases h
      exact (List.prefix_iff_eq_append.mp (List.isPrefixOf_iff_prefix.mp hmark)).symm
    next =>
      obtain ⟨⟨front, back⟩, hrest, hparts⟩ := Option.map_eq_some_iff.mp h
      obtain ⟨rfl, rfl⟩ := Prod.mk.inj hparts
      exact congrArg (c :: ·) (ih hrest)

theorem splitFirstText?_eq_none_iff : splitFirstText? mark cs = none ↔ ¬mark <:+: cs := by
  induction cs with
  | nil =>
    rw [splitFirstText?, List.infix_nil]
    split
    next hmark => simpa using hmark
    next hmark => simpa using hmark
  | cons c rest ih =>
    rw [splitFirstText?, List.infix_cons_iff, not_or, ← ih]
    split
    next hmark => simp [List.isPrefixOf_iff_prefix.mp hmark]
    next hmark => simp [mt List.isPrefixOf_iff_prefix.mpr hmark]

/-- A mark is first found where its first character is first met. -/
theorem splitFirstText?_append {m : Char} {more : List Char} (h : m ∉ before) (after : List Char) :
    splitFirstText? (m :: more) (before ++ (m :: more ++ after)) = some (before, after) := by
  induction before with
  | nil =>
    have hmark : (m :: more).isPrefixOf (m :: (more ++ after)) = true := by
      simp [List.isPrefixOf_iff_prefix]
    rw [List.nil_append, List.cons_append, splitFirstText?, if_pos hmark, ← List.cons_append,
      List.drop_left]
  | cons c rest ih =>
    rw [List.mem_cons, not_or] at h
    have hmark : (m :: more).isPrefixOf (c :: (rest ++ (m :: more ++ after))) = false := by
      simp [List.isPrefixOf, h.1]
    rw [List.cons_append, splitFirstText?, hmark, if_neg Bool.false_ne_true, ih h.2,
      Option.map_some]

end Mark

/-! ### Trimming -/

theorem isBlank_eq_false_of_visible {c : Char} (h : 33 ≤ c.toNat) (h' : c.toNat ≤ 126) :
    isBlank c = false := by
  simp only [isBlank, Bool.or_eq_false_iff, Bool.and_eq_false_iff, beq_eq_false_iff_ne,
    decide_eq_false_iff_not]
  omega

theorem isBlank_of_isDigit {c : Char} (h : c.isDigit) : isBlank c = false := by
  obtain ⟨hzero, hnine⟩ := Char.isDigit_iff_toNat.mp h
  have hcodes : '0'.toNat = 48 ∧ '9'.toNat = 57 := ⟨rfl, rfl⟩
  exact isBlank_eq_false_of_visible (by omega) (by omega)

theorem visible_of_isAlphanum {c : Char} (h : c.isAlphanum) : 33 ≤ c.toNat ∧ c.toNat ≤ 126 := by
  have hcodes : 'A'.toNat = 65 ∧ 'Z'.toNat = 90 ∧ 'a'.toNat = 97 ∧ 'z'.toNat = 122 :=
    ⟨rfl, rfl, rfl, rfl⟩
  rcases Bool.or_eq_true_iff.mp h with hletter | hdigit
  · rcases Bool.or_eq_true_iff.mp hletter with hupper | hlower
    · have hrange : 'A'.toNat ≤ c.toNat ∧ c.toNat ≤ 'Z'.toNat := of_decide_eq_true hupper
      omega
    · have hrange : 'a'.toNat ≤ c.toNat ∧ c.toNat ≤ 'z'.toNat :=
        (Bool.and_eq_true_iff.mp hlower).imp of_decide_eq_true of_decide_eq_true
      omega
  · obtain ⟨hzero, hnine⟩ := Char.isDigit_iff_toNat.mp hdigit
    have hdigits : '0'.toNat = 48 ∧ '9'.toNat = 57 := ⟨rfl, rfl⟩
    omega

/-- A text that neither begins nor ends with a blank. -/
structure IsTrimmed (cs : List Char) : Prop where
  first : ∀ c ∈ cs.head?, isBlank c = false
  last : ∀ c ∈ cs.getLast?, isBlank c = false

theorem isTrimmed_of_forall {cs : List Char} (h : ∀ c ∈ cs, isBlank c = false) : IsTrimmed cs :=
  ⟨fun c hc ↦ h c (List.mem_of_mem_head? hc), fun c hc ↦ h c (List.mem_of_getLast? hc)⟩

theorem dropWhile_isBlank_of_first {cs : List Char} (h : ∀ c ∈ cs.head?, isBlank c = false) :
    cs.dropWhile isBlank = cs := by
  cases cs with
  | nil => rfl
  | cons c rest => exact List.dropWhile_cons_of_neg (by simp [h c rfl])

theorem isBlank_of_mem_head?_dropWhile {cs : List Char} :
    ∀ c ∈ (cs.dropWhile isBlank).head?, isBlank c = false := by
  intro c hc
  have hfirst := List.head?_dropWhile_not isBlank cs
  rw [Option.mem_def.mp hc] at hfirst
  exact hfirst

theorem trimEnd_isPrefix (cs : List Char) : trimEnd cs <+: cs := by
  rw [trimEnd, ← List.reverse_suffix, List.reverse_reverse]
  exact List.dropWhile_suffix isBlank

theorem isTrimmed_trim (s : String) : IsTrimmed (trim s).toList := by
  rw [trim, String.toList_ofList]
  constructor
  · intro c hc
    obtain ⟨ending, hending⟩ := trimEnd_isPrefix (trimStart s.toList)
    have hfirst : c ∈ (s.toList.dropWhile isBlank).head? := by
      rw [← trimStart, ← hending, List.head?_append, Option.mem_def.mp hc]
      rfl
    exact isBlank_of_mem_head?_dropWhile c hfirst
  · intro c hc
    rw [trimEnd, List.getLast?_reverse] at hc
    exact isBlank_of_mem_head?_dropWhile c hc

theorem trim_eq_self {s : String} (h : IsTrimmed s.toList) : trim s = s := by
  have hlast : ∀ c ∈ s.toList.reverse.head?, isBlank c = false := by
    rw [List.head?_reverse]
    exact h.last
  rw [trim, trimStart, dropWhile_isBlank_of_first h.first, trimEnd,
    dropWhile_isBlank_of_first hlast, List.reverse_reverse, String.ofList_toList]

end ClusterPlan.Text
