import ClusterPlan.Proofs.Naming.Identifiers

/-!
# What names are made into

Every text is made into a name of one form, and exactly the names of this form are left as they are,
so that nothing changes when a name is made from a name. From two characters on such a name can be
the name of a host. An identifier is never empty and never starts with a digit.
-/

namespace ClusterPlan.Naming

/-- The form of sanitized names. -/
structure IsSanitized (name : String) : Prop where
  length_le : name.length ≤ labelLimit
  chars : ∀ c ∈ name.toList, 'a' ≤ c ∧ c ≤ 'z' ∨ '0' ≤ c ∧ c ≤ '9' ∨ c = '-'
  head : name.toList.head? ≠ some '-'
  last : name.toList.getLast? ≠ some '-'
  single : ¬['-', '-'] <:+: name.toList

/-- The form of identifiers. -/
structure IsIdentifier (id : String) : Prop where
  ne_empty : id ≠ ""
  chars : ∀ c ∈ id.toList, 'a' ≤ c ∧ c ≤ 'z' ∨ '0' ≤ c ∧ c ≤ '9' ∨ c = '_'
  head : ∀ c, id.toList.head? = some c → ¬('0' ≤ c ∧ c ≤ '9')

/-- The names that are made from a text. -/
structure NamesWell (text : String) : Prop where
  isSanitized : IsSanitized (sanitize text)
  kept_iff : sanitize text = text ↔ IsSanitized text
  stable : sanitize (sanitize text) = sanitize text
  isHostname_iff : isHostname (sanitize text) = true ↔ 2 ≤ (sanitize text).length
  isIdentifier : IsIdentifier (identifier text)

/-! ### Forms -/

theorem isDigit_iff {c : Char} : c.isDigit = true ↔ '0' ≤ c ∧ c ≤ '9' := by
  simp [Char.isDigit, Char.le_def]

theorem isPlain_iff {c : Char} : isPlain c = true ↔ 'a' ≤ c ∧ c ≤ 'z' ∨ '0' ≤ c ∧ c ≤ '9' := by
  simp [isPlain, isDigit_iff]

/-- No two dashes stand side by side. -/
theorem isChain_iff_not_infix {cs : List Char} :
    (cs.IsChain fun a b ↦ a ≠ '-' ∨ b ≠ '-') ↔ ¬['-', '-'] <:+: cs := by
  rw [List.isChain_iff_forall_rel_of_append_cons_cons]
  constructor
  · rintro h ⟨before, after, rfl⟩
    have hdashes : before ++ ['-', '-'] ++ after = before ++ '-' :: '-' :: after := by simp
    exact absurd (h hdashes) (by decide)
  · rintro h a b before after rfl
    by_contra hdashes
    push Not at hdashes
    obtain ⟨rfl, rfl⟩ := hdashes
    exact h ⟨before, after, by simp⟩

theorem isSanitized_iff {name : String} :
    IsSanitized name ↔ IsLabel name.toList ∧ name.toList.length ≤ labelLimit := by
  constructor
  · intro h
    refine ⟨⟨⟨fun c hc ↦ ?_, isChain_iff_not_infix.mpr h.single⟩, h.head, h.last⟩, h.length_le⟩
    rw [isPlain_iff, or_assoc]
    exact h.chars c hc
  · rintro ⟨h, hlength⟩
    refine ⟨hlength, fun c hc ↦ ?_, h.head, h.last, isChain_iff_not_infix.mp h.single⟩
    rw [← or_assoc, ← isPlain_iff]
    exact h.chars c hc

/-! ### Names -/

theorem isSanitized_sanitize (text : String) : IsSanitized (sanitize text) :=
  isSanitized_iff.mpr ⟨isLabel_sanitize text, length_sanitize_le text⟩

theorem sanitize_eq_self {name : String} (h : IsSanitized name) : sanitize name = name := by
  obtain ⟨hlabel, hlength⟩ := isSanitized_iff.mp h
  rw [← String.toList_inj, toList_sanitize_of_collapsed hlabel.toCollapsed,
    dropDashes_eq_self hlabel.head, dropEndDashes_eq_self hlabel.last,
    cut_of_length_le hlabel hlength]

theorem sanitize_eq_self_iff {name : String} : sanitize name = name ↔ IsSanitized name :=
  ⟨fun h ↦ h ▸ isSanitized_sanitize name, sanitize_eq_self⟩

/-- A label has letters or digits at its ends, so all it can lack of a host name is a second
character. -/
theorem isHostname_iff_of_isLabel {name : String} (h : IsLabel name.toList) :
    isHostname name = true ↔ 2 ≤ name.length := by
  rw [isHostname_iff, IsHostname, ← String.length_toList]
  constructor
  · rintro ⟨first, middle, last, hname, -⟩
    simp [hname]
  · intro hlength
    cases hname : name.toList with
    | nil => simp [hname] at hlength
    | cons first rest =>
      rcases List.eq_nil_or_concat' rest with rfl | ⟨middle, last, rfl⟩
      · simp [hname] at hlength
      · rw [hname] at h
        refine ⟨first, middle, last, rfl, ?_, ?_, fun c hc ↦ h.chars c (by simp [hc])⟩
        · refine (h.chars first (by simp)).resolve_right fun hdash ↦ h.head ?_
          rw [hdash, List.head?_cons]
        · refine (h.chars last (by simp)).resolve_right fun hdash ↦ h.last ?_
          rw [hdash, ← List.cons_append, List.getLast?_concat]

/-! ### Identifiers -/

theorem head?_marked {label : List Char} {c : Char} (h : (marked label).head? = some c) :
    c.isDigit = false := by
  unfold marked at h
  split at h
  next => exact Option.some.inj h ▸ rfl
  next hmark =>
    cases label with
    | nil => cases h
    | cons first rest =>
      obtain rfl : underscore first = c := Option.some.inj h
      rw [isDigit_underscore]
      simpa [needsMark] using hmark

theorem isIdentifier_identifier (text : String) : IsIdentifier (identifier text) where
  ne_empty := by
    rw [ne_eq, ← String.toList_eq_nil_iff, toList_identifier]
    unfold marked
    split
    next => exact List.cons_ne_nil _ _
    next hmark =>
      rw [List.map_eq_nil_iff]
      intro hnil
      exact hmark (hnil ▸ rfl)
  chars c hc := by
    rw [← or_assoc, ← isPlain_iff]
    exact isPlain_of_mem_identifier hc
  head c hc := by
    rw [← isDigit_iff, head?_marked (toList_identifier text ▸ hc)]
    exact Bool.false_ne_true

theorem namesWell (text : String) : NamesWell text where
  isSanitized := isSanitized_sanitize text
  kept_iff := sanitize_eq_self_iff
  stable := sanitize_eq_self (isSanitized_sanitize text)
  isHostname_iff := isHostname_iff_of_isLabel (isLabel_sanitize text)
  isIdentifier := isIdentifier_identifier text

end ClusterPlan.Naming
