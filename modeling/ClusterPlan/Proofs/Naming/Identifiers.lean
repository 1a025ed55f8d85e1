import ClusterPlan.Proofs.Naming

/-!
# Names with the same identifier

An identifier is a label with underscores, and behind the mark `r_` where the label is empty or
starts with a digit. Underscores tell as much as dashes do, so two names share an identifier when
they share a label. The mark is a label of its own with a dash, so they also do when the label of
one starts with a digit and that of the other is the same behind `r-`. There is no third way.
-/

namespace ClusterPlan.Naming

/-- An identifier must not start with a digit, and must not be empty. -/
def needsMark (label : List Char) : Bool := label.head?.all Char.isDigit

def underscore (c : Char) : Char := if c = '-' then '_' else c

/-- The identifier of a name with the label. -/
def marked (label : List Char) : List Char :=
  if needsMark label then 'r' :: '_' :: label.map underscore else label.map underscore

theorem isDigit_underscore (c : Char) : (underscore c).isDigit = c.isDigit := by
  unfold underscore
  split
  next hdash =>
    rw [hdash]
    rfl
  next => rfl

theorem toList_identifier (name : String) :
    (identifier name).toList = marked (sanitize name).toList := by
  unfold identifier
  dsimp only
  generalize (sanitize name).toList = label
  cases label with
  | nil => rfl
  | cons c rest =>
    have hmark : needsMark (c :: rest) = (underscore c).isDigit := (isDigit_underscore c).symm
    have hid : (c :: rest).map (fun c ↦ if c = '-' then '_' else c) =
        underscore c :: rest.map underscore := rfl
    rw [hid, marked, hmark]
    dsimp only
    split
    next => simp only [String.toList_append, String.toList_ofList, List.map_cons]; rfl
    next => rw [String.toList_ofList, List.map_cons]

theorem isPlain_of_mem_identifier {name : String} {c : Char} (h : c ∈ (identifier name).toList) :
    isPlain c ∨ c = '_' := by
  have hlabel : ∀ d ∈ (sanitize name).toList.map underscore, isPlain d ∨ d = '_' := by
    rw [List.forall_mem_map]
    intro d hd
    unfold underscore
    split
    · exact .inr rfl
    next hdash => exact .inl (((isLabel_sanitize name).chars d hd).resolve_right hdash)
  rw [toList_identifier] at h
  unfold marked at h
  split at h
  · rcases h with _ | ⟨_, _ | ⟨_, h⟩⟩
    · exact .inl rfl
    · exact .inr rfl
    · exact hlabel c h
  · exact hlabel c h

/-- Labels have no underscores of their own. -/
theorem underscore_inj {a b : Char} (ha : isPlain a ∨ a = '-') (hb : isPlain b ∨ b = '-')
    (h : underscore a = underscore b) : a = b := by
  have hne {c : Char} (hc : isPlain c ∨ c = '-') : c ≠ '_' := by
    rintro rfl
    revert hc
    decide
  unfold underscore at h
  by_cases hadash : a = '-'
  · by_cases hbdash : b = '-'
    · rw [hadash, hbdash]
    · rw [if_pos hadash, if_neg hbdash] at h
      exact absurd h.symm (hne hb)
  · by_cases hbdash : b = '-'
    · rw [if_neg hadash, if_pos hbdash] at h
      exact absurd h (hne ha)
    · rwa [if_neg hadash, if_neg hbdash] at h

theorem map_underscore_inj {as bs : List Char} (has : ∀ c ∈ as, isPlain c ∨ c = '-')
    (hbs : ∀ c ∈ bs, isPlain c ∨ c = '-') :
    as.map underscore = bs.map underscore ↔ as = bs := by
  refine ⟨fun h ↦ ?_, congrArg _⟩
  induction as generalizing bs with
  | nil => exact (List.map_eq_nil_iff.mp h.symm).symm
  | cons a as ih =>
    cases bs with
    | nil => cases h
    | cons b bs =>
      rw [List.forall_mem_cons] at has hbs
      obtain ⟨hhead, htail⟩ := List.cons.inj h
      rw [underscore_inj has.1 hbs.1 hhead, ih has.2 hbs.2 htail]

/-- The second label starts with a digit, and the first is the same behind the mark. -/
def Shadows (first second : List Char) : Prop :=
  second.head?.any Char.isDigit ∧ first = 'r' :: '-' :: second

section Labels

variable {first second : List Char}

theorem Shadows.needsMark (h : Shadows first second) :
    needsMark second = true ∧ needsMark first = false := by
  obtain ⟨hdigit, rfl⟩ := h
  refine ⟨?_, rfl⟩
  cases second with
  | nil => rfl
  | cons c rest => exact hdigit

theorem map_underscore_eq_mark_iff (hfirst : IsLabel first) (hsecond : IsLabel second)
    (h : needsMark second = true) :
    first.map underscore = 'r' :: '_' :: second.map underscore ↔ Shadows first second := by
  have hmark : 'r' :: '_' :: second.map underscore =
      ('r' :: '-' :: second).map underscore := rfl
  have hchars : ∀ c ∈ 'r' :: '-' :: second, isPlain c ∨ c = '-' := by
    rintro c (_ | ⟨_, _ | ⟨_, hc⟩⟩)
    · exact .inl rfl
    · exact .inr rfl
    · exact hsecond.chars c hc
  rw [hmark, map_underscore_inj hfirst.chars hchars]
  constructor
  · rintro rfl
    refine ⟨?_, rfl⟩
    cases second with
    | nil => exact absurd rfl hfirst.last
    | cons c rest => exact h
  · exact fun hshadows ↦ hshadows.2

theorem marked_eq_iff (hfirst : IsLabel first) (hsecond : IsLabel second) :
    marked first = marked second ↔
      first = second ∨ Shadows first second ∨ Shadows second first := by
  have hsame := map_underscore_inj hfirst.chars hsecond.chars
  unfold marked
  cases hmark : needsMark first with
  | true =>
    cases hmark' : needsMark second with
    | true =>
      have hnone : ¬Shadows first second ∧ ¬Shadows second first :=
        ⟨fun h ↦ Bool.noConfusion (hmark.symm.trans h.needsMark.2),
          fun h ↦ Bool.noConfusion (hmark'.symm.trans h.needsMark.2)⟩
      simp [hnone, hsame]
    | false =>
      have hnone : first ≠ second ∧ ¬Shadows first second := by
        refine ⟨?_, fun h ↦ Bool.noConfusion (hmark'.symm.trans h.needsMark.1)⟩
        rintro rfl
        exact Bool.noConfusion (hmark.symm.trans hmark')
      simp only [if_true, Bool.false_eq_true, if_false, hnone, false_or]
      rw [eq_comm, map_underscore_eq_mark_iff hsecond hfirst hmark]
  | false =>
    cases hmark' : needsMark second with
    | true =>
      have hnone : first ≠ second ∧ ¬Shadows second first := by
        refine ⟨?_, fun h ↦ Bool.noConfusion (hmark.symm.trans h.needsMark.1)⟩
        rintro rfl
        exact Bool.noConfusion (hmark.symm.trans hmark')
      simp only [if_true, Bool.false_eq_true, if_false, hnone, false_or, or_false]
      exact map_underscore_eq_mark_iff hfirst hsecond hmark'
    | false =>
      have hnone : ¬Shadows first second ∧ ¬Shadows second first :=
        ⟨fun h ↦ Bool.noConfusion (hmark'.symm.trans h.needsMark.1),
          fun h ↦ Bool.noConfusion (hmark.symm.trans h.needsMark.1)⟩
      simp [hnone, hsame]

end Labels

/-- The label that an identifier is made from. -/
def labelOf (name : String) : List Char := (sanitize name).toList

/-- The labels of two names are told apart by nothing that an identifier keeps. -/
def Coincide (a b : String) : Prop :=
  labelOf a = labelOf b ∨ Shadows (labelOf a) (labelOf b) ∨ Shadows (labelOf b) (labelOf a)

theorem identifier_eq_iff (a b : String) : identifier a = identifier b ↔ Coincide a b := by
  rw [← String.toList_inj, toList_identifier, toList_identifier]
  exact marked_eq_iff (isLabel_sanitize a) (isLabel_sanitize b)

end ClusterPlan.Naming
