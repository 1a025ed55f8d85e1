import ClusterPlan.Naming
import Mathlib.Data.List.Chain
import Mathlib.Data.List.DropRight

/-!
# The form of sanitized names

A label is a text of lower case letters, digits and single dashes with no dash at either end. Every
sanitized name is a label of at most `labelLimit` characters, whatever the text it is made from. A
label itself is only cut off at the limit, and loses the dash that the cut may leave at its end. The name
of a host is told by its two ends and what is between them.

Nothing is said here of which texts share a name: that is a matter of what the texts are made of.
-/

namespace ClusterPlan.Naming

/-! ## Texts with single dashes -/

/-- Lower case letters, digits and dashes, no two dashes in a row. -/
structure Collapsed (cs : List Char) : Prop where
  chars : ∀ c ∈ cs, isPlain c ∨ c = '-'
  single : cs.IsChain fun a b ↦ a ≠ '-' ∨ b ≠ '-'

theorem ne_dash_of_isPlain {c : Char} (h : isPlain c) : c ≠ '-' := by
  rintro rfl
  exact absurd h (by decide)

theorem Collapsed.nil : Collapsed [] := ⟨by simp, .nil⟩

theorem Collapsed.reverse {cs : List Char} (h : Collapsed cs) : Collapsed cs.reverse where
  chars c hc := h.chars c (List.mem_reverse.mp hc)
  single := List.isChain_reverse.mpr (h.single.imp fun _ _ hab ↦ hab.symm)

theorem Collapsed.part {part cs : List Char} (h : Collapsed cs) (hpart : part <:+: cs) :
    Collapsed part where
  chars c hc := h.chars c (hpart.subset hc)
  single := by
    obtain ⟨before, after, rfl⟩ := hpart
    exact h.single.left_of_append.right_of_append

theorem Collapsed.append {before after : List Char} (hbefore : Collapsed before)
    (hafter : Collapsed after) (h : before.getLast? ≠ some '-' ∨ after.head? ≠ some '-') :
    Collapsed (before ++ after) where
  chars c hc := by
    rcases List.mem_append.mp hc with hc | hc
    · exact hbefore.chars c hc
    · exact hafter.chars c hc
  single := by
    refine hbefore.single.append hafter.single fun a ha b hb ↦ ?_
    by_contra hdash
    push Not at hdash
    obtain ⟨rfl, rfl⟩ := hdash
    rcases h with h | h
    · exact h ha
    · exact h hb

theorem Collapsed.singleton {c : Char} (h : isPlain c ∨ c = '-') : Collapsed [c] where
  chars d hd := by
    obtain rfl := List.mem_singleton.mp hd
    exact h
  single := .singleton c

/-- Whatever text is read on, the dashes put out stay single. -/
theorem collapsed_dashed {reversed : List Char} (h : Collapsed reversed) (cs : List Char) :
    Collapsed (dashed reversed cs) := by
  induction cs generalizing reversed with
  | nil => exact h.reverse
  | cons c rest ih =>
    unfold dashed
    split
    next hplain =>
      have hhead : ([c] : List Char).getLast? ≠ some '-' := by
        simpa using ne_dash_of_isPlain hplain
      exact ih ((Collapsed.singleton (.inl hplain)).append h (.inl hhead))
    next =>
      split
      next => exact ih h
      next hdash =>
        have hhead : reversed.head? ≠ some '-' := by simpa using hdash
        exact ih ((Collapsed.singleton (.inr rfl)).append h (.inr hhead))

/-- Nothing changes where dashes are single already. -/
theorem dashed_of_collapsed {reversed cs : List Char} (h : Collapsed (reversed.reverse ++ cs)) :
    dashed reversed cs = reversed.reverse ++ cs := by
  induction cs generalizing reversed with
  | nil => simp [dashed]
  | cons c rest ih =>
    have hnext : reversed.reverse ++ c :: rest = (c :: reversed).reverse ++ rest := by simp
    unfold dashed
    split
    next => rw [hnext, ih (hnext ▸ h)]
    next hplain =>
      obtain rfl : c = '-' := (h.chars c (by simp)).resolve_left hplain
      have hhead : reversed.head? ≠ some '-' := by
        intro hdash
        obtain ⟨before, rfl⟩ := List.head?_eq_some_iff.mp hdash
        have hpair : ['-', '-'] <:+: ('-' :: before).reverse ++ '-' :: rest :=
          ⟨before.reverse, rest, by simp⟩
        exact absurd (h.part hpair).single (by decide)
      rw [if_neg (by simpa using hhead), hnext, ih (hnext ▸ h)]

/-! ## Lower case -/

theorem lowercaseChar_eq_self {c : Char} (h : isPlain c ∨ c = '-') :
    Text.lowercaseChar c = [c] := by
  have hrange : (97 ≤ c.toNat ∧ c.toNat ≤ 122) ∨ (48 ≤ c.toNat ∧ c.toNat ≤ 57) ∨ c = '-' := by
    simpa [isPlain, Char.isDigit, Char.le_def, UInt32.le_iff_toNat_le, or_assoc] using h
  have hcode : c.toNat < 128 ∧ ¬(65 ≤ c.toNat ∧ c.toNat ≤ 90) := by
    rcases hrange with h | h | rfl
    · omega
    · omega
    · decide
  have hupper : ¬(c.val ≥ 'A'.val ∧ c.val ≤ 'Z'.val) := by
    simpa [ge_iff_le, UInt32.le_iff_toNat_le] using hcode.2
  have hlower : c.toLower = c := by
    unfold Char.toLower
    exact dif_neg hupper
  rw [Text.lowercaseChar, if_pos hcode.1, hlower]

theorem flatMap_lowercaseChar {cs : List Char} (h : ∀ c ∈ cs, isPlain c ∨ c = '-') :
    cs.flatMap Text.lowercaseChar = cs := by
  induction cs with
  | nil => rfl
  | cons c rest ih =>
    rw [List.flatMap_cons, lowercaseChar_eq_self (h c (by simp)),
      ih fun d hd ↦ h d (List.mem_cons_of_mem c hd), List.singleton_append]

/-! ## Dashes at the ends -/

theorem dropDashes_suffix (cs : List Char) : dropDashes cs <:+ cs :=
  List.dropWhile_suffix _

theorem dropEndDashes_isPrefix (cs : List Char) : dropEndDashes cs <+: cs :=
  List.rdropWhile_prefix (· == '-') cs

theorem head?_dropDashes_ne (cs : List Char) : (dropDashes cs).head? ≠ some '-' := by
  have h := List.head?_dropWhile_not (· == '-') cs
  intro hdash
  unfold dropDashes at hdash
  rw [hdash] at h
  exact absurd h (by decide)

theorem getLast?_dropEndDashes_ne (cs : List Char) :
    (dropEndDashes cs).getLast? ≠ some '-' := by
  unfold dropEndDashes
  rw [List.getLast?_reverse]
  exact head?_dropDashes_ne cs.reverse

theorem dropDashes_eq_self {cs : List Char} (h : cs.head? ≠ some '-') : dropDashes cs = cs :=
  List.dropWhile_beq_eq_self_of_head?_ne h

theorem dropEndDashes_eq_self {cs : List Char} (h : cs.getLast? ≠ some '-') :
    dropEndDashes cs = cs := by
  unfold dropEndDashes
  rw [dropDashes_eq_self (by rwa [List.head?_reverse]), List.reverse_reverse]

theorem head?_ne_of_isPrefix {part cs : List Char} (hpart : part <+: cs)
    (h : cs.head? ≠ some '-') : part.head? ≠ some '-' := by
  obtain ⟨rest, rfl⟩ := hpart
  intro hdash
  exact h (by simp [hdash])

/-! ## Labels -/

/-- Single dashes only, and none of them at an end. -/
structure IsLabel (cs : List Char) : Prop extends Collapsed cs where
  head : cs.head? ≠ some '-'
  last : cs.getLast? ≠ some '-'

theorem isLabel_of_isPlain {cs : List Char} (h : ∀ c ∈ cs, isPlain c) : IsLabel cs where
  chars c hc := .inl (h c hc)
  single := by
    have hpairs : cs.Pairwise fun a b ↦ a ≠ '-' ∨ b ≠ '-' :=
      List.pairwise_of_forall_mem_list fun a ha _ _ ↦ .inl (ne_dash_of_isPlain (h a ha))
    exact hpairs.isChain
  head hdash := ne_dash_of_isPlain (h '-' (List.mem_of_head? hdash)) rfl
  last hdash := ne_dash_of_isPlain (h '-' (List.mem_of_getLast? hdash)) rfl

/-- Labels may be joined by dashes. -/
theorem IsLabel.join {before after : List Char} (hbefore : IsLabel before) (hafter : IsLabel after)
    (hbeforene : before ≠ []) (hafterne : after ≠ []) : IsLabel (before ++ '-' :: after) where
  toCollapsed := by
    have hdash : Collapsed ('-' :: after) :=
      (Collapsed.singleton (.inr rfl)).append hafter.toCollapsed (.inr hafter.head)
    exact hbefore.toCollapsed.append hdash (.inl hbefore.last)
  head := by
    rw [List.head?_append_of_ne_nil before hbeforene]
    exact hbefore.head
  last := by
    rw [List.getLast?_append_of_ne_nil before (by simp), List.getLast?_cons_of_ne_nil hafterne]
    exact hafter.last

/-- What the limit leaves of a text: its first characters, with no dash at the end. -/
def cut (cs : List Char) : List Char := dropEndDashes (cs.take labelLimit)

theorem cut_isPrefix (cs : List Char) : cut cs <+: cs :=
  (dropEndDashes_isPrefix _).trans <| List.take_prefix _ _

theorem length_cut_le (cs : List Char) : (cut cs).length ≤ labelLimit :=
  (dropEndDashes_isPrefix _).length_le.trans (List.length_take_le _ _)

theorem isLabel_of_isPrefix {part cs : List Char} (h : IsLabel cs) (hpart : part <+: cs)
    (hlast : part.getLast? ≠ some '-') : IsLabel part where
  toCollapsed := h.toCollapsed.part hpart.isInfix
  head := head?_ne_of_isPrefix hpart h.head
  last := hlast

theorem isLabel_cut {cs : List Char} (h : IsLabel cs) : IsLabel (cut cs) :=
  isLabel_of_isPrefix h (cut_isPrefix cs) (getLast?_dropEndDashes_ne _)

theorem cut_of_length_le {cs : List Char} (h : IsLabel cs) (hlength : cs.length ≤ labelLimit) :
    cut cs = cs := by
  unfold cut
  rw [List.take_of_length_le hlength, dropEndDashes_eq_self h.last]

theorem isLabel_trimmed {cs : List Char} (h : Collapsed cs) :
    IsLabel (dropEndDashes (dropDashes cs)) where
  toCollapsed := (h.part (dropDashes_suffix cs).isInfix).part (dropEndDashes_isPrefix _).isInfix
  head := head?_ne_of_isPrefix (dropEndDashes_isPrefix _) (head?_dropDashes_ne cs)
  last := getLast?_dropEndDashes_ne _

/-- A text of single dashes loses the dashes at its ends before it is cut. -/
theorem toList_sanitize_of_collapsed {name : String} (h : Collapsed name.toList) :
    (sanitize name).toList = cut (dropEndDashes (dropDashes name.toList)) := by
  have hdashed : dashed [] name.toList = name.toList := dashed_of_collapsed h
  unfold sanitize cut
  rw [String.toList_ofList, flatMap_lowercaseChar h.chars, hdashed]

theorem isLabel_sanitize (name : String) : IsLabel (sanitize name).toList := by
  have h := collapsed_dashed .nil (name.toList.flatMap Text.lowercaseChar)
  unfold sanitize
  rw [String.toList_ofList]
  exact isLabel_cut (isLabel_trimmed h)

theorem length_sanitize_le (name : String) : (sanitize name).toList.length ≤ labelLimit := by
  unfold sanitize
  rw [String.toList_ofList]
  exact length_cut_le _

/-! ## Names of hosts -/

/-- A name of the form `[a-z0-9][a-z0-9-]*[a-z0-9]`. -/
def IsHostname (name : String) : Prop :=
  ∃ first middle last, name.toList = first :: (middle ++ [last]) ∧ isPlain first = true ∧
    isPlain last = true ∧ ∀ c ∈ middle, isPlain c = true ∨ c = '-'

theorem isHostname_iff {name : String} : isHostname name = true ↔ IsHostname name := by
  rw [isHostname, IsHostname]
  cases name.toList with
  | nil => simp
  | cons first rest =>
    rcases List.eq_nil_or_concat' rest with rfl | ⟨middle, last, rfl⟩
    · simp
    · simp only [List.getLast?_concat, List.all_append, List.all_cons, List.all_nil,
        Bool.and_eq_true, List.all_eq_true, Bool.or_eq_true, beq_iff_eq]
      constructor
      · rintro ⟨⟨hfirst, hlast⟩, hmiddle, -⟩
        exact ⟨first, middle, last, rfl, hfirst, hlast, hmiddle⟩
      · rintro ⟨first', middle', last', heq, hfirst, hlast, hmiddle⟩
        obtain ⟨rfl, hrest⟩ := List.cons.inj heq
        obtain ⟨rfl, hends⟩ := List.append_inj' hrest rfl
        obtain rfl := List.singleton_inj.mp hends
        exact ⟨⟨hfirst, hlast⟩, hmiddle, .inl hlast, trivial⟩

end ClusterPlan.Naming
