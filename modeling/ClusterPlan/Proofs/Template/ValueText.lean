import ClusterPlan.Template.Value

/-!
# Values by their texts

The text of a value does not tell what value it is. The word `undefined` stands for undefined, but
it may as well be a string; no number, array, object or function is written so.
-/

namespace ClusterPlan

namespace Decimal

theorem isDigit_of_mem_normal {n : Nat} {e : Int} {c : Char} (h : c ∈ (Digits.normal n e).digits) :
    c.isDigit := by
  have hkept : c ∈ (Nat.toDigits 10 n).reverse.dropWhile (· == '0') := List.mem_reverse.mp h
  have hdigits : c ∈ Nat.toDigits 10 n :=
    List.mem_reverse.mp ((List.dropWhile_sublist _).mem hkept)
  exact Nat.isDigit_of_mem_toDigits (by decide) (by decide) hdigits

theorem isDigit_of_mem_shortest {tie : Tie} {significand : Nat} {exponent : Int} {c : Char}
    (h : c ∈ (shortest tie significand exponent).digits) : c.isDigit := by
  unfold shortest at h
  dsimp only at h
  generalize hfound : List.findSome? _ _ = found at h
  cases found with
  | none => cases h
  | some d =>
    obtain ⟨n, -, hn⟩ := List.exists_of_findSome?_eq_some hfound
    obtain ⟨m, -, rfl⟩ := Option.map_eq_some_iff.mp hn
    exact isDigit_of_mem_normal h

/-- A number without an exponent has its digits, zeros, a point and what follows whole numbers. -/
theorem mem_writePositional {layout : Layout} {d : Digits} {c : Char}
    (h : c ∈ (layout.writePositional d).toList) :
    c ∈ d.digits ∨ c = '0' ∨ c = '.' ∨ c ∈ layout.wholeEnd.toList := by
  have hzero : ∀ n, c ∈ List.replicate n '0' → c = '0' := fun n ↦ List.eq_of_mem_replicate
  unfold Layout.writePositional at h
  dsimp only at h
  split at h
  · simp only [String.toList_ofList, List.cons_append, List.mem_cons, List.mem_append] at h
    rcases h with hfront | hpoint | hzeros | hdigits
    · exact .inr (.inl hfront)
    · exact .inr (.inr (.inl hpoint))
    · exact .inr (.inl (hzero _ hzeros))
    · exact .inl hdigits
  · split at h
    · simp only [String.toList_append, String.toList_ofList, List.mem_append] at h
      rcases h with (hdigits | hzeros) | hend
      · exact .inl hdigits
      · exact .inr (.inl (hzero _ hzeros))
      · exact .inr (.inr (.inr hend))
    · simp only [String.toList_ofList, List.mem_append, List.mem_cons] at h
      rcases h with hfront | hpoint | hback
      · exact .inl (List.mem_of_mem_take hfront)
      · exact .inr (.inr (.inl hpoint))
      · exact .inl (List.mem_of_mem_drop hback)

end Decimal

namespace Template.Value

/-- Numbers are written with digits, points and signs, or as one of two words. -/
theorem notMem_numberText (x : Float) : 'u' ∉ (numberText x).toList := by
  unfold numberText Decimal.Layout.write
  split
  · decide
  next negative _ =>
    cases negative
    · decide
    · decide
  · simp [numberLayout]
  next negative significand exponent _ _ =>
    have hsize : 'u' ∉ (numberLayout.writePositional
        (Decimal.shortest numberLayout.tie significand exponent)).toList := by
      intro h
      rcases Decimal.mem_writePositional h with hdigit | hzero | hpoint | hend
      · exact absurd (Decimal.isDigit_of_mem_shortest hdigit) (by decide)
      · exact absurd hzero (by decide)
      · exact absurd hpoint (by decide)
      · cases hend
    -- No number is written with an exponent, whatever its size.
    have hpositional : ∀ point, numberLayout.positional point = true := fun _ ↦ rfl
    dsimp only
    rw [if_pos (hpositional _)]
    split
    · simpa using hsize
    · exact hsize

theorem ne_undefined_of_head? {s : String} {c : Char} (h : s.toList.head? = some c)
    (hc : c ≠ 'u') : s ≠ "undefined" := by
  rintro rfl
  exact hc (Option.some.inj h).symm

theorem head?_text_array (items : List Value) : (array items).text.toList.head? = some '[' := by
  simp [text, toJson, Json.compact]

theorem head?_text_object (fields : List (String × Value)) :
    (object fields).text.toList.head? = some '\x7b' := by
  simp [text, toJson, Json.compact]

theorem head?_text_function (name : String) : (function name).text.toList.head? = some '[' := by
  simp [text]

/-- Only undefined and the string are written so. -/
theorem text_eq_undefined_iff {v : Value} :
    v.text = "undefined" ↔ v = .undefined ∨ v = .string "undefined" := by
  cases v with
  | undefined => simp [text]
  | null => simp [text]
  | bool b =>
    cases b
    · simp [text]
    · simp [text]
  | number x =>
    have hne : numberText x ≠ "undefined" := by
      intro h
      exact notMem_numberText x (h ▸ by decide)
    simpa [text] using hne
  | string s => simp [text]
  | array items => simpa using ne_undefined_of_head? (head?_text_array items) (by decide)
  | object fields => simpa using ne_undefined_of_head? (head?_text_object fields) (by decide)
  | function name => simpa using ne_undefined_of_head? (head?_text_function name) (by decide)

end Template.Value

end ClusterPlan
