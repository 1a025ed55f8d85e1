import ClusterPlan.Image.Glob
import ClusterPlan.Proofs.Text.Parts

/-!
# What a pattern matches

The stars of a pattern stand between its pieces. The pattern matches a text when the text is made of
these pieces, in their order, with a run of characters in the place of each star. A run may be empty,
but it keeps to one line.

A pattern can also be written as a regular expression, in which the pieces are escaped and each star
has become `.*`. Between its anchors the expression accepts the same texts. Of regular expressions
only what is written here is given a meaning: plain and escaped characters, and `.*`.
-/

namespace ClusterPlan.Glob

/-- The texts between the stars of a pattern. -/
def pieces (pattern : String) : List (List Char) := Text.splitAt star pattern.toList

/-- What a star can stand for. -/
def IsRun (cs : List Char) : Prop := '\n' ∉ cs

/-- The text is made of the pieces in their order, with a run between each two of them. -/
def Fills (pieces : List (List Char)) (cs : List Char) : Prop :=
  ∃ first others runs, pieces = first :: others ∧ runs.length = others.length ∧
    (∀ run ∈ runs, IsRun run) ∧ cs = first ++ (List.zipWith (· ++ ·) runs others).flatten

def Matches (pattern candidate : String) : Prop := Fills (pieces pattern) candidate.toList

/-! ### Pieces and runs -/

section Fills

variable {first cs : List Char} {others : List (List Char)}

theorem fills_singleton : Fills [first] cs ↔ cs = first := by
  constructor
  · rintro ⟨_, _, runs, hpieces, -, -, rfl⟩
    obtain ⟨rfl, rfl⟩ := List.cons.inj hpieces
    simp
  · rintro rfl
    exact ⟨cs, [], [], rfl, rfl, nofun, by simp⟩

theorem fills_cons_cons {c : Char} :
    Fills ((c :: first) :: others) cs ↔ ∃ rest, cs = c :: rest ∧ Fills (first :: others) rest := by
  constructor
  · rintro ⟨_, _, runs, hpieces, hlength, hruns, rfl⟩
    obtain ⟨rfl, rfl⟩ := List.cons.inj hpieces
    exact ⟨_, rfl, first, others, runs, rfl, hlength, hruns, rfl⟩
  · rintro ⟨_, rfl, _, _, runs, hpieces, hlength, hruns, rfl⟩
    obtain ⟨rfl, rfl⟩ := List.cons.inj hpieces
    exact ⟨_, _, runs, rfl, hlength, hruns, rfl⟩

/-- Behind the first piece there is a run, and then what the other pieces make. -/
theorem fills_cons (hothers : others ≠ []) :
    Fills (first :: others) cs ↔
      ∃ run rest, IsRun run ∧ cs = first ++ (run ++ rest) ∧ Fills others rest := by
  constructor
  · rintro ⟨_, _, runs, hpieces, hlength, hruns, rfl⟩
    obtain ⟨rfl, rfl⟩ := List.cons.inj hpieces
    cases others with
    | nil => exact absurd rfl hothers
    | cons second others =>
      cases runs with
      | nil => cases hlength
      | cons run runs =>
        obtain ⟨hrun, hruns⟩ := List.forall_mem_cons.mp hruns
        refine ⟨run, _, hrun, ?_, second, others, runs, rfl, by simpa using hlength, hruns, rfl⟩
        simp
  · rintro ⟨run, _, hrun, rfl, second, others, runs, rfl, hlength, hruns, rfl⟩
    refine ⟨first, second :: others, run :: runs, rfl, by simp [hlength],
      List.forall_mem_cons.mpr ⟨hrun, hruns⟩, ?_⟩
    simp

end Fills

/-! ### Matching -/

section Pattern

variable {p : Char} {pattern cs : List Char}

theorem fills_splitAt_nil : Fills (Text.splitAt star []) cs ↔ cs = [] := fills_singleton

/-- Any other character than a star stands for itself. -/
theorem fills_splitAt_cons_of_ne (h : p ≠ star) :
    Fills (Text.splitAt star (p :: pattern)) cs ↔
      ∃ rest, cs = p :: rest ∧ Fills (Text.splitAt star pattern) rest := by
  rw [Text.splitAt, if_neg h]
  cases hpattern : Text.splitAt star pattern with
  | nil => exact absurd hpattern (Text.splitAt_ne_nil pattern)
  | cons first others => exact fills_cons_cons

theorem fills_splitAt_star :
    Fills (Text.splitAt star (star :: pattern)) cs ↔
      ∃ run rest, IsRun run ∧ cs = run ++ rest ∧ Fills (Text.splitAt star pattern) rest := by
  rw [Text.splitAt, if_pos rfl]
  exact fills_cons (Text.splitAt_ne_nil pattern)

/-- A star stands for nothing, or for one more character of the line. -/
theorem fills_splitAt_star_cons {c : Char} :
    Fills (Text.splitAt star (star :: pattern)) (c :: cs) ↔
      Fills (Text.splitAt star pattern) (c :: cs) ∨
        c ≠ '\n' ∧ Fills (Text.splitAt star (star :: pattern)) cs := by
  rw [fills_splitAt_star, fills_splitAt_star]
  constructor
  · rintro ⟨run, rest, hrun, hcs, hrest⟩
    cases run with
    | nil => exact .inl (hcs ▸ hrest)
    | cons d run =>
      obtain ⟨rfl, rfl⟩ := List.cons.inj hcs
      obtain ⟨hc, hrun⟩ := not_or.mp (mt List.mem_cons.mpr hrun)
      exact .inr ⟨fun h ↦ hc h.symm, run, rest, hrun, rfl, hrest⟩
  · rintro (hnone | ⟨hc, run, rest, hrun, rfl, hrest⟩)
    · exact ⟨[], c :: cs, List.not_mem_nil, rfl, hnone⟩
    · refine ⟨c :: run, rest, ?_, rfl, hrest⟩
      exact mt List.mem_cons.mp (not_or.mpr ⟨fun h ↦ hc h.symm, hrun⟩)

theorem matchChars_eq_true_iff (pattern cs : List Char) :
    matchChars pattern cs = true ↔ Fills (Text.splitAt star pattern) cs := by
  fun_induction matchChars pattern cs with
  | case1 cs => rw [fills_splitAt_nil, List.isEmpty_iff]
  | case2 p pattern ih =>
    rw [Bool.and_eq_true_iff, ih, beq_iff_eq]
    by_cases hp : p = star
    · subst hp
      rw [fills_splitAt_star]
      constructor
      · exact fun h ↦ ⟨[], [], List.not_mem_nil, rfl, h.2⟩
      · rintro ⟨run, rest, -, hcs, hrest⟩
        obtain ⟨rfl, rfl⟩ := List.append_eq_nil_iff.mp hcs.symm
        exact ⟨rfl, hrest⟩
    · rw [fills_splitAt_cons_of_ne hp]
      simp [hp]
  | case3 pattern c cs ihnone ihmore =>
    rw [Bool.or_eq_true_iff, Bool.and_eq_true_iff, ihnone, ihmore, bne_iff_ne,
      fills_splitAt_star_cons]
  | case4 p pattern c cs hp ih =>
    rw [Bool.and_eq_true_iff, ih, beq_iff_eq, fills_splitAt_cons_of_ne hp]
    constructor
    · rintro ⟨rfl, hrest⟩
      exact ⟨cs, rfl, hrest⟩
    · rintro ⟨rest, hcs, hrest⟩
      obtain ⟨rfl, rfl⟩ := List.cons.inj hcs
      exact ⟨rfl, hrest⟩

end Pattern

theorem isMatch_eq_true_iff {pattern candidate : String} :
    isMatch pattern candidate = true ↔ Matches pattern candidate :=
  matchChars_eq_true_iff _ _

instance (pattern candidate : String) : Decidable (Matches pattern candidate) :=
  decidable_of_iff _ isMatch_eq_true_iff

/-! ### As an expression -/

/-- The characters that do not stand for themselves in an expression. -/
def isMeta (c : Char) : Bool := "\\.+*?()|[]\x7b\x7d^$#&-~".toList.contains c

def escape (piece : List Char) : List Char :=
  piece.flatMap fun c ↦ if isMeta c then ['\\', c] else [c]

def body (pieces : List (List Char)) : List Char := ['.', '*'].intercalate (pieces.map escape)

/-- The expression for a pattern, with an anchor at each end. -/
def expression (pattern : String) : String :=
  String.ofList ('^' :: (body (pieces pattern) ++ ['$']))

/-- What an expression without anchors accepts as a whole. -/
inductive Accepts : List Char → List Char → Prop
  | done : Accepts [] []
  | plain {c e cs} : isMeta c = false → Accepts e cs → Accepts (c :: e) (c :: cs)
  | escaped {c e cs} : isMeta c = true → Accepts e cs → Accepts ('\\' :: c :: e) (c :: cs)
  | anyRun {run e cs} : IsRun run → Accepts e cs → Accepts ('.' :: '*' :: e) (run ++ cs)

/-- An expression between anchors has to accept the text as a whole. -/
def Finds (expression text : String) : Prop :=
  ∃ e, expression.toList = '^' :: (e ++ ['$']) ∧ Accepts e text.toList

section Accepts

variable {e cs : List Char}

theorem accepts_nil_iff : Accepts [] cs ↔ cs = [] := by
  constructor
  · rintro ⟨⟩
    rfl
  · rintro rfl
    exact .done

theorem accepts_anyRun_iff :
    Accepts ('.' :: '*' :: e) cs ↔ ∃ run rest, IsRun run ∧ cs = run ++ rest ∧ Accepts e rest := by
  constructor
  · intro h
    cases h with
    | plain hmeta => exact absurd hmeta (by decide)
    | anyRun hrun hrest => exact ⟨_, _, hrun, rfl, hrest⟩
  · rintro ⟨run, rest, hrun, rfl, hrest⟩
    exact .anyRun hrun hrest

theorem accepts_escape_singleton_iff {c : Char} :
    Accepts (escape [c] ++ e) cs ↔ ∃ rest, cs = c :: rest ∧ Accepts e rest := by
  have hescape : escape [c] = if isMeta c then ['\\', c] else [c] := List.flatMap_singleton _ c
  rw [hescape]
  split
  next hc =>
    constructor
    · intro h
      cases h with
      | plain hmeta => exact absurd hmeta (by decide)
      | escaped _ hrest => exact ⟨_, rfl, hrest⟩
    · rintro ⟨rest, rfl, hrest⟩
      exact .escaped hc hrest
  next hc =>
    constructor
    · intro h
      cases h with
      | plain _ hrest => exact ⟨_, rfl, hrest⟩
      | escaped => exact absurd (by decide) hc
      | anyRun => exact absurd (by decide) hc
    · rintro ⟨rest, rfl, hrest⟩
      exact .plain ((Bool.not_eq_true _).mp hc) hrest

/-- An escaped piece stands for itself. -/
theorem accepts_escape_append_iff {piece : List Char} :
    Accepts (escape piece ++ e) cs ↔ ∃ rest, cs = piece ++ rest ∧ Accepts e rest := by
  induction piece generalizing cs with
  | nil => simp [escape]
  | cons c piece ih =>
    have hescape : escape (c :: piece) = escape [c] ++ escape piece := by simp [escape]
    rw [hescape, List.append_assoc, accepts_escape_singleton_iff]
    simp [ih]

theorem accepts_body_iff {pieces : List (List Char)} (hne : pieces ≠ []) :
    Accepts (body pieces) cs ↔ Fills pieces cs := by
  induction pieces generalizing cs with
  | nil => exact absurd rfl hne
  | cons first others ih =>
    cases others with
    | nil =>
      have hbody : body [first] = escape first ++ [] := by simp [body]
      rw [hbody, accepts_escape_append_iff, fills_singleton]
      simp [accepts_nil_iff]
    | cons second others =>
      have hbody : body (first :: second :: others) =
          escape first ++ '.' :: '*' :: body (second :: others) := by
        simp [body, List.intercalate_cons_cons]
      rw [hbody, accepts_escape_append_iff, fills_cons (List.cons_ne_nil _ _)]
      simp only [accepts_anyRun_iff, ih (List.cons_ne_nil _ _)]
      constructor
      · rintro ⟨_, rfl, run, rest, hrun, rfl, hrest⟩
        exact ⟨run, rest, hrun, rfl, hrest⟩
      · rintro ⟨run, rest, hrun, rfl, hrest⟩
        exact ⟨_, rfl, run, rest, hrun, rfl, hrest⟩

theorem finds_expression_iff {pattern candidate : String} :
    Finds (expression pattern) candidate ↔ Matches pattern candidate := by
  have hne : pieces pattern ≠ [] := Text.splitAt_ne_nil _
  rw [Matches, ← accepts_body_iff hne, expression, Finds, String.toList_ofList]
  constructor
  · rintro ⟨e, he, haccepts⟩
    obtain rfl := List.append_cancel_right (List.cons.inj he).2
    exact haccepts
  · exact fun haccepts ↦ ⟨_, rfl, haccepts⟩

example : expression "v1.*-*" = "^v1\\..*\\-.*$" := rfl

end Accepts

/-- Kept are exactly the candidates that are made of the pieces of the pattern and of runs, in their
order and as often as they stand there, and so those that its expression finds. -/
theorem keep_eq_filter_matches (pattern : String) (candidates : List String) :
    keep pattern candidates = candidates.filter (fun candidate ↦ decide (Matches pattern candidate)) ∧
      ∀ candidate, Finds (expression pattern) candidate ↔ Matches pattern candidate := by
  refine ⟨?_, fun candidate ↦ finds_expression_iff⟩
  apply List.filter_congr
  intro candidate _
  rw [Bool.eq_iff_iff, isMatch_eq_true_iff, decide_eq_true_iff]

example :
    keep "v1.*-*" ["v1.2-", "v1-2-", "v1.2\n-", "v1.-a-b", "v1.2-"] = ["v1.2-", "v1.-a-b", "v1.2-"] := by
  decide +kernel

end ClusterPlan.Glob
