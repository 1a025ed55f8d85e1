import ClusterPlan.Proofs.Except
import ClusterPlan.Proofs.Template.Braces
import ClusterPlan.Template.Render
import Mathlib.Data.List.Chain
import Mathlib.Order.Bounds.Basic

/-!
# Templates and their segments

A list of segments is written as a template by putting a backslash before every `${` of static text
and the marks of an expression around every source. Well-formed lists of segments and templates
that can be lexed are in bijection by this: lexing what a well-formed list is written as gives the
list back, and every template that can be lexed is what its segments are written as.

A template that cannot be lexed lacks closing braces at its end, and the number in the error is the
least number of them with which it can be.
-/

namespace ClusterPlan.Template

namespace Segment

/-! ### Segments as they are written -/

/-- Static text as it stands in a template. -/
def escaped : List Char → List Char
  | '$' :: '\x7b' :: rest => '\\' :: '$' :: '\x7b' :: escaped rest
  | c :: rest => c :: escaped rest
  | [] => []

def written : Segment → List Char
  | static text => escaped text.toList
  | dynamic source => '$' :: '\x7b' :: source.toList ++ ['\x7d']

def writtenAll (segments : List Segment) : List Char := segments.flatMap written

/-- The template that consists of the segments. -/
def template (segments : List Segment) : String := String.ofList (writtenAll segments)

@[simp]
theorem writtenAll_nil : writtenAll [] = [] := rfl

@[simp]
theorem writtenAll_static (text : String) (rest : List Segment) :
    writtenAll (static text :: rest) = escaped text.toList ++ writtenAll rest := rfl

@[simp]
theorem writtenAll_dynamic (source : String) (rest : List Segment) :
    writtenAll (dynamic source :: rest) =
      '$' :: '\x7b' :: (source.toList ++ '\x7d' :: writtenAll rest) := by
  simp [writtenAll, written]

def IsStatic : Segment → Prop
  | static _ => True
  | dynamic _ => False

@[mk_iff]
structure WellFormed (segments : List Segment) : Prop where
  ne_empty : ∀ text, static text ∈ segments → text ≠ ""
  apart : segments.IsChain fun a b ↦ ¬(a.IsStatic ∧ b.IsStatic)
  balanced : ∀ source, dynamic source ∈ segments → IsBalanced source.toList
  unescaped : segments.IsChain fun a b ↦ ∀ text source, a = static text → b = dynamic source →
    text.toList.getLast? ≠ some '\\'

/-- Static text can stand in front of the segments: it neither runs into other static text nor
takes the meaning of an opening mark away. -/
def Precedes (text : List Char) : List Segment → Prop
  | [] => True
  | static _ :: _ => False
  | dynamic _ :: _ => text.getLast? ≠ some '\\'

theorem wellFormed_nil : WellFormed [] := by
  constructor <;> simp

theorem precedes_iff {text : String} {rest : List Segment} :
    Precedes text.toList rest ↔
      (∀ b ∈ rest.head?, ¬((static text).IsStatic ∧ b.IsStatic)) ∧
        ∀ b ∈ rest.head?, ∀ t source, static text = static t → b = dynamic source →
          t.toList.getLast? ≠ some '\\' := by
  match rest with
  | [] => simp [Precedes]
  | static _ :: _ => simp [Precedes, IsStatic]
  | dynamic _ :: _ => simp [Precedes, IsStatic]

theorem wellFormed_static {text : String} {rest : List Segment} :
    WellFormed (static text :: rest) ↔
      text ≠ "" ∧ Precedes text.toList rest ∧ WellFormed rest := by
  simp only [wellFormed_iff, precedes_iff, List.isChain_cons, List.mem_cons, static.injEq,
    reduceCtorEq, false_or, forall_eq_or_imp]
  tauto

theorem wellFormed_dynamic {source : String} {rest : List Segment} :
    WellFormed (dynamic source :: rest) ↔ IsBalanced source.toList ∧ WellFormed rest := by
  simp only [wellFormed_iff, List.isChain_cons, List.mem_cons, dynamic.injEq, reduceCtorEq,
    false_or, IsStatic, false_and, not_false_eq_true, implies_true, true_and, forall_eq_or_imp]
  tauto

theorem wellFormed_flush {held : List Char} {rest : List Segment}
    (hheld : Precedes held.reverse rest) (hrest : WellFormed rest) :
    WellFormed (flush held rest) := by
  unfold flush
  split
  next => exact hrest
  next hne =>
    refine wellFormed_static.mpr ⟨?_, by simpa using hheld, hrest⟩
    intro hempty
    exact hne (by simpa using congrArg String.toList hempty)

theorem writtenAll_flush (held : List Char) (rest : List Segment) :
    writtenAll (flush held rest) = escaped held.reverse ++ writtenAll rest := by
  unfold flush
  split
  next hheld =>
    rw [List.isEmpty_iff.mp hheld]
    rfl
  next => rw [writtenAll_static, String.toList_ofList]

/-! ### Single steps of scanning -/

section Steps

variable {c : Char} {rest : List Char}

/-- The character and what follows it neither open an expression nor take the meaning of an opening
mark away. -/
structure IsPlain (c : Char) (rest : List Char) : Prop where
  not_escape : ∀ cs, c = '\\' → rest ≠ '$' :: '\x7b' :: cs
  not_open : ∀ cs, c = '$' → rest ≠ '\x7b' :: cs

theorem scan_plain (h : IsPlain c rest) (held : List Char) :
    scan 0 held (c :: rest) = scan 0 (c :: held) rest := by
  rw [scan]
  · exact h.not_escape
  · exact h.not_open

theorem scan_inner (hopen : c ≠ '\x7b') (hclose : c ≠ '\x7d') (depth : Nat) (held : List Char) :
    scan (depth + 1) held (c :: rest) = scan (depth + 1) (c :: held) rest := by
  rw [scan]
  · exact hopen
  · exact fun _ ↦ hclose
  · exact fun _ _ ↦ hclose

theorem escaped_cons (h : ∀ cs, c = '$' → rest ≠ '\x7b' :: cs) :
    escaped (c :: rest) = c :: escaped rest := by
  rw [escaped]
  exact h

end Steps

/-! ### Lexing what segments are written as -/

section Written

variable {text : List Char} {more : List Segment}

theorem Precedes.tail {c : Char} (h : Precedes (c :: text) more) : Precedes text more := by
  match more, h with
  | [], _ => trivial
  | dynamic _ :: _, hend =>
    intro hlast
    exact hend (by rw [List.getLast?_cons, hlast, Option.getD_some])

theorem Precedes.cons {c : Char} (h : Precedes text more)
    (hc : text = [] → c = '\\' → ∀ cs, writtenAll more ≠ '$' :: '\x7b' :: cs) :
    Precedes (c :: text) more := by
  match more, h with
  | [], _ => trivial
  | dynamic source :: rest, hend =>
    intro hlast
    rw [List.getLast?_cons, Option.some.injEq] at hlast
    cases htext : text.getLast? with
    | none =>
      rw [htext, Option.getD_none] at hlast
      exact hc (List.getLast?_eq_none_iff.mp htext) hlast _ (writtenAll_dynamic source rest)
    | some last =>
      rw [htext, Option.getD_some] at hlast
      exact hend (hlast ▸ htext)

theorem Precedes.written (h : Precedes text more) :
    writtenAll more = [] ∨
      (∃ cs, writtenAll more = '$' :: '\x7b' :: cs) ∧ text.getLast? ≠ some '\\' := by
  match more, h with
  | [], _ => exact .inl rfl
  | dynamic source :: rest, hend => exact .inr ⟨⟨_, writtenAll_dynamic source rest⟩, hend⟩

theorem Precedes.written_ne_brace (h : Precedes text more) (cs : List Char) :
    writtenAll more ≠ '\x7b' :: cs := by
  rcases h.written with hnil | ⟨⟨rest, hopen⟩, -⟩
  · simp [hnil]
  · simp [hopen]

/-- Static text is written with a brace in front only where it starts with one. -/
theorem eq_brace_of_escaped_append (h : Precedes text more) {cs : List Char}
    (hcs : escaped text ++ writtenAll more = '\x7b' :: cs) : ∃ rest, text = '\x7b' :: rest := by
  fun_cases escaped text with
  | case1 rest => simp [escaped] at hcs
  | case2 c rest hopen =>
    rw [escaped_cons hopen, List.cons_append, List.cons.injEq] at hcs
    exact ⟨rest, by rw [hcs.1]⟩
  | case3 => exact absurd hcs (h.written_ne_brace cs)

/-- No static text is written with an opening mark in front. -/
theorem eq_nil_of_escaped_append (h : Precedes text more) {cs : List Char}
    (hcs : escaped text ++ writtenAll more = '$' :: '\x7b' :: cs) : text = [] := by
  fun_cases escaped text with
  | case1 rest => simp [escaped] at hcs
  | case2 c rest hopen =>
    rw [escaped_cons hopen, List.cons_append, List.cons.injEq] at hcs
    obtain ⟨tail, htail⟩ := eq_brace_of_escaped_append h.tail hcs.2
    exact absurd htail (hopen tail hcs.1)
  | case3 => rfl

theorem isPlain_escaped {c : Char} (hopen : ∀ cs, c = '$' → text ≠ '\x7b' :: cs)
    (h : Precedes (c :: text) more) : IsPlain c (escaped text ++ writtenAll more) where
  not_open := by
    intro cs hc hcs
    obtain ⟨tail, htail⟩ := eq_brace_of_escaped_append h.tail hcs
    exact hopen tail hc htail
  not_escape := by
    rintro cs rfl hcs
    obtain rfl := eq_nil_of_escaped_append h.tail hcs
    rcases h.written with hnil | ⟨-, hend⟩
    · rw [hnil] at hcs
      exact absurd hcs (by simp [escaped])
    · exact hend rfl

theorem scan_escaped (h : Precedes text more) (held : List Char) :
    scan 0 held (escaped text ++ writtenAll more) =
      scan 0 (text.reverse ++ held) (writtenAll more) := by
  fun_induction escaped text generalizing held with
  | case1 rest ih =>
    rw [List.cons_append, List.cons_append, List.cons_append, scan, ih h.tail.tail]
    simp
  | case2 c rest hopen ih =>
    rw [List.cons_append, scan_plain (isPlain_escaped hopen h), ih h.tail]
    simp
  | case3 => rfl

theorem scan_source {source : List Char} {depth : Nat} (h : Closes depth source)
    (held cs : List Char) :
    scan (depth + 1) held (source ++ '\x7d' :: cs) =
      (scan 0 [] cs).map (dynamic (String.ofList (held.reverse ++ source)) :: ·) := by
  induction source generalizing depth held with
  | nil =>
    obtain rfl := closes_nil.mp h
    rw [List.nil_append, scan, List.append_nil]
  | cons c source ih =>
    rw [List.cons_append]
    by_cases hopen : c = '\x7b'
    · subst hopen
      rw [scan, ih (closes_open.mp h)]
      simp
    by_cases hclose : c = '\x7d'
    · subst hclose
      match depth, h with
      | 0, h => exact absurd h not_isBalanced_close
      | depth + 1, h =>
        rw [scan, ih (closes_close.mp h)]
        simp
    · rw [scan_inner hopen hclose, ih ((closes_other hopen hclose).mp h)]
      simp

theorem scan_writtenAll {segments : List Segment} (h : WellFormed segments) {held : List Char}
    (hheld : held = [] ∨ Precedes held.reverse segments) :
    scan 0 held (writtenAll segments) = .ok (flush held segments) := by
  induction segments generalizing held with
  | nil => rw [writtenAll_nil, scan]
  | cons segment rest ih =>
    cases segment with
    | static text =>
      obtain ⟨hne, hprecedes, hrest⟩ := wellFormed_static.mp h
      obtain rfl : held = [] := hheld.resolve_right id
      rw [writtenAll_static, scan_escaped hprecedes, List.append_nil,
        ih hrest (.inr (by rwa [List.reverse_reverse]))]
      have htext : text.toList.reverse.isEmpty = false := by
        rw [← Bool.not_eq_true, List.isEmpty_iff, List.reverse_eq_nil_iff]
        exact fun hnil ↦ hne (String.toList_eq_nil_iff.mp hnil)
      simp [flush, htext]
    | dynamic source =>
      obtain ⟨hbalanced, hrest⟩ := wellFormed_dynamic.mp h
      rw [writtenAll_dynamic, scan, scan_source hbalanced, ih hrest (.inl rfl)]
      simp [flush, Except.map]

end Written

/-! ### What a template is lexed into -/

/-- What is scanned outside of expressions: the rest of a static text, and the segments after it. -/
structure ScannedStatic (held cs : List Char) (segments : List Segment) : Prop where
  exists_rest : ∃ text more, segments = flush (text.reverse ++ held) more ∧
    cs = escaped text ++ writtenAll more ∧ Precedes text more ∧ WellFormed more

/-- What is scanned inside of an expression: the rest of its source, and the segments after it. -/
structure ScannedSource (depth : Nat) (held cs : List Char) (segments : List Segment) : Prop where
  exists_rest : ∃ source more,
    segments = dynamic (String.ofList (held.reverse ++ source)) :: more ∧
      cs = source ++ '\x7d' :: writtenAll more ∧ Closes depth source ∧ WellFormed more

def Scanned : Nat → List Char → List Char → List Segment → Prop
  | 0 => ScannedStatic
  | depth + 1 => ScannedSource depth

theorem ScannedStatic.of_nil {cs : List Char} {segments : List Segment}
    (h : ScannedStatic [] cs segments) : cs = writtenAll segments ∧ WellFormed segments := by
  obtain ⟨text, more, rfl, rfl, hprecedes, hmore⟩ := h.exists_rest
  rw [List.append_nil]
  have hheld : Precedes text.reverse.reverse more := by rwa [List.reverse_reverse]
  exact ⟨by rw [writtenAll_flush, List.reverse_reverse], wellFormed_flush hheld hmore⟩

/-- Induction on the steps of scanning; the character that a step holds back is the first of the
text or source that remains to be read before it. -/
theorem scanned_of_scan {depth : Nat} {held cs : List Char} {segments : List Segment}
    (h : scan depth held cs = .ok segments) : Scanned depth held cs segments := by
  fun_induction scan depth held cs generalizing segments with
  | case1 held =>
    obtain rfl := Except.ok.inj h
    exact ⟨[], [], rfl, rfl, trivial, wellFormed_nil⟩
  | case2 held rest ih =>
    obtain ⟨text, more, rfl, rfl, hprecedes, hmore⟩ := (ih h).exists_rest
    refine ⟨'$' :: '\x7b' :: text, more, by simp, rfl, ?_, hmore⟩
    exact (hprecedes.cons (by simp)).cons (by simp)
  | case3 held rest ih =>
    obtain ⟨found, hfound, rfl⟩ := Except.map_eq_ok_iff.mp h
    obtain ⟨source, more, rfl, rfl, hsource, hmore⟩ := (ih hfound).exists_rest
    refine ⟨[], _, rfl, ?_, ?_, wellFormed_dynamic.mpr ⟨?_, hmore⟩⟩
    · simp [escaped]
    · simp [Precedes]
    · simpa using hsource
  | case4 held c rest hescape hopen ih =>
    obtain ⟨text, more, rfl, rfl, hprecedes, hmore⟩ := (ih h).exists_rest
    have hbrace : ∀ cs, c = '$' → text ≠ '\x7b' :: cs := by
      rintro cs hc rfl
      exact hopen _ hc (by rw [escaped_cons (by simp), List.cons_append])
    refine ⟨c :: text, more, by simp, by rw [escaped_cons hbrace, List.cons_append], ?_, hmore⟩
    apply hprecedes.cons
    rintro rfl hc cs hcs
    exact hescape cs hc (by rw [hcs, escaped, List.nil_append])
  | case5 depth held => exact absurd h (by simp)
  | case6 depth held rest ih =>
    obtain ⟨source, more, rfl, rfl, hsource, hmore⟩ := (ih h).exists_rest
    exact ⟨'\x7b' :: source, more, by simp, rfl, closes_open.mpr hsource, hmore⟩
  | case7 held rest ih =>
    obtain ⟨found, hfound, rfl⟩ := Except.map_eq_ok_iff.mp h
    obtain ⟨rfl, hwell⟩ := ScannedStatic.of_nil (ih hfound)
    exact ⟨[], found, by rw [List.append_nil], rfl, closes_nil.mpr rfl, hwell⟩
  | case8 depth held rest ih =>
    obtain ⟨source, more, rfl, rfl, hsource, hmore⟩ := (ih h).exists_rest
    exact ⟨'\x7d' :: source, more, by simp, rfl, closes_close.mpr hsource, hmore⟩
  | case9 depth held c rest hopen hfirst hlater ih =>
    obtain ⟨source, more, rfl, rfl, hsource, hmore⟩ := (ih h).exists_rest
    have hclose : c ≠ '\x7d' := by
      rcases depth with _ | depth
      · exact hfirst rfl
      · exact hlater depth rfl
    exact ⟨c :: source, more, by simp, rfl, (closes_other hopen hclose).mpr hsource, hmore⟩

/-- Well-formed lists of segments and templates that can be lexed are in bijection. -/
theorem lex_eq_ok_iff_template {text : String} {segments : List Segment} :
    lex text = .ok segments ↔ WellFormed segments ∧ template segments = text := by
  unfold lex template
  constructor
  · intro h
    obtain ⟨htext, hwell⟩ := ScannedStatic.of_nil (scanned_of_scan h)
    exact ⟨hwell, by rw [← htext, String.ofList_toList]⟩
  · rintro ⟨hwell, rfl⟩
    rw [String.toList_ofList, scan_writtenAll hwell (.inl rfl)]
    rfl

/-! ### Missing braces -/

/-- The number of braces that are missing, where an error says so. -/
def missing : Except Nat (List Segment) → Nat
  | .ok _ => 0
  | .error n => n

@[simp]
theorem missing_map (f : List Segment → List Segment) (result : Except Nat (List Segment)) :
    missing (result.map f) = missing result := by
  cases result <;> rfl

theorem scan_ne_error_zero (depth : Nat) (held cs : List Char) :
    scan depth held cs ≠ .error 0 := by
  fun_induction scan depth held cs with
  | case1 | case5 => simp
  | case2 _ _ ih | case4 _ _ _ _ _ ih | case6 _ _ _ ih | case8 _ _ _ ih => exact ih
  | case9 _ _ _ _ _ _ _ ih => exact ih
  | case3 _ _ ih | case7 _ _ ih =>
    rw [ne_eq, Except.map_eq_error_iff]
    exact ih

theorem lex_eq_error_iff {text : String} {n : Nat} :
    lex text = .error n ↔ 0 < n ∧ missing (lex text) = n := by
  have hzero : lex text ≠ .error 0 := scan_ne_error_zero 0 [] text.toList
  cases hlex : lex text with
  | ok segments =>
    simp only [missing, reduceCtorEq, false_iff]
    omega
  | error m =>
    have hpos : 0 < m := Nat.pos_of_ne_zero fun hm ↦ hzero (hm ▸ hlex)
    simp only [missing, Except.error.injEq]
    omega

theorem exists_lex_eq_ok_iff {text : String} :
    (∃ segments, lex text = .ok segments) ↔ missing (lex text) = 0 := by
  have hzero : lex text ≠ .error 0 := scan_ne_error_zero 0 [] text.toList
  cases hlex : lex text with
  | ok segments => simp [missing]
  | error m =>
    simp only [missing, reduceCtorEq, exists_false, false_iff]
    exact fun hm ↦ hzero (hm ▸ hlex)

theorem IsPlain.append_brace {c : Char} {rest : List Char} (h : IsPlain c rest) :
    IsPlain c (rest ++ ['\x7d']) where
  not_escape := by
    intro cs hc hcs
    match rest, h with
    | [], _ => simp at hcs
    | [_], _ => simp at hcs
    | a :: b :: rest, h =>
      simp only [List.cons_append, List.cons.injEq] at hcs
      exact h.not_escape rest hc (by rw [hcs.1, hcs.2.1])
  not_open := by
    intro cs hc hcs
    match rest, h with
    | [], _ => simp at hcs
    | a :: rest, h =>
      rw [List.cons_append, List.cons.injEq] at hcs
      exact h.not_open rest hc (by rw [hcs.1])

/-- One more brace is all that a template needs which lacks one more. -/
theorem missing_scan_append_brace {depth : Nat} {held cs : List Char}
    (h : 0 < missing (scan depth held cs)) :
    missing (scan depth held (cs ++ ['\x7d'])) = missing (scan depth held cs) - 1 := by
  fun_induction scan depth held cs with
  | case1 held => exact absurd h (by simp [missing])
  | case2 held rest ih =>
    rw [List.cons_append, List.cons_append, List.cons_append, scan, ih h]
  | case3 held rest ih =>
    rw [missing_map] at h
    rw [List.cons_append, List.cons_append, scan, missing_map, missing_map, ih h]
  | case4 held c rest hescape hopen ih =>
    rw [List.cons_append, scan_plain (IsPlain.append_brace ⟨hescape, hopen⟩), ih h]
  | case5 depth held =>
    rcases depth with _ | depth
    · rfl
    · rfl
  | case6 depth held rest ih => rw [List.cons_append, scan, ih h]
  | case7 held rest ih =>
    rw [missing_map] at h
    rw [List.cons_append, scan, missing_map, missing_map, ih h]
  | case8 depth held rest ih => rw [List.cons_append, scan, ih h]
  | case9 depth held c rest hopen hfirst hlater ih =>
    have hclose : c ≠ '\x7d' := by
      rcases depth with _ | depth
      · exact hfirst rfl
      · exact hlater depth rfl
    rw [List.cons_append, scan_inner hopen hclose, ih h]

theorem missing_scan_append_braces {cs : List Char} {k : Nat} (h : k ≤ missing (scan 0 [] cs)) :
    missing (scan 0 [] (cs ++ List.replicate k '\x7d')) = missing (scan 0 [] cs) - k := by
  induction k with
  | zero => simp
  | succ k ih =>
    have hk := ih (Nat.le_of_succ_le h)
    rw [List.replicate_succ', ← List.append_assoc, missing_scan_append_brace, hk]
    · omega
    · omega

/-- A template with closing braces added at its end. -/
def withBraces (text : String) (k : Nat) : String := text ++ String.ofList (List.replicate k '\x7d')

theorem missing_lex_withBraces {text : String} {k : Nat} (h : k ≤ missing (lex text)) :
    missing (lex (withBraces text k)) = missing (lex text) - k := by
  unfold lex withBraces
  rw [String.toList_append, String.toList_ofList]
  exact missing_scan_append_braces h

theorem isLeast_withBraces_iff {text : String} {n : Nat} :
    IsLeast {k | ∃ segments, lex (withBraces text k) = .ok segments} n ↔
      missing (lex text) = n := by
  have hleast : IsLeast {k | ∃ segments, lex (withBraces text k) = .ok segments}
      (missing (lex text)) := by
    constructor
    · rw [Set.mem_ofPred_eq, exists_lex_eq_ok_iff, missing_lex_withBraces (le_refl _), Nat.sub_self]
    · intro k hk
      rw [Set.mem_ofPred_eq, exists_lex_eq_ok_iff] at hk
      by_contra hlt
      rw [missing_lex_withBraces (by omega)] at hk
      omega
  exact ⟨fun h ↦ hleast.unique h, fun h ↦ h ▸ hleast⟩

end Segment

/-- Templates that can be lexed and well-formed lists of segments correspond one to one; a template
that cannot lacks as many braces as the error says. -/
theorem lex_inverts_template :
    (∀ text segments, lex text = .ok segments ↔
      Segment.WellFormed segments ∧ Segment.template segments = text) ∧
    ∀ text n, lex text = .error (.unterminated n) ↔
      0 < n ∧ IsLeast {k | ∃ segments, lex (Segment.withBraces text k) = .ok segments} n := by
  simp only [lex, Except.mapError_eq_ok_iff]
  constructor
  · intro text segments
    exact Segment.lex_eq_ok_iff_template
  · intro text n
    rw [Segment.isLeast_withBraces_iff, ← Segment.lex_eq_error_iff, Except.mapError_eq_error_iff]
    simp

end ClusterPlan.Template
