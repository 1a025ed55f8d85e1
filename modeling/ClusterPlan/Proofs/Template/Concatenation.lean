import ClusterPlan.Bindings.Global
import ClusterPlan.Proofs.Template.Shown

/-!
# Templates one behind the other

A template that can be lexed and ends in neither `$` nor a backslash has no part in how the text
behind it is lexed: it ends outside of expressions, and no mark goes across its end. The segments
of the whole are those of both, where static text at the end of the first and at the start of the
second is one. So the whole is rendered exactly when both are, and as these one behind the other.
-/

namespace ClusterPlan.Template

namespace Segment

/-! ### Segments one behind the other -/

/-- The segments of two texts that stand one behind the other. -/
def glue : List Segment → List Segment → List Segment
  | [], more => more
  | [static text], static next :: more => static (text ++ next) :: more
  | segment :: rest, more => segment :: glue rest more

def StartsDynamic (segments : List Segment) : Prop :=
  ∃ source rest, segments = dynamic source :: rest

theorem glue_dynamic (source : String) (rest more : List Segment) :
    glue (dynamic source :: rest) more = dynamic source :: glue rest more := by
  rw [glue]
  intro text next others _ htext
  cases htext

theorem glue_static_dynamic (text source : String) (rest more : List Segment) :
    glue (static text :: dynamic source :: rest) more =
      static text :: glue (dynamic source :: rest) more := by
  rw [glue]
  intro _ _ _ _ _ hrest
  cases hrest

/-- Text held in front of other held text is held together with it. -/
theorem glue_flush {more : List Segment} (h : more = [] ∨ StartsDynamic more)
    (held front : List Char) :
    glue (flush front []) (flush held more) = flush (held ++ front) more := by
  by_cases hfront : front = []
  · subst hfront
    rw [List.append_nil]
    rfl
  have hflush : flush front [] = [static (String.ofList front.reverse)] := by simp [flush, hfront]
  rw [hflush]
  by_cases hheld : held = []
  · subst hheld
    rcases h with rfl | hmore
    · simp [flush, hfront, glue]
    · obtain ⟨source, rest, rfl⟩ := hmore
      simp [flush, hfront, glue]
  · simp [flush, hheld, glue]

theorem flush_glue {segments : List Segment} (h : StartsDynamic segments) (held : List Char)
    (more : List Segment) : flush held (glue segments more) = glue (flush held segments) more := by
  obtain ⟨source, rest, rfl⟩ := h
  unfold flush
  split
  · rfl
  · rw [glue_static_dynamic]

theorem startsDynamic_of_scan {depth : Nat} {held cs : List Char} {segments : List Segment}
    (h : scan (depth + 1) held cs = .ok segments) : StartsDynamic segments := by
  obtain ⟨source, more, rfl, -⟩ := (scanned_of_scan h).exists_rest
  exact ⟨_, more, rfl⟩

/-! ### Lexing what stands behind -/

/-- Text that is held back already comes in front of what is scanned. -/
theorem scan_held {depth : Nat} (hdepth : depth = 0) (held front cs : List Char) :
    scan depth (held ++ front) cs = (scan depth held cs).map (glue (flush front [])) := by
  fun_induction scan depth held cs with
  | case1 held =>
    rw [scan]
    exact congrArg Except.ok (glue_flush (.inl rfl) held front).symm
  | case2 held rest ih => rw [scan, ← ih rfl, List.cons_append, List.cons_append]
  | case3 held rest ih =>
    rw [scan]
    cases hrest : scan 1 [] rest with
    | error n => rfl
    | ok segments =>
      exact congrArg Except.ok (glue_flush (.inr (startsDynamic_of_scan hrest)) held front).symm
  | case4 held c rest hescape hopen ih =>
    rw [scan_plain ⟨hescape, hopen⟩, ← ih rfl, List.cons_append]
  -- Inside an expression the held text belongs to it, so there is nothing to show at other depths.
  | case5 | case6 | case7 | case8 | case9 => cases hdepth

/-- The end of the text neither begins a mark nor takes the meaning of one away. -/
structure EndsPlain (cs : List Char) : Prop where
  dollar : cs.getLast? ≠ some '$'
  backslash : cs.getLast? ≠ some '\\'

section EndsPlain

variable {c : Char} {rest : List Char}

theorem EndsPlain.tail (h : EndsPlain (c :: rest)) : EndsPlain rest := by
  cases rest with
  | nil => exact ⟨by simp, by simp⟩
  | cons d rest =>
    have hlast : (c :: d :: rest).getLast? = (d :: rest).getLast? := List.getLast?_cons_cons
    exact ⟨hlast ▸ h.dollar, hlast ▸ h.backslash⟩

theorem IsPlain.append (h : IsPlain c rest) (hend : EndsPlain (c :: rest)) (ds : List Char) :
    IsPlain c (rest ++ ds) where
  not_escape := by
    rintro cs rfl hcs
    match rest, h, hend with
    | [], _, hend => exact hend.backslash rfl
    | [d], _, hend =>
      obtain ⟨rfl, -⟩ := List.cons.inj hcs
      exact hend.dollar rfl
    | d :: e :: rest, h, _ =>
      simp only [List.cons_append, List.cons.injEq] at hcs
      exact h.not_escape rest rfl (by rw [hcs.1, hcs.2.1])
  not_open := by
    rintro cs rfl hcs
    match rest, h, hend with
    | [], _, hend => exact hend.dollar rfl
    | d :: rest, h, _ =>
      obtain ⟨rfl, -⟩ := List.cons.inj hcs
      exact h.not_open rest rfl rfl

end EndsPlain

theorem scan_append {depth : Nat} {held cs : List Char} {segments : List Segment}
    (h : scan depth held cs = .ok segments) (hend : EndsPlain cs) (ds : List Char) :
    scan depth held (cs ++ ds) = (scan 0 [] ds).map (glue segments) := by
  fun_induction scan depth held cs generalizing segments with
  -- The first text ends here: what it holds back is glued to what the second begins with.
  | case1 held =>
    obtain rfl := Except.ok.inj h
    exact scan_held rfl [] held ds
  | case2 held rest ih =>
    rw [List.cons_append, List.cons_append, List.cons_append, scan]
    exact ih h hend.tail.tail.tail
  | case3 held rest ih =>
    obtain ⟨found, hfound, rfl⟩ := Except.map_eq_ok_iff.mp h
    rw [List.cons_append, List.cons_append, scan, ih hfound hend.tail.tail]
    cases scan 0 [] ds with
    | error n => rfl
    | ok more => exact congrArg Except.ok (flush_glue (startsDynamic_of_scan hfound) held more)
  | case4 held c rest hescape hopen ih =>
    rw [List.cons_append, scan_plain (IsPlain.append ⟨hescape, hopen⟩ hend ds)]
    exact ih h hend.tail
  | case5 => cases h
  | case6 depth held rest ih =>
    rw [List.cons_append, scan]
    exact ih h hend.tail
  | case7 held rest ih =>
    obtain ⟨found, hfound, rfl⟩ := Except.map_eq_ok_iff.mp h
    rw [List.cons_append, scan, ih hfound hend.tail]
    cases scan 0 [] ds with
    | error n => rfl
    | ok more => exact congrArg Except.ok (glue_dynamic _ found more).symm
  | case8 depth held rest ih =>
    rw [List.cons_append, scan]
    exact ih h hend.tail
  | case9 depth held c rest hopen hfirst hlater ih =>
    have hclose : c ≠ '\x7d' := by
      rcases depth with _ | depth
      · exact hfirst rfl
      · exact hlater depth rfl
    rw [List.cons_append, scan_inner hopen hclose]
    exact ih h hend.tail

end Segment

theorem lex_append {first second : String} {segments : List Segment}
    (hlex : lex first = .ok segments) (hend : Segment.EndsPlain first.toList) :
    lex (first ++ second) = (lex second).map (Segment.glue segments) := by
  unfold lex Segment.lex at *
  rw [String.toList_append, Segment.scan_append (Except.mapError_eq_ok_iff.mp hlex) hend]
  cases Segment.scan 0 [] second.toList with
  | error n => rfl
  | ok more => rfl

/-! ### Rendering what stands behind -/

section Rendering

variable (options : Options) (functions : Functions) (context : Context)

namespace Segment

theorem shownAll_cons (segment : Segment) (rest : List Segment) :
    shownAll options functions context (segment :: rest) =
      segment.shown options functions context >>= fun text ↦
        (shownAll options functions context rest).map (text ++ ·) := by
  unfold shownAll
  rw [List.mapM_cons]
  cases segment.shown options functions context with
  | error e => rfl
  | ok text =>
    cases rest.mapM (shown options functions context) with
    | error e => rfl
    | ok texts => exact congrArg Except.ok (String.join_cons)

theorem shownAll_glue (segments more : List Segment) :
    shownAll options functions context (glue segments more) =
      shownAll options functions context segments >>= fun text ↦
        (shownAll options functions context more).map (text ++ ·) := by
  fun_induction glue segments more with
  | case1 more =>
    have hempty (result : Except Error String) : result.map ("" ++ ·) = result := by
      cases result with
      | error e => rfl
      | ok text => exact congrArg Except.ok String.empty_append
    exact (hempty _).symm
  | case2 text next more =>
    rw [shownAll_cons, shownAll_cons, shownAll_cons]
    simp only [shown, shownAll, List.mapM_nil]
    cases more.mapM (shown options functions context) with
    | error e => rfl
    | ok texts =>
      change Except.ok (text ++ next ++ String.join texts) =
        Except.ok (text ++ "" ++ (next ++ String.join texts))
      rw [String.append_empty, String.append_assoc]
  | case3 segment rest more hne ih =>
    rw [shownAll_cons, shownAll_cons, ih]
    cases segment.shown options functions context with
    | error e => rfl
    | ok text =>
      cases shownAll options functions context rest with
      | error e => rfl
      | ok front =>
        cases shownAll options functions context more with
        | error e => rfl
        | ok back => exact congrArg Except.ok String.append_assoc.symm

theorem shownAll_glue_eq_ok_iff {segments more : List Segment} {text : String} :
    shownAll options functions context (glue segments more) = .ok text ↔
      ∃ front back, shownAll options functions context segments = .ok front ∧
        shownAll options functions context more = .ok back ∧ text = front ++ back := by
  rw [shownAll_glue, Except.bind_eq_ok_iff]
  simp only [Except.map_eq_ok_iff]
  constructor
  · rintro ⟨front, hfront, back, hback, rfl⟩
    exact ⟨front, back, hfront, hback, rfl⟩
  · rintro ⟨front, back, hfront, hback, rfl⟩
    exact ⟨front, hfront, back, hback, rfl⟩

end Segment

section Parts

variable {options functions context}

theorem result_renderWith_append {first second front back : String}
    (hend : Segment.EndsPlain first.toList)
    (hfirst : (renderWith options functions context first).result = .ok front)
    (hsecond : (renderWith options functions context second).result = .ok back) :
    (renderWith options functions context (first ++ second)).result = .ok (front ++ back) := by
  rw [result_renderWith_eq_ok_iff] at *
  obtain ⟨segments, hsegments, hfront⟩ := hfirst
  obtain ⟨more, hmore, hback⟩ := hsecond
  refine ⟨Segment.glue segments more, ?_, ?_⟩
  · rw [lex_append hsegments hend, hmore]
    rfl
  · rw [Segment.shownAll_glue_eq_ok_iff]
    exact ⟨front, back, hfront, hback, rfl⟩

/-- A template of parts is rendered part by part. -/
theorem result_renderWith_join {α : Type} {template text : α → String} {parts : List α}
    (hend : ∀ part ∈ parts, Segment.EndsPlain (template part).toList)
    (htext : ∀ part ∈ parts,
      (renderWith options functions context (template part)).result = .ok (text part)) :
    (renderWith options functions context (String.join (parts.map template))).result =
      .ok (String.join (parts.map text)) := by
  induction parts with
  | nil => rfl
  | cons part rest ih =>
    rw [List.forall_mem_cons] at hend htext
    rw [List.map_cons, List.map_cons, String.join_cons, String.join_cons]
    exact result_renderWith_append hend.1 htext.1 (ih hend.2 htext.2)

end Parts

/-- A template that can be lexed and ends in neither `$` nor a backslash is rendered by itself. -/
theorem renderWith_append_eq_ok_iff {first : String} (hlex : ∃ segments, lex first = .ok segments)
    (hdollar : first.toList.getLast? ≠ some '$') (hbackslash : first.toList.getLast? ≠ some '\\')
    (second text : String) :
    (renderWith options functions context (first ++ second)).result = .ok text ↔
      ∃ front back, (renderWith options functions context first).result = .ok front ∧
        (renderWith options functions context second).result = .ok back ∧ text = front ++ back := by
  obtain ⟨segments, hsegments⟩ := hlex
  simp only [result_renderWith_eq_ok_iff, lex_append hsegments ⟨hdollar, hbackslash⟩, hsegments,
    Except.ok.injEq, exists_eq_left', Except.map_eq_ok_iff]
  constructor
  · rintro ⟨-, ⟨more, hmore, rfl⟩, hshown⟩
    obtain ⟨front, back, hfront, hback, rfl⟩ :=
      (Segment.shownAll_glue_eq_ok_iff options functions context).mp hshown
    exact ⟨front, back, hfront, ⟨more, hmore, hback⟩, rfl⟩
  · rintro ⟨front, back, hfront, ⟨more, hmore, hback⟩, htext⟩
    refine ⟨_, ⟨more, hmore, rfl⟩, ?_⟩
    exact (Segment.shownAll_glue_eq_ok_iff options functions context).mpr
      ⟨front, back, hfront, hback, htext⟩

/-- The text behind is left as it is by itself, and here is rendered with the whole. -/
theorem renderWith_append_plainText :
    (∃ segments, lex "$\x7b'a'\x7d \x7b" = .ok segments) ∧
      "$\x7b'a'\x7d \x7b".toList.getLast? ≠ some '$' ∧
      "$\x7b'a'\x7d \x7b".toList.getLast? ≠ some '\\' ∧
      (render Bindings.none ∅ ("$\x7b'a'\x7d \x7b" ++ "b\x7d")).result = .ok "a \x7bb\x7d" := by
  have hlex : lex "$\x7b'a'\x7d \x7b" = .ok [.dynamic "'a'", .static " \x7b"] := rfl
  have hfront : (render Bindings.none ∅ "$\x7b'a'\x7d \x7b").result = .ok "a \x7b" :=
    Except.eq_ok_of_toOption (by decide +kernel)
  have hback : (render Bindings.none ∅ "b\x7d").result = .ok "b\x7d" :=
    Except.eq_ok_of_toOption (by decide +kernel)
  have happend := renderWith_append_eq_ok_iff .strict Bindings.none ∅ ⟨_, hlex⟩ (by decide) (by decide)
  exact ⟨⟨_, hlex⟩, by decide, by decide, (happend _ _).mpr ⟨_, _, hfront, hback, rfl⟩⟩

end Rendering

end ClusterPlan.Template
