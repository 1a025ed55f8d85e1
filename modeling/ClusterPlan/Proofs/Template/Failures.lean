import ClusterPlan.Proofs.Template.Shown

/-!
# The order of failures

A template that cannot be lexed fails by that, and one that can by the first of its expressions that
cannot be read; the context has no part in this, and nothing is called. Only a template that is read
as a whole is evaluated. Then, as far as nothing waits, the first segment that fails decides.
-/

namespace ClusterPlan.Template

/-- How a template ends: what it fails by where it does, and its text where it does not. -/
structure EndsInOrder (options : Options) (template : String) : Prop where
  unlexed : ∀ e, lex template = .error e → ∀ functions context,
    renderWith options functions context template = .fail e
  unread : ∀ segments segment, lex template = .ok segments →
    IsFirst (FailsAt Piece.ofSegment) segments segment →
      ∃ source fault, segment = .dynamic source ∧ Expr.parse source = .error fault ∧
        ∀ functions context, renderWith options functions context template =
          .fail (.malformed (Text.trim source) fault)
  failed : ∀ segments segment e functions context, lex template = .ok segments →
    (∀ s ∈ segments, ¬FailsAt Piece.ofSegment s) → IsPrompt functions context →
      IsFirst (FailsAt (Segment.shown options functions context)) segments segment →
        segment.shown options functions context = .error e →
          (renderWith options functions context template).result = .error e
  shown : ∀ segments functions context, lex template = .ok segments → IsPrompt functions context →
    (∀ s ∈ segments, ¬FailsAt (Segment.shown options functions context) s) →
      ∃ texts, segments.Forall₂ (fun s text ↦ s.shown options functions context = .ok text) texts ∧
        (renderWith options functions context template).result = .ok (String.join texts)
  unopened : ¬['$', '\x7b'] <:+: template.toList → ∀ functions context,
    renderWith options functions context template = pure template ∧
      renderPieces options functions context template = pure template

theorem Piece.ofSegment_eq_error_iff {segment : Segment} {e : Error} :
    ofSegment segment = .error e ↔ ∃ source fault, segment = .dynamic source ∧
      Expr.parse source = .error fault ∧ e = .malformed (Text.trim source) fault := by
  cases segment with
  | static text => simp [ofSegment]
  | dynamic source =>
    rw [ofSegment, Except.map_eq_error_iff, parseSource]
    cases hparse : Expr.parse source with
    | ok tree => simp [hparse]
    | error fault => simp [hparse, eq_comm]

/-- A segment that cannot be read shows nothing. -/
theorem failsAt_shown_of_ofSegment {options : Options} {functions : Functions} {context : Context}
    {segment : Segment} (h : FailsAt Piece.ofSegment segment) :
    FailsAt (Segment.shown options functions context) segment := by
  obtain ⟨e, he⟩ := h
  refine ⟨e, ?_⟩
  rw [Segment.shown_eq, he]
  rfl

theorem endsInOrder (options : Options) (template : String) : EndsInOrder options template where
  unlexed e hlex functions context := renderWith_of_lex_eq_error hlex
  unread segments segment hlex hfirst := by
    obtain ⟨e, he⟩ := hfirst.holds
    obtain ⟨source, fault, hsegment, hparse, rfl⟩ := Piece.ofSegment_eq_error_iff.mp he
    refine ⟨source, fault, hsegment, hparse, fun functions context ↦ ?_⟩
    exact renderWith_of_read_eq_error hlex (mapM_eq_error_iff.mpr ⟨segment, hfirst, he⟩)
  failed segments segment e functions context hlex hread hprompt hfirst he := by
    rw [result_renderWith_of_isPrompt hprompt hlex hread]
    exact Segment.shownAll_eq_error_iff.mpr ⟨segment, hfirst, he⟩
  shown segments functions context hlex hprompt hnone := by
    have hread : ∀ s ∈ segments, ¬FailsAt Piece.ofSegment s := fun s hs hfails ↦
      hnone s hs (failsAt_shown_of_ofSegment hfails)
    obtain ⟨texts, htexts⟩ := exists_mapM_eq_ok_iff.mpr hnone
    refine ⟨texts, mapM_eq_ok_iff.mp htexts, ?_⟩
    rw [result_renderWith_of_isPrompt hprompt hlex hread, Segment.shownAll, htexts]
    rfl
  unopened hopener functions context := by
    have hplain : renderPieces options functions context template = pure template :=
      renderPieces_of_not_opener hopener
    exact ⟨renderWith_eq_renderPieces.trans hplain, hplain⟩

/-- The call in front of an expression that cannot be read is not made. -/
theorem endsInOrder_callBeforeFault :
    lex "$\x7btick()\x7d $\x7ba +\x7d" = .ok [.dynamic "tick()", .static " ", .dynamic "a +"] ∧
      IsFirst (FailsAt Piece.ofSegment) [.dynamic "tick()", .static " ", .dynamic "a +"]
        (.dynamic "a +") ∧
      ∀ functions context, render functions context "$\x7btick()\x7d $\x7ba +\x7d" =
        .fail (.malformed "a +" .unexpectedEnd) := by
  have hlex : lex "$\x7btick()\x7d $\x7ba +\x7d" =
      .ok [.dynamic "tick()", .static " ", .dynamic "a +"] := rfl
  have hparse : Expr.parse "a +" = .error .unexpectedEnd := by with_unfolding_all rfl
  have hcall : Piece.ofSegment (.dynamic "tick()") =
      .ok (.expr "tick()" (.call (.ident "tick") [])) := by with_unfolding_all rfl
  have hfirst : IsFirst (FailsAt Piece.ofSegment) [.dynamic "tick()", .static " ", .dynamic "a +"]
      (.dynamic "a +") := by
    have hblank : Piece.ofSegment (.static " ") = .ok (.text " ") := rfl
    rw [isFirst_cons_of_neg (not_failsAt_of_eq_ok hcall),
      isFirst_cons_of_neg (not_failsAt_of_eq_ok hblank)]
    have hfault : FailsAt Piece.ofSegment (.dynamic "a +") :=
      ⟨.malformed _ _, Piece.ofSegment_eq_error_iff.mpr ⟨_, _, rfl, hparse, rfl⟩⟩
    exact (isFirst_cons_of_pos hfault).mpr rfl
  obtain ⟨source, fault, hsource, hfault, hrender⟩ :=
    (endsInOrder .strict "$\x7btick()\x7d $\x7ba +\x7d").unread _ _ hlex hfirst
  obtain rfl := Segment.dynamic.inj hsource
  obtain rfl := Except.error.inj (hparse.symm.trans hfault)
  have htrim : Text.trim "a +" = "a +" := rfl
  refine ⟨hlex, hfirst, fun functions context ↦ ?_⟩
  rw [render, hrender, htrim]

end ClusterPlan.Template
