import ClusterPlan.Proofs.Template.Parsing
import ClusterPlan.Proofs.Template.Rendering
import ClusterPlan.Proofs.Template.Segments
import ClusterPlan.Proofs.Template.Tokens

/-!
# Expressions inside templates

An expression put between `${` and a brace is a template. It stands there unharmed when lexing
gives its source back and rendering evaluates its tree and nothing else.

The lexer looks for the end by counting braces, and those in string literals count like any others.
So an expression stands unharmed exactly when its source is balanced as a text. The grammar opens
and closes braces in pairs, so this holds of every expression whose string literals are balanced,
but not of `'}'`, which is cut off inside the literal.
-/

namespace ClusterPlan.Template

/-- The template that is the expression alone. -/
def embed (source : String) : String := "$\x7b" ++ source ++ "\x7d"

structure Embeds (source : String) (e : Expr) : Prop where
  captured : lex (embed source) = .ok [.dynamic source]
  rendered : ∀ options functions context,
    renderWith options functions context (embed source) =
      (Piece.expr source e).render options functions context

theorem toList_embed (source : String) :
    (embed source).toList = '$' :: '\x7b' :: (source.toList ++ ['\x7d']) := by
  simp [embed]

theorem lex_embed_iff {source : String} :
    Segment.lex (embed source) = .ok [.dynamic source] ↔ IsBalanced source.toList := by
  have htemplate : Segment.template [.dynamic source] = embed source := by
    rw [Segment.template, Segment.writtenAll_dynamic, Segment.writtenAll_nil, ← toList_embed,
      String.ofList_toList]
  rw [Segment.lex_eq_ok_iff_template, Segment.wellFormed_dynamic]
  simp [htemplate, Segment.wellFormed_nil]

theorem embeds_of_isBalanced {source : String} {e : Expr} (hparse : Expr.parse source = .ok e)
    (h : IsBalanced source.toList) : Embeds source e := by
  have hlex := lex_embed_iff.mpr h
  refine ⟨Except.mapError_eq_ok_iff.mpr hlex, ?_⟩
  intro options functions context
  have hopener : hasOpener (embed source).toList = true := by
    rw [toList_embed]
    rfl
  rw [renderWith, if_pos hopener]
  exact renderPieces_of_lex_eq_dynamic hparse hlex options functions context

/-! ### Braces of expressions -/

/-- The braces of the tokens are balanced if those in the strings among them are. -/
def KeepsBalance (ts : List Token) : Prop :=
  (∀ text, Token.string text ∈ ts → IsBalanced text.toList) → IsBalanced (ts.flatMap Token.braces)

section KeepsBalance

variable {ts us : List Token} {t : Token}

theorem keepsBalance_nil : KeepsBalance [] := fun _ ↦ closes_nil.mpr rfl

theorem KeepsBalance.append (hts : KeepsBalance ts) (hus : KeepsBalance us) :
    KeepsBalance (ts ++ us) := by
  intro h
  rw [List.flatMap_append]
  exact isBalanced_append (hts fun text htext ↦ h text (List.mem_append_left us htext))
    (hus fun text htext ↦ h text (List.mem_append_right ts htext))

theorem keepsBalance_string (s : String) : KeepsBalance [.string s] := by
  intro h
  simpa [Token.braces] using closes_filter.mpr (h s (List.mem_singleton_self _))

/-- A token without braces changes nothing in front of others. -/
theorem KeepsBalance.behind (hts : KeepsBalance ts) (ht : t.braces = []) :
    KeepsBalance (t :: ts) := by
  intro h
  rw [List.flatMap_cons, ht]
  exact hts fun text htext ↦ h text (List.mem_cons_of_mem t htext)

theorem keepsBalance_of_braces_eq_nil (ht : t.braces = []) : KeepsBalance [t] :=
  keepsBalance_nil.behind ht

theorem IsKey.keepsBalance {key : String} (h : IsKey t key) : KeepsBalance [t] := by
  cases h with
  | string => exact keepsBalance_string _
  | ident => exact keepsBalance_of_braces_eq_nil rfl
  | number => exact keepsBalance_of_braces_eq_nil rfl

theorem braces_of_operator? {level : Level} {p : Punct} {op : BinaryOp}
    (h : level.operator? p = some op) : (Token.punct p).braces = [] := by
  cases level <;> cases p <;> first | rfl | cases h

theorem KeepsBalance.braced (h : KeepsBalance ts) :
    KeepsBalance (.punct .leftBrace :: (ts ++ [.punct .rightBrace])) := by
  intro hstrings
  have hinner := h fun text htext ↦ hstrings text (by simp [htext])
  simpa [Token.braces, Punct.text, isBrace] using hinner.braced

mutual

theorem Derives.keepsBalance : ∀ {phrase : Phrase} {ts : List Token} {e : Expr},
    Derives phrase ts e → KeepsBalance ts
  | _, _, _, .unconditional h => h.keepsBalance
  | _, _, _, .conditional hc hy hn =>
    hc.keepsBalance.append ((hy.keepsBalance.append (hn.keepsBalance.behind rfl)).behind rfl)
  | _, _, _, .single h => h.keepsBalance
  | _, _, _, .operation hl hop hr =>
    hl.keepsBalance.append (hr.keepsBalance.behind (braces_of_operator? hop))
  | _, _, _, .negative h | _, _, _, .negation h => h.keepsBalance.behind rfl
  | _, _, _, .unsigned h => h.keepsBalance
  | _, _, _, .bare h => h.keepsBalance
  | _, _, _, .member _ h =>
    h.keepsBalance.append ((keepsBalance_of_braces_eq_nil rfl).behind rfl)
  | _, _, _, .index h hk =>
    h.keepsBalance.append
      ((hk.keepsBalance.append (keepsBalance_of_braces_eq_nil rfl)).behind rfl)
  | _, _, _, .call h hes =>
    h.keepsBalance.append
      ((hes.keepsBalance.append (keepsBalance_of_braces_eq_nil rfl)).behind rfl)
  | _, _, _, .string s => keepsBalance_string s
  | _, _, _, .number _ | _, _, _, .word _ | _, _, _, .ident _ =>
    keepsBalance_of_braces_eq_nil rfl
  | _, _, _, .group h =>
    (h.keepsBalance.append (keepsBalance_of_braces_eq_nil rfl)).behind rfl
  | _, _, _, .array hes =>
    (hes.keepsBalance.append (keepsBalance_of_braces_eq_nil rfl)).behind rfl
  | _, _, _, .object hfields => hfields.keepsBalance.braced

theorem DerivesList.keepsBalance : ∀ {ts : List Token} {es : List Expr}, DerivesList ts es →
    KeepsBalance ts
  | _, _, .none => keepsBalance_nil
  | _, _, .last h => h.keepsBalance
  | _, _, .more h hes => h.keepsBalance.append (hes.keepsBalance.behind rfl)

theorem DerivesFields.keepsBalance : ∀ {ts : List Token} {fields : List (String × Expr)},
    DerivesFields ts fields → KeepsBalance ts
  | _, _, .none => keepsBalance_nil
  | _, _, .last hkey h => hkey.keepsBalance.append (h.keepsBalance.behind rfl)
  | _, _, .more hkey h hfields =>
    hkey.keepsBalance.append
      ((h.keepsBalance.append (hfields.keepsBalance.behind rfl)).behind rfl)

end

end KeepsBalance

theorem isBalanced_of_parse {source : String} {e : Expr} {tokens : List Token}
    (hparse : Expr.parse source = .ok e) (htokens : Token.tokenize source = .ok tokens)
    (hstrings : ∀ text, Token.string text ∈ tokens → IsBalanced text.toList) :
    IsBalanced source.toList := by
  rw [Expr.parse, htokens] at hparse
  have hbalanced := (derives_of_ofTokens hparse).keepsBalance hstrings
  rw [← Token.braces_scan htokens] at hbalanced
  exact closes_filter.mp hbalanced

/-- An expression stands unharmed in a template exactly when its source is balanced, as it always
is when its string literals are. -/
theorem embeds_iff_isBalanced {source : String} {e : Expr} (hparse : Expr.parse source = .ok e) :
    (Embeds source e ↔ IsBalanced source.toList) ∧
      ∀ tokens, Token.tokenize source = .ok tokens →
        (∀ text, Token.string text ∈ tokens → IsBalanced text.toList) → Embeds source e := by
  constructor
  · constructor
    · intro h
      exact lex_embed_iff.mp (Except.mapError_eq_ok_iff.mp h.captured)
    · exact embeds_of_isBalanced hparse
  · intro tokens htokens hstrings
    exact embeds_of_isBalanced hparse (isBalanced_of_parse hparse htokens hstrings)

theorem not_embeds_quotedBrace :
    ∃ e, Expr.parse "'\x7d'" = .ok e ∧ ¬Embeds "'\x7d'" e := by
  have htake : Token.take '\'' ['\x7d', '\''] = .ok ⟨.string "\x7d", [], by decide⟩ := rfl
  have htokens : Token.tokenize "'\x7d'" = .ok [.string "\x7d"] := by
    change Token.scan ['\'', '\x7d', '\''] = _
    rw [Token.scan.eq_def]
    dsimp only
    rw [htake, if_neg (by decide)]
    dsimp only
    rw [Token.scan.eq_def]
  have hderives : Derives (.binary .nullish) [.string "\x7d"] (.literal (.string "\x7d")) :=
    .single (.single (.single (.single (.single (.single (.single (.unsigned (.bare
      (.string "\x7d")))))))))
  have hparse : Expr.parse "'\x7d'" = .ok (.literal (.string "\x7d")) := by
    rw [Expr.parse, htokens]
    exact ofTokens_of_derives hderives.unconditional
  refine ⟨_, hparse, fun hembeds ↦ ?_⟩
  have hbalanced : IsBalanced ['\'', '\x7d', '\''] :=
    (embeds_iff_isBalanced hparse).1.mp hembeds
  rw [IsBalanced, closes_other (by decide) (by decide)] at hbalanced
  exact absurd hbalanced not_isBalanced_close

end ClusterPlan.Template
