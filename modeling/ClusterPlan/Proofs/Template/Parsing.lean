import ClusterPlan.Proofs.Template.Grammar
import ClusterPlan.Proofs.Template.Readers

/-!
# Reading follows the grammar

What a reader takes off the front of the tokens derives its tree, by induction on how many tokens
there are and on how tight the phrase is. The other way round, a phrase is read whole wherever it
ends before the tokens that follow, by induction on its derivation. A repetition ends only where no
further part follows, so behind a phrase that repetition resumes.
-/

namespace ClusterPlan.Template

open ClusterPlan.Template.Expr

/-! ### The reader of each phrase -/

namespace Level

def rank : Level → Nat
  | nullish => 0
  | or => 1
  | and => 2
  | equality => 3
  | comparison => 4
  | sum => 5
  | product => 6

/-- The operators of a level and of all tighter ones. -/
def tables (level : Level) : List (List (Punct × BinaryOp)) := levels.drop level.rank

/-- Further operands of a level behind `left`. -/
def readOn (level : Level) (left : Expr) (tokens : List Token) :
    Except Fault (Expr × List Token) :=
  readOperands (level.tables.headD []) level.tables.tail left tokens

theorem lookup_head_tables (level : Level) (p : Punct) :
    (level.tables.headD []).lookup p = level.operator? p := by
  cases level <;> cases p <;> rfl

theorem reach_tighter (level : Level) : level.tighter.reach < (Phrase.binary level).reach := by
  cases level <;> decide

theorem reach_of_operator? {level : Level} {p : Punct} {op : BinaryOp}
    (h : level.operator? p = some op) : p.reach = (Phrase.binary level).reach := by
  cases level <;> cases p <;> first | rfl | cases h

end Level

namespace Phrase

def read : Phrase → List Token → Except Fault (Expr × List Token)
  | expr, tokens => readExpr tokens
  | binary level, tokens => readBinary level.tables tokens
  | unary, tokens => readUnary tokens
  | operand, tokens => do
    let (target, rest) ← readPrimary tokens
    readParts target rest
  | primary, tokens => readPrimary tokens

@[simp] theorem read_expr (tokens : List Token) : expr.read tokens = readExpr tokens := rfl

theorem read_nullish (tokens : List Token) :
    (binary .nullish).read tokens = readBinary levels tokens :=
  rfl

@[simp] theorem read_unary (tokens : List Token) : unary.read tokens = readUnary tokens := rfl

@[simp]
theorem read_operand (tokens : List Token) :
    operand.read tokens = (do
      let (target, rest) ← primary.read tokens
      readParts target rest) :=
  rfl

@[simp] theorem read_primary (tokens : List Token) : primary.read tokens = readPrimary tokens := rfl

end Phrase

theorem Level.read_tighter (level : Level) (tokens : List Token) :
    level.tighter.read tokens = readBinary level.tables.tail tokens := by
  cases level with
  | product => exact (readBinary_nil tokens).symm
  | _ => rfl

theorem Phrase.read_binary (level : Level) (tokens : List Token) :
    (Phrase.binary level).read tokens = (do
      let (left, rest) ← level.tighter.read tokens
      level.readOn left rest) := by
  have htables : level.tables = level.tables.headD [] :: level.tables.tail := by
    cases level <;> rfl
  rw [Phrase.read, htables, readBinary_cons, level.read_tighter]
  rfl

theorem Level.readOn_eq (level : Level) (left : Expr) (tokens : List Token) :
    level.readOn left tokens =
      match tokens with
      | .punct p :: rest =>
        match level.operator? p with
        | none => .ok (left, .punct p :: rest)
        | some op => do
          let (right, rest) ← level.tighter.read rest
          level.readOn (.binary op left right) rest
      | other => .ok (left, other) := by
  rw [readOn, readOperands_eq]
  match tokens with
  | [] | .number _ :: _ | .string _ :: _ | .ident _ :: _ => rfl
  | .punct p :: rest =>
    dsimp only
    rw [level.lookup_head_tables, level.read_tighter]
    rfl

theorem keyOf?_eq_some_iff {t : Token} {key : String} : keyOf? t = some key ↔ IsKey t key := by
  constructor
  · intro h
    cases t with
    | punct p => cases h
    | number x | string s | ident name =>
      obtain rfl := Option.some.inj h
      constructor
  · rintro (_ | _ | _)
    · rfl
    · rfl
    · rfl

theorem word_eq (name : String) :
    word name = match literalWords.lookup name with
      | some l => .literal l
      | none => .ident name := by
  unfold word literalWords
  simp only [List.lookup_cons, List.lookup_nil]
  by_cases htrue : name = "true"
  · rw [if_pos htrue, htrue]
    rfl
  by_cases hfalse : name = "false"
  · rw [if_neg htrue, if_pos hfalse, hfalse]
    rfl
  by_cases hnull : name = "null"
  · rw [if_neg htrue, if_neg hfalse, if_pos hnull, hnull]
    rfl
  by_cases hundefined : name = "undefined"
  · rw [if_neg htrue, if_neg hfalse, if_neg hnull, if_pos hundefined, hundefined]
    rfl
  rw [if_neg htrue, if_neg hfalse, if_neg hnull, if_neg hundefined, beq_false_of_ne htrue,
    beq_false_of_ne hfalse, beq_false_of_ne hnull, beq_false_of_ne hundefined]

/-! ### What is read is derived -/

/-- Whatever the reader of a phrase takes off the tokens derives what it reads. -/
def Explains (phrase : Phrase) (tokens : List Token) : Prop :=
  ∀ e rest, phrase.read tokens = .ok (e, rest) →
    ∃ used, tokens = used ++ rest ∧ Derives phrase used e

theorem Derives.length_pos {phrase : Phrase} {ts : List Token} {e : Expr}
    (h : Derives phrase ts e) : 0 < ts.length := by
  obtain ⟨t, rest, rfl, -⟩ := h.begins
  exact Nat.succ_pos _

theorem Explains.exists_derives {phrase : Phrase} {tokens rest : List Token} {e : Expr}
    (h : Explains phrase tokens) (hread : phrase.read tokens = .ok (e, rest)) :
    ∃ used, tokens = used ++ rest ∧ Derives phrase used e ∧ rest.length < tokens.length := by
  obtain ⟨used, rfl, hderives⟩ := h e rest hread
  have hpos := hderives.length_pos
  exact ⟨used, rfl, hderives, by rw [List.length_append]; omega⟩

section Sound

variable {bound : Nat}

theorem readList_sound (hexpr : ∀ tokens, tokens.length < bound → Explains .expr tokens)
    {close : Punct} {tokens rest : List Token} {es : List Expr} (hbound : tokens.length < bound)
    (h : readList close tokens = .ok (es, rest)) :
    ∃ used, tokens = used ++ .punct close :: rest ∧ DerivesList used es := by
  induction hlength : tokens.length using Nat.strongRecOn generalizing tokens es with
  | ind length ih =>
    subst hlength
    rw [readList_eq] at h
    cases hclose : eat close tokens with
    | some tail =>
      rw [hclose] at h
      obtain ⟨rfl, rfl⟩ := Prod.mk.inj (Except.ok.inj h)
      exact ⟨[], eat_eq_some_iff.mp hclose, .none⟩
    | none =>
      rw [hclose] at h
      obtain ⟨⟨first, tail⟩, hfirst, hbehind⟩ := Except.bind_eq_ok_iff.mp h
      obtain ⟨used, htokens, hderives, hshorter⟩ := (hexpr _ hbound).exists_derives hfirst
      dsimp only at hbehind
      cases hcomma : eat .comma tail with
      | some behind =>
        obtain rfl := eat_eq_some_iff.mp hcomma
        rw [hcomma] at hbehind
        obtain ⟨⟨more, tail⟩, hmore, hpure⟩ := Except.bind_eq_ok_iff.mp hbehind
        obtain ⟨rfl, rfl⟩ := Prod.mk.inj (Except.ok.inj hpure)
        have hshorter : behind.length < tokens.length := Nat.lt_of_succ_lt hshorter
        obtain ⟨usedMore, rfl, hderivesMore⟩ :=
          ih _ hshorter (Nat.lt_trans hshorter hbound) hmore rfl
        exact ⟨used ++ .punct .comma :: usedMore, by simp [htokens], .more hderives hderivesMore⟩
      | none =>
        rw [hcomma] at hbehind
        obtain ⟨behind, hend, hpure⟩ := Except.bind_eq_ok_iff.mp hbehind
        obtain ⟨rfl, rfl⟩ := Prod.mk.inj (Except.ok.inj hpure)
        obtain rfl := expect_eq_ok_iff.mp hend
        exact ⟨used, htokens, .last hderives⟩

theorem readFields_sound (hexpr : ∀ tokens, tokens.length < bound → Explains .expr tokens)
    {tokens rest : List Token} {fields : List (String × Expr)} (hbound : tokens.length < bound)
    (h : readFields tokens = .ok (fields, rest)) :
    ∃ used, tokens = used ++ .punct .rightBrace :: rest ∧ DerivesFields used fields := by
  induction hlength : tokens.length using Nat.strongRecOn generalizing tokens fields with
  | ind length ih =>
    subst hlength
    rw [readFields_eq] at h
    cases hclose : eat .rightBrace tokens with
    | some tail =>
      rw [hclose] at h
      obtain ⟨rfl, rfl⟩ := Prod.mk.inj (Except.ok.inj h)
      exact ⟨[], eat_eq_some_iff.mp hclose, .none⟩
    | none =>
      rw [hclose] at h
      match tokens with
      | [] => cases h
      | token :: tail =>
        dsimp only at h
        cases hkey : keyOf? token with
        | none =>
          rw [hkey] at h
          cases h
        | some key =>
          rw [hkey] at h
          have hkey := keyOf?_eq_some_iff.mp hkey
          obtain ⟨front, hcolon, hfront⟩ := Except.bind_eq_ok_iff.mp h
          obtain ⟨⟨value, tail'⟩, hvalue, hbehind⟩ := Except.bind_eq_ok_iff.mp hfront
          obtain rfl := expect_eq_ok_iff.mp hcolon
          simp only [List.length_cons] at hbound ih
          obtain ⟨used, htail, hderives, hshorter⟩ :=
            (hexpr front (by omega)).exists_derives hvalue
          dsimp only at hbehind
          cases hcomma : eat .comma tail' with
          | some behind =>
            rw [hcomma] at hbehind
            obtain ⟨⟨more, tail⟩, hmore, hpure⟩ := Except.bind_eq_ok_iff.mp hbehind
            obtain ⟨rfl, rfl⟩ := Prod.mk.inj (Except.ok.inj hpure)
            obtain rfl := eat_eq_some_iff.mp hcomma
            simp only [List.length_cons] at hshorter
            obtain ⟨usedMore, rfl, hderivesMore⟩ := ih _ (by omega) (by omega) hmore rfl
            exact ⟨token :: .punct .colon :: (used ++ .punct .comma :: usedMore), by simp [htail],
              .more hkey hderives hderivesMore⟩
          | none =>
            rw [hcomma] at hbehind
            obtain ⟨behind, hend, hpure⟩ := Except.bind_eq_ok_iff.mp hbehind
            obtain ⟨rfl, rfl⟩ := Prod.mk.inj (Except.ok.inj hpure)
            obtain rfl := expect_eq_ok_iff.mp hend
            exact ⟨token :: .punct .colon :: used, by simp [htail], .last hkey hderives⟩

/-- The parts behind an operand make a longer operand. -/
theorem readParts_sound (hexpr : ∀ tokens, tokens.length < bound → Explains .expr tokens)
    {front tokens rest : List Token} {target e : Expr} (hbound : tokens.length ≤ bound)
    (htarget : Derives .operand front target) (h : readParts target tokens = .ok (e, rest)) :
    ∃ used, tokens = used ++ rest ∧ Derives .operand (front ++ used) e := by
  -- What is in front grows with each part, so the induction is on the tokens that are left.
  induction hlength : tokens.length using Nat.strongRecOn generalizing front tokens target with
  | ind length ih =>
    subst hlength
    rw [readParts_eq] at h
    split at h
    next name tail =>
      have hlonger := htarget.member name
      simp only [List.length_cons] at hbound ih
      obtain ⟨used, rfl, hderives⟩ := ih _ (by omega) (by omega) hlonger h rfl
      exact ⟨.punct .dot :: .ident name :: used, rfl, by simpa using hderives⟩
    next => cases h
    next tail =>
      obtain ⟨⟨key, behind⟩, hkey, hbehind⟩ := Except.bind_eq_ok_iff.mp h
      obtain ⟨more, hend, hmore⟩ := Except.bind_eq_ok_iff.mp hbehind
      obtain ⟨usedKey, rfl, hderivesKey, hshorter⟩ := (hexpr _ hbound).exists_derives hkey
      obtain rfl := expect_eq_ok_iff.mp hend
      have hlonger := htarget.index hderivesKey
      simp only [List.length_cons] at hbound hshorter ih
      obtain ⟨used, rfl, hderives⟩ := ih _ (by omega) (by omega) hlonger hmore rfl
      exact ⟨.punct .leftBracket :: (usedKey ++ .punct .rightBracket :: used), by simp,
        by simpa using hderives⟩
    next tail =>
      obtain ⟨⟨arguments, more⟩, harguments, hmore⟩ := Except.bind_eq_ok_iff.mp h
      obtain ⟨usedArguments, rfl, hderivesArguments⟩ := readList_sound hexpr hbound harguments
      have hlonger := htarget.call hderivesArguments
      simp only [List.length_cons, List.length_append] at hbound ih
      obtain ⟨used, rfl, hderives⟩ := ih _ (by omega) (by omega) hlonger hmore rfl
      exact ⟨.punct .leftParen :: (usedArguments ++ .punct .rightParen :: used), by simp,
        by simpa using hderives⟩
    next =>
      obtain ⟨rfl, rfl⟩ := Prod.mk.inj (Except.ok.inj h)
      exact ⟨[], rfl, by simpa using htarget⟩

/-- The operands behind the first ones of a level make a longer phrase of the level. -/
theorem readOn_sound {level : Level}
    (htighter : ∀ tokens, tokens.length < bound → Explains level.tighter tokens)
    {front tokens rest : List Token} {left e : Expr} (hbound : tokens.length ≤ bound)
    (hleft : Derives (.binary level) front left) (h : level.readOn left tokens = .ok (e, rest)) :
    ∃ used, tokens = used ++ rest ∧ Derives (.binary level) (front ++ used) e := by
  induction hlength : tokens.length using Nat.strongRecOn generalizing front tokens left with
  | ind length ih =>
    subst hlength
    rw [level.readOn_eq] at h
    split at h
    next p tail =>
      cases hop : level.operator? p with
      | none =>
        rw [hop] at h
        obtain ⟨rfl, rfl⟩ := Prod.mk.inj (Except.ok.inj h)
        exact ⟨[], rfl, by simpa using hleft⟩
      | some op =>
        rw [hop] at h
        obtain ⟨⟨right, more⟩, hright, hmore⟩ := Except.bind_eq_ok_iff.mp h
        obtain ⟨usedRight, rfl, hderivesRight, hshorter⟩ :=
          (htighter _ hbound).exists_derives hright
        have hlonger := hleft.operation hop hderivesRight
        simp only [List.length_cons] at hbound ih
        obtain ⟨used, rfl, hderives⟩ := ih _ (by omega) (by omega) hlonger hmore rfl
        exact ⟨.punct p :: (usedRight ++ used), by simp, by simpa using hderives⟩
    next =>
      obtain ⟨rfl, rfl⟩ := Prod.mk.inj (Except.ok.inj h)
      exact ⟨[], rfl, by simpa using hleft⟩

variable {tokens : List Token}

theorem explains_primary (hexpr : ∀ ts, ts.length < tokens.length → Explains .expr ts) :
    Explains .primary tokens := by
  intro e rest h
  rw [Phrase.read, readPrimary_eq] at h
  split at h
  next => cases h
  next x tail =>
    obtain ⟨rfl, rfl⟩ := Prod.mk.inj (Except.ok.inj h)
    exact ⟨_, rfl, .number x⟩
  next s tail =>
    obtain ⟨rfl, rfl⟩ := Prod.mk.inj (Except.ok.inj h)
    exact ⟨_, rfl, .string s⟩
  next name tail =>
    obtain ⟨rfl, rfl⟩ := Prod.mk.inj (Except.ok.inj h)
    rw [word_eq]
    cases hword : literalWords.lookup name with
    | some l => exact ⟨_, rfl, .word hword⟩
    | none => exact ⟨_, rfl, .ident hword⟩
  next tail =>
    obtain ⟨⟨inner, behind⟩, hinner, hbehind⟩ := Except.bind_eq_ok_iff.mp h
    obtain ⟨more, hend, hpure⟩ := Except.bind_eq_ok_iff.mp hbehind
    obtain ⟨rfl, rfl⟩ := Prod.mk.inj (Except.ok.inj hpure)
    obtain ⟨used, rfl, hderives⟩ := hexpr tail (Nat.lt_succ_self _) _ _ hinner
    obtain rfl := expect_eq_ok_iff.mp hend
    exact ⟨_, by simp, .group hderives⟩
  next tail =>
    obtain ⟨⟨items, behind⟩, hitems, hpure⟩ := Except.bind_eq_ok_iff.mp h
    obtain ⟨rfl, rfl⟩ := Prod.mk.inj (Except.ok.inj hpure)
    obtain ⟨used, rfl, hderives⟩ := readList_sound hexpr (Nat.lt_succ_self _) hitems
    exact ⟨_, by simp, .array hderives⟩
  next tail =>
    obtain ⟨⟨fields, behind⟩, hfields, hpure⟩ := Except.bind_eq_ok_iff.mp h
    obtain ⟨rfl, rfl⟩ := Prod.mk.inj (Except.ok.inj hpure)
    obtain ⟨used, rfl, hderives⟩ := readFields_sound hexpr (Nat.lt_succ_self _) hfields
    exact ⟨_, by simp, .object hderives⟩
  next => cases h

theorem explains_operand (hexpr : ∀ ts, ts.length < tokens.length → Explains .expr ts)
    (hprimary : Explains .primary tokens) : Explains .operand tokens := by
  intro e rest h
  obtain ⟨⟨target, tail⟩, htarget, hparts⟩ := Except.bind_eq_ok_iff.mp h
  obtain ⟨usedTarget, htokens, hderives, hshorter⟩ := hprimary.exists_derives htarget
  obtain ⟨used, rfl, hlonger⟩ := readParts_sound hexpr (Nat.le_of_lt hshorter) hderives.bare hparts
  exact ⟨usedTarget ++ used, by simp [htokens], hlonger⟩

theorem explains_unary (hunary : ∀ ts, ts.length < tokens.length → Explains .unary ts)
    (hoperand : Explains .operand tokens) : Explains .unary tokens := by
  intro e rest h
  rw [Phrase.read, readUnary_eq] at h
  split at h
  next tail =>
    obtain ⟨⟨operand, behind⟩, hsigned, hpure⟩ := Except.bind_eq_ok_iff.mp h
    obtain ⟨rfl, rfl⟩ := Prod.mk.inj (Except.ok.inj hpure)
    obtain ⟨used, rfl, hderives⟩ := hunary tail (Nat.lt_succ_self _) _ _ hsigned
    exact ⟨_, rfl, hderives.negative⟩
  next tail =>
    obtain ⟨⟨operand, behind⟩, hsigned, hpure⟩ := Except.bind_eq_ok_iff.mp h
    obtain ⟨rfl, rfl⟩ := Prod.mk.inj (Except.ok.inj hpure)
    obtain ⟨used, rfl, hderives⟩ := hunary tail (Nat.lt_succ_self _) _ _ hsigned
    exact ⟨_, rfl, hderives.negation⟩
  next =>
    obtain ⟨used, htokens, hderives⟩ := hoperand e rest h
    exact ⟨used, htokens, hderives.unsigned⟩

theorem explains_binary {level : Level}
    (hshorter : ∀ ts, ts.length < tokens.length → Explains level.tighter ts)
    (htighter : Explains level.tighter tokens) : Explains (.binary level) tokens := by
  intro e rest h
  rw [Phrase.read_binary] at h
  obtain ⟨⟨left, tail⟩, hleft, hmore⟩ := Except.bind_eq_ok_iff.mp h
  obtain ⟨usedLeft, htokens, hderives, htail⟩ := htighter.exists_derives hleft
  obtain ⟨used, rfl, hlonger⟩ := readOn_sound hshorter (Nat.le_of_lt htail) hderives.single hmore
  exact ⟨usedLeft ++ used, by simp [htokens], hlonger⟩

theorem explains_expr (hexpr : ∀ ts, ts.length < tokens.length → Explains .expr ts)
    (hbinary : Explains (.binary .nullish) tokens) : Explains .expr tokens := by
  intro e rest h
  rw [Phrase.read, readExpr_eq] at h
  obtain ⟨⟨condition, tail⟩, hcondition, hbehind⟩ := Except.bind_eq_ok_iff.mp h
  obtain ⟨used, htokens, hderives, hshorter⟩ := hbinary.exists_derives hcondition
  dsimp only at hbehind
  cases hquestion : eat .question tail with
  | none =>
    rw [hquestion] at hbehind
    obtain ⟨rfl, rfl⟩ := Prod.mk.inj (Except.ok.inj hbehind)
    exact ⟨used, htokens, hderives.unconditional⟩
  | some front =>
    rw [hquestion] at hbehind
    obtain ⟨⟨yes, tail'⟩, hyes, hcolon⟩ := Except.bind_eq_ok_iff.mp hbehind
    obtain ⟨front', hend, hbehind⟩ := Except.bind_eq_ok_iff.mp hcolon
    obtain ⟨⟨no, behind⟩, hno, hpure⟩ := Except.bind_eq_ok_iff.mp hbehind
    obtain ⟨rfl, rfl⟩ := Prod.mk.inj (Except.ok.inj hpure)
    obtain rfl := eat_eq_some_iff.mp hquestion
    obtain rfl := expect_eq_ok_iff.mp hend
    simp only [List.length_cons] at hshorter
    obtain ⟨usedYes, rfl, hderivesYes, hshorterYes⟩ :=
      (hexpr front (by omega)).exists_derives hyes
    simp only [List.length_cons] at hshorterYes
    obtain ⟨usedNo, rfl, hderivesNo⟩ := hexpr front' (by omega) _ _ hno
    exact ⟨used ++ .punct .question :: (usedYes ++ .punct .colon :: usedNo), by simp [htokens],
      hderives.conditional hderivesYes hderivesNo⟩

end Sound

/-- Fewer tokens are explained first, and of the same tokens the tighter phrases. -/
theorem explains (phrase : Phrase) (tokens : List Token) : Explains phrase tokens := by
  have hexpr (ts : List Token) (_hshorter : ts.length < tokens.length) : Explains .expr ts :=
    explains .expr ts
  match phrase with
  | .primary => exact explains_primary hexpr
  | .operand => exact explains_operand hexpr (explains .primary tokens)
  | .unary => exact explains_unary (fun ts _ ↦ explains .unary ts) (explains .operand tokens)
  | .binary level =>
    exact explains_binary (fun ts _ ↦ explains level.tighter ts) (explains level.tighter tokens)
  | .expr => exact explains_expr hexpr (explains (.binary .nullish) tokens)
termination_by (tokens.length, phrase.reach)
decreasing_by
  all_goals first
    | exact .left _ _ ‹_›
    | exact .right _ (level.reach_tighter)
    | exact .right _ (by decide)

theorem ofTokens_eq_ok_iff {tokens : List Token} {e : Expr} :
    ofTokens tokens = .ok e ↔ readExpr tokens = .ok (e, []) := by
  unfold ofTokens readExpr
  match tokens with
  | [] =>
    constructor
    · intro h
      cases h
    · intro h
      exact absurd (Step.length_lt h) (Nat.lt_irrefl _)
  | token :: rest =>
    rcases takeExpr (token :: rest) with fault | ⟨whole, _ | ⟨next, rest⟩, shorter⟩
    · exact ⟨nofun, nofun⟩
    · simp [Step.read, Except.map]
    · simp [Step.read, Except.map]

theorem derives_of_ofTokens {tokens : List Token} {e : Expr} (h : ofTokens tokens = .ok e) :
    Derives .expr tokens e := by
  obtain ⟨used, rfl, hderives⟩ := explains .expr tokens e [] (ofTokens_eq_ok_iff.mp h)
  simpa using hderives

/-! ### What is derived is read -/

namespace Phrase

variable {phrase other : Phrase} {rest : List Token}

theorem EndsBefore.mono (h : phrase.EndsBefore rest) (hreach : other.reach ≤ phrase.reach) :
    other.EndsBefore rest := by
  match rest with
  | [] | .number _ :: _ | .string _ :: _ | .ident _ :: _ => trivial
  | .punct p :: _ => exact Nat.lt_of_le_of_lt hreach h

/-- The tokens may follow a phrase on which its own reader goes on, if with further parts. -/
def Follows (rest : List Token) : Phrase → Prop
  | expr => expr.EndsBefore rest
  | binary level => level.tighter.EndsBefore rest
  | unary => unary.EndsBefore rest
  | operand | primary => True

/-- What the reader of a phrase still does once it has read a phrase of the kind. -/
def resume (e : Expr) (rest : List Token) : Phrase → Except Fault (Expr × List Token)
  | binary level => level.readOn e rest
  | operand => readParts e rest
  | _ => .ok (e, rest)

theorem EndsBefore.follows (h : phrase.EndsBefore rest) : phrase.Follows rest := by
  match phrase with
  | expr | unary => exact h
  | binary level => exact h.mono (Nat.le_of_lt level.reach_tighter)
  | operand | primary => trivial

/-- A repetition that ends has no further parts. -/
theorem EndsBefore.resume_eq (h : phrase.EndsBefore rest) (e : Expr) :
    phrase.resume e rest = .ok (e, rest) := by
  match phrase with
  | expr | unary | primary => rfl
  | binary level =>
    rw [resume, level.readOn_eq]
    match rest with
    | [] | .number _ :: _ | .string _ :: _ | .ident _ :: _ => rfl
    | .punct p :: rest =>
      have hp : level.operator? p = none := by
        rw [Option.eq_none_iff_forall_ne_some]
        intro op hop
        exact absurd (Level.reach_of_operator? hop) (Nat.ne_of_gt h)
      dsimp only
      rw [hp]
  | operand =>
    rw [resume, readParts_eq]
    match rest with
    | [] | .number _ :: _ | .string _ :: _ | .ident _ :: _ => rfl
    | .punct p :: rest =>
      cases p with
      | dot | leftBracket | leftParen => exact absurd h (Nat.lt_irrefl 1)
      | _ => rfl

end Phrase

/-- The tokens are read as the phrase wherever it ends, and what may go on with it is resumed. -/
def Reads (phrase : Phrase) (ts : List Token) (e : Expr) : Prop :=
  ∀ rest, phrase.Follows rest → phrase.read (ts ++ rest) = phrase.resume e rest

def ReadsList (ts : List Token) (es : List Expr) : Prop :=
  ∀ close ∈ [Punct.rightParen, .rightBracket], ∀ rest,
    readList close (ts ++ .punct close :: rest) = .ok (es, rest)

def ReadsFields (ts : List Token) (fields : List (String × Expr)) : Prop :=
  ∀ rest, readFields (ts ++ .punct .rightBrace :: rest) = .ok (fields, rest)

theorem Reads.whole {phrase : Phrase} {ts rest : List Token} {e : Expr} (h : Reads phrase ts e)
    (hends : phrase.EndsBefore rest) : phrase.read (ts ++ rest) = .ok (e, rest) :=
  (h rest hends.follows).trans (hends.resume_eq e)

/-- What no part of an expression is ends it. -/
theorem Reads.before {ts : List Token} {e : Expr} (h : Reads .expr ts e) {p : Punct}
    (rest : List Token) (hp : Phrase.expr.reach < p.reach) :
    readExpr (ts ++ .punct p :: rest) = .ok (e, .punct p :: rest) :=
  h.whole hp

theorem eat_of_endsBefore {p : Punct} {rest : List Token} (h : Phrase.expr.EndsBefore rest)
    (hp : p.reach ≤ Phrase.expr.reach) : eat p rest = none := by
  rw [Option.eq_none_iff_forall_ne_some]
  intro tail htail
  obtain rfl := eat_eq_some_iff.mp htail
  exact absurd h (Nat.not_lt.mpr hp)

theorem eat_of_begins {p : Punct} {phrase : Phrase} {t : Token} {rest : List Token}
    (h : phrase.Begins t) (hp : ¬phrase.Begins (.punct p)) : eat p (t :: rest) = none := by
  rw [Option.eq_none_iff_forall_ne_some]
  intro tail htail
  obtain ⟨rfl, rfl⟩ := List.cons.inj (eat_eq_some_iff.mp htail)
  exact hp h

/-- What no sign stands in front of is read as an operand. -/
theorem readUnary_of_begins {t : Token} {rest : List Token} (h : Phrase.operand.Begins t) :
    readUnary (t :: rest) = Phrase.operand.read (t :: rest) := by
  rw [readUnary_eq]
  match t with
  | .number _ | .string _ | .ident _ => rfl
  | .punct p =>
    cases p with
    | minus | bang => exact absurd h (by simp [Phrase.Begins])
    | _ => rfl

section Complete

variable {ts us ks : List Token} {e k l r : Expr} {es : List Expr} {fields : List (String × Expr)}

theorem Reads.unconditional (h : Reads (.binary .nullish) ts e) : Reads .expr ts e := by
  intro rest hrest
  have hends : Phrase.expr.EndsBefore rest := hrest
  have hread := h.whole (hends.mono (by decide))
  rw [Phrase.read_nullish] at hread
  rw [Phrase.read_expr, readExpr_eq, hread]
  dsimp only [bind, Except.bind]
  rw [eat_of_endsBefore hends (Nat.le_refl _)]
  rfl

theorem Reads.conditional {cs ys ns : List Token} {c y n : Expr}
    (hc : Reads (.binary .nullish) cs c) (hy : Reads .expr ys y) (hn : Reads .expr ns n) :
    Reads .expr (cs ++ .punct .question :: (ys ++ .punct .colon :: ns)) (.conditional c y n) := by
  intro rest hrest
  let behind := .punct .question :: (ys ++ .punct .colon :: (ns ++ rest))
  have hcondition : (Phrase.binary .nullish).read (cs ++ behind) = .ok (c, behind) :=
    hc.whole (Nat.lt_succ_self _)
  have hyes : readExpr (ys ++ .punct .colon :: _) = _ := hy.before (ns ++ rest) (Nat.lt_succ_self _)
  have hno := hn.whole hrest
  rw [Phrase.read_nullish] at hcondition
  rw [Phrase.read_expr] at hno
  rw [Phrase.read_expr, readExpr_eq]
  simp only [List.append_assoc, List.cons_append]
  rw [hcondition]
  dsimp only [bind, Except.bind]
  rw [eat_self]
  dsimp only
  rw [hyes]
  dsimp only
  rw [expect_self]
  dsimp only
  rw [hno]
  rfl

theorem Reads.single {level : Level} (h : Reads level.tighter ts e) :
    Reads (.binary level) ts e := by
  intro rest hrest
  rw [Phrase.read_binary, h.whole hrest]
  rfl

theorem Reads.operation {level : Level} {p : Punct} {op : BinaryOp}
    (hl : Reads (.binary level) ts l) (hop : level.operator? p = some op)
    (hr : Reads level.tighter us r) :
    Reads (.binary level) (ts ++ .punct p :: us) (.binary op l r) := by
  intro rest hrest
  -- Nothing in the left operand reaches over the mark, so the level itself goes on with it.
  have hp : level.tighter.reach < p.reach := by
    rw [Level.reach_of_operator? hop]
    exact level.reach_tighter
  have hleft := hl (.punct p :: (us ++ rest)) hp
  have hright := hr.whole hrest
  rw [List.append_assoc, List.cons_append, hleft, Phrase.resume, level.readOn_eq]
  dsimp only
  rw [hop, hright]
  rfl

theorem Reads.negative (h : Reads .unary ts e) :
    Reads .unary (.punct .minus :: ts) (.unary .neg e) := by
  intro rest hrest
  have hread := h.whole hrest
  rw [Phrase.read_unary] at hread ⊢
  rw [List.cons_append, readUnary_eq]
  dsimp only
  rw [hread]
  rfl

theorem Reads.negation (h : Reads .unary ts e) :
    Reads .unary (.punct .bang :: ts) (.unary .not e) := by
  intro rest hrest
  have hread := h.whole hrest
  rw [Phrase.read_unary] at hread ⊢
  rw [List.cons_append, readUnary_eq]
  dsimp only
  rw [hread]
  rfl

theorem Reads.unsigned (h : Reads .operand ts e)
    (hbegins : ∃ t rest, ts = t :: rest ∧ Phrase.operand.Begins t) : Reads .unary ts e := by
  intro rest hrest
  have hends : Phrase.unary.EndsBefore rest := hrest
  obtain ⟨t, ts, rfl, hbegins⟩ := hbegins
  rw [Phrase.read_unary, List.cons_append, readUnary_of_begins hbegins]
  exact h.whole (hends.mono (by decide))

theorem Reads.bare (h : Reads .primary ts e) : Reads .operand ts e := by
  intro rest _
  rw [Phrase.read_operand, h rest trivial]
  rfl

theorem Reads.member (h : Reads .operand ts e) (name : String) :
    Reads .operand (ts ++ [.punct .dot, .ident name]) (.member e name) := by
  intro rest _
  rw [List.append_assoc, h _ trivial, Phrase.resume, List.cons_append, readParts_eq]
  rfl

theorem Reads.index (h : Reads .operand ts e) (hk : Reads .expr ks k) :
    Reads .operand (ts ++ .punct .leftBracket :: (ks ++ [.punct .rightBracket])) (.index e k) := by
  intro rest _
  have hkey : readExpr (ks ++ .punct .rightBracket :: rest) = _ :=
    hk.before rest (Nat.lt_succ_self _)
  rw [List.append_assoc, h _ trivial, Phrase.resume, readParts_eq]
  simp only [List.append_assoc, List.cons_append, List.nil_append]
  rw [hkey]
  dsimp only [bind, Except.bind]
  rw [expect_self]
  rfl

theorem Reads.call (h : Reads .operand ts e) (hes : ReadsList us es) :
    Reads .operand (ts ++ .punct .leftParen :: (us ++ [.punct .rightParen])) (.call e es) := by
  intro rest _
  have harguments := hes .rightParen (by simp) rest
  rw [List.append_assoc, h _ trivial, Phrase.resume, readParts_eq]
  simp only [List.append_assoc, List.cons_append, List.nil_append]
  rw [harguments]
  rfl

theorem reads_number (x : Float) : Reads .primary [.number x] (.literal (.number x)) := by
  intro rest _
  rw [Phrase.read_primary, readPrimary_eq]
  rfl

theorem reads_string (s : String) : Reads .primary [.string s] (.literal (.string s)) := by
  intro rest _
  rw [Phrase.read_primary, readPrimary_eq]
  rfl

theorem reads_word (name : String) : Reads .primary [.ident name] (word name) := by
  intro rest _
  rw [Phrase.read_primary, readPrimary_eq]
  rfl

theorem Reads.group (h : Reads .expr ts e) :
    Reads .primary (.punct .leftParen :: (ts ++ [.punct .rightParen])) e := by
  intro rest _
  have hinner : readExpr (ts ++ .punct .rightParen :: rest) = _ :=
    h.before rest (Nat.lt_succ_self _)
  rw [Phrase.read_primary, readPrimary_eq]
  simp only [List.append_assoc, List.cons_append, List.nil_append]
  rw [hinner]
  dsimp only [bind, Except.bind]
  rw [expect_self]
  rfl

theorem ReadsList.array (h : ReadsList ts es) :
    Reads .primary (.punct .leftBracket :: (ts ++ [.punct .rightBracket])) (.array es) := by
  intro rest _
  have hitems := h .rightBracket (by simp) rest
  rw [Phrase.read_primary, readPrimary_eq]
  simp only [List.append_assoc, List.cons_append, List.nil_append]
  rw [hitems]
  rfl

theorem ReadsFields.object (h : ReadsFields ts fields) :
    Reads .primary (.punct .leftBrace :: (ts ++ [.punct .rightBrace])) (.object fields) := by
  intro rest _
  have hfields := h rest
  rw [Phrase.read_primary, readPrimary_eq]
  simp only [List.append_assoc, List.cons_append, List.nil_append]
  rw [hfields]
  rfl

theorem readsList_nil : ReadsList [] [] := by
  intro close _ rest
  rw [List.nil_append, readList_eq, eat_self]

/-- An item of a list is read up to the comma or the end behind it. -/
theorem Reads.item (h : Reads .expr ts e)
    (hbegins : ∃ t rest, ts = t :: rest ∧ Phrase.expr.Begins t) {close p : Punct}
    (hclose : close ∈ [Punct.rightParen, .rightBracket]) (hp : Phrase.expr.reach < p.reach)
    (rest : List Token) :
    readList close (ts ++ .punct p :: rest) =
      match eat .comma (.punct p :: rest) with
      | some rest => do
        let (more, rest) ← readList close rest
        return (e :: more, rest)
      | none => do
        let rest ← expect close (.punct p :: rest)
        return ([e], rest) := by
  have hnotClose : ¬Phrase.expr.Begins (.punct close) := by
    simp only [List.mem_cons, List.not_mem_nil, or_false] at hclose
    rcases hclose with rfl | rfl
    · simp [Phrase.Begins]
    · simp [Phrase.Begins]
  obtain ⟨t, ts, rfl, hbegins⟩ := hbegins
  rw [readList_eq, List.cons_append, eat_of_begins hbegins hnotClose]
  dsimp only
  rw [← List.cons_append, h.before rest hp]
  rfl

theorem Reads.last (h : Reads .expr ts e)
    (hbegins : ∃ t rest, ts = t :: rest ∧ Phrase.expr.Begins t) : ReadsList ts [e] := by
  intro close hclose rest
  have hitem := h.item hbegins hclose (p := close)
  simp only [List.mem_cons, List.not_mem_nil, or_false] at hclose
  rcases hclose with rfl | rfl
  · exact hitem (Nat.lt_succ_self _) rest
  · exact hitem (Nat.lt_succ_self _) rest

theorem Reads.more (h : Reads .expr ts e)
    (hbegins : ∃ t rest, ts = t :: rest ∧ Phrase.expr.Begins t) (hes : ReadsList us es) :
    ReadsList (ts ++ .punct .comma :: us) (e :: es) := by
  intro close hclose rest
  rw [List.append_assoc, List.cons_append, h.item hbegins hclose (Nat.lt_succ_self _), eat_self]
  dsimp only
  rw [hes close hclose rest]
  rfl

theorem readsFields_nil : ReadsFields [] [] := by
  intro rest
  rw [List.nil_append, readFields_eq, eat_self]

/-- A field is read up to the comma or the brace behind it. -/
theorem Reads.field {t : Token} {key : String} (h : Reads .expr ts e) (hkey : IsKey t key)
    {p : Punct} (hp : Phrase.expr.reach < p.reach) (rest : List Token) :
    readFields (t :: .punct .colon :: (ts ++ .punct p :: rest)) =
      match eat .comma (.punct p :: rest) with
      | some rest => do
        let (more, rest) ← readFields rest
        return ((key, e) :: more, rest)
      | none => do
        let rest ← expect .rightBrace (.punct p :: rest)
        return ([(key, e)], rest) := by
  have hclose (tail : List Token) : eat .rightBrace (t :: tail) = none := by
    rcases hkey with _ | _ | _
    · rfl
    · rfl
    · rfl
  rw [readFields_eq, hclose]
  dsimp only
  rw [keyOf?_eq_some_iff.mpr hkey]
  dsimp only
  rw [expect_self]
  have hread := h.before rest hp
  -- Both sides look at the value only, so it takes the place of its reading.
  dsimp only [bind, Except.bind]
  generalize readExpr (ts ++ .punct p :: rest) = result at hread ⊢
  subst hread
  rfl

theorem Reads.lastField {t : Token} {key : String} (h : Reads .expr ts e) (hkey : IsKey t key) :
    ReadsFields (t :: .punct .colon :: ts) [(key, e)] := by
  intro rest
  exact h.field hkey (Nat.lt_succ_self _) rest

theorem Reads.moreFields {t : Token} {key : String} (h : Reads .expr ts e) (hkey : IsKey t key)
    (hfields : ReadsFields us fields) :
    ReadsFields (t :: .punct .colon :: (ts ++ .punct .comma :: us)) ((key, e) :: fields) := by
  intro rest
  simp only [List.append_assoc, List.cons_append]
  rw [h.field hkey (Nat.lt_succ_self _), eat_self]
  dsimp only
  rw [hfields rest]
  rfl

end Complete

mutual

theorem Derives.reads : ∀ {phrase : Phrase} {ts : List Token} {e : Expr}, Derives phrase ts e →
    Reads phrase ts e
  | _, _, _, .unconditional h => h.reads.unconditional
  | _, _, _, .conditional hc hy hn => hc.reads.conditional hy.reads hn.reads
  | _, _, _, .single h => h.reads.single
  | _, _, _, .operation hl hop hr => hl.reads.operation hop hr.reads
  | _, _, _, .negative h => h.reads.negative
  | _, _, _, .negation h => h.reads.negation
  | _, _, _, .unsigned h => h.reads.unsigned h.begins
  | _, _, _, .bare h => h.reads.bare
  | _, _, _, .member name h => h.reads.member name
  | _, _, _, .index h hk => h.reads.index hk.reads
  | _, _, _, .call h hes => h.reads.call hes.reads
  | _, _, _, .number x => reads_number x
  | _, _, _, .string s => reads_string s
  | _, _, _, @Derives.word name _ hword => by
    have hreads := reads_word name
    rwa [word_eq, hword] at hreads
  | _, _, _, @Derives.ident name hword => by
    have hreads := reads_word name
    rwa [word_eq, hword] at hreads
  | _, _, _, .group h => h.reads.group
  | _, _, _, .array hes => hes.reads.array
  | _, _, _, .object hfields => hfields.reads.object

theorem DerivesList.reads : ∀ {ts : List Token} {es : List Expr}, DerivesList ts es →
    ReadsList ts es
  | _, _, .none => readsList_nil
  | _, _, .last h => h.reads.last h.begins
  | _, _, .more h hes => h.reads.more h.begins hes.reads

theorem DerivesFields.reads : ∀ {ts : List Token} {fields : List (String × Expr)},
    DerivesFields ts fields → ReadsFields ts fields
  | _, _, .none => readsFields_nil
  | _, _, .last hkey h => h.reads.lastField hkey
  | _, _, .more hkey h hfields => h.reads.moreFields hkey hfields.reads

end

theorem ofTokens_of_derives {tokens : List Token} {e : Expr} (h : Derives .expr tokens e) :
    ofTokens tokens = .ok e := by
  have hread : Phrase.expr.read (tokens ++ []) = .ok (e, []) := h.reads.whole trivial
  rw [List.append_nil] at hread
  exact ofTokens_eq_ok_iff.mpr hread

/-- The expressions are the trees that the grammar has, of all of the tokens. -/
theorem ofTokens_eq_ok_iff_derives (tokens : List Token) (e : Expr) :
    ofTokens tokens = .ok e ↔ Derives .expr tokens e :=
  ⟨derives_of_ofTokens, ofTokens_of_derives⟩

end ClusterPlan.Template
