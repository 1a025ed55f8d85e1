import ClusterPlan.Proofs.Except
import ClusterPlan.Template.Parser

/-!
# The readers of expressions

What the readers of expressions give, without the bounds on what they leave that make them end, and
how each of them is made up of the others. Their facts are proved from these equations alone.
-/

namespace ClusterPlan.Template.Expr

section Views

variable {α : Type} {tokens : List Token}

def Step.read (step : Step tokens α) : Except Fault (α × List Token) :=
  step.map fun taken ↦ (taken.value, taken.rest)

def Grown.read (grown : Except Fault (Grown tokens)) : Except Fault (Expr × List Token) :=
  grown.map fun whole ↦ (whole.expr, whole.rest)

theorem Step.length_lt {step : Step tokens α} {value : α} {rest : List Token}
    (h : step.read = .ok (value, rest)) : rest.length < tokens.length := by
  obtain ⟨taken, -, htaken⟩ := Except.map_eq_ok_iff.mp h
  obtain ⟨-, rfl⟩ := Prod.mk.inj htaken
  exact taken.shorter

end Views

/-- The tokens behind a mark, if it stands in front. -/
def eat (p : Punct) : List Token → Option (List Token)
  | .punct q :: rest => if q = p then some rest else none
  | _ => none

def expect (p : Punct) (tokens : List Token) : Except Fault (List Token) :=
  match eat p tokens with
  | some rest => .ok rest
  | none => .error (missing p tokens)

theorem eat_eq_some_iff {p : Punct} {tokens rest : List Token} :
    eat p tokens = some rest ↔ tokens = .punct p :: rest := by
  unfold eat
  split
  next q tail => simp
  next hother =>
    simp only [reduceCtorEq, false_iff]
    exact hother p rest

@[simp]
theorem eat_self (p : Punct) (rest : List Token) : eat p (.punct p :: rest) = some rest :=
  eat_eq_some_iff.mpr rfl

theorem expect_eq_ok_iff {p : Punct} {tokens rest : List Token} :
    expect p tokens = .ok rest ↔ tokens = .punct p :: rest := by
  unfold expect
  rw [← eat_eq_some_iff]
  cases eat p tokens with
  | none => simp
  | some tail => simp

@[simp]
theorem expect_self (p : Punct) (rest : List Token) : expect p (.punct p :: rest) = .ok rest :=
  expect_eq_ok_iff.mpr rfl

/-! ### The readers -/

def readExpr (tokens : List Token) : Except Fault (Expr × List Token) := (takeExpr tokens).read

def readBinary (levels : List (List (Punct × BinaryOp))) (tokens : List Token) :
    Except Fault (Expr × List Token) :=
  (takeBinary levels tokens).read

def readOperands (operators : List (Punct × BinaryOp)) (tighter : List (List (Punct × BinaryOp)))
    (left : Expr) (tokens : List Token) : Except Fault (Expr × List Token) :=
  Grown.read (takeOperands operators tighter left tokens)

def readUnary (tokens : List Token) : Except Fault (Expr × List Token) := (takeUnary tokens).read

def readParts (target : Expr) (tokens : List Token) : Except Fault (Expr × List Token) :=
  Grown.read (takePostfix target tokens)

def readPrimary (tokens : List Token) : Except Fault (Expr × List Token) :=
  (takePrimary tokens).read

def readList (close : Punct) (tokens : List Token) : Except Fault (List Expr × List Token) :=
  (takeList close tokens).read

def readFields (tokens : List Token) : Except Fault (List (String × Expr) × List Token) :=
  (takeFields tokens).read

theorem readExpr_eq (tokens : List Token) :
    readExpr tokens = (do
      let (condition, rest) ← readBinary levels tokens
      match eat .question rest with
      | none => return (condition, rest)
      | some rest =>
        let (yes, rest) ← readExpr rest
        let rest ← expect .colon rest
        let (no, rest) ← readExpr rest
        return (.conditional condition yes no, rest)) := by
  unfold readExpr readBinary
  rw [takeExpr]
  rcases takeBinary levels tokens with fault | ⟨condition, rest, shorter⟩
  · rfl
  · match rest with
    | [] | .number _ :: _ | .string _ :: _ | .ident _ :: _ => rfl
    | .punct p :: rest =>
      cases p with
      | question =>
        dsimp only [Step.read, Except.map, bind, Except.bind]
        rw [eat_self]
        dsimp only
        rcases takeExpr rest with fault | ⟨yes, rest, shorter⟩
        · rfl
        · match rest with
          | [] | .number _ :: _ | .string _ :: _ | .ident _ :: _ => rfl
          | .punct p :: rest =>
            cases p with
            | colon =>
              dsimp only
              rw [expect_self]
              dsimp only
              rcases takeExpr rest with fault | no
              · rfl
              · rfl
            | _ => rfl
      | _ => rfl

theorem readBinary_nil (tokens : List Token) : readBinary [] tokens = readUnary tokens := by
  unfold readBinary readUnary
  rw [takeBinary]

theorem readBinary_cons (operators : List (Punct × BinaryOp))
    (tighter : List (List (Punct × BinaryOp))) (tokens : List Token) :
    readBinary (operators :: tighter) tokens = (do
      let (left, rest) ← readBinary tighter tokens
      readOperands operators tighter left rest) := by
  unfold readBinary readOperands
  rw [takeBinary]
  rcases takeBinary tighter tokens with fault | left
  · rfl
  · dsimp only [Step.read, Except.map, bind, Except.bind]
    rcases takeOperands operators tighter left.value left.rest with fault | whole
    · rfl
    · rfl

theorem readOperands_eq (operators : List (Punct × BinaryOp))
    (tighter : List (List (Punct × BinaryOp))) (left : Expr) (tokens : List Token) :
    readOperands operators tighter left tokens =
      match tokens with
      | .punct p :: rest =>
        match operators.lookup p with
        | none => .ok (left, .punct p :: rest)
        | some op => do
          let (right, rest) ← readBinary tighter rest
          readOperands operators tighter (.binary op left right) rest
      | other => .ok (left, other) := by
  unfold readOperands readBinary
  match tokens with
  | [] | .number _ :: _ | .string _ :: _ | .ident _ :: _ =>
    rw [takeOperands]
    · rfl
    · simp
  | .punct p :: rest =>
    rw [takeOperands]
    dsimp only
    rcases operators.lookup p with _ | op
    · rfl
    · dsimp only
      rcases takeBinary tighter rest with fault | right
      · rfl
      · dsimp only [Step.read, Except.map, bind, Except.bind]
        rcases takeOperands operators tighter (.binary op left right.value) right.rest with
          fault | whole
        · rfl
        · rfl

/-- An operand is read as its first part, and then the parts behind that. -/
theorem read_takePostfix (tokens : List Token)
    (hshorter : ∀ (target : Taken Token Expr tokens) (whole : Grown target.rest),
      whole.rest.length < tokens.length) :
    @Step.read Expr tokens (match takePrimary tokens with
      | .error fault => .error fault
      | .ok target =>
        match takePostfix target.value target.rest with
        | .error fault => .error fault
        | .ok whole => .ok ⟨whole.expr, whole.rest, hshorter target whole⟩) = (do
      let (target, rest) ← readPrimary tokens
      readParts target rest) := by
  unfold readPrimary readParts
  rcases takePrimary tokens with fault | target
  · rfl
  · dsimp only [Step.read, Except.map, bind, Except.bind]
    rcases takePostfix target.value target.rest with fault | whole
    · rfl
    · rfl

theorem readUnary_eq (tokens : List Token) :
    readUnary tokens =
      match tokens with
      | .punct .minus :: rest => do
        let (operand, rest) ← readUnary rest
        return (.unary .neg operand, rest)
      | .punct .bang :: rest => do
        let (operand, rest) ← readUnary rest
        return (.unary .not operand, rest)
      | tokens => (do
        let (target, rest) ← readPrimary tokens
        readParts target rest) := by
  have hshorter (tokens : List Token) (target : Taken Token Expr tokens)
      (whole : Grown target.rest) : whole.rest.length < tokens.length :=
    Nat.lt_of_le_of_lt whole.bounded target.shorter
  unfold readUnary
  rw [takeUnary.eq_def]
  match tokens with
  | [] | .number _ :: _ | .string _ :: _ | .ident _ :: _ => exact read_takePostfix _ (hshorter _)
  | .punct p :: rest =>
    cases p with
    | minus | bang =>
      dsimp only
      rcases takeUnary rest with fault | operand
      · rfl
      · rfl
    | _ => exact read_takePostfix _ (hshorter _)

theorem readParts_eq (target : Expr) (tokens : List Token) :
    readParts target tokens =
      match tokens with
      | .punct .dot :: .ident name :: rest => readParts (.member target name) rest
      | .punct .dot :: rest => .error (.noProperty rest.head?)
      | .punct .leftBracket :: rest => do
        let (key, rest) ← readExpr rest
        let rest ← expect .rightBracket rest
        readParts (.index target key) rest
      | .punct .leftParen :: rest => do
        let (arguments, rest) ← readList .rightParen rest
        readParts (.call target arguments) rest
      | other => .ok (target, other) := by
  unfold readParts
  rw [takePostfix.eq_def]
  match tokens with
  | [] | .number _ :: _ | .string _ :: _ | .ident _ :: _ => rfl
  | .punct p :: rest =>
    cases p with
    | dot =>
      match rest with
      | [] | .number _ :: _ | .string _ :: _ | .punct _ :: _ => rfl
      | .ident name :: rest =>
        dsimp only
        rcases takePostfix (.member target name) rest with fault | whole
        · rfl
        · rfl
    | leftBracket =>
      unfold readExpr
      dsimp only
      rcases takeExpr rest with fault | ⟨key, rest, shorter⟩
      · rfl
      · dsimp only [Step.read, Except.map, bind, Except.bind]
        match rest with
        | [] | .number _ :: _ | .string _ :: _ | .ident _ :: _ => rfl
        | .punct p :: rest =>
          cases p with
          | rightBracket =>
            dsimp only
            rw [expect_self]
            dsimp only
            rcases takePostfix (.index target key) rest with fault | whole
            · rfl
            · rfl
          | _ => rfl
    | leftParen =>
      unfold readList
      dsimp only
      rcases takeList .rightParen rest with fault | arguments
      · rfl
      · dsimp only [Step.read, Except.map, bind, Except.bind]
        rcases takePostfix (.call target arguments.value) arguments.rest with fault | whole
        · rfl
        · rfl
    | _ => rfl

/-- The items of a list, of which the first is not its end. -/
theorem read_takeItems (close : Punct) (tokens : List Token) :
    (takeItems close tokens).read = (do
      let (first, rest) ← readExpr tokens
      match eat .comma rest with
      | some rest =>
        let (more, rest) ← readList close rest
        return (first :: more, rest)
      | none =>
        let rest ← expect close rest
        return ([first], rest)) := by
  unfold readExpr readList
  rw [takeItems]
  rcases takeExpr tokens with fault | ⟨first, rest, shorter⟩
  · rfl
  · dsimp only [Step.read, Except.map, bind, Except.bind]
    match rest with
    | [] | .number _ :: _ | .string _ :: _ | .ident _ :: _ => rfl
    | .punct p :: rest =>
      dsimp only
      by_cases hcomma : p = .comma
      · subst hcomma
        rw [if_pos rfl, eat_self]
        dsimp only
        rcases takeList close rest with fault | more
        · rfl
        · rfl
      · rw [if_neg hcomma, eat, if_neg hcomma]
        dsimp only
        unfold expect eat
        dsimp only
        by_cases hclose : p = close
        · subst hclose
          rw [if_pos rfl, if_pos rfl]
          rfl
        · rw [if_neg hclose, if_neg hclose]
          rfl

theorem readList_eq (close : Punct) (tokens : List Token) :
    readList close tokens =
      match eat close tokens with
      | some rest => .ok ([], rest)
      | none => (do
        let (first, rest) ← readExpr tokens
        match eat .comma rest with
        | some rest =>
          let (more, rest) ← readList close rest
          return (first :: more, rest)
        | none =>
          let rest ← expect close rest
          return ([first], rest)) := by
  rw [← read_takeItems, readList, takeList.eq_def]
  match tokens with
  | [] | .number _ :: _ | .string _ :: _ | .ident _ :: _ => rfl
  | .punct p :: rest =>
    dsimp only [eat]
    by_cases hclose : p = close
    · rw [if_pos hclose, if_pos hclose]
      rfl
    · rw [if_neg hclose, if_neg hclose]

theorem readPrimary_eq (tokens : List Token) :
    readPrimary tokens =
      match tokens with
      | [] => .error .unexpectedEnd
      | .number x :: rest => .ok (.literal (.number x), rest)
      | .string s :: rest => .ok (.literal (.string s), rest)
      | .ident name :: rest => .ok (word name, rest)
      | .punct .leftParen :: rest => do
        let (inner, rest) ← readExpr rest
        let rest ← expect .rightParen rest
        return (inner, rest)
      | .punct .leftBracket :: rest => do
        let (items, rest) ← readList .rightBracket rest
        return (.array items, rest)
      | .punct .leftBrace :: rest => do
        let (fields, rest) ← readFields rest
        return (.object fields, rest)
      | .punct p :: _ => .error (.unexpected (.punct p)) := by
  unfold readPrimary
  rw [takePrimary.eq_def]
  match tokens with
  | [] | .number _ :: _ | .string _ :: _ | .ident _ :: _ => rfl
  | .punct p :: rest =>
    cases p with
    | leftParen =>
      unfold readExpr
      dsimp only
      rcases takeExpr rest with fault | ⟨inner, rest, shorter⟩
      · rfl
      · match rest with
        | [] | .number _ :: _ | .string _ :: _ | .ident _ :: _ => rfl
        | .punct p :: rest => cases p <;> rfl
    | leftBracket =>
      unfold readList
      dsimp only
      rcases takeList .rightBracket rest with fault | items
      · rfl
      · rfl
    | leftBrace =>
      unfold readFields
      dsimp only
      rcases takeFields rest with fault | fields
      · rfl
      · rfl
    | _ => rfl

theorem readFields_eq (tokens : List Token) :
    readFields tokens =
      match eat .rightBrace tokens, tokens with
      | some rest, _ => .ok ([], rest)
      | none, [] => .error (.noKey none)
      | none, token :: rest =>
        match keyOf? token with
        | none => .error (.noKey (some token))
        | some key => (do
          let rest ← expect .colon rest
          let (value, rest) ← readExpr rest
          match eat .comma rest with
          | some rest =>
            let (more, rest) ← readFields rest
            return ((key, value) :: more, rest)
          | none =>
            let rest ← expect .rightBrace rest
            return ([(key, value)], rest)) := by
  have hfield {token : Token} {key : String} (rest : List Token)
      (hkey : keyOf? token = some key) :
      readFields (token :: rest) = (do
        let rest ← expect .colon rest
        let (value, rest) ← readExpr rest
        match eat .comma rest with
        | some rest =>
          let (more, rest) ← readFields rest
          return ((key, value) :: more, rest)
        | none =>
          let rest ← expect .rightBrace rest
          return ([(key, value)], rest)) := by
    unfold readFields readExpr
    rw [takeFields.eq_def]
    match token with
    | .punct _ => cases hkey
    | .number _ | .string _ | .ident _ =>
      obtain rfl := Option.some.inj hkey
      match rest with
      | [] | .number _ :: _ | .string _ :: _ | .ident _ :: _ => rfl
      | .punct p :: rest =>
        cases p with
        | colon =>
          dsimp only [keyOf?]
          rw [expect_self]
          dsimp only [bind, Except.bind]
          rcases takeExpr rest with fault | ⟨value, rest, shorter⟩
          · rfl
          · match rest with
            | [] | .number _ :: _ | .string _ :: _ | .ident _ :: _ => rfl
            | .punct p :: rest =>
              cases p with
              | comma =>
                dsimp only [Step.read, Except.map]
                rw [eat_self]
                dsimp only
                rcases takeFields rest with fault | more
                · rfl
                · rfl
              | _ => rfl
        | _ => rfl
  match tokens with
  | [] =>
    unfold readFields
    rw [takeFields.eq_def]
    rfl
  | .punct p :: rest =>
    unfold readFields
    rw [takeFields.eq_def]
    cases p <;> rfl
  | .number x :: rest => exact hfield rest rfl
  | .string s :: rest => exact hfield rest rfl
  | .ident name :: rest => exact hfield rest rfl

end ClusterPlan.Template.Expr
