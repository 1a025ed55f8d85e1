import ClusterPlan.Template.Expr
import ClusterPlan.Template.Token
import ClusterPlan.Template.Value

/-!
# Reading expressions

The binary operators bind in levels, from `??` outward to `*`, `/` and `%` inward, and each level
groups to the left. The conditional binds weakest and groups to the right, the signs `-` and `!`
bind tighter than any binary operator, and member access, indexing and calls bind tightest.

Every reader takes at least one token, so the whole ends with the tokens.
-/

namespace ClusterPlan.Template

/-- What keeps a text from being an expression. `none` stands for the end of the tokens. -/
inductive Fault where
  | token (fault : Token.Fault)
  | empty
  | trailing (found : Token)
  | missing (p : Punct) (found : Option Token)
  | noProperty (found : Option Token)
  | noKey (found : Option Token)
  | unexpected (found : Token)
  | unexpectedEnd

namespace Fault

def foundText : Option Token → String
  | some t => "Some(" ++ t.description ++ ")"
  | none => "None"

def message : Fault → String
  | token fault => fault.message
  | empty => "empty expression"
  | trailing found => "unexpected trailing token " ++ found.description
  | missing p (some t) => "expected `" ++ p.text ++ "`, found " ++ t.description
  | missing p none => "expected `" ++ p.text ++ "`, found end of expression"
  | noProperty found => "expected property name after `.`, found " ++ foundText found
  | noKey found => "expected object key, found " ++ foundText found
  | unexpected found => "unexpected token " ++ found.description
  | unexpectedEnd => "unexpected end of expression"

end Fault

namespace Expr

abbrev Step (tokens : List Token) (α : Type) : Type := Except Fault (Taken Token α tokens)

/-- A value with the tokens left behind it, of which there may be as many as before. -/
structure Grown (tokens : List Token) where
  expr : Expr
  rest : List Token
  bounded : rest.length ≤ tokens.length

/-- The operators of the binary levels, the weakest first. -/
def levels : List (List (Punct × BinaryOp)) :=
  [[(.nullish, .nullish)],
   [(.or, .or)],
   [(.and, .and)],
   [(.strictlyEqual, .eq), (.strictlyUnequal, .ne), (.equal, .eq), (.unequal, .ne)],
   [(.atMost, .le), (.atLeast, .ge), (.less, .lt), (.greater, .gt)],
   [(.plus, .add), (.minus, .sub)],
   [(.star, .mul), (.slash, .div), (.percent, .rem)]]

@[simp] theorem length_levels : levels.length = 7 := rfl

/-- The words that are not identifiers. -/
def word (name : String) : Expr :=
  if name = "true" then .literal (.bool true)
  else if name = "false" then .literal (.bool false)
  else if name = "null" then .literal .null
  else if name = "undefined" then .literal .undefined
  else .ident name

/-- The key that a token gives to a field. -/
def keyOf? : Token → Option String
  | .ident name => some name
  | .string s => some s
  | .number x => some (Value.numberText x)
  | .punct _ => none

def missing (p : Punct) (tokens : List Token) : Fault := .missing p tokens.head?

mutual

def takeExpr (tokens : List Token) : Step tokens Expr :=
  match takeBinary levels tokens with
  | .error fault => .error fault
  | .ok condition =>
    match h : condition.rest with
    | .punct .question :: rest =>
      have hc : rest.length < condition.rest.length := by rw [h]; simp
      have := condition.shorter
      match takeExpr rest with
      | .error fault => .error fault
      | .ok yes =>
        match h' : yes.rest with
        | .punct .colon :: rest' =>
          have hy : rest'.length < yes.rest.length := by rw [h']; simp
          have := yes.shorter
          match takeExpr rest' with
          | .error fault => .error fault
          | .ok no => .ok ((no.map (.conditional condition.value yes.value ·)).within (by omega))
        | other => .error (missing .colon other)
    | _ => .ok condition
termination_by 32 * tokens.length + 15

/-- An expression of the given levels, whose operands are those of the levels after the first. -/
def takeBinary (levels : List (List (Punct × BinaryOp))) (tokens : List Token) :
    Step tokens Expr :=
  match levels with
  | [] => takeUnary tokens
  | operators :: tighter =>
    match takeBinary tighter tokens with
    | .error fault => .error fault
    | .ok left =>
      have := left.shorter
      match takeOperands operators tighter left.value left.rest with
      | .error fault => .error fault
      | .ok whole => .ok ⟨whole.expr, whole.rest, by have := whole.bounded; omega⟩
termination_by 32 * tokens.length + levels.length + 3

/-- Further operands of one level behind `left`. -/
def takeOperands (operators : List (Punct × BinaryOp))
    (tighter : List (List (Punct × BinaryOp))) (left : Expr) (tokens : List Token) :
    Except Fault (Grown tokens) :=
  match tokens with
  | .punct p :: rest =>
    match operators.lookup p with
    | none => .ok ⟨left, .punct p :: rest, Nat.le_refl _⟩
    | some op =>
      match takeBinary tighter rest with
      | .error fault => .error fault
      | .ok right =>
        have := right.shorter
        match takeOperands operators tighter (.binary op left right.value) right.rest with
        | .error fault => .error fault
        | .ok whole => .ok ⟨whole.expr, whole.rest, by
            have := whole.bounded; simp only [List.length_cons]; omega⟩
  | other => .ok ⟨left, other, Nat.le_refl _⟩
termination_by 32 * tokens.length + tighter.length + 3

def takeUnary (tokens : List Token) : Step tokens Expr :=
  match tokens with
  | .punct .minus :: rest =>
    match takeUnary rest with
    | .error fault => .error fault
    | .ok operand => .ok ((operand.map (.unary .neg)).within (by simp))
  | .punct .bang :: rest =>
    match takeUnary rest with
    | .error fault => .error fault
    | .ok operand => .ok ((operand.map (.unary .not)).within (by simp))
  | tokens =>
    match takePrimary tokens with
    | .error fault => .error fault
    | .ok target =>
      have := target.shorter
      match takePostfix target.value target.rest with
      | .error fault => .error fault
      | .ok whole => .ok ⟨whole.expr, whole.rest, by have := whole.bounded; omega⟩
termination_by 32 * tokens.length + 2

/-- Member accesses, indexings and calls behind `target`. -/
def takePostfix (target : Expr) (tokens : List Token) : Except Fault (Grown tokens) :=
  match tokens with
  | .punct .dot :: .ident name :: rest =>
    match takePostfix (.member target name) rest with
    | .error fault => .error fault
    | .ok whole => .ok ⟨whole.expr, whole.rest, by
        have := whole.bounded; simp only [List.length_cons]; omega⟩
  | .punct .dot :: rest => .error (.noProperty rest.head?)
  | .punct .leftBracket :: rest =>
    match takeExpr rest with
    | .error fault => .error fault
    | .ok key =>
      match h : key.rest with
      | .punct .rightBracket :: rest' =>
        have hi : rest'.length < key.rest.length := by rw [h]; simp
        have := key.shorter
        match takePostfix (.index target key.value) rest' with
        | .error fault => .error fault
        | .ok whole => .ok ⟨whole.expr, whole.rest, by
            have := whole.bounded; simp only [List.length_cons]; omega⟩
      | other => .error (missing .rightBracket other)
  | .punct .leftParen :: rest =>
    match takeList .rightParen rest with
    | .error fault => .error fault
    | .ok arguments =>
      have := arguments.shorter
      match takePostfix (.call target arguments.value) arguments.rest with
      | .error fault => .error fault
      | .ok whole => .ok ⟨whole.expr, whole.rest, by
          have := whole.bounded; simp only [List.length_cons]; omega⟩
  | other => .ok ⟨target, other, Nat.le_refl _⟩
termination_by 32 * tokens.length + 1

/-- Expressions with commas between them up to `close`; one more comma may stand before it. -/
def takeList (close : Punct) (tokens : List Token) : Step tokens (List Expr) :=
  match tokens with
  | .punct p :: rest =>
    if p = close then .ok ⟨[], rest, by simp⟩ else takeItems close (.punct p :: rest)
  | other => takeItems close other
termination_by 32 * tokens.length + 17

def takeItems (close : Punct) (tokens : List Token) : Step tokens (List Expr) :=
  match takeExpr tokens with
  | .error fault => .error fault
  | .ok first =>
    match h : first.rest with
    | .punct p :: rest =>
      have hf : rest.length < first.rest.length := by rw [h]; simp
      have := first.shorter
      if p = .comma then
        match takeList close rest with
        | .error fault => .error fault
        | .ok more => .ok ((more.map (first.value :: ·)).within (by omega))
      else if p = close then .ok ⟨[first.value], rest, by omega⟩
      else .error (.missing close (some (.punct p)))
    | other => .error (missing close other)
termination_by 32 * tokens.length + 16

def takePrimary (tokens : List Token) : Step tokens Expr :=
  match tokens with
  | [] => .error .unexpectedEnd
  | .number x :: rest => .ok ⟨.literal (.number x), rest, by simp⟩
  | .string s :: rest => .ok ⟨.literal (.string s), rest, by simp⟩
  | .ident name :: rest => .ok ⟨word name, rest, by simp⟩
  | .punct .leftParen :: rest =>
    match takeExpr rest with
    | .error fault => .error fault
    | .ok inner =>
      match h : inner.rest with
      | .punct .rightParen :: rest' => .ok ⟨inner.value, rest', by
          have := inner.shorter; simp only [h, List.length_cons] at this ⊢; omega⟩
      | other => .error (missing .rightParen other)
  | .punct .leftBracket :: rest =>
    match takeList .rightBracket rest with
    | .error fault => .error fault
    | .ok items => .ok ((items.map .array).within (by simp))
  | .punct .leftBrace :: rest =>
    match takeFields rest with
    | .error fault => .error fault
    | .ok fields => .ok ((fields.map .object).within (by simp))
  | .punct p :: _ => .error (.unexpected (.punct p))
termination_by 32 * tokens.length + 1

/-- The fields of an object up to its closing brace, which a comma may precede. -/
def takeFields (tokens : List Token) : Step tokens (List (String × Expr)) :=
  match tokens with
  | .punct .rightBrace :: rest => .ok ⟨[], rest, by simp⟩
  | [] => .error (.noKey none)
  | token :: rest =>
    match keyOf? token with
    | none => .error (.noKey (some token))
    | some key =>
      match rest with
      | .punct .colon :: rest =>
        match takeExpr rest with
        | .error fault => .error fault
        | .ok value =>
          match h : value.rest with
          | .punct .comma :: rest' =>
            have : rest'.length + 1 < rest.length := by
              have := value.shorter; simp only [h, List.length_cons] at this; omega
            match takeFields rest' with
            | .error fault => .error fault
            | .ok more => .ok ((more.map ((key, value.value) :: ·)).within (by
                simp only [List.length_cons]; omega))
          | .punct .rightBrace :: rest' => .ok ⟨[(key, value.value)], rest', by
              have := value.shorter; simp only [h, List.length_cons] at this ⊢; omega⟩
          | other => .error (missing .rightBrace other)
      | other => .error (missing .colon other)
termination_by 32 * tokens.length

end

/-- The expression that all of the tokens make up. -/
def ofTokens (tokens : List Token) : Except Fault Expr :=
  if tokens.isEmpty then .error .empty
  else match takeExpr tokens with
    | .error fault => .error fault
    | .ok whole =>
      match whole.rest with
      | [] => .ok whole.value
      | token :: _ => .error (.trailing token)

def parse (source : String) : Except Fault Expr :=
  match Token.tokenize source with
  | .error fault => .error (.token fault)
  | .ok tokens => ofTokens tokens

end Expr

end ClusterPlan.Template
