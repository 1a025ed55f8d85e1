import ClusterPlan.Template.Parser

/-!
# The grammar of expressions

```text
expr        := nullish ( "?" expr ":" expr )?
nullish     := or ( "??" or )*
or          := and ( "||" and )*
and         := equality ( "&&" equality )*
equality    := comparison ( ( "==" | "!=" | "===" | "!==" ) comparison )*
comparison  := sum ( ( "<" | "<=" | ">" | ">=" ) sum )*
sum         := product ( ( "+" | "-" ) product )*
product     := unary ( ( "*" | "/" | "%" ) unary )*
unary       := ( "-" | "!" ) unary | operand
operand     := primary ( "." ident | "[" expr "]" | "(" list ")" )*
primary     := number | string | ident | "(" expr ")" | "[" list "]" | "{" fields "}"
list        := ( expr ( "," expr )* ","? )?
fields      := ( key ":" expr ( "," key ":" expr )* ","? )?
```

Tokens derive a tree as a phrase of this grammar. A repetition groups to the left: what stands in
front of its last part is a phrase of the same kind. The grammar says nothing about how far a
phrase goes on where more tokens follow; that it has one tree at most is a consequence of reading.
-/

namespace ClusterPlan.Template

/-- The binary operators, the weakest first. -/
inductive Level where
  | nullish | or | and | equality | comparison | sum | product
  deriving Repr, DecidableEq

/-- The phrases whose tree is an expression. -/
inductive Phrase where
  | expr
  | binary (level : Level)
  | unary
  | operand
  | primary
  deriving Repr, DecidableEq

namespace Level

/-- What a mark means between two operands of a level. -/
def operator? : Level → Punct → Option BinaryOp
  | nullish, .nullish => some .nullish
  | or, .or => some .or
  | and, .and => some .and
  | equality, .equal => some .eq
  | equality, .strictlyEqual => some .eq
  | equality, .unequal => some .ne
  | equality, .strictlyUnequal => some .ne
  | comparison, .less => some .lt
  | comparison, .atMost => some .le
  | comparison, .greater => some .gt
  | comparison, .atLeast => some .ge
  | sum, .plus => some .add
  | sum, .minus => some .sub
  | product, .star => some .mul
  | product, .slash => some .div
  | product, .percent => some .rem
  | _, _ => none

/-- The phrases that the operators of a level stand between. -/
def tighter : Level → Phrase
  | nullish => .binary or
  | or => .binary and
  | and => .binary equality
  | equality => .binary comparison
  | comparison => .binary sum
  | sum => .binary product
  | product => .unary

end Level

/-- The words that are literals. -/
def literalWords : List (String × Literal) :=
  [("true", .bool true), ("false", .bool false), ("null", .null), ("undefined", .undefined)]

/-- A token as the key of a field. -/
inductive IsKey : Token → String → Prop where
  | ident (name : String) : IsKey (.ident name) name
  | string (s : String) : IsKey (.string s) s
  | number (x : Float) : IsKey (.number x) (Value.numberText x)

mutual

/-- The tokens are a phrase that has the tree. -/
inductive Derives : Phrase → List Token → Expr → Prop where
  | unconditional {ts : List Token} {e : Expr} :
      Derives (.binary .nullish) ts e → Derives .expr ts e
  | conditional {cs ys ns : List Token} {c y n : Expr} :
      Derives (.binary .nullish) cs c → Derives .expr ys y → Derives .expr ns n →
        Derives .expr (cs ++ .punct .question :: (ys ++ .punct .colon :: ns)) (.conditional c y n)
  | single {level : Level} {ts : List Token} {e : Expr} :
      Derives level.tighter ts e → Derives (.binary level) ts e
  | operation {level : Level} {p : Punct} {op : BinaryOp} {ls rs : List Token} {l r : Expr} :
      Derives (.binary level) ls l → level.operator? p = some op → Derives level.tighter rs r →
        Derives (.binary level) (ls ++ .punct p :: rs) (.binary op l r)
  | negative {ts : List Token} {e : Expr} :
      Derives .unary ts e → Derives .unary (.punct .minus :: ts) (.unary .neg e)
  | negation {ts : List Token} {e : Expr} :
      Derives .unary ts e → Derives .unary (.punct .bang :: ts) (.unary .not e)
  | unsigned {ts : List Token} {e : Expr} : Derives .operand ts e → Derives .unary ts e
  | bare {ts : List Token} {e : Expr} : Derives .primary ts e → Derives .operand ts e
  | member {ts : List Token} {e : Expr} (name : String) :
      Derives .operand ts e →
        Derives .operand (ts ++ [.punct .dot, .ident name]) (.member e name)
  | index {ts ks : List Token} {e k : Expr} :
      Derives .operand ts e → Derives .expr ks k →
        Derives .operand (ts ++ .punct .leftBracket :: (ks ++ [.punct .rightBracket])) (.index e k)
  | call {ts as : List Token} {e : Expr} {arguments : List Expr} :
      Derives .operand ts e → DerivesList as arguments →
        Derives .operand (ts ++ .punct .leftParen :: (as ++ [.punct .rightParen]))
          (.call e arguments)
  | number (x : Float) : Derives .primary [.number x] (.literal (.number x))
  | string (s : String) : Derives .primary [.string s] (.literal (.string s))
  | word {name : String} {l : Literal} :
      literalWords.lookup name = some l → Derives .primary [.ident name] (.literal l)
  | ident {name : String} :
      literalWords.lookup name = none → Derives .primary [.ident name] (.ident name)
  | group {ts : List Token} {e : Expr} :
      Derives .expr ts e →
        Derives .primary (.punct .leftParen :: (ts ++ [.punct .rightParen])) e
  | array {ts : List Token} {items : List Expr} :
      DerivesList ts items →
        Derives .primary (.punct .leftBracket :: (ts ++ [.punct .rightBracket])) (.array items)
  | object {ts : List Token} {fields : List (String × Expr)} :
      DerivesFields ts fields →
        Derives .primary (.punct .leftBrace :: (ts ++ [.punct .rightBrace])) (.object fields)

/-- The tokens are expressions with commas between them, and perhaps one more comma. -/
inductive DerivesList : List Token → List Expr → Prop where
  | none : DerivesList [] []
  | last {ts : List Token} {e : Expr} : Derives .expr ts e → DerivesList ts [e]
  | more {ts us : List Token} {e : Expr} {es : List Expr} :
      Derives .expr ts e → DerivesList us es → DerivesList (ts ++ .punct .comma :: us) (e :: es)

/-- The tokens are fields with commas between them, and perhaps one more comma. -/
inductive DerivesFields : List Token → List (String × Expr) → Prop where
  | none : DerivesFields [] []
  | last {t : Token} {key : String} {ts : List Token} {e : Expr} :
      IsKey t key → Derives .expr ts e → DerivesFields (t :: .punct .colon :: ts) [(key, e)]
  | more {t : Token} {key : String} {ts us : List Token} {e : Expr}
      {fields : List (String × Expr)} :
      IsKey t key → Derives .expr ts e → DerivesFields us fields →
        DerivesFields (t :: .punct .colon :: (ts ++ .punct .comma :: us)) ((key, e) :: fields)

end

/-! ### How phrases begin and end -/

namespace Phrase

/-- Whether a phrase can begin with a token. -/
def Begins (phrase : Phrase) : Token → Prop
  | .punct p => p ∈ [Punct.leftParen, .leftBracket, .leftBrace] ∨
      phrase ∉ [operand, primary] ∧ p ∈ [Punct.minus, .bang]
  | _ => True

/-- A looser phrase reaches farther over the marks between its parts. -/
def reach : Phrase → Nat
  | primary => 0
  | operand => 1
  | unary => 2
  | binary .product => 3
  | binary .sum => 4
  | binary .comparison => 5
  | binary .equality => 6
  | binary .and => 7
  | binary .or => 8
  | binary .nullish => 9
  | expr => 10

end Phrase

/-- The reach that a phrase must have to go on with a mark. -/
def Punct.reach : Punct → Nat
  | dot | leftBracket | leftParen => 1
  | star | slash | percent => 3
  | plus | minus => 4
  | less | atMost | greater | atLeast => 5
  | equal | strictlyEqual | unequal | strictlyUnequal => 6
  | and => 7
  | or => 8
  | nullish => 9
  | question => 10
  | rightParen | rightBracket | leftBrace | rightBrace | comma | colon | bang => 11

/-- No phrase of the kind goes on with the tokens. -/
def Phrase.EndsBefore (phrase : Phrase) : List Token → Prop
  | .punct p :: _ => phrase.reach < p.reach
  | _ => True

/-- Every phrase that can have a sign in front begins as any other can. -/
theorem Phrase.Begins.signed {phrase other : Phrase} {t : Token} (h : other.Begins t)
    (hphrase : phrase ∉ [operand, primary]) : phrase.Begins t := by
  cases t with
  | punct p => exact h.imp_right fun hsign ↦ ⟨hphrase, hsign.2⟩
  | _ => trivial

theorem Phrase.Begins.bare {t : Token} (h : primary.Begins t) : operand.Begins t := by
  cases t with
  | punct p => exact h.imp_right fun hsign ↦ absurd hsign.1 (by simp)
  | _ => trivial

/-- A phrase begins as its first part does. -/
theorem Derives.begins : ∀ {phrase : Phrase} {ts : List Token} {e : Expr}, Derives phrase ts e →
    ∃ t rest, ts = t :: rest ∧ phrase.Begins t
  | _, _, _, .unconditional h => by
    obtain ⟨t, rest, rfl, hbegins⟩ := h.begins
    exact ⟨t, rest, rfl, hbegins.signed (by simp)⟩
  | _, _, _, .conditional h _ _ => by
    obtain ⟨t, rest, rfl, hbegins⟩ := h.begins
    exact ⟨t, _, rfl, hbegins.signed (by simp)⟩
  | _, _, _, .single h => by
    obtain ⟨t, rest, rfl, hbegins⟩ := h.begins
    exact ⟨t, rest, rfl, hbegins.signed (by simp)⟩
  | _, _, _, .operation h _ _ => by
    obtain ⟨t, rest, rfl, hbegins⟩ := h.begins
    exact ⟨t, _, rfl, hbegins⟩
  | _, _, _, .negative _ | _, _, _, .negation _ => ⟨_, _, rfl, .inr ⟨by simp, by simp⟩⟩
  | _, _, _, .unsigned h => by
    obtain ⟨t, rest, rfl, hbegins⟩ := h.begins
    exact ⟨t, rest, rfl, hbegins.signed (by simp)⟩
  | _, _, _, .bare h => by
    obtain ⟨t, rest, rfl, hbegins⟩ := h.begins
    exact ⟨t, rest, rfl, hbegins.bare⟩
  | _, _, _, .member _ h | _, _, _, .index h _ | _, _, _, .call h _ => by
    obtain ⟨t, rest, rfl, hbegins⟩ := h.begins
    exact ⟨t, _, rfl, hbegins⟩
  | _, _, _, .number _ | _, _, _, .string _ | _, _, _, .word _ | _, _, _, .ident _ =>
    ⟨_, _, rfl, trivial⟩
  | _, _, _, .group _ | _, _, _, .array _ | _, _, _, .object _ => ⟨_, _, rfl, .inl (by simp)⟩

end ClusterPlan.Template
