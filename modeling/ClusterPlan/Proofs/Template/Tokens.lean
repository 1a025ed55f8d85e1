import ClusterPlan.Proofs.Template.Braces
import ClusterPlan.Proofs.Text.Parts
import ClusterPlan.Template.Token

/-!
# Tokens and their texts

A text that can be split into tokens has the braces of its tokens and no others: those that are
marks of their own, and those in the contents of strings. Neither blanks nor numbers nor
identifiers hold any, and no escape in a string stands for one or hides one.

Strings, names and marks can be written so that they are read again, with a space between any two.
A mark and a name are written as they are, and a string between quotes of either kind, with a
backslash in front of each quote of that kind and of each backslash inside. Whatever the contents,
the string ends at the first quote without a backslash. A name goes on to the space behind it, and
the longest mark at the front is the one that is written, since no mark holds a space.
-/

namespace ClusterPlan.Template

/-! ### Braces -/

/-- A class of characters that neither brace is in holds no brace. -/
theorem isBrace_eq_false {p : Char → Bool} (hopen : p '\x7b' = false) (hclose : p '\x7d' = false)
    {c : Char} (hc : p c = true) : isBrace c = false := by
  have hneOpen : c ≠ '\x7b' := fun h ↦ absurd (h ▸ hc) (by simp [hopen])
  have hneClose : c ≠ '\x7d' := fun h ↦ absurd (h ▸ hc) (by simp [hclose])
  simp [isBrace, hneOpen, hneClose]

namespace Token

/-- The braces that a token holds, those in the contents of a string among them. -/
def braces : Token → List Char
  | .punct p => p.text.toList.filter isBrace
  | .string s => s.toList.filter isBrace
  | .number _ | .ident _ => []

/-- A run of characters of a class without braces leaves all braces to what is behind it. -/
theorem filter_dropWhile {p : Char → Bool} (hopen : p '\x7b' = false) (hclose : p '\x7d' = false)
    (cs : List Char) : (cs.dropWhile p).filter isBrace = cs.filter isBrace := by
  induction cs with
  | nil => rfl
  | cons c cs ih =>
    rw [List.dropWhile_cons]
    split
    next hc =>
      have hnone := isBrace_eq_false hopen hclose hc
      rw [ih, List.filter_cons_of_neg (by simp [hnone])]
    next => rfl

/-- No escape stands for a brace, and a brace behind a backslash stands for itself. -/
theorem filter_unescape (c : Char) (cs : List Char) :
    (unescape c :: cs).filter isBrace = (c :: cs).filter isBrace := by
  unfold unescape
  split
  · rfl
  · rfl
  · rfl
  · rfl

theorem braces_takeString {quote : Char} (hquote : isBrace quote = false) {cs : List Char}
    {t : Taken Char (List Char) cs} (h : takeString quote cs = some t) :
    cs.filter isBrace = t.value.filter isBrace ++ t.rest.filter isBrace := by
  fun_induction takeString quote cs with
  | case1 => cases h
  | case2 rest =>
    obtain rfl := Option.some.inj h
    exact List.filter_cons_of_neg (by simp [hquote])
  | case3 => cases h
  | case4 e rest hne ih =>
    obtain ⟨inner, hinner, rfl⟩ := Option.map_eq_some_iff.mp h
    have hcontents := ih hinner
    -- The backslash is no brace, and what it escapes is one exactly if what is read is.
    calc
      _ = (e :: rest).filter isBrace := List.filter_cons_of_neg (by decide)
      _ = (unescape e :: rest).filter isBrace := (filter_unescape e rest).symm
      _ = (unescape e :: inner.value).filter isBrace ++ inner.rest.filter isBrace := by
        rw [List.filter_cons, List.filter_cons, hcontents]
        split
        · rfl
        · rfl
  | case5 c rest hne hne' ih =>
    obtain ⟨inner, hinner, rfl⟩ := Option.map_eq_some_iff.mp h
    have hcontents := ih hinner
    show (c :: rest).filter isBrace = (c :: inner.value).filter isBrace ++ inner.rest.filter isBrace
    rw [List.filter_cons, List.filter_cons, hcontents]
    split
    · rfl
    · rfl

theorem isNumberChar_of_startsNumber {c : Char} {cs : List Char}
    (h : startsNumber (c :: cs) = true) : isNumberChar c = true := by
  unfold startsNumber at h
  split at h
  next d rest hdot =>
    obtain ⟨rfl, -⟩ := List.cons.inj hdot
    rfl
  next d rest _ hcons =>
    obtain ⟨rfl, -⟩ := List.cons.inj hcons
    simp [isNumberChar, h]
  next hnil => cases hnil

/-- The text of a mark is cut off whole. -/
theorem append_drop_of_ofFront? {c : Char} {cs : List Char} {p : Punct}
    (h : Punct.ofFront? (c :: cs) = some p) :
    p.text.toList ++ cs.drop (p.text.length - 1) = c :: cs := by
  have hfront : p.text.toList.isPrefixOf (c :: cs) = true := by
    simpa using List.find?_some h
  obtain ⟨rest, hrest⟩ := List.isPrefixOf_iff_prefix.mp hfront
  have hpos : 0 < p.text.length := by
    cases p <;> decide
  have hdrop : cs.drop (p.text.length - 1) = (c :: cs).drop p.text.length := by
    rw [← Nat.succ_pred_eq_of_pos hpos]
    rfl
  rw [hdrop, ← hrest, ← String.length_toList, List.drop_left]

theorem braces_take {c : Char} {cs : List Char} {t : Taken Char Token (c :: cs)}
    (h : take c cs = .ok t) :
    (c :: cs).filter isBrace = t.value.braces ++ t.rest.filter isBrace := by
  unfold take at h
  split at h
  next hnumber =>
    have hnone : isBrace c = false :=
      isBrace_eq_false (by decide) (by decide) (isNumberChar_of_startsNumber hnumber)
    dsimp only at h
    split at h
    next =>
      obtain rfl := Except.ok.inj h
      dsimp only [braces]
      rw [filter_dropWhile (by decide) (by decide), List.filter_cons_of_neg (by simp [hnone])]
      rfl
    next => cases h
  next =>
    split at h
    next hquote =>
      have hnone : isBrace c = false := by
        rcases hquote with rfl | rfl
        · decide
        · decide
      split at h
      next contents hcontents =>
        obtain rfl := Except.ok.inj h
        rw [List.filter_cons_of_neg (by simp [hnone]), braces_takeString hnone hcontents]
        simp [braces, Taken.map, Taken.within]
      next => cases h
    next =>
      split at h
      next hident =>
        have hnone : isBrace c = false := isBrace_eq_false (by decide) (by decide) hident
        obtain rfl := Except.ok.inj h
        dsimp only [braces]
        rw [filter_dropWhile (by decide) (by decide), List.filter_cons_of_neg (by simp [hnone])]
        rfl
      next =>
        split at h
        next p hp =>
          obtain rfl := Except.ok.inj h
          dsimp only [braces]
          rw [← List.filter_append, append_drop_of_ofFront? hp]
        next => cases h

/-- The braces of a text are those of its tokens. -/
theorem braces_scan {cs : List Char} {tokens : List Token} (h : scan cs = .ok tokens) :
    cs.filter isBrace = tokens.flatMap braces := by
  fun_induction scan cs generalizing tokens with
  | case1 =>
    obtain rfl := Except.ok.inj h
    rfl
  | case2 c cs hblank ih =>
    have hnone : isBrace c = false := isBrace_eq_false (by decide) (by decide) hblank
    rw [List.filter_cons_of_neg (by simp [hnone]), ih h]
  | case3 => cases h
  | case4 => cases h
  | case5 c cs hblank t htake rest hrest ih =>
    obtain rfl := Except.ok.inj h
    rw [braces_take htake, ih hrest, List.flatMap_cons]

end Token

/-! ### The longest mark -/

namespace Punct

variable {cs : List Char} {p : Punct}

theorem mem_all (p : Punct) : p ∈ all := by
  cases p <;> decide

/-- No mark begins one that stands behind it in the list. -/
theorem pairwise_all : all.Pairwise fun p q ↦ ¬p.text.toList <+: q.text.toList := by
  decide

/-- What is found is the longest mark at the front of the text. -/
theorem ofFront?_eq_some_iff :
    ofFront? cs = some p ↔
      p.text.toList <+: cs ∧
        ∀ q : Punct, q.text.toList <+: cs → q.text.toList <+: p.text.toList := by
  have hfirst : ofFront? cs = some p ↔ p.text.toList <+: cs ∧
      ∃ before after, all = before ++ p :: after ∧ ∀ q ∈ before, ¬q.text.toList <+: cs := by
    simp [ofFront?, List.find?_eq_some_iff_append, ← List.isPrefixOf_iff_prefix]
  rw [hfirst]
  refine and_congr_right fun hp ↦ ⟨?_, ?_⟩
  · rintro ⟨before, after, hall, hbefore⟩ q hq
    have hapart := pairwise_all
    rw [hall, List.pairwise_append, List.pairwise_cons] at hapart
    have hmem := mem_all q
    rw [hall, List.mem_append, List.mem_cons] at hmem
    -- A mark before `p` in the list does not begin the text, and none behind it begins with `p`.
    rcases hmem with hmem | rfl | hmem
    · exact absurd hq (hbefore q hmem)
    · exact List.prefix_rfl
    · exact (List.prefix_or_prefix_of_prefix hq hp).resolve_right (hapart.2.1.1 q hmem)
  · intro hlongest
    obtain ⟨before, after, hall⟩ := List.append_of_mem (mem_all p)
    have hapart := pairwise_all
    rw [hall, List.pairwise_append] at hapart
    refine ⟨before, after, hall, fun q hq hfront ↦ ?_⟩
    exact hapart.2.2 q hq p List.mem_cons_self (hlongest q hfront)

end Punct

/-! ### Spellings -/

namespace Token

inductive Quote where
  | single | double
  deriving Repr, DecidableEq

namespace Quote

def mark : Quote → Char
  | single => '\''
  | double => '"'

/-- A character of a string as it stands between quotes. -/
def escape (quote : Quote) (c : Char) : List Char :=
  if c = quote.mark ∨ c = '\\' then ['\\', c] else [c]

def enclose (quote : Quote) (contents : String) : String :=
  String.ofList (quote.mark :: (contents.toList.flatMap quote.escape ++ [quote.mark]))

theorem mark_ne_backslash (quote : Quote) : '\\' ≠ quote.mark := by
  cases quote <;> decide

/-- What is put behind a backslash is none of the letters that stand for something else there. -/
theorem unescape_eq_self {quote : Quote} {c : Char} (h : c = quote.mark ∨ c = '\\') :
    unescape c = c := by
  rcases h with rfl | rfl
  · cases quote <;> rfl
  · rfl

end Quote

def IsNameChar (c : Char) : Prop := c.isAlphanum ∨ c = '_' ∨ c = '$'

instance (c : Char) : Decidable (IsNameChar c) := inferInstanceAs (Decidable (_ ∨ _))

/-- A name of ASCII letters, digits, `_` and `$` that does not start with a digit. -/
structure IsName (name : String) : Prop where
  ne_empty : name ≠ ""
  chars : ∀ c ∈ name.toList, IsNameChar c
  first : ∀ c ∈ name.toList.head?, c.isDigit = false

/-- Strings, names of ASCII characters, and marks. -/
def IsSpellable : Token → Prop
  | string _ | punct _ => True
  | ident name => IsName name
  | number _ => False

/-- The text is one way to write the token. A string can stand in either quote. -/
inductive Spells : Token → String → Prop
  | string (contents : String) (quote : Quote) : Spells (.string contents) (quote.enclose contents)
  | ident {name : String} (h : IsName name) : Spells (.ident name) name
  | punct (p : Punct) : Spells (.punct p) p.text

theorem IsSpellable.exists_spells {t : Token} (h : t.IsSpellable) : ∃ text, Spells t text := by
  cases t with
  | number x => exact h.elim
  | string contents => exact ⟨_, .string contents .single⟩
  | ident name => exact ⟨_, .ident h⟩
  | punct p => exact ⟨_, .punct p⟩

theorem exists_spellings {tokens : List Token} (h : ∀ t ∈ tokens, t.IsSpellable) :
    ∃ texts, List.Forall₂ Spells tokens texts := by
  induction tokens with
  | nil => exact ⟨[], .nil⟩
  | cons t tokens ih =>
    obtain ⟨ht, htokens⟩ := List.forall_mem_cons.mp h
    obtain ⟨text, htext⟩ := ht.exists_spells
    obtain ⟨texts, htexts⟩ := ih htokens
    exact ⟨text :: texts, .cons htext htexts⟩

/-! ### Characters of names and marks -/

section Characters

variable {c : Char}

theorem IsNameChar.visible (h : IsNameChar c) : 33 ≤ c.toNat ∧ c.toNat ≤ 126 := by
  rcases h with halphanum | rfl | rfl
  · exact Text.visible_of_isAlphanum halphanum
  · decide
  · decide

theorem IsNameChar.isBlank_eq_false (h : IsNameChar c) : Text.isBlank c = false :=
  Text.isBlank_eq_false_of_visible h.visible.1 h.visible.2

theorem IsNameChar.isIdentChar (h : IsNameChar c) : isIdentChar c = true := by
  have hascii : c.toNat < 128 := Nat.lt_of_le_of_lt h.visible.2 (by decide)
  have hclass : Text.isAlphanumeric c = c.isAlphanum := by
    rw [Text.isAlphanumeric, Text.isAlphabetic, Text.isNumeric, if_pos hascii, if_pos hascii]
    rfl
  simpa [Token.isIdentChar, hclass, or_assoc, IsNameChar] using h

theorem IsNameChar.startsIdent (h : IsNameChar c) (hdigit : c.isDigit = false) :
    startsIdent c = true := by
  have hascii : c.toNat < 128 := Nat.lt_of_le_of_lt h.visible.2 (by decide)
  have hclass : Text.isAlphanumeric c = Text.isAlphabetic c := by
    rw [Text.isAlphanumeric, Text.isNumeric, if_pos hascii, hdigit, Bool.or_false]
  simpa [Token.isIdentChar, Token.startsIdent, hclass] using h.isIdentChar

/-- A character that neither is blank nor begins a string or a name, and is no digit. -/
def IsMarkChar (c : Char) : Prop :=
  Text.isBlank c = false ∧ c.isDigit = false ∧ ¬(c = '"' ∨ c = '\'') ∧ startsIdent c = false

instance (c : Char) : Decidable (IsMarkChar c) := inferInstanceAs (Decidable (_ ∧ _))

theorem isMarkChar_of_mem_text (p : Punct) : ∀ c ∈ p.text.toList, IsMarkChar c := by
  have hall : p.text.toList.all (fun c ↦ decide (IsMarkChar c)) = true := by
    cases p <;> decide
  simpa using hall

end Characters

/-! ### The token at the front -/

section Front

variable {c : Char} {cs rest : List Char}

theorem scan_of_take {t : Taken Char Token (c :: cs)} (hc : Text.isBlank c = false)
    (h : take c cs = .ok t) : scan (c :: cs) = (scan t.rest).map (t.value :: ·) := by
  rw [scan, if_neg (by simp [hc]), h]
  dsimp only
  cases scan t.rest with
  | error fault => rfl
  | ok tokens => rfl

theorem scan_space (cs : List Char) : scan (' ' :: cs) = scan cs := by
  rw [scan, if_pos (by decide)]

theorem startsNumber_eq_false (hc : c.isDigit = false)
    (hcs : c = '.' → ∀ d ∈ cs.head?, d.isDigit = false) : startsNumber (c :: cs) = false := by
  unfold startsNumber
  split
  next d rest hcons =>
    obtain ⟨rfl, rfl⟩ := List.cons.inj hcons
    exact hcs rfl d rfl
  next d rest _ hcons =>
    obtain ⟨rfl, -⟩ := List.cons.inj hcons
    exact hc
  next hnil => cases hnil

/-- What stands between quotes is taken off whole, with the quote behind it. -/
theorem takeString_escaped (quote : Quote) (contents rest : List Char) :
    ∃ t, takeString quote.mark (contents.flatMap quote.escape ++ quote.mark :: rest) = some t ∧
      t.value = contents ∧ t.rest = rest := by
  induction contents with
  | nil =>
    rw [List.flatMap_nil, List.nil_append, takeString.eq_def]
    exact ⟨_, if_pos rfl, rfl, rfl⟩
  | cons c contents ih =>
    obtain ⟨inner, hinner, hvalue, hrest⟩ := ih
    rw [List.flatMap_cons, List.append_assoc, Quote.escape]
    by_cases hc : c = quote.mark ∨ c = '\\'
    · rw [if_pos hc, List.cons_append, List.cons_append, List.nil_append, takeString.eq_def]
      dsimp only
      rw [if_neg quote.mark_ne_backslash, if_pos rfl, hinner]
      have hstand : unescape c :: inner.value = c :: contents := by
        rw [Quote.unescape_eq_self hc, hvalue]
      exact ⟨_, rfl, hstand, hrest⟩
    · rw [if_neg hc, List.cons_append, List.nil_append, takeString.eq_def]
      dsimp only
      obtain ⟨hquote, hbackslash⟩ := not_or.mp hc
      rw [if_neg hquote, if_neg hbackslash, hinner]
      exact ⟨_, rfl, congrArg (c :: ·) hvalue, hrest⟩

theorem scan_enclose (quote : Quote) (contents : String) (rest : List Char) :
    scan ((quote.enclose contents).toList ++ rest) = (scan rest).map (.string contents :: ·) := by
  obtain ⟨inner, hinner, hvalue, hrest⟩ := takeString_escaped quote contents.toList rest
  have htext : (quote.enclose contents).toList ++ rest =
      quote.mark :: (contents.toList.flatMap quote.escape ++ quote.mark :: rest) := by
    simp [Quote.enclose]
  have hblank : Text.isBlank quote.mark = false := by
    cases quote <;> decide
  have hnumber (cs : List Char) : startsNumber (quote.mark :: cs) = false := by
    cases quote <;> exact startsNumber_eq_false (by decide) (by simp [Quote.mark])
  have hquote : quote.mark = '"' ∨ quote.mark = '\'' := by
    cases quote <;> decide
  have htake : take quote.mark (contents.toList.flatMap quote.escape ++ quote.mark :: rest) =
      .ok ((inner.map fun cs ↦ .string (String.ofList cs)).within (by simp)) := by
    rw [take, if_neg (by simp [hnumber]), if_pos hquote, hinner]
  rw [htext, scan_of_take hblank htake]
  change (scan inner.rest).map (Token.string (String.ofList inner.value) :: ·) = _
  rw [hvalue, hrest, String.ofList_toList]

variable (hrest : ∀ c ∈ rest.head?, c = ' ')
include hrest

/-- A run of characters of names goes on to the space behind it. -/
theorem takeWhile_dropWhile_append {run : List Char} (h : ∀ c ∈ run, isIdentChar c = true) :
    (run ++ rest).takeWhile isIdentChar = run ∧ (run ++ rest).dropWhile isIdentChar = rest := by
  have hend : rest.takeWhile isIdentChar = [] ∧ rest.dropWhile isIdentChar = rest := by
    cases rest with
    | nil => exact ⟨rfl, rfl⟩
    | cons d more =>
      obtain rfl := hrest d rfl
      exact ⟨rfl, rfl⟩
  rw [List.takeWhile_append_of_pos h, List.dropWhile_append_of_pos h, hend.1, hend.2]
  exact ⟨List.append_nil run, rfl⟩

theorem scan_name {name : String} (h : IsName name) :
    scan (name.toList ++ rest) = (scan rest).map (.ident name :: ·) := by
  have hne : name.toList ≠ [] := by simpa using h.ne_empty
  obtain ⟨c, tail, hname⟩ := List.exists_cons_of_ne_nil hne
  have hc : IsNameChar c := h.chars c (by simp [hname])
  have hdigit : c.isDigit = false := h.first c (by simp [hname])
  have htail : ∀ d ∈ tail, isIdentChar d = true := by
    intro d hd
    exact (h.chars d (by simp [hname, hd])).isIdentChar
  obtain ⟨hrun, hbehind⟩ := takeWhile_dropWhile_append hrest htail
  have hnumber : startsNumber (c :: (tail ++ rest)) = false := by
    apply startsNumber_eq_false hdigit
    rintro rfl
    exact absurd hc (by decide)
  have hquote : ¬(c = '"' ∨ c = '\'') := by
    rintro (rfl | rfl)
    · exact absurd hc (by decide)
    · exact absurd hc (by decide)
  have htake : take c (tail ++ rest) =
      .ok ⟨.ident (String.ofList (c :: (tail ++ rest).takeWhile isIdentChar)),
        (tail ++ rest).dropWhile isIdentChar, Nat.lt_succ_of_le (length_dropWhile_le _ _)⟩ := by
    rw [take, if_neg (by simp [hnumber]), if_neg hquote, if_pos (hc.startsIdent hdigit)]
  rw [hname, List.cons_append, scan_of_take hc.isBlank_eq_false htake]
  dsimp only
  rw [hrun, hbehind, ← hname, String.ofList_toList]

/-- No mark reaches over the end of the one that is written. -/
theorem ofFront?_append (p : Punct) : Punct.ofFront? (p.text.toList ++ rest) = some p := by
  rw [Punct.ofFront?_eq_some_iff]
  refine ⟨List.prefix_append _ _, fun q hq ↦ ?_⟩
  rcases List.prefix_or_prefix_of_prefix hq (List.prefix_append _ rest) with hshort | ⟨more, hmore⟩
  · exact hshort
  · rw [← hmore, List.prefix_append_right_inj] at hq
    cases more with
    | nil => exact ⟨[], by simp [← hmore]⟩
    | cons d more =>
      obtain ⟨behind, rfl⟩ := hq
      obtain rfl := hrest d rfl
      have hspace : IsMarkChar ' ' := isMarkChar_of_mem_text q ' ' (by simp [← hmore])
      exact absurd hspace (by decide)

theorem scan_mark (p : Punct) :
    scan (p.text.toList ++ rest) = (scan rest).map (.punct p :: ·) := by
  have hne : p.text.toList ≠ [] := by
    cases p <;> decide
  obtain ⟨c, tail, htext⟩ := List.exists_cons_of_ne_nil hne
  obtain ⟨hblank, hdigit, hquote, hident⟩ : IsMarkChar c :=
    isMarkChar_of_mem_text p c (by simp [htext])
  have hnumber : startsNumber (c :: (tail ++ rest)) = false := by
    apply startsNumber_eq_false hdigit
    intro _ d hd
    cases tail with
    | nil =>
      obtain rfl := hrest d hd
      decide
    | cons e tail =>
      obtain rfl := Option.some.inj hd
      exact (isMarkChar_of_mem_text p e (by simp [htext])).2.1
  have hfront : Punct.ofFront? (c :: (tail ++ rest)) = some p := by
    rw [← List.cons_append, ← htext]
    exact ofFront?_append hrest p
  have hbehind : (tail ++ rest).drop (p.text.length - 1) = rest := by
    have happend := append_drop_of_ofFront? hfront
    rw [← List.cons_append, ← htext] at happend
    exact List.append_cancel_left happend
  have hshorter : rest.length < (c :: (tail ++ rest)).length := by
    rw [List.length_cons, List.length_append]
    omega
  have htake : take c (tail ++ rest) =
      .ok ⟨.punct p, (tail ++ rest).drop (p.text.length - 1), hbehind.symm ▸ hshorter⟩ := by
    rw [take, if_neg (by simp [hnumber]), if_neg hquote, if_neg (by simp [hident]), hfront]
  rw [htext, List.cons_append, scan_of_take hblank htake]
  dsimp only
  rw [hbehind]

theorem Spells.scan_append {t : Token} {text : String} (h : Spells t text) :
    scan (text.toList ++ rest) = (scan rest).map (t :: ·) := by
  cases h with
  | string contents quote => exact scan_enclose quote contents rest
  | ident h => exact scan_name hrest h
  | punct p => exact scan_mark hrest p

end Front

/-! ### Tokens in a row -/

theorem scan_spellings {tokens : List Token} {texts : List String}
    (h : List.Forall₂ Spells tokens texts) :
    scan ([' '].intercalate (texts.map String.toList)) = .ok tokens := by
  induction h with
  | nil => rw [List.map_nil, List.intercalate_nil, scan]
  | @cons t text tokens texts htoken htokens ih =>
    cases htokens with
    | nil =>
      rw [List.map_singleton, List.intercalate_singleton, ← List.append_nil text.toList,
        htoken.scan_append (by simp), scan]
      rfl
    | cons hnext hothers =>
      rw [List.map_cons] at ih
      rw [List.map_cons, List.map_cons, List.intercalate_cons_cons, List.append_assoc,
        List.singleton_append, htoken.scan_append (by simp), scan_space, ih]
      rfl

/-- Strings, names and marks can be written, and however they are written, with a space between any
two they are read again. -/
theorem tokenize_inverts_spelling {tokens : List Token} (h : ∀ t ∈ tokens, t.IsSpellable) :
    (∃ texts, List.Forall₂ Spells tokens texts) ∧
      ∀ texts, List.Forall₂ Spells tokens texts →
        tokenize (" ".intercalate texts) = .ok tokens := by
  refine ⟨exists_spellings h, fun texts htexts ↦ ?_⟩
  have hspace : " ".toList = [' '] := rfl
  rw [tokenize, String.toList_intercalate, hspace]
  exact scan_spellings htexts

/-- Strings that hold quotes, a backslash, marks and a line feed, and marks that begin others. -/
def entangled : List Token :=
  [.string "it's\\n \"===\"\n", .ident "$a_1", .punct .equal, .punct .strictlyEqual, .punct .dot,
    .string "\\'", .punct .bang, .punct .unequal]

theorem tokenize_inverts_spelling_entangled :
    (∀ t ∈ entangled, t.IsSpellable) ∧
      tokenize "'it\\'s\\\\n \"===\"\n' $a_1 == === . \"\\\\'\" ! !=" = .ok entangled := by
  have hchars : "$a_1".toList.all (fun c ↦ decide (IsNameChar c)) = true := by decide
  have hname : IsName "$a_1" := by
    refine ⟨by decide, by simpa using hchars, ?_⟩
    rintro c ⟨⟩
    decide
  have hspellable : ∀ t ∈ entangled, t.IsSpellable := by
    simp [entangled, IsSpellable, hname]
  have hspells : List.Forall₂ Spells entangled
      [Quote.single.enclose "it's\\n \"===\"\n", "$a_1", "==", "===", ".",
        Quote.double.enclose "\\'", "!", "!="] :=
    .cons (.string _ _) <| .cons (.ident hname) <| .cons (.punct .equal) <|
      .cons (.punct .strictlyEqual) <| .cons (.punct .dot) <| .cons (.string _ _) <|
      .cons (.punct .bang) <| .cons (.punct .unequal) .nil
  exact ⟨hspellable, (tokenize_inverts_spelling hspellable).2 _ hspells⟩

end Token

end ClusterPlan.Template
