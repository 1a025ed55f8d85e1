import ClusterPlan.Proofs.Proxy.Shorthand
import ClusterPlan.Proxy.Declaration

/-!
# Declarations as they are written

A declaration is written from its parts: perhaps a strategy, a domain, perhaps ports and perhaps a
path. Wherever a strategy is written, these parts are read again, with the defaults for the others.

Where no strategy is written, the mark behind a strategy is still looked for in the whole text, so
that a path can have it too. What stands in front of the mark has a slash then and is no strategy,
and the declaration is refused. A path without the mark is read as it is written.
-/

namespace ClusterPlan.Proxy.Declaration

/-- The mark behind a strategy. -/
def schemeMark : List Char := [':', '/', '/']

/-- The characters of a domain. -/
def IsPlain (c : Char) : Prop := c.isAlphanum ∨ c ∈ ['.', '-', '*', '_']

instance (c : Char) : Decidable (IsPlain c) := inferInstanceAs (Decidable (_ ∨ _))

theorem isDomainChar_iff {c : Char} : isDomainChar c = true ↔ IsPlain c := by
  simp [isDomainChar, IsPlain, or_assoc]

theorem isBlank_of_isAlphanum {c : Char} (h : c.isAlphanum) : Text.isBlank c = false :=
  Text.isBlank_eq_false_of_visible (Text.visible_of_isAlphanum h).1 (Text.visible_of_isAlphanum h).2

theorem IsPlain.isBlank_eq_false {c : Char} (h : IsPlain c) : Text.isBlank c = false := by
  rcases h with halphanum | hother
  · exact isBlank_of_isAlphanum halphanum
  · simp only [List.mem_cons, List.not_mem_nil, or_false] at hother
    rcases hother with rfl | rfl | rfl | rfl <;> decide

/-- What a declaration is written from. There may be no ports. -/
structure Parts where
  strategy : Option Strategy
  domain : String
  ports : List Nat
  path : Option String

namespace Parts

def schemeText (parts : Parts) : String :=
  parts.strategy.elim "" fun strategy ↦ strategy.name ++ "://"

def portsText (parts : Parts) : String :=
  if parts.ports = [] then "" else ":" ++ Port.shorthand parts.ports

def text (parts : Parts) : String :=
  parts.schemeText ++ (parts.domain ++ parts.portsText ++ parts.path.getD "")

/-- Parts of the form that declarations have. -/
structure Fit (parts : Parts) : Prop where
  domain_ne_empty : parts.domain ≠ ""
  domain : ∀ c ∈ parts.domain.toList, IsPlain c
  length_ports : parts.ports.length ≤ 3
  ports : ∀ n ∈ parts.ports, 0 < n ∧ n ≤ Port.limit
  path : ∀ path ∈ parts.path, path.toList.head? = some '/'
  path_blank : ∀ path ∈ parts.path, ∀ c ∈ path.toList, Text.isBlank c = false

/-- The numbers of the port, 80 if none are written. -/
def numbers (parts : Parts) : List Nat := if parts.ports = [] then [80] else parts.ports

/-- What is read has all parts that are written, the domain in lower case. -/
def ReadsAsWritten (parts : Parts) : Prop :=
  ∃ port, Port.ofFields (parts.numbers.map toString) = .ok port ∧
    parse parts.text =
      .ok ⟨⟨parts.domain.toLower, parts.path.getD "/", parts.strategy⟩, port⟩

end Parts

/-! ### Strategies -/

theorem strategyParse_name (strategy : Strategy) : Strategy.parse strategy.name = .ok strategy := by
  cases strategy <;> decide

theorem colon_notMem_strategyName (strategy : Strategy) : ':' ∉ strategy.name.toList := by
  cases strategy <;> decide

theorem isBlank_of_mem_scheme (strategy : Strategy) {c : Char}
    (h : c ∈ (strategy.name ++ "://").toList) : Text.isBlank c = false := by
  have hnone : (strategy.name ++ "://").toList.any Text.isBlank = false := by
    cases strategy <;> decide
  simpa using List.any_eq_false.mp hnone c h

/-- No strategy has a slash in its name. -/
theorem strategyParse_of_slash {name : List Char} (h : '/' ∈ name) :
    Strategy.parse (String.ofList name) = .error ⟨String.ofList name⟩ := by
  have hnone : Strategy.all.find? (·.name == String.ofList name) = none := by
    rw [List.find?_eq_none]
    intro strategy _ hname
    have hslash : '/' ∉ strategy.name.toList := by
      cases strategy <;> decide
    rw [eq_of_beq hname, String.toList_ofList] at hslash
    exact hslash h
  rw [Strategy.parse, hnone]

theorem strategyAndRest_of_split {cs scheme rest : List Char}
    (h : Text.splitFirstText? schemeMark cs = some (scheme, rest)) :
    strategyAndRest cs =
      (Strategy.parse (String.ofList scheme)).map fun strategy ↦ (some strategy, rest) := by
  have hmark : "://".toList = schemeMark := rfl
  rw [strategyAndRest, hmark, h]

theorem strategyAndRest_of_split_eq_none {cs : List Char}
    (h : Text.splitFirstText? schemeMark cs = none) : strategyAndRest cs = .ok (none, cs) := by
  have hmark : "://".toList = schemeMark := rfl
  rw [strategyAndRest, hmark, h]

/-! ### Authorities and paths -/

section Steps

variable {authority path : List Char}

theorem authorityAndPath_append (hauthority : '/' ∉ authority)
    (hpath : path = [] ∨ path.head? = some '/') :
    authorityAndPath (authority ++ path) =
      (authority, if path = [] then "/" else String.ofList path) := by
  have hall : ∀ c ∈ authority, (c != '/') = true := by
    intro c hc
    exact bne_iff_ne.mpr fun hslash ↦ hauthority (hslash ▸ hc)
  have hnone : path.takeWhile (· != '/') = [] ∧ path.dropWhile (· != '/') = path := by
    cases path with
    | nil => exact ⟨rfl, rfl⟩
    | cons c rest =>
      have hc : c = '/' := by simpa using hpath
      simp [hc]
  unfold authorityAndPath
  rw [List.takeWhile_append_of_pos hall, List.dropWhile_append_of_pos hall, hnone.1, hnone.2,
    List.append_nil]
  simp [defaultPath]

/-- The mark does not begin in an authority: behind a colon of it there is something else. -/
theorem exists_of_append_eq_append_mark {before after : List Char} (hslash : '/' ∉ authority)
    (hcolon : ∀ front, authority ≠ front ++ [':'])
    (h : authority ++ path = before ++ (schemeMark ++ after)) :
    ∃ more, before = authority ++ more ∧ path = more ++ (schemeMark ++ after) := by
  rcases List.append_eq_append_iff.mp h with ⟨more, hbefore, hpath⟩ | ⟨more, rfl, hmore⟩
  · exact ⟨more, hbefore, hpath⟩
  · -- What is left of the authority is the beginning of the mark.
    match more with
    | [] => exact ⟨[], by simp, hmore.symm⟩
    | [c] =>
      obtain ⟨rfl, -⟩ := List.cons.inj hmore
      exact absurd rfl (hcolon before)
    | c :: d :: more =>
      obtain ⟨-, hrest⟩ := List.cons.inj hmore
      obtain ⟨rfl, -⟩ := List.cons.inj hrest
      exact absurd (by simp) hslash

theorem schemeMark_infix_append_iff (hslash : '/' ∉ authority)
    (hcolon : ∀ front, authority ≠ front ++ [':']) :
    schemeMark <:+: authority ++ path ↔ schemeMark <:+: path := by
  constructor
  · rintro ⟨before, after, h⟩
    rw [List.append_assoc] at h
    obtain ⟨more, -, hpath⟩ := exists_of_append_eq_append_mark hslash hcolon h.symm
    exact ⟨more, after, by rw [hpath, List.append_assoc]⟩
  · exact fun h ↦ h.trans (List.suffix_append authority path).isInfix

end Steps

namespace Parts

variable {parts : Parts}

/-! ### The text -/

/-- The fields of the authority: the domain and the ports. -/
def fields (parts : Parts) : List (List Char) :=
  parts.domain.toList :: parts.ports.map fun n ↦ (toString n).toList

def authority (parts : Parts) : List Char := [':'].intercalate parts.fields

def pathChars (parts : Parts) : List Char := (parts.path.getD "").toList

theorem toList_portsText_of_ne_nil (h : parts.ports ≠ []) :
    parts.portsText.toList = ':' :: (Port.shorthand parts.ports).toList := by
  have hcolon : ":".toList = [':'] := rfl
  rw [portsText, if_neg h, String.toList_append, hcolon, List.singleton_append]

theorem authority_eq_append (parts : Parts) :
    parts.authority = parts.domain.toList ++ parts.portsText.toList := by
  unfold authority fields
  cases hports : parts.ports with
  | nil => simp [portsText, hports]
  | cons n ns =>
    rw [toList_portsText_of_ne_nil (hports ▸ List.cons_ne_nil n ns), hports, Port.toList_shorthand,
      List.map_cons, List.intercalate_cons_cons, List.append_assoc]
    rfl

theorem toList_text (parts : Parts) :
    parts.text.toList = parts.schemeText.toList ++ (parts.authority ++ parts.pathChars) := by
  rw [text, String.toList_append, String.toList_append, String.toList_append, authority_eq_append]
  rfl

theorem ofList_pathChars (h : parts.Fit) :
    (if parts.pathChars = [] then "/" else String.ofList parts.pathChars) =
      parts.path.getD "/" := by
  unfold pathChars
  cases hpath : parts.path with
  | none => simp
  | some path =>
    have hslash := h.path path hpath
    have hne : path.toList ≠ [] := fun hnil ↦ by simp [hnil] at hslash
    rw [Option.getD_some, if_neg hne, String.ofList_toList, Option.getD_some]

theorem toLower_domain (parts : Parts) : lowerDomain parts.domain = parts.domain.toLower := by
  rw [← String.toList_inj, lowerDomain, String.toList_ofList]
  exact String.toList_map.symm

namespace Fit

theorem pathChars_eq_nil_or (h : parts.Fit) :
    parts.pathChars = [] ∨ parts.pathChars.head? = some '/' := by
  unfold pathChars
  cases hpath : parts.path with
  | none => exact .inl rfl
  | some path => exact .inr (h.path path hpath)

theorem isBlank_pathChars (h : parts.Fit) : ∀ c ∈ parts.pathChars, Text.isBlank c = false := by
  unfold pathChars
  cases hpath : parts.path with
  | none => exact nofun
  | some path => exact h.path_blank path hpath

theorem mem_fields (h : parts.Fit) {field : List Char} (hfield : field ∈ parts.fields) :
    field ≠ [] ∧ ∀ c ∈ field, IsPlain c := by
  rcases List.mem_cons.mp hfield with rfl | hnumber
  · exact ⟨by simpa using h.domain_ne_empty, h.domain⟩
  · obtain ⟨n, -, rfl⟩ := List.mem_map.mp hnumber
    have hdigits := Decimal.isDigits_toString n
    exact ⟨hdigits.ne_nil, fun c hc ↦ .inl (Bool.or_eq_true_iff.mpr (.inr (hdigits.isDigit c hc)))⟩

theorem mem_authority (h : parts.Fit) {c : Char} (hc : c ∈ parts.authority) :
    c = ':' ∨ IsPlain c :=
  (Text.eq_or_mem_of_mem_intercalate hc).imp_right fun ⟨_, hfield, hmem⟩ ↦
    (h.mem_fields hfield).2 c hmem

theorem slash_notMem_authority (h : parts.Fit) : '/' ∉ parts.authority :=
  fun hslash ↦ absurd (h.mem_authority hslash) (by decide)

theorem authority_ne_append_colon (h : parts.Fit) (front : List Char) :
    parts.authority ≠ front ++ [':'] := by
  intro hauthority
  have hcolon : ∀ field ∈ parts.fields, ':' ∉ field := fun field hfield hmem ↦
    absurd ((h.mem_fields hfield).2 ':' hmem) (by decide)
  have hfields : Text.splitAt ':' parts.authority = parts.fields :=
    Text.splitAt_intercalate hcolon (List.cons_ne_nil _ _)
  rw [hauthority, Text.splitAt_append_cons] at hfields
  have hnil : [] ∈ parts.fields := by
    rw [← hfields]
    exact List.mem_append_right _ (List.mem_singleton.mpr rfl)
  exact (h.mem_fields hnil).1 rfl

theorem isBlank_text (h : parts.Fit) : ∀ c ∈ parts.text.toList, Text.isBlank c = false := by
  intro c hc
  rw [toList_text, List.mem_append, List.mem_append] at hc
  rcases hc with hscheme | hauthority | hpath
  · unfold schemeText at hscheme
    cases hstrategy : parts.strategy with
    | none => simp [hstrategy] at hscheme
    | some strategy =>
      rw [hstrategy] at hscheme
      exact isBlank_of_mem_scheme strategy hscheme
  · rcases h.mem_authority hauthority with rfl | hplain
    · decide
    · exact hplain.isBlank_eq_false
  · exact h.isBlank_pathChars c hpath

theorem trim_text (h : parts.Fit) : Text.trim parts.text = parts.text :=
  Text.trim_eq_self (Text.isTrimmed_of_forall h.isBlank_text)

theorem domainAndPorts_authority (h : parts.Fit) :
    domainAndPorts parts.authority = (parts.domain, Port.shorthand parts.numbers) := by
  have hcolon : ':' ∉ parts.domain.toList := fun hmem ↦ absurd (h.domain ':' hmem) (by decide)
  unfold domainAndPorts numbers
  rw [authority_eq_append]
  by_cases hports : parts.ports = []
  · have hdefault : defaultPorts = Port.shorthand [80] := by decide
    have hempty : parts.portsText.toList = [] := by simp [portsText, hports]
    rw [if_pos hports, hempty, List.append_nil, Text.splitFirst?_of_notMem hcolon, hdefault]
    simp
  · rw [if_neg hports, toList_portsText_of_ne_nil hports, Text.splitFirst?_append_cons hcolon]
    simp

theorem checkParts_domain (h : parts.Fit) :
    checkParts parts.domain (parts.path.getD "/") = .ok () := by
  have hdomain : parts.domain.toList.all isDomainChar = true := by
    rw [List.all_eq_true]
    exact fun c hc ↦ isDomainChar_iff.mpr (h.domain c hc)
  have hpath : (parts.path.getD "/").toList.any Text.isBlank = false := by
    cases hpath : parts.path with
    | none => rfl
    | some path => simpa using h.path_blank path hpath
  have hne : parts.domain.isEmpty = false := by simpa using h.domain_ne_empty
  rw [checkParts, hne, hdomain, hpath]
  rfl

theorem exists_port (h : parts.Fit) :
    ∃ port, Port.ofFields (parts.numbers.map toString) = .ok port ∧
      Port.parse (Port.shorthand parts.numbers) = .ok port := by
  have hne : parts.numbers ≠ [] := by
    unfold numbers
    split
    · exact List.cons_ne_nil _ _
    · assumption
  have hnumbers : ∀ n ∈ parts.numbers, 0 < n ∧ n ≤ Port.limit := by
    unfold numbers
    split
    · decide
    · exact h.ports
  have hlength : (parts.numbers.map toString).length ≤ 3 := by
    unfold numbers
    split
    · decide
    · simpa using h.length_ports
  obtain ⟨port, hport⟩ :=
    (Port.exists_ofFields_eq_ok_iff (by simpa using hne)).mpr hlength
  exact ⟨port, hport, (Port.parse_shorthand hne hnumbers).trans hport⟩

/-- All but the strategy is read as it is written. -/
theorem readsAsWritten (h : parts.Fit)
    (hrest : strategyAndRest parts.text.toList =
      .ok (parts.strategy, parts.authority ++ parts.pathChars)) : parts.ReadsAsWritten := by
  obtain ⟨port, hport, hread⟩ := h.exists_port
  refine ⟨port, hport, ?_⟩
  have hauthority := authorityAndPath_append h.slash_notMem_authority h.pathChars_eq_nil_or
  rw [ofList_pathChars h] at hauthority
  unfold parse
  rw [h.trim_text, hrest]
  dsimp only [Except.mapError, bind, Except.bind]
  rw [hauthority]
  dsimp only
  rw [h.domainAndPorts_authority]
  dsimp only
  rw [h.checkParts_domain, hread, ← toLower_domain]
  rfl

/-! ### The strategy -/

theorem strategyAndRest_of_some {strategy : Strategy} (hstrategy : parts.strategy = some strategy) :
    strategyAndRest parts.text.toList =
      .ok (parts.strategy, parts.authority ++ parts.pathChars) := by
  have htext : parts.text.toList =
      strategy.name.toList ++ (schemeMark ++ (parts.authority ++ parts.pathChars)) := by
    rw [toList_text, schemeText, hstrategy, Option.elim_some, String.toList_append,
      List.append_assoc]
    rfl
  have hsplit : Text.splitFirstText? schemeMark parts.text.toList =
      some (strategy.name.toList, parts.authority ++ parts.pathChars) := by
    rw [htext]
    exact Text.splitFirstText?_append (colon_notMem_strategyName strategy) _
  rw [strategyAndRest_of_split hsplit, String.ofList_toList, strategyParse_name, hstrategy]
  rfl

theorem toList_text_of_none (hstrategy : parts.strategy = none) :
    parts.text.toList = parts.authority ++ parts.pathChars := by
  rw [toList_text, schemeText, hstrategy]
  rfl

theorem strategyAndRest_of_none (h : parts.Fit) (hstrategy : parts.strategy = none)
    (hpath : ¬schemeMark <:+: parts.pathChars) :
    strategyAndRest parts.text.toList =
      .ok (parts.strategy, parts.authority ++ parts.pathChars) := by
  have hmark : ¬schemeMark <:+: parts.authority ++ parts.pathChars :=
    mt (schemeMark_infix_append_iff h.slash_notMem_authority h.authority_ne_append_colon).mp hpath
  have hsplit := Text.splitFirstText?_eq_none_iff.mpr hmark
  rw [toList_text_of_none hstrategy, strategyAndRest_of_split_eq_none hsplit, hstrategy]

/-- What stands in front of a mark in the path is taken for a strategy. -/
theorem exists_unknown_of_mark (h : parts.Fit) (hstrategy : parts.strategy = none)
    (hpath : schemeMark <:+: parts.pathChars) :
    ∃ front, strategyAndRest parts.text.toList = .error ⟨front⟩ := by
  have hslash := h.slash_notMem_authority
  have hcolon := h.authority_ne_append_colon
  have hmark := (schemeMark_infix_append_iff hslash hcolon).mpr hpath
  obtain ⟨⟨before, after⟩, hsplit⟩ : ∃ parted, Text.splitFirstText? schemeMark
      (parts.authority ++ parts.pathChars) = some parted :=
    Option.ne_none_iff_exists'.mp (mt Text.splitFirstText?_eq_none_iff.mp (not_not.mpr hmark))
  obtain ⟨more, rfl, hmore⟩ := exists_of_append_eq_append_mark hslash hcolon
    (Text.eq_append_of_splitFirstText? hsplit)
  -- The path begins with a slash, so it does not begin with the mark.
  have hfirst : '/' ∈ more := by
    have hhead := h.pathChars_eq_nil_or
    rw [hmore] at hhead
    cases more with
    | nil => exact absurd hhead (by simp [schemeMark])
    | cons c more => simp_all
  refine ⟨String.ofList (parts.authority ++ more), ?_⟩
  rw [toList_text_of_none hstrategy, strategyAndRest_of_split hsplit,
    strategyParse_of_slash (List.mem_append_right _ hfirst)]
  rfl

end Fit

/-- A declaration is read as it is written unless its path has a mark and it names no strategy. -/
theorem readsAsWritten_iff (h : parts.Fit) :
    parts.ReadsAsWritten ↔ parts.strategy ≠ none ∨ ¬schemeMark <:+: parts.pathChars := by
  constructor
  · rintro ⟨port, -, hread⟩
    by_contra hunread
    obtain ⟨hstrategy, hpath⟩ := not_or.mp hunread
    obtain ⟨front, hfront⟩ := h.exists_unknown_of_mark (not_not.mp hstrategy) (not_not.mp hpath)
    unfold parse at hread
    rw [h.trim_text, hfront] at hread
    cases hread
  · intro hread
    apply h.readsAsWritten
    cases hstrategy : parts.strategy with
    | some strategy => exact hstrategy ▸ Fit.strategyAndRest_of_some hstrategy
    | none =>
      have hpath := hread.resolve_left (not_not.mpr hstrategy)
      exact hstrategy ▸ h.strategyAndRest_of_none hstrategy hpath

/-- A path that names another address, behind a domain without a strategy. -/
def redirect : Parts := ⟨none, "example.com", [], some "/go?to=https://other.org"⟩

theorem not_readsAsWritten_redirect :
    redirect.Fit ∧
      parse redirect.text = .error (.unknownStrategy ⟨"example.com/go?to=https"⟩) ∧
      ¬redirect.ReadsAsWritten := by
  have hdomain : redirect.domain.toList.all isDomainChar = true := by decide
  have hpath : redirect.pathChars.any Text.isBlank = false := by decide
  have hfit : redirect.Fit := by
    refine ⟨by decide, ?_, by decide, nofun, ?_, ?_⟩
    · exact fun c hc ↦ isDomainChar_iff.mp (List.all_eq_true.mp hdomain c hc)
    · rintro path ⟨⟩
      decide
    · rintro path ⟨⟩ c hc
      simpa using List.any_eq_false.mp hpath c hc
  refine ⟨hfit, by decide +kernel, fun hread ↦ ?_⟩
  rcases (readsAsWritten_iff hfit).mp hread with hstrategy | hpath
  · exact hstrategy rfl
  · exact hpath (by decide)

end Parts

end ClusterPlan.Proxy.Declaration
