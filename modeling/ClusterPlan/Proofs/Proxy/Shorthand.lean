import ClusterPlan.Proofs.Proxy.Port
import ClusterPlan.Proofs.Sequence
import ClusterPlan.Proofs.Text.Parts

/-!
# The short notation of ports

A port is written as one to three numbers between colons. Each of them may have zeros and a plus in
front, and blanks may stand around the whole. Nothing else is read as a port.

The text of a port that was read has two or three numbers, without zeros and plus, and it is read as
the same port again. For this it does not matter that one number and two equal ones are the same
port, and that a host port is forgotten when it is the port of the proxy: the text of a direct port
has that number twice.
-/

namespace ClusterPlan.Proxy.Port

/-- The port number that is written between two colons. -/
structure IsField (field : List Char) (n : Nat) : Prop where
  writes : Decimal.Writes field n
  pos : 0 < n
  le_limit : n ≤ limit

/-- The text consists of fields between colons, which write these numbers. -/
def Lists (cs : List Char) (ns : List Nat) : Prop :=
  ∃ fields, fields ≠ [] ∧ cs = [':'].intercalate fields ∧ List.Forall₂ IsField fields ns

structure IsShorthand (cs : List Char) (ns : List Nat) : Prop where
  lists : Lists cs ns
  length_le : ns.length ≤ 3

/-! ### Fields -/

section Fields

variable {field : List Char} {n : Nat} {fieldTexts : List (List Char)} {texts : List String}

theorem IsField.eq_plus_or_isDigit (h : IsField field n) : ∀ c ∈ field, c = '+' ∨ c.isDigit := by
  obtain ⟨digits, hdigits, rfl | rfl, -⟩ := h.writes
  · exact fun c hc ↦ .inr (hdigits.isDigit c hc)
  · exact List.forall_mem_cons.mpr ⟨.inl rfl, fun c hc ↦ .inr (hdigits.isDigit c hc)⟩

theorem IsField.colon_notMem (h : IsField field n) : ':' ∉ field :=
  fun hcolon ↦ absurd (h.eq_plus_or_isDigit ':' hcolon) (by decide)

theorem isField_toString (hpos : 0 < n) (hlimit : n ≤ limit) : IsField (toString n).toList n :=
  ⟨Decimal.writes_toString n, hpos, hlimit⟩

theorem number?_eq_some_iff {text : String} :
    number? field = some text ↔ ∃ n, IsField field n ∧ toString n = text := by
  unfold number?
  rw [Option.map_eq_some_iff]
  refine exists_congr fun n ↦ and_congr_left fun _ ↦ ?_
  rw [Option.filter_eq_some_iff, Decimal.readBounded?_eq_some_iff, decide_eq_true_iff]
  exact ⟨fun h ↦ ⟨h.1.1, h.2, h.1.2⟩, fun h ↦ ⟨⟨h.writes, h.le_limit⟩, h.pos⟩⟩

theorem numbers_eq_ok_iff :
    numbers fieldTexts = .ok texts ↔
      ∃ ns, List.Forall₂ IsField fieldTexts ns ∧ ns.map toString = texts := by
  induction fieldTexts generalizing texts with
  | nil => simp [numbers, List.forall₂_nil_left_iff, eq_comm]
  | cons field rest ih =>
    rw [numbers]
    constructor
    · intro h
      split at h
      next => cases h
      next first hfirst =>
        obtain ⟨n, hn, rfl⟩ := number?_eq_some_iff.mp hfirst
        obtain ⟨others, hothers, rfl⟩ := Except.map_eq_ok_iff.mp h
        obtain ⟨ns, hns, rfl⟩ := ih.mp hothers
        exact ⟨n :: ns, .cons hn hns, rfl⟩
    · rintro ⟨_, _ | ⟨hn, hns⟩, rfl⟩
      rw [number?_eq_some_iff.mpr ⟨_, hn, rfl⟩, ih.mpr ⟨_, hns, rfl⟩]
      rfl

theorem lists_iff {cs : List Char} {ns : List Nat} :
    Lists cs ns ↔ List.Forall₂ IsField (Text.splitAt ':' cs) ns := by
  constructor
  · rintro ⟨fields, hne, rfl, hfields⟩
    rwa [Text.splitAt_intercalate _ hne]
    intro field hfield
    obtain ⟨n, -, hn⟩ := exists_right_of_forall₂ hfields hfield
    exact hn.colon_notMem
  · exact fun h ↦ ⟨_, Text.splitAt_ne_nil cs, (Text.intercalate_splitAt cs).symm, h⟩

theorem fields_eq_ok_iff {written : String} :
    fields written = .ok texts ↔
      ∃ ns, Lists (Text.trim written).toList ns ∧ ns.map toString = texts := by
  simp only [lists_iff, ← numbers_eq_ok_iff]
  unfold fields
  dsimp only
  split
  next hempty =>
    -- An empty text is a single field, which writes no number.
    obtain hnil : (Text.trim written).toList = [] := by simpa using hempty
    rw [hnil]
    exact iff_of_false nofun nofun
  next => rfl

end Fields

/-! ### Ports -/

section Ports

variable {written : String} {ns : List Nat} {p : Port}

/-- The only fields that are compared: with the same number twice the port is direct. -/
theorem ofFields_triple (proxy host container : String) :
    ofFields [proxy, host, container] =
      if host = proxy then .ok ⟨some proxy, none, container, true, []⟩
      else .ok ⟨some proxy, some host, container, false, []⟩ := rfl

theorem exists_ofFields_eq_ok_iff {texts : List String} (hne : texts ≠ []) :
    (∃ p, ofFields texts = .ok p) ↔ texts.length ≤ 3 := by
  match texts with
  | [] => exact absurd rfl hne
  | [port] => exact iff_of_true ⟨_, rfl⟩ (by simp)
  | [proxy, container] => exact iff_of_true ⟨_, rfl⟩ (by simp)
  | [proxy, host, container] =>
    rw [ofFields_triple]
    exact iff_of_true (by split <;> exact ⟨_, rfl⟩) (by simp)
  | _ :: _ :: _ :: _ :: _ => exact iff_of_false (by rintro ⟨_, ⟨⟩⟩) (by simp)

theorem Lists.ne_nil {cs : List Char} (h : Lists cs ns) : ns ≠ [] := by
  obtain ⟨fields, hne, -, hfields⟩ := h
  rintro rfl
  exact hne (List.forall₂_nil_right_iff.mp hfields)

/-- A port is read from its numbers, however they are written. -/
theorem parse_eq_ok_iff :
    parse written = .ok p ↔
      ∃ ns, IsShorthand (Text.trim written).toList ns ∧ ofFields (ns.map toString) = .ok p := by
  unfold parse
  constructor
  · intro h
    split at h
    next texts htexts =>
      obtain ⟨ns, hlists, rfl⟩ := fields_eq_ok_iff.mp htexts
      have hne : ns.map toString ≠ [] := by simpa using hlists.ne_nil
      have hlength := (exists_ofFields_eq_ok_iff hne).mp ⟨p, h⟩
      exact ⟨ns, ⟨hlists, by simpa using hlength⟩, h⟩
    next => cases h
  · rintro ⟨ns, hshorthand, hp⟩
    rw [fields_eq_ok_iff.mpr ⟨ns, hshorthand.lists, rfl⟩]
    exact hp

theorem exists_parse_eq_ok_iff :
    (∃ p, parse written = .ok p) ↔ ∃ ns, IsShorthand (Text.trim written).toList ns := by
  simp only [parse_eq_ok_iff]
  constructor
  · rintro ⟨p, ns, hshorthand, -⟩
    exact ⟨ns, hshorthand⟩
  · rintro ⟨ns, hshorthand⟩
    have hne : ns.map toString ≠ [] := by simpa using hshorthand.lists.ne_nil
    obtain ⟨p, hp⟩ := (exists_ofFields_eq_ok_iff hne).mpr (by simpa using hshorthand.length_le)
    exact ⟨p, ns, hshorthand, hp⟩

/-! ### Texts of ports -/

/-- Numbers between colons, as a port is written out. -/
def shorthand (ns : List Nat) : String := ":".intercalate (ns.map toString)

theorem toList_shorthand (ns : List Nat) :
    (shorthand ns).toList = [':'].intercalate (ns.map fun n ↦ (toString n).toList) := by
  have hcolon : ":".toList = [':'] := rfl
  rw [shorthand, String.toList_intercalate, hcolon, List.map_map]
  rfl

/-- There is no blank among numbers and colons. -/
theorem isBlank_of_mem_shorthand {c : Char} (h : c ∈ (shorthand ns).toList) :
    Text.isBlank c = false := by
  rw [toList_shorthand] at h
  rcases Text.eq_or_mem_of_mem_intercalate h with rfl | ⟨digits, hdigits, hc⟩
  · decide
  · obtain ⟨n, -, rfl⟩ := List.mem_map.mp hdigits
    exact Text.isBlank_of_isDigit ((Decimal.isDigits_toString n).isDigit c hc)

theorem lists_shorthand (hne : ns ≠ []) (h : ∀ n ∈ ns, 0 < n ∧ n ≤ limit) :
    Lists (shorthand ns).toList ns := by
  refine ⟨_, by simpa using hne, toList_shorthand ns, ?_⟩
  rw [List.forall₂_map_left_iff, List.forall₂_same]
  exact fun n hn ↦ isField_toString (h n hn).1 (h n hn).2

theorem parse_shorthand (hne : ns ≠ []) (h : ∀ n ∈ ns, 0 < n ∧ n ≤ limit) :
    parse (shorthand ns) = ofFields (ns.map toString) := by
  have htrim : Text.trim (shorthand ns) = shorthand ns :=
    Text.trim_eq_self (Text.isTrimmed_of_forall fun c ↦ isBlank_of_mem_shorthand)
  have hfields : fields (shorthand ns) = .ok (ns.map toString) :=
    fields_eq_ok_iff.mpr ⟨ns, htrim.symm ▸ lists_shorthand hne h, rfl⟩
  rw [parse, hfields]

/-- The numbers in the text of a port, and that they make the same port. -/
theorem exists_text_eq_shorthand (h : ofFields (ns.map toString) = .ok p) :
    ∃ ms, p.text = shorthand ms ∧ ofFields (ms.map toString) = .ok p ∧ ms ≠ [] ∧ ms ⊆ ns := by
  match ns with
  | [] => cases h
  | [n] =>
    cases h
    exact ⟨[n, n], rfl, rfl, by simp, by simp⟩
  | [proxy, container] =>
    exact ⟨[proxy, container], by cases h; rfl, h, by simp, by simp⟩
  | [proxy, host, container] =>
    refine ⟨[proxy, host, container], ?_, h, by simp, by simp⟩
    change ofFields [toString proxy, toString host, toString container] = .ok p at h
    rw [ofFields_triple] at h
    split at h
    next hdirect =>
      cases h
      change _ = toString proxy ++ ":" ++ toString host ++ ":" ++ toString container
      rw [hdirect]
      rfl
    next =>
      cases h
      rfl
  | _ :: _ :: _ :: _ :: _ => cases h

theorem parse_text_of_parse_eq_ok (h : parse written = .ok p) : parse p.text = .ok p := by
  obtain ⟨ns, hshorthand, hp⟩ := parse_eq_ok_iff.mp h
  obtain ⟨ms, htext, hms, hne, hsubset⟩ := exists_text_eq_shorthand hp
  rw [htext, parse_shorthand hne, hms]
  intro m hm
  obtain ⟨fields, -, -, hfields⟩ := hshorthand.lists
  obtain ⟨field, -, hfield⟩ := exists_left_of_forall₂ hfields (hsubset hm)
  exact ⟨hfield.pos, hfield.le_limit⟩

end Ports

/-- Exactly the short notation is read, each port has its numbers, and its text is read as the same
port again, which is bound and proxied as before. -/
structure ReadsShorthand (written : String) : Prop where
  accepted : (∃ p, parse written = .ok p) ↔ ∃ ns, IsShorthand (Text.trim written).toList ns
  numbered : ∀ p, parse written = .ok p →
    ∃ ns, IsShorthand (Text.trim written).toList ns ∧ ofFields (ns.map toString) = .ok p
  again : ∀ p, parse written = .ok p →
    (parse p.text).map (fun q ↦ (q, q.bound?, q.isProxied)) = .ok (p, p.bound?, p.isProxied)

theorem readsShorthand_parse (written : String) : ReadsShorthand written where
  accepted := exists_parse_eq_ok_iff
  numbered _ hp := parse_eq_ok_iff.mp hp
  again p hp := by
    rw [parse_text_of_parse_eq_ok hp]
    rfl

/-- A direct port, with blanks, a plus and zeros. -/
example : parse "\t+080:80:08080 " = .ok ⟨some "80", none, "8080", true, []⟩ := by decide +kernel

end ClusterPlan.Proxy.Port
