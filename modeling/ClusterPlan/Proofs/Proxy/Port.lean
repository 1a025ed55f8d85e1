import ClusterPlan.Proofs.Decimal
import ClusterPlan.Proofs.Except
import ClusterPlan.Proxy.Port

/-!
# Ports that are read

The numbers of a port that is read from a text are port numbers in plain decimal digits, so that
two of them are the same text exactly when they are the same number. Such a port always names the
port of the proxy, and where it is direct it binds no other one.
-/

namespace ClusterPlan.Proxy.Port

/-! ### Numbers -/

/-- The decimal text of a port number, with no zeros in front. -/
def IsNumber (text : String) : Prop := ∃ n, 0 < n ∧ n ≤ limit ∧ text = toString n

theorem isNumber_of_number? {field : List Char} {text : String} (h : number? field = some text) :
    IsNumber text := by
  obtain ⟨n, hn, rfl⟩ := Option.map_eq_some_iff.mp h
  obtain ⟨hread, hpos⟩ := Option.filter_eq_some_iff.mp hn
  obtain ⟨-, hlimit⟩ := Option.filter_eq_some_iff.mp hread
  exact ⟨n, by simpa using hpos, by simpa using hlimit, rfl⟩

theorem isNumber_of_mem_numbers {fields : List (List Char)} {texts : List String}
    (h : numbers fields = .ok texts) : ∀ text ∈ texts, IsNumber text := by
  induction fields generalizing texts with
  | nil =>
    obtain rfl := Except.ok.inj h
    simp
  | cons field rest ih =>
    rw [numbers] at h
    split at h
    next => exact absurd h (by simp)
    next hfirst =>
      obtain ⟨others, hrest, rfl⟩ := Except.map_eq_ok_iff.mp h
      rintro text (_ | ⟨_, htext⟩)
      · exact isNumber_of_number? hfirst
      · exact ih hrest text htext

theorem isNumber_of_fields {written : String} {texts : List String}
    (h : fields written = .ok texts) : ∀ text ∈ texts, IsNumber text := by
  unfold fields at h
  dsimp only at h
  split at h
  next => exact absurd h (by simp)
  next => exact isNumber_of_mem_numbers h

theorem IsNumber.exists_read {text : String} (h : IsNumber text) :
    ∃ n, 0 < n ∧ n ≤ limit ∧ Decimal.readBounded? limit text.toList = some n := by
  obtain ⟨n, hpos, hlimit, rfl⟩ := h
  exact ⟨n, hpos, hlimit, Decimal.readBounded?_toString hlimit⟩

theorem IsNumber.eq_of_read {a b : String} (ha : IsNumber a) (hb : IsNumber b)
    (h : Decimal.readBounded? limit a.toList = Decimal.readBounded? limit b.toList) : a = b := by
  obtain ⟨m, -, hm, rfl⟩ := ha
  obtain ⟨n, -, hn, rfl⟩ := hb
  rw [Decimal.readBounded?_toString hm, Decimal.readBounded?_toString hn] at h
  rw [Option.some.inj h]

theorem IsNumber.isDigit {text : String} (h : IsNumber text) : ∀ c ∈ text.toList, c.isDigit := by
  obtain ⟨n, -, -, rfl⟩ := h
  rw [Nat.toString_eq_repr, Nat.toList_repr]
  exact fun c hc ↦ Nat.isDigit_of_mem_toDigits (by decide) (by decide) hc

/-! ### Ports -/

/-- A proxied port is not direct, so that only its host port can be bound on the server. -/
theorem bound?_of_isProxied {p : Port} (h : p.isProxied = true) : p.bound? = p.host := by
  have hdirect : p.direct = false := by
    simpa using (Bool.and_eq_true_iff.mp h).2
  rw [bound?, hdirect, if_neg Bool.false_ne_true]

/-- What holds of every port that is read from a text, whatever routes are added to it. -/
structure IsRead (p : Port) : Prop where
  proxyPort : ∃ text, p.proxyPort = some text ∧ IsNumber text
  host : ∀ text, p.host = some text → IsNumber text
  container : IsNumber p.container
  host_of_direct : p.direct = true → p.host = none

theorem isRead_of_ofFields {texts : List String} {p : Port} (h : ofFields texts = .ok p)
    (htexts : ∀ text ∈ texts, IsNumber text) : p.IsRead := by
  unfold ofFields at h
  split at h
  next port =>
    obtain rfl := Except.ok.inj h
    have hport : IsNumber port := htexts port (by simp)
    exact ⟨⟨port, rfl, hport⟩, by simp, hport, by simp⟩
  next proxy container =>
    obtain rfl := Except.ok.inj h
    exact ⟨⟨proxy, rfl, htexts proxy (by simp)⟩, by simp, htexts container (by simp), by simp⟩
  next proxy host container =>
    have hproxy : IsNumber proxy := htexts proxy (by simp)
    have hcontainer : IsNumber container := htexts container (by simp)
    split at h
    next =>
      obtain rfl := Except.ok.inj h
      exact ⟨⟨proxy, rfl, hproxy⟩, by simp, hcontainer, by simp⟩
    next =>
      obtain rfl := Except.ok.inj h
      refine ⟨⟨proxy, rfl, hproxy⟩, ?_, hcontainer, by simp⟩
      intro text htext
      obtain rfl := Option.some.inj htext
      exact htexts host (by simp)
  next => exact absurd h (by simp)

theorem isRead_of_parse {written : String} {p : Port} (h : parse written = .ok p) : p.IsRead := by
  unfold parse at h
  split at h
  next texts htexts => exact isRead_of_ofFields h (isNumber_of_fields htexts)
  next => exact absurd h (by simp)

theorem IsRead.isNumber_bound {p : Port} (h : p.IsRead) {text : String}
    (hbound : p.bound? = some text) : IsNumber text := by
  unfold bound? at hbound
  split at hbound
  next =>
    obtain ⟨proxy, hproxy, hnumber⟩ := h.proxyPort
    rw [hproxy] at hbound
    exact Option.some.inj hbound ▸ hnumber
  next => exact h.host text hbound

end ClusterPlan.Proxy.Port
