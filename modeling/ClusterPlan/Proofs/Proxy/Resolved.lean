import ClusterPlan.Proofs.Except
import ClusterPlan.Proofs.Proxy.Port
import ClusterPlan.Proxy.Resolved
import Mathlib.Data.List.Nodup

/-!
# Declared ports that are kept

What is read of an image leaves the ports that are there already as they are, but for their routes,
and puts ports of new keys behind them. So the first declared port of a key is kept, whatever
proxies and other ports are read after it.

A later port of the same key is taken for the same port. The key does not tell a direct port from
a proxied one, though, and where only the first is kept the other one is lost: no declared port is
lost exactly when no two of them have the same key and differ in whether they are direct.
-/

namespace ClusterPlan.Proxy

/-! ### Ports without their routes -/

namespace Port

def bare (p : Port) : Port := { p with routes := [] }

theorem bare_eq_iff {p q : Port} : p.bare = q.bare ↔ p.key = q.key ∧ p.direct = q.direct := by
  simp only [bare, key, mk.injEq, Prod.mk.injEq, and_true]
  tauto

theorem key_eq_of_bare_eq {p q : Port} (h : p.bare = q.bare) : p.key = q.key :=
  (bare_eq_iff.mp h).1

theorem isRead_bare_iff {p : Port} : p.bare.IsRead ↔ p.IsRead :=
  ⟨fun ⟨h₁, h₂, h₃, h₄⟩ ↦ ⟨h₁, h₂, h₃, h₄⟩, fun ⟨h₁, h₂, h₃, h₄⟩ ↦ ⟨h₁, h₂, h₃, h₄⟩⟩

/-- The same container port, reached in the same way. -/
structure SamePublication (p q : Port) : Prop where
  proxyPort : p.proxyPort = q.proxyPort
  bound : p.bound? = q.bound?
  container : p.container = q.container
  direct : p.direct = q.direct

theorem samePublication_iff {p q : Port} (hp : p.IsRead) (hq : q.IsRead) :
    p.SamePublication q ↔ p.key = q.key ∧ p.direct = q.direct := by
  constructor
  · rintro ⟨hproxy, hbound, hcontainer, hdirect⟩
    have hhost : p.host = q.host := by
      cases hflag : p.direct with
      | true => rw [hp.host_of_direct hflag, hq.host_of_direct (hdirect ▸ hflag)]
      | false => simpa [bound?, hflag, hdirect ▸ hflag] using hbound
    exact ⟨by rw [key, key, hproxy, hhost, hcontainer], hdirect⟩
  · rintro ⟨hkey, hdirect⟩
    obtain ⟨hproxy, hrest⟩ := Prod.mk.inj hkey
    obtain ⟨hhost, hcontainer⟩ := Prod.mk.inj hrest
    exact ⟨hproxy, by rw [bound?, bound?, hproxy, hhost, hdirect], hcontainer, hdirect⟩

end Port

abbrev bares (ports : List Port) : List Port := ports.map Port.bare

abbrev keys (ports : List Port) : List (Option String × Option String × String) :=
  ports.map Port.key

@[simp]
theorem bares_cons (p : Port) (rest : List Port) : bares (p :: rest) = p.bare :: bares rest := rfl

theorem keys_bares (ports : List Port) : keys (bares ports) = keys ports :=
  List.map_map

theorem keys_eq_of_bares_eq {ports ports' : List Port} (h : bares ports = bares ports') :
    keys ports = keys ports' := by
  rw [← keys_bares, h, keys_bares]

/-! ### Ports that are read one after another -/

/-- What reading on makes of the ports at hand. -/
structure Extends (out out' : List Port) : Prop where
  bares : ∃ new, bares out' = bares out ++ new ∧ ∀ p ∈ new, p.IsRead
  nodup : (keys out).Nodup → (keys out').Nodup

theorem Extends.of_bares_eq {out out' : List Port} (h : Proxy.bares out' = Proxy.bares out) :
    Extends out out' where
  bares := ⟨[], by rw [h, List.append_nil], by simp⟩
  nodup hout := by rwa [keys_eq_of_bares_eq h]

theorem Extends.of_append {out out' : List Port} {port : Port} (hport : port.IsRead)
    (hfresh : port.key ∉ keys out) (h : Proxy.bares out' = Proxy.bares out ++ [port.bare]) :
    Extends out out' where
  bares := by
    refine ⟨[port.bare], h, fun p hp ↦ ?_⟩
    obtain rfl := List.mem_singleton.mp hp
    exact Port.isRead_bare_iff.mpr hport
  nodup hout := by
    have hkeys : keys out' = keys out ++ [port.key] := by
      rw [← keys_bares out', h, ← keys_bares out]
      exact List.map_append
    rw [hkeys]
    exact List.concat_eq_append ▸ hout.concat hfresh

theorem Extends.trans {a b c : List Port} (hab : Extends a b) (hbc : Extends b c) :
    Extends a c where
  bares := by
    obtain ⟨first, hfirst, hreadfirst⟩ := hab.bares
    obtain ⟨second, hsecond, hreadsecond⟩ := hbc.bares
    refine ⟨first ++ second, by rw [hsecond, hfirst, List.append_assoc], fun p hp ↦ ?_⟩
    rcases List.mem_append.mp hp with hp | hp
    · exact hreadfirst p hp
    · exact hreadsecond p hp
  nodup ha := hbc.nodup (hab.nodup ha)

theorem Extends.exists_mem {out out' : List Port} (h : Extends out out') {p : Port} (hp : p ∈ out) :
    ∃ o ∈ out', o.bare = p.bare := by
  obtain ⟨new, hnew, -⟩ := h.bares
  have hbare : p.bare ∈ Proxy.bares out' := by
    rw [hnew]
    exact List.mem_append_left new (List.mem_map_of_mem hp)
  exact List.mem_map.mp hbare

theorem Extends.isRead {out : List Port} (h : Extends [] out) : ∀ p ∈ out, p.IsRead := by
  obtain ⟨new, hnew, hread⟩ := h.bares
  intro p hp
  apply Port.isRead_bare_iff.mp
  apply hread
  have hbare : p.bare ∈ Proxy.bares out := List.mem_map_of_mem hp
  rwa [hnew] at hbare

/-! ### Adding ports -/

theorem bares_addPort_of_mem {port : Port} {out : List Port} (h : port.key ∈ keys out) :
    bares (addPort port out) = bares out := by
  induction out with
  | nil => exact absurd h (by simp)
  | cons p rest ih =>
    rw [addPort]
    split
    next => rfl
    next hother =>
      have hrest : port.key ∈ keys rest :=
        (List.mem_cons.mp h).resolve_left fun hsame ↦ hother hsame.symm
      rw [bares_cons, bares_cons, ih hrest]

theorem bares_addPort_of_notMem {port : Port} {out : List Port} (h : port.key ∉ keys out) :
    bares (addPort port out) = bares out ++ [port.bare] := by
  induction out with
  | nil => rfl
  | cons p rest ih =>
    have hrest : port.key ∉ keys rest := fun hrest ↦ h (List.mem_cons_of_mem _ hrest)
    have hother : p.key ≠ port.key := fun hsame ↦ h (List.mem_cons.mpr (.inl hsame.symm))
    rw [addPort, if_neg hother, bares_cons, bares_cons, ih hrest, List.cons_append]

theorem extends_addPort {port : Port} (hport : port.IsRead) (out : List Port) :
    Extends out (addPort port out) := by
  by_cases hkey : port.key ∈ keys out
  · exact .of_bares_eq (bares_addPort_of_mem hkey)
  · exact .of_append hport hkey (bares_addPort_of_notMem hkey)

theorem key_mem_keys_addPort (port : Port) (out : List Port) :
    port.key ∈ keys (addPort port out) := by
  by_cases hkey : port.key ∈ keys out
  · rwa [keys_eq_of_bares_eq (bares_addPort_of_mem hkey)]
  · rw [← keys_bares, bares_addPort_of_notMem hkey]
    simp [Port.key, Port.bare]

theorem bare_of_mem_addPort {port : Port} {out : List Port} {o : Port} (ho : o ∈ addPort port out) :
    o.bare ∈ bares out ∨ o.bare = port.bare := by
  have hbare : o.bare ∈ bares (addPort port out) := List.mem_map_of_mem ho
  by_cases hkey : port.key ∈ keys out
  · rw [bares_addPort_of_mem hkey] at hbare
    exact .inl hbare
  · rw [bares_addPort_of_notMem hkey] at hbare
    simpa using hbare

/-! ### Declared ports -/

theorem addWritten_cons_eq_ok {out out' : List Port} {written : String} {rest : List String}
    (h : addWritten out (written :: rest) = .ok out') :
    ∃ port, Port.parse written = .ok port ∧ addWritten (addPort port out) rest = .ok out' := by
  rw [addWritten] at h
  split at h
  next port hport => exact ⟨port, hport, h⟩
  next => exact absurd h (by simp)

theorem extends_of_addWritten {out out' : List Port} {texts : List String}
    (h : addWritten out texts = .ok out') : Extends out out' := by
  induction texts generalizing out with
  | nil =>
    obtain rfl := Except.ok.inj h
    exact .of_bares_eq rfl
  | cons written rest ih =>
    obtain ⟨port, hport, hrest⟩ := addWritten_cons_eq_ok h
    exact (extends_addPort (Port.isRead_of_parse hport) out).trans (ih hrest)

theorem exists_key_of_addWritten {out out' : List Port} {texts : List String}
    (h : addWritten out texts = .ok out') {written : String} (hwritten : written ∈ texts) :
    ∃ port, Port.parse written = .ok port ∧ port.key ∈ keys out' := by
  induction texts generalizing out with
  | nil => exact absurd hwritten (by simp)
  | cons first rest ih =>
    obtain ⟨port, hport, hrest⟩ := addWritten_cons_eq_ok h
    rcases List.mem_cons.mp hwritten with rfl | hwritten
    · -- What is read after the port leaves its key where it is.
      refine ⟨port, hport, ?_⟩
      obtain ⟨p, hp, hkey⟩ := List.mem_map.mp (key_mem_keys_addPort port out)
      obtain ⟨o, ho, hbare⟩ := (extends_of_addWritten hrest).exists_mem hp
      exact List.mem_map.mpr ⟨o, ho, (Port.key_eq_of_bare_eq hbare).trans hkey⟩
    · exact ih hrest hwritten

theorem exists_parse_of_addWritten {out out' : List Port} {texts : List String}
    (h : addWritten out texts = .ok out') {o : Port} (ho : o ∈ out') :
    o.bare ∈ bares out ∨ ∃ written ∈ texts, ∃ port, Port.parse written = .ok port ∧
      o.bare = port.bare := by
  induction texts generalizing out with
  | nil =>
    obtain rfl := Except.ok.inj h
    exact .inl (List.mem_map_of_mem ho)
  | cons first rest ih =>
    obtain ⟨port, hport, hrest⟩ := addWritten_cons_eq_ok h
    rcases ih hrest with hout | ⟨written, hwritten, hparse⟩
    · obtain ⟨p, hp, hbare⟩ := List.mem_map.mp hout
      rcases bare_of_mem_addPort hp with hp | hp
      · exact .inl (hbare ▸ hp)
      · exact .inr ⟨first, by simp, port, hport, hbare.symm.trans hp⟩
    · exact .inr ⟨written, List.mem_cons_of_mem first hwritten, hparse⟩

/-! ### Proxies -/

theorem isRead_of_parse_declaration {written : String} {d : Declaration}
    (h : Declaration.parse written = .ok d) : d.port.IsRead := by
  unfold Declaration.parse at h
  obtain ⟨⟨strategy, rest⟩, -, h⟩ := Except.bind_eq_ok_iff.mp h
  obtain ⟨⟨⟩, -, h⟩ := Except.bind_eq_ok_iff.mp h
  obtain ⟨port, hport, h⟩ := Except.bind_eq_ok_iff.mp h
  obtain rfl := Except.ok.inj h
  exact Port.isRead_of_parse (Except.mapError_eq_ok_iff.mp hport)

/-- A route is added to a port, and nothing else happens; or no port has the container port. -/
theorem attachRoute_cases {d : Declaration} {out : List Port} {found : Option (List Port)}
    (h : attachRoute d out = .ok found) :
    (∃ out', found = some out' ∧ bares out' = bares out) ∨
      found = none ∧ ∀ p ∈ out, p.container ≠ d.port.container := by
  induction out generalizing found with
  | nil => exact .inr ⟨(Except.ok.inj h).symm, by simp⟩
  | cons p rest ih =>
    rw [attachRoute] at h
    split at h
    next =>
      split at h
      next => exact .inl ⟨_, (Except.ok.inj h).symm, rfl⟩
      next => exact absurd h (by simp)
    next hother =>
      obtain ⟨found, hfound, rfl⟩ := Except.map_eq_ok_iff.mp h
      rcases ih hfound with ⟨out', rfl, hbares⟩ | ⟨rfl, hnone⟩
      · exact .inl ⟨p :: out', rfl, by rw [bares_cons, bares_cons, hbares]⟩
      · refine .inr ⟨rfl, ?_⟩
        rintro q (_ | ⟨_, hq⟩)
        · exact hother
        · exact hnone q hq

theorem extends_of_attach {d : Declaration} {out out' : List Port} (hd : d.port.IsRead)
    (h : attach d out = .ok out') : Extends out out' := by
  obtain ⟨found, hfound, rfl⟩ := Except.map_eq_ok_iff.mp h
  rcases attachRoute_cases hfound with ⟨out', rfl, hbares⟩ | ⟨rfl, -⟩
  · exact .of_bares_eq hbares
  · have hport : d.toPort.IsRead := ⟨hd.proxyPort, hd.host, hd.container, hd.host_of_direct⟩
    exact extends_addPort hport out

theorem attachWritten_cons_eq_ok {out out' : List Port} {written : String} {rest : List String}
    (h : attachWritten out (written :: rest) = .ok out') :
    ∃ d mid, Declaration.parse written = .ok d ∧ attach d out = .ok mid ∧
      attachWritten mid rest = .ok out' := by
  rw [attachWritten] at h
  split at h
  next mid hmid =>
    obtain ⟨d, hd, hattach⟩ := Except.bind_eq_ok_iff.mp hmid
    exact ⟨d, mid, hd, hattach, h⟩
  next => exact absurd h (by simp)

theorem extends_of_attachWritten {out out' : List Port} {texts : List String}
    (h : attachWritten out texts = .ok out') : Extends out out' := by
  induction texts generalizing out with
  | nil =>
    obtain rfl := Except.ok.inj h
    exact .of_bares_eq rfl
  | cons written rest ih =>
    obtain ⟨d, mid, hd, hattach, hrest⟩ := attachWritten_cons_eq_ok h
    exact (extends_of_attach (isRead_of_parse_declaration hd) hattach).trans (ih hrest)

/-! ### The ports of an image -/

section ResolvePorts

variable {image : String} {ports proxies exposed : List String} {out : List Port}

theorem resolvePorts_eq_ok (h : resolvePorts image ports proxies exposed = .ok out) :
    ∃ declared proxied, addWritten [] ports = .ok declared ∧
      attachWritten declared proxies = .ok proxied ∧ out ≠ [] ∧
      (if needsInspection ports proxies then addWritten proxied exposed else .ok proxied) =
        .ok out := by
  unfold resolvePorts at h
  obtain ⟨declared, hdeclared, h⟩ := Except.bind_eq_ok_iff.mp h
  obtain ⟨proxied, hproxied, h⟩ := Except.bind_eq_ok_iff.mp h
  have hsome {all : List Port}
      (hall : (if all.isEmpty then .error (.noPorts image) else return all) =
        (.ok out : Except PortError (List Port))) : all = out ∧ out ≠ [] := by
    split at hall
    next => exact absurd hall (by simp)
    next hne =>
      obtain rfl := Except.ok.inj hall
      exact ⟨rfl, by simpa using hne⟩
  refine ⟨declared, proxied, hdeclared, hproxied, ?_⟩
  dsimp only at h
  split at h
  next hinspect =>
    obtain ⟨all, hall, h⟩ := Except.bind_eq_ok_iff.mp h
    obtain ⟨rfl, hne⟩ := hsome h
    exact ⟨hne, by rw [if_pos hinspect, hall]⟩
  next hinspect =>
    obtain ⟨rfl, hne⟩ := hsome h
    exact ⟨hne, by rw [if_neg hinspect]⟩

/-- The declared ports come first, and nothing of them is changed later but their routes. -/
theorem exists_declared (h : resolvePorts image ports proxies exposed = .ok out) :
    ∃ declared, addWritten [] ports = .ok declared ∧ Extends declared out := by
  obtain ⟨declared, proxied, hdeclared, hproxied, -, hall⟩ := resolvePorts_eq_ok h
  refine ⟨declared, hdeclared, (extends_of_attachWritten hproxied).trans ?_⟩
  split at hall
  next => exact extends_of_addWritten hall
  next =>
    obtain rfl := Except.ok.inj hall
    exact .of_bares_eq rfl

theorem extends_nil_of_resolvePorts (h : resolvePorts image ports proxies exposed = .ok out) :
    Extends [] out := by
  obtain ⟨declared, hdeclared, hout⟩ := exists_declared h
  exact (extends_of_addWritten hdeclared).trans hout

theorem isRead_of_mem_resolvePorts (h : resolvePorts image ports proxies exposed = .ok out) :
    ∀ p ∈ out, p.IsRead :=
  (extends_nil_of_resolvePorts h).isRead

theorem nodup_keys_resolvePorts (h : resolvePorts image ports proxies exposed = .ok out) :
    (keys out).Nodup :=
  (extends_nil_of_resolvePorts h).nodup List.nodup_nil

/-- The port that is kept in the place of a declared one is declared itself. -/
theorem exists_kept (h : resolvePorts image ports proxies exposed = .ok out) {written : String}
    (hwritten : written ∈ ports) :
    ∃ port, Port.parse written = .ok port ∧ ∃ first ∈ ports, ∃ kept,
      Port.parse first = .ok kept ∧ kept.key = port.key ∧ ∃ o ∈ out, o.bare = kept.bare := by
  obtain ⟨declared, hdeclared, hout⟩ := exists_declared h
  obtain ⟨port, hport, hkey⟩ := exists_key_of_addWritten hdeclared hwritten
  obtain ⟨p, hp, hsame⟩ := List.mem_map.mp hkey
  obtain ⟨o, ho, hbare⟩ := hout.exists_mem hp
  rcases exists_parse_of_addWritten hdeclared hp with hnone | ⟨first, hfirst, kept, hkept, hpkept⟩
  · exact absurd hnone (by simp)
  · refine ⟨port, hport, first, hfirst, kept, hkept, ?_, o, ho, hbare.trans hpkept⟩
    exact (Port.key_eq_of_bare_eq hpkept).symm.trans hsame

/-- Every declared port is among the ports of the image, reached as it was declared. -/
def KeepsDeclared (ports : List String) (out : List Port) : Prop :=
  ∀ written ∈ ports, ∃ port, Port.parse written = .ok port ∧ ∃ o ∈ out, o.SamePublication port

/-- A declared port is lost where another of the same key is direct and it is not, or it is and
the other is not. -/
theorem keepsDeclared_iff (h : resolvePorts image ports proxies exposed = .ok out) :
    KeepsDeclared ports out ↔
      ∀ a ∈ ports, ∀ b ∈ ports, ∀ p q, Port.parse a = .ok p → Port.parse b = .ok q →
        p.key = q.key → p.direct = q.direct := by
  have hread := isRead_of_mem_resolvePorts h
  constructor
  · intro hkeeps a ha b hb p q hp hq hkey
    obtain ⟨p', hp', o, ho, hsame⟩ := hkeeps a ha
    obtain ⟨q', hq', o', ho', hsame'⟩ := hkeeps b hb
    obtain rfl := Except.ok.inj (hp.symm.trans hp')
    obtain rfl := Except.ok.inj (hq.symm.trans hq')
    have hokey := ((Port.samePublication_iff (hread o ho) (Port.isRead_of_parse hp)).mp hsame).1
    have hokey' :=
      ((Port.samePublication_iff (hread o' ho') (Port.isRead_of_parse hq)).mp hsame').1
    -- Both are kept by ports of one key, and no two ports of an image have the same.
    have hone : o = o' :=
      List.inj_on_of_nodup_map (nodup_keys_resolvePorts h) ho ho'
        (hokey.trans (hkey.trans hokey'.symm))
    rw [← hsame.direct, hone, hsame'.direct]
  · intro hagree written hwritten
    obtain ⟨port, hport, first, hfirst, kept, hkept, hkey, o, ho, hbare⟩ := exists_kept h hwritten
    obtain ⟨hokey, hodirect⟩ := Port.bare_eq_iff.mp hbare
    have hdirect := hagree first hfirst written hwritten kept port hkept hport hkey
    refine ⟨port, hport, o, ho, ?_⟩
    exact (Port.samePublication_iff (hread o ho) (Port.isRead_of_parse hport)).mpr
      ⟨hokey.trans hkey, hodirect.trans hdirect⟩

end ResolvePorts

/-- A container port that is declared behind the proxy and then also on the server itself. -/
def publishedTwice : List String := ["80:8080", "80:80:8080"]

/-- Only the proxied one is left. -/
theorem not_keepsDeclared_publishedTwice :
    resolvePorts "api" publishedTwice [] [] = .ok [⟨some "80", none, "8080", false, []⟩] ∧
      ¬KeepsDeclared publishedTwice [⟨some "80", none, "8080", false, []⟩] := by
  have hports :
      resolvePorts "api" publishedTwice [] [] = .ok [⟨some "80", none, "8080", false, []⟩] := by
    decide +kernel
  refine ⟨hports, fun hkeeps ↦ ?_⟩
  have hproxied : Port.parse "80:8080" = .ok ⟨some "80", none, "8080", false, []⟩ := by
    decide +kernel
  have hdirect : Port.parse "80:80:8080" = .ok ⟨some "80", none, "8080", true, []⟩ := by
    decide +kernel
  have hsame := (keepsDeclared_iff hports).mp hkeeps _ (.head _) _ (.tail _ (.head _)) _ _
    hproxied hdirect rfl
  exact absurd hsame (by decide)

end ClusterPlan.Proxy
