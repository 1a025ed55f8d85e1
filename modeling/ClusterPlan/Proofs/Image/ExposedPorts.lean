import ClusterPlan.Image.ExposedPorts
import ClusterPlan.Proofs.Decimal
import ClusterPlan.Proofs.Fields

/-!
# Exposed ports as a set

A report is read when each of its names begins with the text of a port, and by nothing else that
stands in it. What is read are texts in order of their numbers, one for each number that some name
has, so that neither protocols nor spellings nor repetitions make a difference to the numbers.
-/

namespace ClusterPlan.ExposedPorts

/-- What stands in a name before its first slash. -/
def portText (name : String) : List Char := name.toList.takeWhile (· != '/')

/-- The name begins with the text of a number of 16 bits. -/
structure Names (name : String) (n : ℕ) : Prop where
  writes : Decimal.Writes (portText name) n
  le : n ≤ numberLimit

/-- The ports are texts of the numbers that the names have, each number once and in order, each as
one of the names has it. -/
structure IsSortedSet (names ports : List String) (numbers : List ℕ) : Prop where
  writes : List.Forall₂ (fun port n ↦ Decimal.Writes port.toList n) ports numbers
  ascending : numbers.Pairwise (· < ·)
  mem_iff : ∀ n, n ∈ numbers ↔ ∃ name ∈ names, Names name n
  spelled : ∀ port ∈ ports, ∃ name ∈ names, port.toList = portText name

theorem numbered?_eq_some_iff {name text : String} {n : ℕ} :
    numbered? name = some (n, text) ↔ Names name n ∧ text.toList = portText name := by
  have hread : numbered? name = (Decimal.readBounded? numberLimit (portText name)).map
      fun n ↦ (n, String.ofList (portText name)) := rfl
  simp only [hread, Option.map_eq_some_iff, Decimal.readBounded?_eq_some_iff, Prod.mk.injEq]
  constructor
  · rintro ⟨n, ⟨hwrites, hle⟩, rfl, rfl⟩
    exact ⟨⟨hwrites, hle⟩, String.toList_ofList⟩
  · rintro ⟨⟨hwrites, hle⟩, htext⟩
    exact ⟨n, ⟨hwrites, hle⟩, rfl, by rw [← htext, String.ofList_toList]⟩

/-! ### Texts in the places of their numbers -/

section Insert

variable {number : ℕ} {text : String} {found : List (ℕ × String)}

theorem mem_of_mem_insert {entry : ℕ × String} (h : entry ∈ insert number text found) :
    entry = (number, text) ∨ entry ∈ found := by
  induction found with
  | nil => exact .inl (List.mem_singleton.mp h)
  | cons first rest ih =>
    rw [insert] at h
    split at h
    next => exact List.mem_cons.mp h
    next =>
      split at h
      next => exact (List.mem_cons.mp h).imp_right (List.mem_cons_of_mem first)
      next =>
        rcases List.mem_cons.mp h with rfl | h
        · exact .inr List.mem_cons_self
        · exact (ih h).imp_right (List.mem_cons_of_mem first)

theorem mem_numbers_insert_iff {n : ℕ} :
    n ∈ (insert number text found).map Prod.fst ↔ n = number ∨ n ∈ found.map Prod.fst := by
  induction found with
  | nil => simp [insert]
  | cons first rest ih =>
    rw [insert]
    split
    next => simp
    next =>
      split
      next hsame => simp [hsame]
      next => rw [List.map_cons, List.mem_cons, ih, List.map_cons, List.mem_cons, or_left_comm]

theorem ascending_insert (h : (found.map Prod.fst).Pairwise (· < ·)) :
    ((insert number text found).map Prod.fst).Pairwise (· < ·) := by
  induction found with
  | nil => exact List.pairwise_singleton _ _
  | cons first rest ih =>
    obtain ⟨hfirst, hrest⟩ := List.pairwise_cons.mp h
    rw [insert]
    split
    next hbefore =>
      refine List.pairwise_cons.mpr ⟨?_, h⟩
      rintro n (_ | ⟨_, hn⟩)
      · exact hbefore
      · exact hbefore.trans (hfirst n hn)
    next hbefore =>
      split
      next hsame => exact List.pairwise_cons.mpr ⟨hsame ▸ hfirst, hrest⟩
      next hother =>
        refine List.pairwise_cons.mpr ⟨fun n hn ↦ ?_, ih hrest⟩
        rcases mem_numbers_insert_iff.mp hn with rfl | hn
        · exact lt_of_le_of_ne (not_lt.mp hbefore) (Ne.symm hother)
        · exact hfirst n hn

end Insert

/-! ### All names -/

/-- What is held once some names have been read. -/
structure Holds (names : List String) (found : List (ℕ × String)) : Prop where
  ascending : (found.map Prod.fst).Pairwise (· < ·)
  mem_iff : ∀ n, n ∈ found.map Prod.fst ↔ ∃ name ∈ names, Names name n
  written : ∀ entry ∈ found, Decimal.Writes entry.2.toList entry.1 ∧
    ∃ name ∈ names, entry.2.toList = portText name

section Collect

variable {names rest : List String} {found : List (ℕ × String)} {name text : String} {n : ℕ}

theorem Names.unique {m : ℕ} (hn : Names name n) (hm : Names name m) : n = m := by
  have hread (k : ℕ) (hk : Names name k) :
      Decimal.readBounded? numberLimit (portText name) = some k :=
    Decimal.readBounded?_eq_some_iff.mpr ⟨hk.writes, hk.le⟩
  exact Option.some.inj ((hread n hn).symm.trans (hread m hm))

theorem Holds.insert (h : Holds names found) (hname : Names name n)
    (htext : text.toList = portText name) : Holds (names ++ [name]) (insert n text found) where
  ascending := ascending_insert h.ascending
  mem_iff m := by
    have hlast : (∃ other ∈ [name], Names other m) ↔ m = n := by
      simpa using ⟨fun hm ↦ hm.unique hname, fun hm ↦ hm ▸ hname⟩
    simp only [mem_numbers_insert_iff, h.mem_iff, List.mem_append, or_and_right, exists_or, hlast]
    exact or_comm
  written entry hentry := by
    rcases mem_of_mem_insert hentry with rfl | hentry
    · exact ⟨htext ▸ hname.writes, name, by simp, htext⟩
    · obtain ⟨hwrites, other, hother, hspelled⟩ := h.written entry hentry
      exact ⟨hwrites, other, List.mem_append_left _ hother, hspelled⟩

/-- Reading goes on as long as the names name ports. -/
theorem exists_collect_eq_ok_iff :
    (∃ ports, collect found rest = .ok ports) ↔ ∀ name ∈ rest, ∃ n, Names name n := by
  induction rest generalizing found with
  | nil => simp [collect]
  | cons name rest ih =>
    rw [List.forall_mem_cons, collect]
    cases hname : numbered? name with
    | none =>
      refine iff_of_false (by simp) fun h ↦ ?_
      obtain ⟨n, hn⟩ := h.1
      have hsome := numbered?_eq_some_iff.mpr ⟨hn, String.toList_ofList⟩
      simp [hname] at hsome
    | some entry =>
      obtain ⟨n, text⟩ := entry
      rw [ih, and_iff_right ⟨n, (numbered?_eq_some_iff.mp hname).1⟩]

theorem Holds.collect {ports : List String} (h : Holds names found)
    (hports : collect found rest = .ok ports) :
    ∃ all, Holds (names ++ rest) all ∧ ports = all.map Prod.snd := by
  -- Each step moves a name from those still to be read to those of which `found` is the set.
  induction rest generalizing names found with
  | nil =>
    rw [List.append_nil]
    exact ⟨found, h, (Except.ok.inj hports).symm⟩
  | cons name rest ih =>
    rw [ExposedPorts.collect] at hports
    cases hname : numbered? name with
    | none => simp [hname] at hports
    | some entry =>
      obtain ⟨n, text⟩ := entry
      rw [hname] at hports
      obtain ⟨hnames, htext⟩ := numbered?_eq_some_iff.mp hname
      rw [List.append_cons]
      exact ih (h.insert hnames htext) hports

end Collect

/-! ### Reports -/

/-- The names of an object, in the order in which they are written. -/
def writtenNames? : Json → Option (List String)
  | .object fields => some (fields.map Prod.fst)
  | _ => none

/-- The text is read as an object with these names. -/
def IsReport (text : String) (names : List String) : Prop :=
  ((Json.read? (Text.trim text)).filter Json.inRange).bind writtenNames? = some names

theorem exists_read_eq_collect {text : String} {names : List String} (h : IsReport text names) :
    ∃ sorted, read text = collect [] sorted ∧ ∀ name, name ∈ sorted ↔ name ∈ names := by
  obtain ⟨report, hreport, hnames⟩ := Option.bind_eq_some_iff.mp h
  cases report with
  | object fields =>
    obtain rfl := Option.some.inj hnames
    refine ⟨fieldNames fields, ?_, fun name ↦ mem_names_sortFields⟩
    unfold read
    rw [hreport]
    rfl
  | _ => cases hnames

/-- A report is read when all its names name ports, and then as the set of their numbers. -/
theorem readsSortedSet {text : String} {names : List String} (h : IsReport text names) :
    ((∃ ports, read text = .ok ports) ↔ ∀ name ∈ names, ∃ n, Names name n) ∧
      ∀ ports, read text = .ok ports → ∃ numbers, IsSortedSet names ports numbers := by
  obtain ⟨sorted, hread, hsame⟩ := exists_read_eq_collect h
  have hnames (p : String → Prop) : (∃ name ∈ sorted, p name) ↔ ∃ name ∈ names, p name :=
    exists_congr fun name ↦ and_congr_left fun _ ↦ hsame name
  rw [hread]
  constructor
  · rw [exists_collect_eq_ok_iff]
    exact forall_congr' fun name ↦ imp_congr_left (hsame name)
  · intro ports hports
    have hnone : Holds [] [] := ⟨List.Pairwise.nil, by simp, by simp⟩
    obtain ⟨all, hall, rfl⟩ := hnone.collect hports
    rw [List.nil_append] at hall
    refine ⟨all.map Prod.fst, ?_, hall.ascending, fun n ↦ ?_, fun port hport ↦ ?_⟩
    · rw [List.forall₂_map_left_iff, List.forall₂_map_right_iff, List.forall₂_same]
      exact fun entry hentry ↦ (hall.written entry hentry).1
    · rw [hall.mem_iff, hnames]
    · obtain ⟨entry, hentry, rfl⟩ := List.mem_map.mp hport
      exact (hnames _).mp (hall.written entry hentry).2

/-! ### Two spellings of one port -/

def twoSpellings : String :=
  "\x7b\"8080/tcp\": \x7b\x7d, \"443\": \x7b\x7d, \"+053/udp\": \x7b\x7d, \"53/tcp\": \x7b\x7d\x7d"

/-- The numbers are in order although neither the names nor their texts are, and the port that is
named twice is read once. -/
theorem readsSortedSet_twoSpellings :
    IsReport twoSpellings ["8080/tcp", "443", "+053/udp", "53/tcp"] ∧
    (∀ name ∈ ["8080/tcp", "443", "+053/udp", "53/tcp"], ∃ n, Names name n) ∧
    read twoSpellings = .ok ["53", "443", "8080"] ∧
    ∃ numbers, IsSortedSet ["8080/tcp", "443", "+053/udp", "53/tcp"] ["53", "443", "8080"]
      numbers := by
  have hreport : IsReport twoSpellings ["8080/tcp", "443", "+053/udp", "53/tcp"] := by
    unfold IsReport
    decide +kernel
  have hread : read twoSpellings = .ok ["53", "443", "8080"] :=
    Except.eq_ok_of_toOption (by decide +kernel)
  obtain ⟨hreads, hsorted⟩ := readsSortedSet hreport
  exact ⟨hreport, hreads.mp ⟨_, hread⟩, hread, hsorted _ hread⟩

end ClusterPlan.ExposedPorts
