import ClusterPlan.Proofs.Registry.Names
import ClusterPlan.Proofs.Sequence

/-!
# Registries as stores

Entities of the four kinds are offered to a registry one after the other, in any order. It accepts
an entity unless it has one of the same kind and name, and an entity that it refuses changes
nothing. So each collection lists the entities of its kind that were accepted, in their order, and a
name leads to the one entity that was accepted under it, whatever there is of other kinds.
-/

namespace ClusterPlan

open Entity

namespace Registry

/-- An entity of any kind. -/
inductive Entry where
  | server (server : Server)
  | service (service : Service)
  | sshKey (key : SshKey)
  | volume (volume : Volume)

namespace Entry

def kind : Entry → Kind
  | server _ => .server
  | service _ => .service
  | sshKey _ => .sshKey
  | volume _ => .volume

def name : Entry → String
  | server s => s.name
  | service s => s.name
  | sshKey k => k.name
  | volume v => v.name

end Entry

def insert (r : Registry) : Entry → Except Invalid Registry
  | .server s => r.insertServer s
  | .service s => r.insertService s
  | .sshKey k => r.insertSshKey k
  | .volume v => r.insertVolume v

/-- The entities of a kind in the order of their collection. -/
def entries (r : Registry) : Kind → List Entry
  | .server => r.servers.map .server
  | .service => r.services.map .service
  | .sshKey => r.sshKeys.map .sshKey
  | .volume => r.volumes.map .volume

/-- What a name is looked up as among the entities of a kind. -/
def find? (r : Registry) (kind : Kind) (name : String) : Option Entry :=
  match kind with
  | .server => (r.server? name).map .server
  | .service => (r.service? name).map .service
  | .sshKey => (r.sshKey? name).map .sshKey
  | .volume => (r.volume? name).map .volume

/-! ### Offers -/

/-- The registry after an offer. -/
def offer (r : Registry) (e : Entry) : Registry :=
  match r.insert e with
  | .ok after => after
  | .error _ => r

def offerAll (r : Registry) (es : List Entry) : Registry := es.foldl offer r

/-- The offers that a registry accepts, one after the other. -/
def accepted (r : Registry) : List Entry → List Entry
  | [] => []
  | e :: rest =>
    match r.insert e with
    | .ok after => e :: after.accepted rest
    | .error _ => r.accepted rest

/-- A registry that has accepted these entities, in this order, and what it does with an offer. -/
structure IsStore (r : Registry) (accepted : List Entry) : Prop where
  distinct : r.NamesDistinct
  entries : ∀ kind, r.entries kind = accepted.filter (·.kind = kind)
  find?_eq_some_iff : ∀ kind name e, r.find? kind name = some e ↔
    e ∈ accepted ∧ e.kind = kind ∧ e.name = name
  refuses_iff : ∀ e, (∃ error, r.insert e = .error error) ↔
    ∃ present ∈ r.entries e.kind, present.name = e.name
  refused : ∀ e error, r.insert e = .error error →
    error = ⟨e.kind, e.name, .duplicate⟩ ∧ r.offer e = r
  accepts : ∀ e after, r.insert e = .ok after → after.entries e.kind = r.entries e.kind ++ [e]
  others : ∀ e kind, e.kind ≠ kind → (r.offer e).entries kind = r.entries kind ∧
    ∀ name, (r.offer e).find? kind name = r.find? kind name

section Views

variable {r : Registry} {kind : Kind} {name : String} {e : Entry}

theorem names_eq_map_entries (r : Registry) (kind : Kind) :
    r.names kind = (r.entries kind).map Entry.name := by
  cases kind with
  | server | service | sshKey | volume =>
    rw [entries, List.map_map]
    rfl

theorem mem_names_iff : name ∈ r.names kind ↔ ∃ e ∈ r.entries kind, e.name = name := by
  rw [names_eq_map_entries, List.mem_map]

theorem find?_eq (r : Registry) (kind : Kind) (name : String) :
    r.find? kind name = (r.entries kind).find? (·.name == name) := by
  cases kind with
  | server | service | sshKey | volume =>
    rw [entries, List.find?_map]
    rfl

theorem find?_eq_some_iff_of_namesDistinct (h : r.NamesDistinct) :
    r.find? kind name = some e ↔ e ∈ r.entries kind ∧ e.name = name := by
  have hnames : ((r.entries kind).map Entry.name).Nodup := names_eq_map_entries r kind ▸ h kind
  rw [find?_eq]
  exact find?_eq_some_iff_of_nodup hnames

end Views

section Insertion

variable {r after : Registry} {e : Entry} {kind : Kind}

theorem insert_eq_error (h : e.name ∈ r.names e.kind) :
    r.insert e = .error ⟨e.kind, e.name, .duplicate⟩ := by
  have hhas := has_iff.mpr h
  cases e with
  | server | service | sshKey | volume => exact if_pos hhas

/-- An entity of a new name comes last among those of its kind. -/
theorem exists_insert_eq_ok (h : e.name ∉ r.names e.kind) :
    ∃ after, r.insert e = .ok after ∧
      ∀ kind, after.entries kind = r.entries kind ++ if e.kind = kind then [e] else [] := by
  have hhas := mt has_iff.mp h
  cases e with
  | server | service | sshKey | volume =>
    refine ⟨_, if_neg hhas, fun kind ↦ ?_⟩
    cases kind <;> simp [entries, Entry.kind]

theorem insert_eq_error_iff {error : Invalid} :
    r.insert e = .error error ↔
      e.name ∈ r.names e.kind ∧ error = ⟨e.kind, e.name, .duplicate⟩ := by
  by_cases h : e.name ∈ r.names e.kind
  · rw [insert_eq_error h, Except.error.injEq, eq_comm]
    exact (and_iff_right h).symm
  · obtain ⟨after, hafter, -⟩ := exists_insert_eq_ok h
    simp [hafter, h]

theorem entries_of_insert (h : r.insert e = .ok after) (kind : Kind) :
    after.entries kind = r.entries kind ++ if e.kind = kind then [e] else [] := by
  have hname : e.name ∉ r.names e.kind := by
    intro hname
    rw [insert_eq_error hname] at h
    cases h
  obtain ⟨after', hafter, hentries⟩ := exists_insert_eq_ok hname
  rw [← Except.ok.inj (hafter.symm.trans h)]
  exact hentries kind

theorem offer_of_insert_eq_ok (h : r.insert e = .ok after) : r.offer e = after := by
  unfold offer
  rw [h]

theorem offer_of_insert_eq_error {error : Invalid} (h : r.insert e = .error error) :
    r.offer e = r := by
  unfold offer
  rw [h]

theorem entries_offer_of_ne (h : e.kind ≠ kind) : (r.offer e).entries kind = r.entries kind := by
  cases hinsert : r.insert e with
  | ok after =>
    rw [offer_of_insert_eq_ok hinsert, entries_of_insert hinsert, if_neg h, List.append_nil]
  | error error => rw [offer_of_insert_eq_error hinsert]

theorem isMade_offer (h : r.IsMade) (e : Entry) : (r.offer e).IsMade := by
  cases hinsert : r.insert e with
  | ok after =>
    rw [offer_of_insert_eq_ok hinsert]
    cases e with
    | server s => exact h.server hinsert
    | service s => exact h.service hinsert
    | sshKey k => exact h.sshKey hinsert
    | volume v => exact h.volume hinsert
  | error error => rwa [offer_of_insert_eq_error hinsert]

end Insertion

/-! ### Rows of offers -/

theorem isMade_offerAll {r : Registry} (h : r.IsMade) (es : List Entry) :
    (r.offerAll es).IsMade := by
  induction es generalizing r with
  | nil => exact h
  | cons e rest ih => exact ih (isMade_offer h e)

/-- What is accepted comes behind what was there, each entity in the collection of its kind. -/
theorem entries_offerAll (r : Registry) (es : List Entry) (kind : Kind) :
    (r.offerAll es).entries kind =
      r.entries kind ++ (r.accepted es).filter (·.kind = kind) := by
  induction es generalizing r with
  | nil => simp [offerAll, accepted]
  | cons e rest ih =>
    have hcons : r.offerAll (e :: rest) = (r.offer e).offerAll rest := rfl
    rw [hcons, ih, accepted]
    cases hinsert : r.insert e with
    | ok after =>
      rw [offer_of_insert_eq_ok hinsert, entries_of_insert hinsert, List.append_assoc]
      by_cases hkind : e.kind = kind
      · simp [hkind]
      · simp [hkind]
    | error error => rw [offer_of_insert_eq_error hinsert]

theorem isStore_offerAll (es : List Entry) : IsStore (offerAll ∅ es) (accepted ∅ es) := by
  have hdistinct : (offerAll ∅ es).NamesDistinct := (isMade_offerAll .empty es).namesDistinct
  have hentries (kind : Kind) :
      (offerAll ∅ es).entries kind = (accepted ∅ es).filter (·.kind = kind) := by
    have hempty : entries ∅ kind = [] := by cases kind <;> rfl
    rw [entries_offerAll, hempty, List.nil_append]
  refine ⟨hdistinct, hentries, ?_, ?_, ?_, ?_, ?_⟩
  · intro kind name e
    rw [find?_eq_some_iff_of_namesDistinct hdistinct, hentries, List.mem_filter, decide_eq_true_eq,
      and_assoc]
  · intro e
    rw [← mem_names_iff]
    simp only [insert_eq_error_iff, exists_and_left, exists_eq, and_true]
  · intro e error hinsert
    exact ⟨(insert_eq_error_iff.mp hinsert).2, offer_of_insert_eq_error hinsert⟩
  · intro e after hinsert
    rw [entries_of_insert hinsert, if_pos rfl]
  · intro e kind hkind
    refine ⟨entries_offer_of_ne hkind, fun name ↦ ?_⟩
    rw [find?_eq, find?_eq, entries_offer_of_ne hkind]

end Registry

end ClusterPlan
