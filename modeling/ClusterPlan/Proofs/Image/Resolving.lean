import ClusterPlan.Image.Resolver
import ClusterPlan.Proofs.Activity
import ClusterPlan.Proofs.Image.References
import ClusterPlan.Proofs.Sequence

/-!
# Resolving the references of a service

Where a registry answers at once, the references of a service are first read, all of them before
anything is asked, and then expanded, and both end as they do with the first reference that fails.
What the expansions give is kept once, in the place where it is found first. Stars are gone then,
unless the registry itself lists names with stars.
-/

namespace ClusterPlan.Image

variable {κ : Type}

/-! ### First occurrences -/

/-- The members of a list without repetitions, in the order in which they are found first. -/
structure FirstOccurrences (found kept : List Reference) : Prop where
  nodup : kept.Nodup
  mem_iff : ∀ r, r ∈ kept ↔ r ∈ found
  ordered : kept.Pairwise fun a b ↦ found.idxOf a < found.idxOf b

namespace FirstOccurrences

variable {found kept : List Reference}

theorem nil : FirstOccurrences [] [] := ⟨.nil, fun _ ↦ Iff.rfl, .nil⟩

/-- What is found behind the others changes no place among them. -/
theorem pairwise_append (h : FirstOccurrences found kept) (more : List Reference) :
    kept.Pairwise fun a b ↦ (found ++ more).idxOf a < (found ++ more).idxOf b := by
  apply List.Pairwise.imp_of_mem _ h.ordered
  intro a b ha hb hlt
  rw [List.idxOf_append_of_mem ((h.mem_iff a).mp ha), List.idxOf_append_of_mem ((h.mem_iff b).mp hb)]
  exact hlt

theorem again (h : FirstOccurrences found kept) {r : Reference} (hr : r ∈ kept) :
    FirstOccurrences (found ++ [r]) kept := by
  refine ⟨h.nodup, ?_, h.pairwise_append [r]⟩
  intro s
  rw [List.mem_append, List.mem_singleton, h.mem_iff]
  constructor
  · exact Or.inl
  · intro hs
    rcases hs with hs | rfl
    · exact hs
    · exact (h.mem_iff _).mp hr

theorem add (h : FirstOccurrences found kept) {r : Reference} (hr : r ∉ kept) :
    FirstOccurrences (found ++ [r]) (kept ++ [r]) := by
  have hnew : r ∉ found := fun hmem ↦ hr ((h.mem_iff r).mpr hmem)
  refine ⟨?_, ?_, ?_⟩
  · rw [List.nodup_append]
    refine ⟨h.nodup, List.pairwise_singleton _ r, ?_⟩
    intro a ha b hb heq
    obtain rfl := List.mem_singleton.mp hb
    exact hr (heq ▸ ha)
  · intro s
    rw [List.mem_append, List.mem_append, h.mem_iff]
  · rw [List.pairwise_append]
    refine ⟨h.pairwise_append [r], List.pairwise_singleton _ r, ?_⟩
    intro a ha b hb
    obtain rfl := List.mem_singleton.mp hb
    have hbefore : (found ++ [b]).idxOf a < found.length := by
      rw [List.idxOf_append_of_mem ((h.mem_iff a).mp ha)]
      exact List.idxOf_lt_length_iff.mpr ((h.mem_iff a).mp ha)
    have hbehind : (found ++ [b]).idxOf b = found.length := by
      rw [List.idxOf_append_of_notMem hnew]
      simp
    omega

/-- The invariant of the loop that keeps what it has not kept yet. -/
theorem distinct (h : FirstOccurrences found kept) (rest : List Reference) :
    FirstOccurrences (found ++ rest) (Image.distinct kept rest) := by
  induction rest generalizing found kept with
  | nil => simpa [Image.distinct] using h
  | cons r rest ih =>
    rw [Image.distinct, List.append_cons]
    by_cases hr : r ∈ kept
    · rw [if_pos (List.contains_iff_mem.mpr hr)]
      exact ih (h.again hr)
    · rw [if_neg (by simpa using hr)]
      exact ih (h.add hr)

end FirstOccurrences

theorem firstOccurrences_distinct (found : List Reference) :
    FirstOccurrences found (distinct [] found) :=
  FirstOccurrences.nil.distinct found

/-! ### Expansions -/

/-- All parts are free of stars. -/
structure Reference.IsConcrete (r : Reference) : Prop where
  url : Glob.isWildcard r.url = false
  org : Glob.isWildcard r.org = false
  repo : Glob.isWildcard r.repo = false
  tag : Glob.isWildcard r.tag = false

theorem Reference.hasWildcard_eq_false_iff {r : Reference} : r.hasWildcard = false ↔
    Glob.isWildcard r.org = false ∧ Glob.isWildcard r.repo = false ∧
      Glob.isWildcard r.tag = false := by
  rw [hasWildcard, Bool.or_eq_false_iff, Bool.or_eq_false_iff, and_assoc]

namespace Listing

/-- The registry answers without waiting. -/
structure IsPrompt (listing : Listing κ) : Prop where
  packages : ∀ org, (listing.packages org).waits = 0
  tags : ∀ org package, (listing.tags org package).waits = 0

/-- The registry lists only names without stars. -/
structure ListsPlainly (listing : Listing κ) : Prop where
  packages : ∀ org names, (listing.packages org).result = .ok names →
    ∀ name ∈ names, Glob.isWildcard name = false
  tags : ∀ org package names, (listing.tags org package).result = .ok names →
    ∀ name ∈ names, Glob.isWildcard name = false

variable {listing : Listing κ} {r : Reference}

section Waits

theorem IsPrompt.waits_repositories (h : listing.IsPrompt) (r : Reference) :
    (listing.repositories r).waits = 0 := by
  unfold repositories
  split
  · exact Activity.waits_andThen_eq_zero (h.packages r.org) fun _ _ ↦ rfl
  · rfl

theorem IsPrompt.waits_tagged (h : listing.IsPrompt) (r : Reference) (repo : String) :
    (listing.tagged r repo).waits = 0 := by
  unfold tagged
  split
  · exact Activity.waits_andThen_eq_zero (h.tags r.org repo) fun _ _ ↦ rfl
  · rfl

theorem IsPrompt.waits_expandWildcards (h : listing.IsPrompt) (r : Reference) :
    (listing.expandWildcards r).waits = 0 := by
  apply Activity.waits_andThen_eq_zero (h.waits_repositories r)
  intro repos _
  apply Activity.waits_andThen_eq_zero
  · apply Activity.waits_join_eq_zero
    rw [List.forall_mem_map]
    exact fun repo _ ↦ h.waits_tagged r repo
  · intro found _
    split
    · rfl
    · rfl

theorem IsPrompt.waits_expand (h : listing.IsPrompt) (r : Reference) :
    (listing.expand r).waits = 0 := by
  unfold expand
  split
  · rfl
  · split
    · rfl
    · split
      · rfl
      · exact h.waits_expandWildcards r

end Waits

section Concrete

theorem ListsPlainly.repositories (h : listing.ListsPlainly) {repos : List String}
    (hrepos : (listing.repositories r).result = .ok repos) :
    ∀ repo ∈ repos, Glob.isWildcard repo = false := by
  unfold Listing.repositories at hrepos
  split at hrepos
  next =>
    rw [Activity.result_andThen, Except.bind_eq_ok_iff] at hrepos
    obtain ⟨packages, hpackages, hkept⟩ := hrepos
    obtain rfl := Except.ok.inj hkept
    intro repo hrepo
    exact h.packages r.org packages hpackages repo (List.mem_of_mem_filter hrepo)
  next hplain =>
    obtain rfl := Except.ok.inj hrepos
    intro repo hrepo
    rw [List.mem_singleton.mp hrepo]
    exact (Bool.not_eq_true _).mp hplain

theorem ListsPlainly.tagged (h : listing.ListsPlainly) {repo : String} {found : List Reference}
    (hfound : (listing.tagged r repo).result = .ok found) :
    ∀ s ∈ found, ∃ tag, s = r.withTag repo tag ∧ Glob.isWildcard tag = false := by
  unfold Listing.tagged at hfound
  split at hfound
  next =>
    rw [Activity.result_andThen, Except.bind_eq_ok_iff] at hfound
    obtain ⟨tags, htags, hkept⟩ := hfound
    obtain rfl := Except.ok.inj hkept
    intro s hs
    obtain ⟨tag, htag, rfl⟩ := List.mem_map.mp hs
    exact ⟨tag, rfl, h.tags r.org repo tags htags tag (List.mem_of_mem_filter htag)⟩
  next hplain =>
    obtain rfl := Except.ok.inj hfound
    intro s hs
    exact ⟨r.tag, List.mem_singleton.mp hs, (Bool.not_eq_true _).mp hplain⟩

theorem exists_of_expandWildcards {concrete : List Reference}
    (h : (listing.expandWildcards r).result = .ok concrete) : ∀ s ∈ concrete,
      ∃ repos repo found, (listing.repositories r).result = .ok repos ∧ repo ∈ repos ∧
        (listing.tagged r repo).result = .ok found ∧ s ∈ found := by
  rw [expandWildcards, Activity.result_andThen, Except.bind_eq_ok_iff] at h
  obtain ⟨repos, hrepos, h⟩ := h
  rw [Activity.result_andThen, Except.bind_eq_ok_iff] at h
  obtain ⟨found, hfound, h⟩ := h
  rw [Activity.result_join_eq_ok_iff, List.mapM_map, mapM_eq_ok_iff] at hfound
  split at h
  next => cases h
  next =>
    obtain rfl := Except.ok.inj h
    intro s hs
    obtain ⟨references, hmem, hs⟩ := List.mem_flatten.mp hs
    obtain ⟨repo, hrepo, hfound⟩ := exists_left_of_forall₂ hfound hmem
    exact ⟨repos, repo, references, hrepos, hrepo, hfound, hs⟩

/-- Where only plain names are listed, a reference stands for concrete ones. -/
theorem ListsPlainly.expand (h : listing.ListsPlainly) (hurl : Glob.isWildcard r.url = false)
    {concrete : List Reference} (hr : (listing.expand r).result = .ok concrete) :
    ∀ s ∈ concrete, s.IsConcrete := by
  unfold Listing.expand at hr
  split at hr
  next hplain =>
    obtain rfl := Except.ok.inj hr
    intro s hs
    obtain rfl := List.mem_singleton.mp hs
    obtain ⟨horg, hrepo, htag⟩ := Reference.hasWildcard_eq_false_iff.mp (by simpa using hplain)
    exact ⟨hurl, horg, hrepo, htag⟩
  next =>
    split at hr
    next => cases hr
    next horg =>
      split at hr
      next => cases hr
      next =>
        intro s hs
        obtain ⟨repos, repo, found, hrepos, hrepo, hfound, hs⟩ := exists_of_expandWildcards hr s hs
        obtain ⟨tag, rfl, htag⟩ := h.tagged hfound s hs
        exact ⟨hurl, (Bool.not_eq_true _).mp horg, h.repositories hrepos repo hrepo, htag⟩

end Concrete

end Listing

/-! ### Services -/

theorem parseAll_eq_mapM (defaults : Defaults) (written : List String) :
    parseAll defaults written = written.mapM (Reference.parse · defaults) := by
  induction written with
  | nil => rfl
  | cons first rest ih =>
    rw [parseAll, ih, List.mapM_cons]
    cases Reference.parse first defaults with
    | error e => rfl
    | ok r => rfl

namespace Listing

/-- The references that are written for a service, read one by one. -/
def AreRead (defaults : Defaults) (written : List String) (references : List Reference) : Prop :=
  List.Forall₂ (fun s r ↦ Reference.parse s defaults = .ok r) written references

/-- What references stand for, expanded one by one. -/
def Expands (listing : Listing κ) (references : List Reference) (found : List (List Reference)) :
    Prop :=
  List.Forall₂ (fun r concrete ↦ (listing.expand r).result = .ok concrete) references found

/-- How the references of a service are resolved. -/
structure Resolves (listing : Listing κ) (service : String) (written : List String)
    (defaults : Defaults) : Prop where
  unread : ∀ s e, IsFirst (FailsAt (Reference.parse · defaults)) written s →
    Reference.parse s defaults = .error e →
      (listing.images service written defaults).result = .error e ∧
        (listing.images service written defaults).calls = []
  unexpanded : ∀ references r e, AreRead defaults written references →
    IsFirst (FailsAt fun r ↦ (listing.expand r).result) references r →
    (listing.expand r).result = .error e →
      (listing.images service written defaults).result = .error e
  resolved : ∀ references found, AreRead defaults written references →
    listing.Expands references found →
      ∃ images, (listing.images service written defaults).result = .ok images ∧
        FirstOccurrences found.flatten (images.map (·.reference)) ∧
        ∀ image ∈ images, image.service = service
  concrete : listing.ListsPlainly → ∀ images,
    (listing.images service written defaults).result = .ok images →
      ∀ image ∈ images, image.reference.IsConcrete

variable {listing : Listing κ} {defaults : Defaults} {service : String} {written : List String}

theorem images_of_parse_eq_error {e : Error}
    (h : written.mapM (Reference.parse · defaults) = .error e) :
    listing.images service written defaults = .fail e := by
  rw [images, parseAll_eq_mapM, h]
  rfl

theorem result_images_of_areRead {references : List Reference}
    (h : AreRead defaults written references) :
    (listing.images service written defaults).result =
      (Activity.join (references.map listing.expand)).result.map fun found ↦
        (distinct [] found.flatten).map (⟨service, ·⟩) := by
  have hread : parseAll defaults written = .ok references := by
    rw [parseAll_eq_mapM]
    exact mapM_eq_ok_iff.mpr h
  rw [images, hread, Activity.result_andThen]
  change (Activity.andThen _ _).result = _
  rw [Activity.result_andThen]
  cases (Activity.join (references.map listing.expand)).result with
  | error e => rfl
  | ok found => rfl

theorem IsPrompt.result_join_expand (h : listing.IsPrompt) (references : List Reference) :
    (Activity.join (references.map listing.expand)).result =
      references.mapM fun r ↦ (listing.expand r).result := by
  have hwaits : ∀ x ∈ references.map listing.expand, x.waits = 0 := by
    rw [List.forall_mem_map]
    exact fun r _ ↦ h.waits_expand r
  rw [Activity.result_join_of_waits_eq_zero hwaits, List.mapM_map]
  rfl

theorem exists_of_result_images {images : List Image}
    (h : (listing.images service written defaults).result = .ok images) :
    ∃ references found, AreRead defaults written references ∧ listing.Expands references found ∧
      images = (distinct [] found.flatten).map (⟨service, ·⟩) := by
  cases hread : written.mapM (Reference.parse · defaults) with
  | error e =>
    rw [images_of_parse_eq_error hread] at h
    cases h
  | ok references =>
    have hreferences : AreRead defaults written references := mapM_eq_ok_iff.mp hread
    rw [result_images_of_areRead hreferences, Except.map_eq_ok_iff] at h
    obtain ⟨found, hfound, rfl⟩ := h
    rw [Activity.result_join_eq_ok_iff, List.mapM_map, mapM_eq_ok_iff] at hfound
    exact ⟨references, found, hreferences, hfound, rfl⟩

theorem map_reference_images (service : String) (references : List Reference) :
    (references.map (⟨service, ·⟩ : Reference → Image)).map (·.reference) = references := by
  rw [List.map_map]
  exact List.map_id references

theorem isConcrete_of_result_images (h : listing.ListsPlainly) {images : List Image}
    (himages : (listing.images service written defaults).result = .ok images) :
    ∀ image ∈ images, image.reference.IsConcrete := by
  obtain ⟨references, found, hread, hfound, rfl⟩ := exists_of_result_images himages
  rw [List.forall_mem_map]
  intro s hs
  obtain ⟨concrete, hmem, hs⟩ :=
    List.mem_flatten.mp (((firstOccurrences_distinct found.flatten).mem_iff s).mp hs)
  obtain ⟨r, hr, hexpand⟩ := exists_left_of_forall₂ hfound hmem
  obtain ⟨text, -, hparse⟩ := exists_left_of_forall₂ hread hr
  obtain ⟨-, -, -, hurl⟩ := Reference.exists_of_parseTrimmed hparse
  exact h.expand hurl hexpand s hs

theorem resolves_of_isPrompt (h : listing.IsPrompt) (service : String) (written : List String)
    (defaults : Defaults) : listing.Resolves service written defaults where
  unread := by
    intro s e hfirst herror
    have hread : written.mapM (Reference.parse · defaults) = .error e :=
      mapM_eq_error_iff.mpr ⟨s, hfirst, herror⟩
    rw [images_of_parse_eq_error hread]
    exact ⟨rfl, rfl⟩
  unexpanded := by
    intro references r e hread hfirst herror
    have hexpand : (references.mapM fun r ↦ (listing.expand r).result) = .error e :=
      mapM_eq_error_iff.mpr ⟨r, hfirst, herror⟩
    rw [result_images_of_areRead hread, h.result_join_expand, hexpand]
    rfl
  resolved := by
    intro references found hread hfound
    have hexpand : (references.mapM fun r ↦ (listing.expand r).result) = .ok found :=
      mapM_eq_ok_iff.mpr hfound
    refine ⟨(distinct [] found.flatten).map (⟨service, ·⟩), ?_, ?_, ?_⟩
    · rw [result_images_of_areRead hread, h.result_join_expand, hexpand]
      rfl
    · rw [map_reference_images]
      exact firstOccurrences_distinct found.flatten
    · rw [List.forall_mem_map]
      exact fun _ _ ↦ rfl
  concrete := fun hplain _ himages ↦ isConcrete_of_result_images hplain himages

/-- A registry that lists the same packages for every organization. -/
def twoPackages : Listing Empty where
  host := "ghcr.io"
  packages := fun _ ↦ pure ["api", "worker"]
  tags := fun _ package ↦ pure (if package = "api" then ["v1", "v2", "latest"] else ["v1"])

/-- One image reached by the default organization, by a pattern for tags and by one for packages. -/
theorem resolves_overlapping :
    twoPackages.IsPrompt ∧ twoPackages.ListsPlainly ∧
      twoPackages.Resolves "front" ["api:v1", "acme/api:v*", "ghcr.io/acme/*:v1"]
        (.of (some "acme") none) ∧
      (twoPackages.images "front" ["api:v1", "acme/api:v*", "ghcr.io/acme/*:v1"]
        (.of (some "acme") none)).result =
        .ok [⟨"front", ⟨"ghcr.io", "acme", "api", "v1"⟩⟩,
          ⟨"front", ⟨"ghcr.io", "acme", "api", "v2"⟩⟩,
          ⟨"front", ⟨"ghcr.io", "acme", "worker", "v1"⟩⟩] := by
  have hprompt : twoPackages.IsPrompt := ⟨fun _ ↦ rfl, fun _ _ ↦ rfl⟩
  have hplain : twoPackages.ListsPlainly := by
    constructor
    · intro org names hnames
      obtain rfl := Except.ok.inj hnames
      decide
    · intro org package names hnames
      obtain rfl := Except.ok.inj hnames
      split
      · decide
      · decide
  refine ⟨hprompt, hplain, resolves_of_isPrompt hprompt _ _ _, ?_⟩
  apply Except.eq_ok_of_toOption
  decide +kernel

end Listing

end ClusterPlan.Image
