import ClusterPlan.Proofs.Image.Resolving

/-!
# What a reference with stars stands for

A registry that answers at once is given by its answers. With these, what a reference stands for can
be written down as a list: the repositories that its pattern matches, in the order in which they are
listed, each with the tags that are matched among its own.

What is asked is written down as well. The packages are listed once, and only for a repository with
stars; after them the tags of each repository that is matched, in their order and only for a tag
with stars, until one of the answers is a failure.
-/

namespace ClusterPlan.Image

/-- What a registry can be asked. -/
inductive Question where
  | packages (org : String)
  | tags (org package : String)

/-- All that a registry answers, given beforehand. -/
structure Answers where
  host : String
  packages : (org : String) → Except Error (List String)
  tags : (org package : String) → Except Error (List String)

/-- The registry that gives these answers at once. Account is kept of what it is asked. -/
def Answers.listing (answers : Answers) : Listing Question where
  host := answers.host
  packages org := .call (.packages org) 0 (answers.packages org)
  tags org package := .call (.tags org package) 0 (answers.tags org package)

/-- The names that a pattern stands for among those that are listed. -/
def matching (pattern : String) (listed : Except Error (List String)) :
    Except Error (List String) :=
  if Glob.isWildcard pattern then listed.map (List.filter (Glob.isMatch pattern))
  else .ok [pattern]

namespace Answers

/-- The repositories that a reference stands for. -/
def repositories (answers : Answers) (r : Reference) : Except Error (List String) :=
  matching r.repo (answers.packages r.org)

/-- The tags that a reference stands for in a repository. -/
def tagsOf (answers : Answers) (r : Reference) (repo : String) : Except Error (List String) :=
  matching r.tag (answers.tags r.org repo)

end Answers

namespace Reference

/-- Stars of the repository or the tag, in an organization of the registry that can be asked. -/
structure NeedsListing (r : Reference) (host : String) : Prop where
  wildcard : r.hasWildcard = true
  org : Glob.isWildcard r.org = false
  url : r.url = host

/-- What is asked to learn the tags of some repositories. -/
def tagQuestions (r : Reference) (repos : List String) : List Question :=
  if Glob.isWildcard r.tag then repos.map (.tags r.org) else []

def packageQuestions (r : Reference) : List Question :=
  if Glob.isWildcard r.repo then [.packages r.org] else []

/-- The references into some repositories, with the tags of each. -/
def combinations (r : Reference) (repos : List String) (tags : String → List String) :
    List Reference :=
  repos.flatMap fun repo ↦ (tags repo).map (r.withTag repo)

end Reference

/-- What an expansion ends in, and what it has asked by then. -/
structure Asks (x : Activity Question Error (List Reference)) (asked : List Question)
    (result : Except Error (List Reference)) : Prop where
  asked : x.log = asked
  result : x.result = result

/-- The expansion of a reference by the answers of a registry. -/
structure Expansion (answers : Answers) (r : Reference)
    (x : Activity Question Error (List Reference)) : Prop where
  plain : r.hasWildcard = false → Asks x [] (.ok [r])
  organization : r.hasWildcard = true → Glob.isWildcard r.org = true →
    Asks x [] (.error (.unsupportedWildcard r.text .organization))
  elsewhere : r.hasWildcard = true → Glob.isWildcard r.org = false → r.url ≠ answers.host →
    Asks x [] (.error (.unsupportedRegistry r.url answers.host))
  unlisted : r.NeedsListing answers.host → ∀ e, answers.repositories r = .error e →
    Asks x r.packageQuestions (.error e)
  untagged : r.NeedsListing answers.host → ∀ before repo after e,
    answers.repositories r = .ok (before ++ repo :: after) →
    (∀ b ∈ before, ∃ tags, answers.tagsOf r b = .ok tags) → answers.tagsOf r repo = .error e →
    Asks x (r.packageQuestions ++ r.tagQuestions (before ++ [repo])) (.error e)
  expanded : r.NeedsListing answers.host → ∀ repos (tags : String → List String),
    answers.repositories r = .ok repos →
    (∀ repo ∈ repos, answers.tagsOf r repo = .ok (tags repo)) →
    Asks x (r.packageQuestions ++ r.tagQuestions repos)
      (if r.combinations repos tags = [] then .error (.noMatch r.text)
        else .ok (r.combinations repos tags))

namespace Answers

variable (answers : Answers) (r : Reference)

/-! ### One listing -/

theorem result_repositories : (answers.listing.repositories r).result = answers.repositories r := by
  unfold Listing.repositories Answers.repositories matching
  split
  · rw [Activity.result_andThen]
    change answers.packages r.org >>= _ = _
    cases answers.packages r.org with
    | error e => rfl
    | ok names => rfl
  · rfl

theorem log_repositories : (answers.listing.repositories r).log = r.packageQuestions := by
  unfold Listing.repositories Reference.packageQuestions
  split
  · exact Activity.log_andThen_of_silent _ fun _ ↦ rfl
  · rfl

theorem isImmediate_tagged (repo : String) : (answers.listing.tagged r repo).IsImmediate := by
  unfold Listing.tagged
  split
  · exact (Activity.isImmediate_call _ _).andThen fun _ ↦ Activity.isImmediate_pure _
  · exact Activity.isImmediate_pure _

theorem result_tagged (repo : String) :
    (answers.listing.tagged r repo).result =
      (answers.tagsOf r repo).map (List.map (r.withTag repo)) := by
  unfold Listing.tagged tagsOf matching
  split
  · rw [Activity.result_andThen]
    change answers.tags r.org repo >>= _ = _
    cases answers.tags r.org repo with
    | error e => rfl
    | ok names => rfl
  · rfl

theorem log_tagged (repo : String) :
    (answers.listing.tagged r repo).log = r.tagQuestions [repo] := by
  unfold Listing.tagged Reference.tagQuestions
  split
  · exact Activity.log_andThen_of_silent _ fun _ ↦ rfl
  · rfl

theorem log_flatMap_tagged (repos : List String) :
    (repos.map (answers.listing.tagged r)).flatMap Activity.log = r.tagQuestions repos := by
  rw [List.flatMap_map]
  simp only [log_tagged]
  unfold Reference.tagQuestions
  split
  · exact List.map_eq_flatMap.symm
  · simp

/-! ### The listings of all repositories -/

section Join

variable {repos before : List String} {repo : String} {e : Error}

theorem forall_isImmediate_tagged (repos : List String) :
    ∀ x ∈ repos.map (answers.listing.tagged r), x.IsImmediate := by
  rw [List.forall_mem_map]
  exact fun repo _ ↦ answers.isImmediate_tagged r repo

theorem result_join_tagged_of_ok {tags : String → List String}
    (h : ∀ repo ∈ repos, answers.tagsOf r repo = .ok (tags repo)) :
    (Activity.join (repos.map (answers.listing.tagged r))).result =
      .ok (repos.map fun repo ↦ (tags repo).map (r.withTag repo)) := by
  rw [Activity.result_join_eq_ok_iff, List.mapM_map, mapM_eq_ok_iff, List.forall₂_map_right_iff,
    List.forall₂_same]
  intro repo hrepo
  change (answers.listing.tagged r repo).result = _
  rw [result_tagged, h repo hrepo]
  rfl

/-- Nothing is asked of the repositories behind the first whose tags are not listed. -/
theorem join_tagged_of_error (hbefore : ∀ b ∈ before, ∃ tags, answers.tagsOf r b = .ok tags)
    (herror : answers.tagsOf r repo = .error e) (after : List String) :
    let joined := Activity.join ((before ++ repo :: after).map (answers.listing.tagged r))
    joined.result = .error e ∧ joined.log = r.tagQuestions (before ++ [repo]) := by
  have hok : ∀ b ∈ before, ∃ found, (answers.listing.tagged r b).result = .ok found := by
    intro b hb
    obtain ⟨tags, htags⟩ := hbefore b hb
    exact ⟨_, by rw [result_tagged, htags]; rfl⟩
  have hfails : (answers.listing.tagged r repo).result = .error e := by
    rw [result_tagged, herror]
    rfl
  have himmediate := answers.forall_isImmediate_tagged r (before ++ repo :: after)
  constructor
  · rw [Activity.result_join_of_waits_eq_zero fun x hx ↦ (himmediate x hx).waits, List.mapM_map]
    apply mapM_eq_error_iff.mpr
    refine ⟨repo, ⟨⟨e, hfails⟩, before, after, rfl, fun b hb ↦ ?_⟩, hfails⟩
    obtain ⟨found, hfound⟩ := hok b hb
    exact not_failsAt_of_eq_ok hfound
  · rw [← answers.log_flatMap_tagged]
    rw [List.map_append, List.map_cons] at himmediate ⊢
    rw [List.map_append, List.map_singleton]
    exact Activity.log_join_of_eq_error himmediate (List.forall_mem_map.mpr hok) hfails

end Join

/-! ### Expansions -/

theorem expand_of_needsListing (h : r.NeedsListing answers.host) :
    answers.listing.expand r = answers.listing.expandWildcards r := by
  unfold Listing.expand
  rw [h.wildcard, h.org]
  exact if_neg (not_not.mpr h.url)

/-- Once the repositories are known, what is left to ask and to fail are their tags. -/
theorem expandWildcards_of_ok {repos : List String} (hrepos : answers.repositories r = .ok repos) :
    let joined := Activity.join (repos.map (answers.listing.tagged r))
    (answers.listing.expandWildcards r).log = r.packageQuestions ++ joined.log ∧
      (answers.listing.expandWildcards r).result = joined.result >>= fun found ↦
        if found.flatten = [] then .error (.noMatch r.text) else .ok found.flatten := by
  have hresult : (answers.listing.repositories r).result = .ok repos :=
    (answers.result_repositories r).trans hrepos
  dsimp only
  unfold Listing.expandWildcards
  constructor
  · rw [Activity.log_andThen hresult, log_repositories, Activity.log_andThen_of_silent]
    intro found
    split
    · rfl
    · rfl
  · rw [Activity.result_andThen, hresult]
    change (Activity.andThen _ _).result = _
    rw [Activity.result_andThen]
    congr 1
    funext found
    simp only [List.isEmpty_iff]
    split
    · rfl
    · rfl

/-- What a reference stands for, and what is asked for it, is known from the answers. -/
theorem expansion_expand (answers : Answers) (r : Reference) :
    Expansion answers r (answers.listing.expand r) where
  plain hplain := by
    unfold Listing.expand
    rw [hplain]
    exact ⟨rfl, rfl⟩
  organization hwildcard horg := by
    unfold Listing.expand
    rw [hwildcard, horg]
    exact ⟨rfl, rfl⟩
  elsewhere hwildcard horg hurl := by
    have hhost : r.url ≠ answers.listing.host := hurl
    unfold Listing.expand
    rw [hwildcard, horg, if_neg Bool.noConfusion, if_neg Bool.noConfusion, if_pos hhost]
    exact ⟨rfl, rfl⟩
  unlisted h e herror := by
    have hresult : (answers.listing.repositories r).result = .error e :=
      (answers.result_repositories r).trans herror
    rw [answers.expand_of_needsListing r h]
    unfold Listing.expandWildcards
    constructor
    · rw [Activity.log_andThen_of_eq_error hresult, log_repositories]
    · rw [Activity.result_andThen, hresult]
      rfl
  untagged h before repo after e hrepos hbefore herror := by
    obtain ⟨hlog, hresult⟩ := answers.expandWildcards_of_ok r hrepos
    obtain ⟨hjoined, hasked⟩ := answers.join_tagged_of_error r hbefore herror after
    rw [answers.expand_of_needsListing r h]
    constructor
    · rw [hlog, hasked]
    · rw [hresult, hjoined]
      rfl
  expanded h repos tags hrepos htags := by
    obtain ⟨hlog, hresult⟩ := answers.expandWildcards_of_ok r hrepos
    have hjoined := answers.result_join_tagged_of_ok r htags
    rw [answers.expand_of_needsListing r h]
    constructor
    · rw [hlog, Activity.log_join_of_eq_ok (answers.forall_isImmediate_tagged r repos) hjoined,
        log_flatMap_tagged]
    · rw [hresult, hjoined]
      rfl

end Answers

end ClusterPlan.Image
