import ClusterPlan.Image.Reference
import ClusterPlan.Proofs.Except
import ClusterPlan.Proofs.Text.Parts

/-!
# Texts of references

The text of a reference names all of its parts, so it is read back as the same reference whatever
the defaults are. For that each part must be found in its place: a host and an organization without
slashes, a repository without empty segments, and a tag without colons and slashes, which does not
end in a blank. Every reference that is read is of this kind if the parts that defaults give it are.
-/

namespace ClusterPlan.Image

/-- One segment of a path. -/
structure IsSegment (s : String) : Prop where
  ne_empty : s ≠ ""
  slash_notMem : '/' ∉ s.toList

theorem IsSegment.nil_notMem_splitAt {s : String} (h : IsSegment s) :
    [] ∉ Text.splitAt '/' s.toList := by
  rw [Text.splitAt_of_notMem h.slash_notMem, List.mem_singleton]
  simpa using h.ne_empty.symm

/-- Defaults that can stand in the text of a reference. -/
structure Defaults.Fit (d : Defaults) : Prop where
  url : IsSegment d.url
  first_url : ∀ c ∈ d.url.toList.head?, Text.isBlank c = false
  org : ∀ org ∈ d.org, IsSegment org
  repo : ∀ repo ∈ d.repo, [] ∉ Text.splitAt '/' repo.toList

namespace Reference

/-- What can stand behind the last colon of a reference. -/
structure IsTag (cs : List Char) : Prop where
  colon_notMem : ':' ∉ cs
  slash_notMem : '/' ∉ cs
  last : ∀ c ∈ cs.getLast?, Text.isBlank c = false

/-- All parts are found in their places of the text. -/
structure IsFull (r : Reference) : Prop where
  url : IsSegment r.url
  first_url : ∀ c ∈ r.url.toList.head?, Text.isBlank c = false
  isWildcard_url : Glob.isWildcard r.url = false
  org : IsSegment r.org
  repo : [] ∉ Text.splitAt '/' r.repo.toList
  tag_ne_empty : r.tag ≠ ""
  tag : IsTag r.tag.toList

def path (r : Reference) : List Char := r.url.toList ++ '/' :: (r.org.toList ++ '/' :: r.repo.toList)

theorem toList_text (r : Reference) : r.text.toList = r.path ++ ':' :: r.tag.toList := by
  have hslash : "/".toList = ['/'] := rfl
  have hcolon : ":".toList = [':'] := rfl
  simp [text, path, hslash, hcolon]

/-! ### Reading a text back -/

section Back

variable {r : Reference}

theorem IsFull.segments_path (h : r.IsFull) :
    segments r.path = r.url.toList :: r.org.toList :: Text.splitAt '/' r.repo.toList := by
  have hne : r.path.isEmpty = false := by simp [path]
  rw [segments, hne, if_neg Bool.false_ne_true, path, Text.splitAt_append_cons,
    Text.splitAt_append_cons, Text.splitAt_of_notMem h.url.slash_notMem,
    Text.splitAt_of_notMem h.org.slash_notMem]
  rfl

theorem IsFull.pathAndTag_text (h : r.IsFull) :
    pathAndTag r.text.toList = (r.path, r.tag.toList) := by
  rw [pathAndTag, toList_text, Text.splitLast?_append_cons h.tag.colon_notMem]
  simp [h.tag.slash_notMem]

theorem IsFull.isTrimmed_text (h : r.IsFull) : Text.IsTrimmed r.text.toList := by
  have hurl : r.url.toList ≠ [] := by simpa using h.url.ne_empty
  have htag : r.tag.toList ≠ [] := by simpa using h.tag_ne_empty
  rw [toList_text]
  constructor
  · rw [path, List.append_assoc, List.head?_append_of_ne_nil _ hurl]
    exact h.first_url
  · rw [List.getLast?_append_of_ne_nil _ (List.cons_ne_nil _ _), List.getLast?_cons_of_ne_nil htag]
    exact h.tag.last

theorem intercalate_map_ofList (parts : List (List Char)) :
    ("/".intercalate (parts.map String.ofList)).toList = ['/'].intercalate parts := by
  have hslash : "/".toList = ['/'] := rfl
  have hparts : (parts.map String.ofList).map String.toList = parts := by simp
  rw [String.toList_intercalate, hslash, hparts]

theorem ofSegments_splitAt (written url org repo tag : String) (defaults : Defaults) :
    ofSegments written defaults tag
        (url :: org :: (Text.splitAt '/' repo.toList).map String.ofList) =
      .ok ⟨url, org, repo, tag⟩ := by
  have hrepo : "/".intercalate ((Text.splitAt '/' repo.toList).map String.ofList) = repo := by
    rw [← String.toList_inj, intercalate_map_ofList, Text.intercalate_splitAt]
  cases hsplit : Text.splitAt '/' repo.toList with
  | nil => exact absurd hsplit (Text.splitAt_ne_nil _)
  | cons first others =>
    rw [hsplit, List.map_cons] at hrepo
    rw [List.map_cons, ofSegments, hrepo]
    exact List.cons_ne_nil _ _

/-- The text of a full reference is read as the reference, whatever the defaults are. -/
theorem IsFull.parse_text (h : r.IsFull) (defaults : Defaults) :
    parse r.text defaults = .ok r := by
  have hempty : r.text.isEmpty = false := by simp [text]
  have htag : r.tag.toList.isEmpty = false := by simpa using h.tag_ne_empty
  have hsegments : (segments r.path).any (·.isEmpty) = false := by
    have hparts : ∀ part ∈ Text.splitAt '/' r.repo.toList, part.isEmpty = false := by
      intro part hpart
      rw [List.isEmpty_eq_false_iff]
      exact fun hnil ↦ h.repo (hnil ▸ hpart)
    rw [h.segments_path]
    simpa [h.url.ne_empty, h.org.ne_empty] using hparts
  rw [parse, Text.trim_eq_self h.isTrimmed_text, parseTrimmed, h.pathAndTag_text]
  dsimp only
  rw [hempty, htag, hsegments, h.segments_path, List.map_cons, List.map_cons, String.ofList_toList,
    String.ofList_toList, String.ofList_toList, ofSegments_splitAt]
  simp [h.isWildcard_url]

end Back

/-! ### What is read -/

section Read

variable {cs path tag : List Char}

theorem isTag_defaultTag : IsTag defaultTag.toList := by
  refine ⟨by decide, by decide, ?_⟩
  intro c hc
  have hlast : defaultTag.toList.getLast? = some 't' := rfl
  obtain rfl := Option.some.inj (hlast.symm.trans (Option.mem_def.mp hc))
  rfl

theorem isTag_pathAndTag (h : Text.IsTrimmed cs) : IsTag (pathAndTag cs).2 := by
  unfold pathAndTag
  split
  next path tag hsplit =>
    obtain ⟨rfl, hcolon⟩ := Text.splitLast?_eq_some_iff.mp hsplit
    split
    next => exact isTag_defaultTag
    next hslash =>
      refine ⟨hcolon, by simpa using hslash, fun c hc ↦ h.last c ?_⟩
      have htag : tag ≠ [] := fun hnil ↦ by simp [hnil] at hc
      rwa [List.getLast?_append_of_ne_nil _ (List.cons_ne_nil _ _),
        List.getLast?_cons_of_ne_nil htag]
  next hsplit =>
    split
    next => exact isTag_defaultTag
    next hslash => exact ⟨Text.splitLast?_eq_none_iff.mp hsplit, by simpa using hslash, h.last⟩

theorem path_isPrefix (cs : List Char) : (pathAndTag cs).1 <+: cs := by
  unfold pathAndTag
  split
  next path tag hsplit =>
    obtain ⟨rfl, -⟩ := Text.splitLast?_eq_some_iff.mp hsplit
    split
    · exact List.prefix_rfl
    · exact List.prefix_append _ _
  next =>
    split
    · exact List.prefix_rfl
    · exact List.nil_prefix

theorem isSegment_of_mem_segments (h : (segments path).any (·.isEmpty) = false) :
    ∀ part ∈ (segments path).map String.ofList, IsSegment part := by
  rw [List.forall_mem_map]
  intro part hpart
  constructor
  · have hne := (List.any_eq_false.mp h) part hpart
    simpa using hne
  · rw [String.toList_ofList]
    unfold segments at hpart
    split at hpart
    · cases hpart
    · exact Text.separator_notMem_of_mem_splitAt hpart

/-- A path begins with its first segment. -/
theorem head?_of_head?_segments {part : List Char} (h : part ∈ (segments path).head?)
    (hne : part ≠ []) : part.head? = path.head? := by
  unfold segments at h
  split at h
  · cases h
  · cases path with
    | nil => simp_all
    | cons c rest =>
      rw [Text.splitAt] at h
      split at h
      · cases h
        exact absurd rfl hne
      · split at h
        · cases h
          rfl
        · cases h
          rfl

theorem nil_notMem_splitAt_intercalate {parts : List String}
    (h : ∀ part ∈ parts, IsSegment part) (hne : parts ≠ []) :
    [] ∉ Text.splitAt '/' ("/".intercalate parts).toList := by
  have hslash : "/".toList = ['/'] := rfl
  have hparts : ∀ part ∈ parts.map String.toList, '/' ∉ part := by
    rw [List.forall_mem_map]
    exact fun part hpart ↦ (h part hpart).slash_notMem
  rw [String.toList_intercalate, hslash, Text.splitAt_intercalate hparts (by simpa using hne)]
  intro hnil
  obtain ⟨part, hpart, hempty⟩ := List.mem_map.mp hnil
  exact (h part hpart).ne_empty (by simpa using hempty)

variable {defaults : Defaults} {r : Reference}

theorem isFull_of_ofSegments (hdefaults : defaults.Fit) {written tag : String}
    {parts : List String} (hparts : ∀ part ∈ parts, IsSegment part)
    (hfirst : ∀ part ∈ parts.head?, ∀ c ∈ part.toList.head?, Text.isBlank c = false)
    (hne : tag ≠ "") (htag : IsTag tag.toList)
    (h : ofSegments written defaults tag parts = .ok r) (hurl : Glob.isWildcard r.url = false) :
    r.IsFull := by
  unfold ofSegments at h
  split at h
  next =>
    split at h
    next => cases h
    next => cases h
    next org repo horg hrepo =>
      obtain rfl := Except.ok.inj h
      exact ⟨hdefaults.url, hdefaults.first_url, hurl, hdefaults.org org horg,
        hdefaults.repo repo hrepo, hne, htag⟩
  next repo =>
    split at h
    next => cases h
    next org horg =>
      obtain rfl := Except.ok.inj h
      have hrepo : IsSegment repo := hparts repo (by simp)
      exact ⟨hdefaults.url, hdefaults.first_url, hurl, hdefaults.org org horg,
        hrepo.nil_notMem_splitAt, hne, htag⟩
  next org repo =>
    obtain rfl := Except.ok.inj h
    have hrepo : IsSegment repo := hparts repo (by simp)
    exact ⟨hdefaults.url, hdefaults.first_url, hurl, hparts org (by simp),
      hrepo.nil_notMem_splitAt, hne, htag⟩
  next url org repo hrepo =>
    obtain rfl := Except.ok.inj h
    refine ⟨hparts url (by simp), hfirst url rfl, hurl, hparts org (by simp), ?_, hne, htag⟩
    apply nil_notMem_splitAt_intercalate
    · exact fun part hpart ↦ hparts part (by simp [hpart])
    · exact hrepo

theorem exists_of_parseTrimmed {written : String} (h : parseTrimmed written defaults = .ok r) :
    (pathAndTag written.toList).2 ≠ [] ∧
      (segments (pathAndTag written.toList).1).any (·.isEmpty) = false ∧
      ofSegments written defaults (String.ofList (pathAndTag written.toList).2)
        ((segments (pathAndTag written.toList).1).map String.ofList) = .ok r ∧
      Glob.isWildcard r.url = false := by
  unfold parseTrimmed at h
  dsimp only at h
  split at h
  next => cases h
  split at h
  next => cases h
  next htag =>
    split at h
    next => cases h
    next hsegments =>
      split at h
      next => cases h
      next read hread =>
        split at h
        next => cases h
        next hurl =>
          obtain rfl := Except.ok.inj h
          exact ⟨by simpa using htag, (Bool.not_eq_true _).mp hsegments, hread, by simpa using hurl⟩

theorem isFull_of_parse (hdefaults : defaults.Fit) {written : String}
    (h : parse written defaults = .ok r) : r.IsFull := by
  have htrimmed := Text.isTrimmed_trim written
  obtain ⟨hne, hsegments, hread, hurl⟩ := exists_of_parseTrimmed h
  have hparts := isSegment_of_mem_segments hsegments
  have htag : IsTag (String.ofList (pathAndTag (Text.trim written).toList).2).toList := by
    rw [String.toList_ofList]
    exact isTag_pathAndTag htrimmed
  apply isFull_of_ofSegments hdefaults hparts _ (by simpa using hne) htag hread hurl
  intro part hpart c hc
  rw [List.head?_map] at hpart
  obtain ⟨first, hfirst, rfl⟩ := Option.map_eq_some_iff.mp hpart
  have hfirst' : first ≠ [] := by
    intro hnil
    simp [hnil] at hc
  rw [String.toList_ofList, head?_of_head?_segments hfirst hfirst'] at hc
  obtain ⟨ending, hending⟩ := path_isPrefix (Text.trim written).toList
  apply htrimmed.first c
  rw [← hending, List.head?_append, Option.mem_def.mp hc]
  rfl

end Read

/-- What is read is read again from its text, whatever the defaults are then. -/
theorem parse_text_of_parse {defaults : Defaults} (hdefaults : defaults.Fit) {written : String}
    {r : Reference} (h : parse written defaults = .ok r) (others : Defaults) :
    parse r.text others = .ok r :=
  (isFull_of_parse hdefaults h).parse_text others

/-- A colon with a port, blanks around and inside, and a repository of the defaults with several
segments. -/
theorem parse_text_of_parse_nested :
    (⟨"localhost:5000", some "team a", some "shop/web"⟩ : Defaults).Fit ∧
      parse "\tv1 *\n" ⟨"localhost:5000", some "team a", some "shop/web"⟩ =
        .ok ⟨"localhost:5000", "team a", "shop/web", "v1 *"⟩ ∧
      parse (text ⟨"localhost:5000", "team a", "shop/web", "v1 *"⟩) ⟨"", none, none⟩ =
        .ok ⟨"localhost:5000", "team a", "shop/web", "v1 *"⟩ := by
  have hdefaults : (⟨"localhost:5000", some "team a", some "shop/web"⟩ : Defaults).Fit := by
    refine ⟨⟨by decide, by decide⟩, ?_, ?_, ?_⟩
    · intro c hc
      obtain rfl := Option.some.inj (Option.mem_def.mp hc)
      rfl
    · intro org horg
      obtain rfl := Option.some.inj horg
      exact ⟨by decide, by decide⟩
    · intro repo hrepo
      obtain rfl := Option.some.inj hrepo
      decide
  have hread : parse "\tv1 *\n" ⟨"localhost:5000", some "team a", some "shop/web"⟩ =
      .ok ⟨"localhost:5000", "team a", "shop/web", "v1 *"⟩ := by
    apply Except.eq_ok_of_toOption
    decide +kernel
  exact ⟨hdefaults, hread, parse_text_of_parse hdefaults hread _⟩

end Reference

end ClusterPlan.Image
