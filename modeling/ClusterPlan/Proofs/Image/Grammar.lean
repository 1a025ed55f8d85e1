import ClusterPlan.Proofs.Image.References

/-!
# The grammar of references

Where all defaults are set, a reference is a tag alone, a repository with a tag, or a path of two or
more segments with or without a tag. The reference that is read has the parts that are written and
the defaults for the others.

One kind of text is read beyond this grammar. A tag behind a colon, with nothing in front of it, is
read as the tag alone, although an empty repository would have to be refused as an empty segment of
a path is.
-/

namespace ClusterPlan.Image.Reference

/-- A tag that can be told from what is in front of it. -/
structure IsTagText (tag : String) : Prop where
  ne_empty : tag ≠ ""
  colon_notMem : ':' ∉ tag.toList
  slash_notMem : '/' ∉ tag.toList

/-- The text of a path. -/
def joined (segments : List String) : List Char := ['/'].intercalate (segments.map String.toList)

/-- What the segments of a path stand for. A registry is named by the first of three or more. -/
inductive Places (url tag : String) : List String → Reference → Prop
  | two {org repo} : Places url tag [org, repo] ⟨url, org, repo, tag⟩
  | more {host org repo} : '*' ∉ host.toList → repo ≠ [] →
      Places url tag (host :: org :: repo) ⟨host, org, "/".intercalate repo, tag⟩

/-- The texts of references, with the defaults `url`, `org` and `repo`. -/
inductive Derives (url org repo : String) : List Char → Reference → Prop
  | tag {tag} : IsTagText tag → Derives url org repo tag.toList ⟨url, org, repo, tag⟩
  | repository {repository tag} : IsSegment repository → IsTagText tag →
      Derives url org repo (repository.toList ++ ':' :: tag.toList) ⟨url, org, repository, tag⟩
  | path {segments r} : (∀ s ∈ segments, IsSegment s) →
      (∀ last ∈ segments.getLast?, ':' ∉ last.toList) → Places url "latest" segments r →
      Derives url org repo (joined segments) r
  | taggedPath {segments tag r} : (∀ s ∈ segments, IsSegment s) → IsTagText tag →
      Places url tag segments r → Derives url org repo (joined segments ++ ':' :: tag.toList) r

/-- Exactly what the grammar derives is read from the text. -/
def FollowsGrammar (url org repo written : String) : Prop :=
  ∀ r, parse written ⟨url, some org, some repo⟩ = .ok r ↔
    Derives url org repo (Text.trim written).toList r

/-- A tag behind a colon, with nothing in front of it. -/
def IsMarkedTag (cs : List Char) : Prop := ∃ tag, IsTagText tag ∧ cs = ':' :: tag.toList

/-! ### Paths and tags -/

section PathAndTag

variable {cs path tag front last : List Char}

theorem pathAndTag_of_notMem (hcolon : ':' ∉ cs) (hslash : '/' ∉ cs) :
    pathAndTag cs = ([], cs) := by
  rw [pathAndTag, Text.splitLast?_eq_none_iff.mpr hcolon]
  simp [hslash]

theorem pathAndTag_append_cons (hcolon : ':' ∉ tag) (hslash : '/' ∉ tag) :
    pathAndTag (path ++ ':' :: tag) = (path, tag) := by
  rw [pathAndTag, Text.splitLast?_append_cons hcolon]
  simp [hslash]

/-- A colon in front of the last slash is part of the path. -/
theorem pathAndTag_of_slash (hcolon : ':' ∉ last) :
    pathAndTag (front ++ '/' :: last) = (front ++ '/' :: last, defaultTag.toList) := by
  unfold pathAndTag
  split
  next path tag hsplit =>
    obtain ⟨hcs, -⟩ := Text.splitLast?_eq_some_iff.mp hsplit
    have hslash : '/' ∈ tag := by
      rcases List.append_eq_append_iff.mp hcs with ⟨more, -, hmore⟩ | ⟨more, -, hmore⟩
      · cases more with
        | nil => simp at hmore
        | cons c more =>
          obtain ⟨-, rfl⟩ := List.cons.inj hmore
          exact absurd (by simp) hcolon
      · cases more with
        | nil => simp at hmore
        | cons c more =>
          obtain ⟨-, rfl⟩ := List.cons.inj hmore
          simp
    rw [if_pos (by simpa using hslash)]
  next => simp

/-- A text is without colons and slashes, or it ends in a tag or in a segment. -/
theorem pathAndTag_cases (cs : List Char) :
    (':' ∉ cs ∧ '/' ∉ cs) ∨
      (∃ path tag, cs = path ++ ':' :: tag ∧ ':' ∉ tag ∧ '/' ∉ tag) ∨
      ∃ front last, cs = front ++ '/' :: last ∧ ':' ∉ last ∧ '/' ∉ last := by
  cases hslash : Text.splitLast? '/' cs with
  | none =>
    have hslash := Text.splitLast?_eq_none_iff.mp hslash
    cases hcolon : Text.splitLast? ':' cs with
    | none => exact .inl ⟨Text.splitLast?_eq_none_iff.mp hcolon, hslash⟩
    | some parted =>
      obtain ⟨rfl, htag⟩ := Text.splitLast?_eq_some_iff.mp hcolon
      exact .inr (.inl ⟨_, _, rfl, htag, fun h ↦ hslash (by simp [h])⟩)
  | some parted =>
    obtain ⟨rfl, hlast⟩ := Text.splitLast?_eq_some_iff.mp hslash
    cases hcolon : Text.splitLast? ':' parted.2 with
    | none => exact .inr (.inr ⟨_, _, rfl, Text.splitLast?_eq_none_iff.mp hcolon, hlast⟩)
    | some partedLast =>
      obtain ⟨htag, hcolon⟩ := Text.splitLast?_eq_some_iff.mp hcolon
      rw [htag] at hlast ⊢
      refine .inr (.inl ⟨parted.1 ++ '/' :: partedLast.1, _, by simp, hcolon, ?_⟩)
      exact fun h ↦ hlast (by simp [h])

end PathAndTag

/-! ### Segments -/

section Segments

variable {url org repo tag written : String} {parts : List String} {path : List Char}
  {r : Reference}

theorem isWildcard_eq_false_iff {s : String} : Glob.isWildcard s = false ↔ '*' ∉ s.toList := by
  simp [Glob.isWildcard, Glob.star]

theorem Places.ne_nil (h : Places url tag parts r) : parts ≠ [] := by
  cases h <;> exact List.cons_ne_nil _ _

theorem slash_mem_joined (h : Places url tag parts r) : '/' ∈ joined parts := by
  cases h <;> simp [joined, List.intercalate_cons_cons]

theorem joined_concat {init : List String} (hne : init ≠ []) (last : String) :
    joined (init ++ [last]) = joined init ++ '/' :: last.toList := by
  unfold joined
  induction init with
  | nil => exact absurd rfl hne
  | cons first others ih =>
    cases others with
    | nil => simp [List.intercalate_cons_cons]
    | cons second others =>
      have hrest := ih (List.cons_ne_nil _ _)
      simp only [List.cons_append, List.map_cons, List.intercalate_cons_cons] at hrest ⊢
      rw [hrest, List.append_assoc, List.append_assoc, List.append_assoc]

/-- A path is taken apart into the segments that it was joined from. -/
theorem segments_joined (h : ∀ s ∈ parts, IsSegment s) (hne : parts ≠ []) :
    segments (joined parts) = parts.map String.toList := by
  have hslash : ∀ part ∈ parts.map String.toList, '/' ∉ part := by
    rw [List.forall_mem_map]
    exact fun s hs ↦ (h s hs).slash_notMem
  have hsplit : Text.splitAt '/' (joined parts) = parts.map String.toList :=
    Text.splitAt_intercalate hslash (by simpa using hne)
  have hpath : joined parts ≠ [] := by
    intro hnil
    rw [hnil] at hsplit
    cases parts with
    | nil => exact hne rfl
    | cons first others =>
      have hfirst := (List.cons.inj hsplit).1
      exact (h first List.mem_cons_self).ne_empty (by simpa using hfirst.symm)
  rw [segments, if_neg (by simpa using hpath), hsplit]

theorem ofSegments_eq_ok_iff (hurl : '*' ∉ url.toList) (hlength : 2 ≤ parts.length) :
    (ofSegments written ⟨url, some org, some repo⟩ tag parts = .ok r ∧
        Glob.isWildcard r.url = false) ↔ Places url tag parts r := by
  match parts with
  | [] => simp at hlength
  | [_] => simp at hlength
  | [first, second] =>
    constructor
    · rintro ⟨⟨⟩, -⟩
      exact .two
    · rintro ⟨⟩
      · exact ⟨rfl, isWildcard_eq_false_iff.mpr hurl⟩
      next hrepo => exact absurd rfl hrepo
  | host :: first :: second :: others =>
    constructor
    · rintro ⟨⟨⟩, hhost⟩
      exact .more (isWildcard_eq_false_iff.mp hhost) (List.cons_ne_nil _ _)
    · rintro ⟨⟩
      next hhost _ => exact ⟨rfl, isWildcard_eq_false_iff.mpr hhost⟩

/-- The segments of a path with a slash, and what they stand for. -/
theorem ofSegments_segments_eq_ok_iff (hurl : '*' ∉ url.toList) (hslash : '/' ∈ path) :
    ((segments path).any (·.isEmpty) = false ∧
        ofSegments written ⟨url, some org, some repo⟩ tag ((segments path).map String.ofList) =
          .ok r ∧ Glob.isWildcard r.url = false) ↔
      ∃ parts, path = joined parts ∧ (∀ s ∈ parts, IsSegment s) ∧ Places url tag parts r := by
  constructor
  · rintro ⟨hempty, hread⟩
    have hne : path.isEmpty = false := by
      cases path with
      | nil => cases hslash
      | cons => rfl
    have hsplit : segments path = Text.splitAt '/' path := by rw [segments, hne]; rfl
    have hjoined : path = joined ((segments path).map String.ofList) := by
      have hparts : ((segments path).map String.ofList).map String.toList = segments path := by simp
      rw [joined, hparts, hsplit, Text.intercalate_splitAt]
    have hlength : 2 ≤ ((segments path).map String.ofList).length := by
      rw [List.length_map, hsplit]
      exact Text.two_le_length_splitAt hslash
    exact ⟨_, hjoined, isSegment_of_mem_segments hempty, (ofSegments_eq_ok_iff hurl hlength).mp hread⟩
  · rintro ⟨parts, rfl, hparts, hplaces⟩
    have hlength : 2 ≤ parts.length := by
      cases hplaces <;> simp
    have hsame : (parts.map String.toList).map String.ofList = parts := by simp
    rw [segments_joined hparts hplaces.ne_nil, hsame]
    refine ⟨?_, (ofSegments_eq_ok_iff hurl hlength).mpr hplaces⟩
    rw [List.any_eq_false]
    intro part hpart
    obtain ⟨s, hs, rfl⟩ := List.mem_map.mp hpart
    simpa using (hparts s hs).ne_empty

end Segments

/-! ### Reading -/

section Parse

variable {url org repo written tag : String} {r : Reference} {defaults : Defaults}

/-- What is read, once the path and the tag are told apart. -/
theorem parse_eq_ok_iff_of_pathAndTag {path : List Char}
    (h : pathAndTag (Text.trim written).toList = (path, tag.toList)) :
    parse written defaults = .ok r ↔
      tag ≠ "" ∧ (segments path).any (·.isEmpty) = false ∧
        ofSegments (Text.trim written) defaults tag ((segments path).map String.ofList) = .ok r ∧
        Glob.isWildcard r.url = false := by
  constructor
  · intro hread
    have hparts := exists_of_parseTrimmed hread
    rw [h, String.ofList_toList] at hparts
    exact ⟨by simpa using hparts.1, hparts.2⟩
  · rintro ⟨htag, hsegments, hread, hurl⟩
    have hwritten : (Text.trim written).isEmpty = false := by
      by_contra hempty
      have hnil : (Text.trim written).toList = [] := by simpa using hempty
      have hnothing : pathAndTag [] = ([], []) := by decide
      rw [hnil, hnothing] at h
      exact htag (by simpa using (Prod.mk.inj h).2.symm)
    have htag' : tag.toList.isEmpty = false := by simpa using htag
    rw [parse, parseTrimmed, h]
    dsimp only
    rw [hwritten, htag', hsegments, String.ofList_toList, hread]
    simp [hurl]

theorem Places.exists_concat {parts : List String} (h : Places url tag parts r) :
    ∃ init last, parts = init ++ [last] ∧ init ≠ [] := by
  refine ⟨parts.dropLast, parts.getLast h.ne_nil, (List.dropLast_append_getLast h.ne_nil).symm, ?_⟩
  cases h <;> simp

theorem segments_of_isSegment {s : String} (h : IsSegment s) : segments s.toList = [s.toList] := by
  have hne : s.toList.isEmpty = false := by simpa using h.ne_empty
  rw [segments, hne, if_neg Bool.false_ne_true, Text.splitAt_of_notMem h.slash_notMem]

/-- What the grammar derives is read. -/
theorem parse_of_derives (hurl : '*' ∉ url.toList)
    (h : Derives url org repo (Text.trim written).toList r) :
    parse written ⟨url, some org, some repo⟩ = .ok r := by
  have hwildcard := isWildcard_eq_false_iff.mpr hurl
  generalize hcs : (Text.trim written).toList = cs at h
  cases h with
  | @tag tag htag =>
    have hparted : pathAndTag (Text.trim written).toList = ([], tag.toList) := by
      rw [hcs]
      exact pathAndTag_of_notMem htag.colon_notMem htag.slash_notMem
    exact (parse_eq_ok_iff_of_pathAndTag hparted).mpr ⟨htag.ne_empty, rfl, rfl, hwildcard⟩
  | @repository repository tag hrepository htag =>
    have hparted : pathAndTag (Text.trim written).toList = (repository.toList, tag.toList) := by
      rw [hcs]
      exact pathAndTag_append_cons htag.colon_notMem htag.slash_notMem
    refine (parse_eq_ok_iff_of_pathAndTag hparted).mpr ⟨htag.ne_empty, ?_⟩
    rw [segments_of_isSegment hrepository]
    exact ⟨by simpa using hrepository.ne_empty, by simp [ofSegments], hwildcard⟩
  | @path parts r hparts hlast hplaces =>
    obtain ⟨init, last, rfl, hinit⟩ := hplaces.exists_concat
    have hcolon : ':' ∉ last.toList := hlast last (by simp)
    have hparted : pathAndTag (Text.trim written).toList =
        (joined (init ++ [last]), defaultTag.toList) := by
      rw [hcs, joined_concat hinit]
      exact pathAndTag_of_slash hcolon
    exact (parse_eq_ok_iff_of_pathAndTag hparted).mpr ⟨by decide,
      (ofSegments_segments_eq_ok_iff hurl (slash_mem_joined hplaces)).mpr
        ⟨_, rfl, hparts, hplaces⟩⟩
  | @taggedPath parts tag r hparts htag hplaces =>
    have hparted : pathAndTag (Text.trim written).toList = (joined parts, tag.toList) := by
      rw [hcs]
      exact pathAndTag_append_cons htag.colon_notMem htag.slash_notMem
    exact (parse_eq_ok_iff_of_pathAndTag hparted).mpr ⟨htag.ne_empty,
      (ofSegments_segments_eq_ok_iff hurl (slash_mem_joined hplaces)).mpr
        ⟨parts, rfl, hparts, hplaces⟩⟩

theorem parse_of_isMarkedTag (hurl : '*' ∉ url.toList) (htag : IsTagText tag)
    (h : (Text.trim written).toList = ':' :: tag.toList) :
    parse written ⟨url, some org, some repo⟩ = .ok ⟨url, org, repo, tag⟩ := by
  have hparted : pathAndTag (Text.trim written).toList = ([], tag.toList) := by
    rw [h, ← List.nil_append (':' :: tag.toList)]
    exact pathAndTag_append_cons htag.colon_notMem htag.slash_notMem
  exact (parse_eq_ok_iff_of_pathAndTag hparted).mpr
    ⟨htag.ne_empty, rfl, rfl, isWildcard_eq_false_iff.mpr hurl⟩

/-- In front of the mark of a tag stands a path or a repository, if there is anything. -/
theorem derives_or_eq_nil_of_tagged {path : List Char} (hurl : '*' ∉ url.toList)
    (htag : IsTagText tag)
    (hread : (segments path).any (·.isEmpty) = false ∧
      ofSegments written ⟨url, some org, some repo⟩ tag ((segments path).map String.ofList) =
        .ok r ∧ Glob.isWildcard r.url = false) :
    Derives url org repo (path ++ ':' :: tag.toList) r ∨ path = [] := by
  by_cases hpath : path = []
  · exact .inr hpath
  · left
    by_cases hslash : '/' ∈ path
    · obtain ⟨parts, rfl, hparts, hplaces⟩ := (ofSegments_segments_eq_ok_iff hurl hslash).mp hread
      exact .taggedPath hparts htag hplaces
    · obtain ⟨repository, rfl⟩ : ∃ s : String, path = s.toList := ⟨String.ofList path, by simp⟩
      have hrepository : IsSegment repository := ⟨by simpa using hpath, hslash⟩
      rw [segments_of_isSegment hrepository] at hread
      obtain ⟨-, hplaced, -⟩ := hread
      simp only [List.map_cons, List.map_nil, String.ofList_toList, ofSegments,
        Except.ok.injEq] at hplaced
      exact hplaced ▸ .repository hrepository htag

/-- Without a tag there is no colon behind the last slash, and so none in the last segment. -/
theorem derives_of_untagged {front last : List Char} (hurl : '*' ∉ url.toList)
    (hcolon : ':' ∉ last) (hlast : '/' ∉ last)
    (hread : (segments (front ++ '/' :: last)).any (·.isEmpty) = false ∧
      ofSegments written ⟨url, some org, some repo⟩ "latest"
          ((segments (front ++ '/' :: last)).map String.ofList) = .ok r ∧
        Glob.isWildcard r.url = false) :
    Derives url org repo (front ++ '/' :: last) r := by
  obtain ⟨parts, hjoined, hparts, hplaces⟩ :=
    (ofSegments_segments_eq_ok_iff hurl (by simp)).mp hread
  obtain ⟨init, final, rfl, hinit⟩ := hplaces.exists_concat
  have hfinal : '/' ∉ final.toList := (hparts final (by simp)).slash_notMem
  have hsplit := Text.splitLast?_append_cons hlast front
  rw [hjoined, joined_concat hinit, Text.splitLast?_append_cons hfinal] at hsplit
  obtain ⟨-, rfl⟩ := Prod.mk.inj (Option.some.inj hsplit)
  rw [hjoined]
  exact .path hparts (by simpa using hcolon) hplaces

/-- What is read is derived by the grammar, or it is a tag behind a colon. -/
theorem derives_or_isMarkedTag_of_parse (hurl : '*' ∉ url.toList)
    (h : parse written ⟨url, some org, some repo⟩ = .ok r) :
    Derives url org repo (Text.trim written).toList r ∨ IsMarkedTag (Text.trim written).toList := by
  rcases pathAndTag_cases (Text.trim written).toList with
    ⟨hcolon, hslash⟩ | ⟨path, tag, hcs, hcolon, hslash⟩ | ⟨front, last, hcs, hcolon, hlast⟩
  · have hparted := pathAndTag_of_notMem hcolon hslash
    obtain ⟨hne, -, hread, -⟩ := (parse_eq_ok_iff_of_pathAndTag hparted).mp h
    cases hread
    exact .inl (.tag ⟨hne, hcolon, hslash⟩)
  · obtain ⟨tag, rfl⟩ : ∃ s : String, tag = s.toList := ⟨String.ofList tag, by simp⟩
    have hparted : pathAndTag (path ++ ':' :: tag.toList) = (path, tag.toList) :=
      pathAndTag_append_cons hcolon hslash
    rw [← hcs] at hparted
    obtain ⟨hne, hread⟩ := (parse_eq_ok_iff_of_pathAndTag hparted).mp h
    have htag : IsTagText tag := ⟨hne, hcolon, hslash⟩
    rw [hcs]
    refine (derives_or_eq_nil_of_tagged hurl htag hread).imp_right ?_
    rintro rfl
    exact ⟨tag, htag, List.nil_append _⟩
  · have hparted : pathAndTag (front ++ '/' :: last) = (front ++ '/' :: last, defaultTag.toList) :=
      pathAndTag_of_slash hcolon
    rw [← hcs] at hparted
    obtain ⟨-, hread⟩ := (parse_eq_ok_iff_of_pathAndTag hparted).mp h
    rw [hcs] at hread ⊢
    exact .inl (derives_of_untagged hurl hcolon hlast hread)

/-- A marked tag is no text of the grammar. -/
theorem IsMarkedTag.not_derives {cs : List Char} (h : IsMarkedTag cs) :
    ¬Derives url org repo cs r := by
  obtain ⟨marked, hmarked, rfl⟩ := h
  generalize hcs : ':' :: marked.toList = cs
  rintro ⟨⟩
  next tag htag => exact htag.colon_notMem (hcs ▸ List.mem_cons_self)
  next repository tag hrepository htag =>
    cases hrest : repository.toList with
    | nil => exact hrepository.ne_empty (by simpa using hrest)
    | cons c rest =>
      rw [hrest] at hcs
      have hcolon : ':' ∈ marked.toList := by simp [(List.cons.inj hcs).2]
      exact hmarked.colon_notMem hcolon
  next parts hparts hlast hplaces =>
    have hslash := slash_mem_joined hplaces
    rw [← hcs] at hslash
    exact hmarked.slash_notMem (by simpa using hslash)
  next parts tag hparts htag hplaces =>
    have hslash : '/' ∈ ':' :: marked.toList := by
      rw [hcs]
      exact List.mem_append_left _ (slash_mem_joined hplaces)
    exact hmarked.slash_notMem (by simpa using hslash)

end Parse

/-- With all defaults set the grammar is followed, except where the text is a tag behind a colon. -/
theorem followsGrammar_iff {url org repo written : String} (hurl : '*' ∉ url.toList) :
    FollowsGrammar url org repo written ↔ ¬IsMarkedTag (Text.trim written).toList := by
  constructor
  · rintro hfollows ⟨tag, htag, hcs⟩
    have hderives := (hfollows _).mp (parse_of_isMarkedTag hurl htag hcs)
    exact IsMarkedTag.not_derives ⟨tag, htag, hcs⟩ hderives
  · intro hmarked r
    constructor
    · exact fun hread ↦ (derives_or_isMarkedTag_of_parse hurl hread).resolve_right hmarked
    · exact parse_of_derives hurl

/-- The empty repository in front of the tag is not refused. -/
theorem not_followsGrammar_emptyRepository :
    '*' ∉ "ghcr.io".toList ∧
      parse ":v1" ⟨"ghcr.io", some "acme", some "shop"⟩ = .ok ⟨"ghcr.io", "acme", "shop", "v1"⟩ ∧
      ¬FollowsGrammar "ghcr.io" "acme" "shop" ":v1" := by
  have hurl : '*' ∉ "ghcr.io".toList := by decide
  refine ⟨hurl, ?_, fun hfollows ↦ (followsGrammar_iff hurl).mp hfollows ?_⟩
  · apply Except.eq_ok_of_toOption
    decide +kernel
  · exact ⟨"v1", ⟨by decide, by decide, by decide⟩, by decide +kernel⟩

end ClusterPlan.Image.Reference
