import ClusterPlan.Files.Path
import ClusterPlan.Proofs.Text.Parts
import Mathlib.Data.List.Basic
import Mathlib.Data.List.Infix

/-!
# Paths and their parents

A file name put behind a directory is one more name of the path, the last one. Files of different
names in one directory have different paths.

The parent of a path names nothing that the path itself does not: its names are the first names of
the path, and it starts where the path does. The parent of a file name behind a named directory is
the directory as it is written.
-/

namespace ClusterPlan

namespace Path

/-- A name of a file: nothing that a path takes apart or passes over. -/
structure IsName (name : String) : Prop where
  slash : '/' ∉ name.toList
  ne_empty : name ≠ ""
  ne_point : name ≠ "."

/-- A name that leads from a directory into the directory. -/
structure IsFileName (name : String) : Prop extends IsName name where
  ne_parent : name ≠ ".."

instance (name : String) : Decidable (IsFileName name) :=
  decidable_of_iff ('/' ∉ name.toList ∧ name ≠ "" ∧ name ≠ "." ∧ name ≠ "..")
    ⟨fun ⟨hslash, hempty, hpoint, hparent⟩ ↦ ⟨⟨hslash, hempty, hpoint⟩, hparent⟩,
      fun h ↦ ⟨h.slash, h.ne_empty, h.ne_point, h.ne_parent⟩⟩

theorem isFileName_append {name suffix : String} (hname : '/' ∉ name.toList)
    (hsuffix : '/' ∉ suffix.toList) {last : Char} (hlast : suffix.toList.getLast? = some last)
    (hpoint : last ≠ '.') : IsFileName (name ++ suffix) := by
  have happend : (name ++ suffix).toList.getLast? = some last := by
    rw [String.toList_append, List.getLast?_append, hlast, Option.some_or]
  have hne {other : String} (hother : other.toList.getLast? ≠ some last) : name ++ suffix ≠ other :=
    fun heq ↦ hother (heq ▸ happend)
  have hlast' : some '.' ≠ some last := fun heq ↦ hpoint (Option.some.inj heq).symm
  refine ⟨⟨?_, hne nofun, hne hlast'⟩, hne hlast'⟩
  rw [String.toList_append, List.mem_append, not_or]
  exact ⟨hname, hsuffix⟩

section Join

variable {base name : String}

theorem IsName.isAbsolute (h : IsName name) : isAbsolute name = false := by
  rw [Path.isAbsolute, beq_eq_false_iff_ne]
  intro hhead
  exact h.slash (List.mem_of_head? hhead)

theorem IsName.names (h : IsName name) : Path.names name = [name] := by
  rw [Path.names, Text.splitAt_of_notMem h.slash, List.map_singleton, String.ofList_toList]
  simp [h.ne_empty, h.ne_point]

theorem names_append_slash (front back : String) :
    names (front ++ "/" ++ back) = names front ++ names back := by
  have hslash : "/".toList = ['/'] := rfl
  rw [names, String.toList_append, String.toList_append, hslash, List.append_assoc,
    List.singleton_append, Text.splitAt_append_cons, List.map_append, List.filter_append]
  rfl

theorem exists_of_endsWithSlash (h : base.toList.getLast? = some '/') :
    ∃ front, base = front ++ "/" := by
  obtain ⟨cs, hcs⟩ := List.getLast?_eq_some_iff.mp h
  refine ⟨String.ofList cs, ?_⟩
  rw [← String.toList_inj, hcs, String.toList_append, String.toList_ofList]
  rfl

/-- A name behind a directory is the last name of the path. -/
theorem names_join (base : String) (h : IsName name) :
    names (join base name) = names base ++ [name] := by
  have hnone : names "" = [] := rfl
  unfold join
  rw [h.isAbsolute, Bool.false_or]
  split
  next hempty =>
    rw [String.isEmpty_iff.mp hempty, hnone, h.names, List.nil_append]
  next =>
    split
    next hlast =>
      obtain ⟨front, rfl⟩ := exists_of_endsWithSlash (beq_iff_eq.mp hlast)
      have hfront : names (front ++ "/") = names front ++ names "" := by
        rw [← names_append_slash, String.append_empty]
      rw [names_append_slash, hfront, hnone, List.append_nil, h.names]
    next => rw [names_append_slash, h.names]

/-- A name behind a directory does not make the path start elsewhere. -/
theorem isAbsolute_join (base : String) (h : IsName name) :
    isAbsolute (join base name) = isAbsolute base := by
  have hhead (back : String) (hbase : base.toList ≠ []) :
      isAbsolute (base ++ back) = isAbsolute base := by
    rw [isAbsolute, String.toList_append, List.head?_append_of_ne_nil _ hbase, isAbsolute]
  unfold join
  rw [h.isAbsolute, Bool.false_or]
  split
  next hempty =>
    rw [String.isEmpty_iff.mp hempty, h.isAbsolute]
    rfl
  next hempty =>
    have hbase : base.toList ≠ [] := by simpa using hempty
    split
    next => exact hhead name hbase
    next => rw [String.append_assoc, hhead _ hbase]

theorem join_injective {other : String} (hname : isAbsolute name = false)
    (hother : isAbsolute other = false) (h : join base name = join base other) : name = other := by
  unfold join at h
  rw [hname, hother] at h
  split at h
  next => exact h
  next =>
    split at h
    · exact (String.append_right_inj _).mp h
    · exact (String.append_right_inj _).mp h

end Join

/-! ### Parents -/

theorem names_ofList_append_cons (front back : List Char) :
    names (String.ofList (front ++ '/' :: back)) =
      names (String.ofList front) ++ names (String.ofList back) := by
  rw [← names_append_slash]
  congr 1
  simp [← String.toList_inj]

theorem names_ofList_append_slash (front : List Char) :
    names (String.ofList (front ++ ['/'])) = names (String.ofList front) := by
  have hnone : names (String.ofList []) = [] := rfl
  rw [names_ofList_append_cons, hnone, List.append_nil]

theorem isAbsolute_ofList_reverse (reversed : List Char) :
    isAbsolute (String.ofList reversed.reverse) = (reversed.getLast? == some '/') := by
  rw [isAbsolute, String.toList_ofList, List.head?_reverse]

section CutNothing

theorem names_cutNothing (reversed : List Char) :
    names (String.ofList (cutNothing reversed).reverse) =
      names (String.ofList reversed.reverse) := by
  fun_induction cutNothing reversed with
  | case1 => rfl
  | case2 rest _ ih => rw [ih, List.reverse_cons, names_ofList_append_slash]
  | case3 => rfl
  | case4 rest _ ih =>
    have hpoint : names (String.ofList ['.']) = [] := by decide
    rw [ih, List.reverse_cons, List.reverse_cons, List.append_assoc, List.singleton_append,
      names_ofList_append_cons, hpoint, List.append_nil]
  | case5 => rfl

/-- A slash that begins the path is not cut off. -/
theorem getLast?_cutNothing (reversed : List Char) :
    (cutNothing reversed).getLast? = reversed.getLast? := by
  fun_induction cutNothing reversed with
  | case1 => rfl
  | case2 rest hrest ih =>
    rw [ih]
    cases rest with
    | nil => exact absurd rfl hrest
    | cons c rest => rw [List.getLast?_cons_cons]
  | case3 => rfl
  | case4 rest hrest ih =>
    rw [ih]
    cases rest with
    | nil => exact absurd rfl hrest
    | cons c rest => rw [List.getLast?_cons_cons, List.getLast?_cons_cons]
  | case5 => rfl

end CutNothing

/-- What stands before the last slash. -/
theorem names_dropWhile_isPrefix (reversed : List Char) :
    names (String.ofList (reversed.dropWhile fun c ↦ c != '/').reverse) <+:
      names (String.ofList reversed.reverse) := by
  have hsplit := List.takeWhile_append_dropWhile (p := fun c : Char ↦ c != '/') (l := reversed)
  cases hrest : reversed.dropWhile fun c ↦ c != '/' with
  | nil => exact List.nil_prefix
  | cons c rest =>
    have hslash : c = '/' := by
      have hc := List.head?_dropWhile_not (fun c : Char ↦ c != '/') reversed
      rw [hrest] at hc
      simpa using hc
    rw [hrest, hslash] at hsplit
    rw [← hsplit, hslash, List.reverse_append, List.reverse_cons, List.append_assoc,
      List.singleton_append, names_ofList_append_slash, names_ofList_append_cons]
    exact List.prefix_append _ _

theorem isAbsolute_dropWhile (reversed : List Char) :
    isAbsolute (String.ofList (reversed.dropWhile fun c ↦ c != '/').reverse) =
      isAbsolute (String.ofList reversed.reverse) := by
  rw [isAbsolute_ofList_reverse, isAbsolute_ofList_reverse]
  induction reversed with
  | nil => rfl
  | cons c rest ih =>
    rw [List.dropWhile_cons]
    split
    next hc =>
      rw [ih]
      cases rest with
      | nil =>
        have hne : c ≠ '/' := by simpa using hc
        simp [hne]
      | cons d rest => rw [List.getLast?_cons_cons]
    next => rfl

section Parent

variable {path parent : String}

theorem exists_of_parent? (h : parent? path = some parent) :
    parent = String.ofList
      (cutNothing ((cutNothing path.toList.reverse).dropWhile fun c ↦ c != '/')).reverse := by
  unfold parent? at h
  split at h
  next => cases h
  next => cases h
  next => exact (Option.some.inj h).symm

theorem names_parent?_isPrefix (h : parent? path = some parent) :
    names parent <+: names path := by
  have hpath : names path = names (String.ofList (cutNothing path.toList.reverse).reverse) := by
    rw [names_cutNothing, List.reverse_reverse, String.ofList_toList]
  rw [exists_of_parent? h, names_cutNothing, hpath]
  exact names_dropWhile_isPrefix _

theorem isAbsolute_parent? (h : parent? path = some parent) :
    isAbsolute parent = isAbsolute path := by
  have hpath : isAbsolute path =
      isAbsolute (String.ofList (cutNothing path.toList.reverse).reverse) := by
    rw [isAbsolute_ofList_reverse, getLast?_cutNothing, ← isAbsolute_ofList_reverse,
      List.reverse_reverse, String.ofList_toList]
  rw [exists_of_parent? h, isAbsolute_ofList_reverse, getLast?_cutNothing,
    ← isAbsolute_ofList_reverse, isAbsolute_dropWhile, hpath]

end Parent

/-! ### Parents of names behind a directory -/

section ParentOfJoin

variable {name : String}

/-- What stands before the names that are put behind a directory. -/
theorem exists_front (base : String) :
    ∃ front : List Char, names (String.ofList front) = names base ∧
      (∀ c ∈ front.getLast?, c = '/') ∧
      ∀ name, IsName name → (join base name).toList = front ++ name.toList := by
  by_cases hempty : base.isEmpty = true
  · refine ⟨[], by rw [String.isEmpty_iff.mp hempty], nofun, fun name h ↦ ?_⟩
    unfold join
    rw [hempty, Bool.or_true, if_pos rfl, List.nil_append]
  · have hjoin {name : String} (h : IsName name) : join base name =
        if base.toList.getLast? == some '/' then base ++ name else base ++ "/" ++ name := by
      unfold join
      rw [h.isAbsolute, Bool.false_or, if_neg hempty]
    by_cases hlast : base.toList.getLast? = some '/'
    · refine ⟨base.toList, by rw [String.ofList_toList], fun c hc ↦ ?_, fun name h ↦ ?_⟩
      · rw [hlast] at hc
        exact (Option.mem_some.mp hc).symm
      · rw [hjoin h, if_pos (beq_iff_eq.mpr hlast), String.toList_append]
    · refine ⟨base.toList ++ ['/'], ?_, by simp, fun name h ↦ ?_⟩
      · rw [names_ofList_append_slash, String.ofList_toList]
      · rw [hjoin h, if_neg (mt beq_iff_eq.mp hlast), String.toList_append, String.toList_append]
        rfl

theorem exists_reverse_eq_cons (h : IsName name) :
    ∃ last rest, name.toList.reverse = last :: rest ∧ '/' ∉ last :: rest := by
  obtain ⟨last, rest, hreverse⟩ := List.exists_cons_of_ne_nil
    (fun hnil : name.toList.reverse = [] ↦ h.ne_empty (by simpa using hnil))
  refine ⟨last, rest, hreverse, ?_⟩
  rw [← hreverse, List.mem_reverse]
  exact h.slash

/-- What stands before a point at the end of a name belongs to the name. -/
theorem exists_before_point (h : IsName name) {rest : List Char}
    (hreverse : name.toList.reverse = '.' :: rest) : ∃ c others, rest = c :: others ∧ c ≠ '/' := by
  cases rest with
  | nil =>
    apply absurd _ h.ne_point
    rw [← String.toList_inj, ← List.reverse_reverse name.toList, hreverse]
    rfl
  | cons c others =>
    refine ⟨c, others, rfl, fun hc ↦ h.slash ?_⟩
    rw [← List.mem_reverse, hreverse, hc]
    exact List.mem_cons_of_mem _ List.mem_cons_self

/-- A name at the end of a path is not cut off. -/
theorem cutNothing_reverse_append (h : IsName name) (before : List Char) :
    cutNothing (name.toList.reverse ++ before) = name.toList.reverse ++ before := by
  obtain ⟨last, rest, hreverse, hslash⟩ := exists_reverse_eq_cons h
  have hlast : last ≠ '/' := fun heq ↦ hslash (heq ▸ List.mem_cons_self)
  have hpoint {after : List Char} (heq : last :: (rest ++ before) = '.' :: '/' :: after) :
      False := by
    obtain ⟨rfl, hafter⟩ := List.cons.inj heq
    obtain ⟨c, others, rfl, hc⟩ := exists_before_point h hreverse
    exact hc (List.cons.inj hafter).1
  rw [hreverse, List.cons_append]
  unfold cutNothing
  split
  next heq => exact absurd (List.cons.inj heq).1 hlast
  next heq => exact absurd (List.cons.inj heq).1 hlast
  next heq => exact (hpoint heq).elim
  next heq => exact (hpoint heq).elim
  next => rfl

/-- A path that ends with a name can be that of a file. -/
theorem endsOpen_join (base : String) (h : IsName name) : endsOpen (join base name) = false := by
  obtain ⟨front, -, -, hjoin⟩ := exists_front base
  obtain ⟨last, rest, hreverse, hslash⟩ := exists_reverse_eq_cons h
  have hlast : last ≠ '/' := fun heq ↦ hslash (heq ▸ List.mem_cons_self)
  unfold endsOpen
  rw [hjoin name h, List.reverse_append, hreverse, List.cons_append]
  split
  next heq => exact absurd (List.cons.inj heq).1 hlast
  next heq =>
    obtain ⟨rfl, hrest⟩ := List.cons.inj heq
    obtain ⟨c, others, rfl, -⟩ := exists_before_point h hreverse
    cases hrest
  next heq =>
    obtain ⟨rfl, hrest⟩ := List.cons.inj heq
    obtain ⟨c, others, rfl, hc⟩ := exists_before_point h hreverse
    exact absurd (List.cons.inj hrest).1 hc
  next => rfl

/-- The parent of a path that ends with a name is what stands before the name. -/
theorem parent?_of_eq_append {path : String} {front : List Char} (h : IsName name)
    (hlast : ∀ c ∈ front.getLast?, c = '/') (hpath : path.toList = front ++ name.toList) :
    parent? path = some (String.ofList (cutNothing front.reverse).reverse) := by
  have hcut : cutNothing path.toList.reverse = name.toList.reverse ++ front.reverse := by
    rw [hpath, List.reverse_append, cutNothing_reverse_append h]
  have hdrop : (name.toList.reverse ++ front.reverse).dropWhile (fun c ↦ c != '/') =
      front.reverse := by
    have hname : ∀ c ∈ name.toList.reverse, (c != '/') = true := by
      intro c hc
      rw [bne_iff_ne]
      exact fun heq ↦ h.slash (List.mem_reverse.mp (heq ▸ hc))
    rw [List.dropWhile_append_of_pos hname]
    cases hreverse : front.reverse with
    | nil => rfl
    | cons c rest =>
      have hc : c = '/' := by
        apply hlast c
        rw [← List.head?_reverse, hreverse]
        rfl
      rw [hc]
      rfl
  obtain ⟨last, rest, hreverse, hslash⟩ := exists_reverse_eq_cons h
  unfold parent?
  rw [hcut]
  split
  next heq =>
    rw [hreverse] at heq
    cases heq
  next heq =>
    rw [hreverse] at heq
    exact absurd ((List.cons.inj heq).1 ▸ List.mem_cons_self) hslash
  next => rw [hdrop]

theorem cutNothing_slash {reversed : List Char} (h : reversed ≠ []) :
    cutNothing ('/' :: reversed) = cutNothing reversed := by
  cases reversed with
  | nil => exact absurd rfl h
  | cons c rest => rfl

/-- Behind a name stands a slash before another name follows. -/
theorem toList_join_join (base : String) {directory : String} (hdirectory : IsName directory)
    (h : IsName name) :
    (join (join base directory) name).toList =
      (join base directory).toList ++ ['/'] ++ name.toList := by
  obtain ⟨front, -, -, hjoin⟩ := exists_front base
  obtain ⟨last, rest, hreverse, hslash⟩ := exists_reverse_eq_cons hdirectory
  have hlast : (join base directory).toList.getLast? = some last := by
    rw [hjoin directory hdirectory, ← List.head?_reverse, List.reverse_append, hreverse]
    rfl
  have hne : last ≠ '/' := fun heq ↦ hslash (heq ▸ List.mem_cons_self)
  have hsome : (join base directory).isEmpty = false := by
    rw [← Bool.not_eq_true, String.isEmpty_iff]
    intro hempty
    rw [hempty] at hlast
    cases hlast
  have hnot : ¬(some last == some '/') = true := fun heq ↦ hne (Option.some.inj (beq_iff_eq.mp heq))
  rw [join, h.isAbsolute, hsome, Bool.or_false, if_neg Bool.false_ne_true, hlast, if_neg hnot,
    String.toList_append, String.toList_append]
  rfl

/-- The parent of a name behind a name is that name, written as it was. -/
theorem parent?_join_join (base : String) {directory : String} (hdirectory : IsName directory)
    (h : IsName name) :
    parent? (join (join base directory) name) = some (join base directory) := by
  obtain ⟨front, -, -, hjoin⟩ := exists_front base
  obtain ⟨last, rest, hreverse, -⟩ := exists_reverse_eq_cons hdirectory
  have hreversed : (join base directory).toList.reverse =
      directory.toList.reverse ++ front.reverse := by
    rw [hjoin directory hdirectory, List.reverse_append]
  have hne : (join base directory).toList.reverse ≠ [] := by
    rw [hreversed, hreverse]
    exact nofun
  have hcut : cutNothing ((join base directory).toList ++ ['/']).reverse =
      (join base directory).toList.reverse := by
    rw [List.reverse_append, List.reverse_singleton, List.singleton_append, cutNothing_slash hne,
      hreversed, cutNothing_reverse_append hdirectory]
  rw [parent?_of_eq_append h (by simp) (toList_join_join base hdirectory h), hcut,
    List.reverse_reverse, String.ofList_toList]

theorem fileName?_join (base : String) (h : IsFileName name) :
    fileName? (join base name) = some name := by
  rw [fileName?, names_join base h.toIsName, List.getLast?_concat, Option.filter_some,
    if_pos (by simpa using h.ne_parent)]

/-- Another name in the place of the last one stands behind the same directory. -/
theorem withFileName_join_join (base : String) {directory : String} (hdirectory : IsName directory)
    (h : IsFileName name) (other : String) :
    withFileName (join (join base directory) name) other = join (join base directory) other := by
  unfold withFileName
  rw [fileName?_join _ h, parent?_join_join base hdirectory h.toIsName]
  rfl

end ParentOfJoin

end Path

end ClusterPlan
