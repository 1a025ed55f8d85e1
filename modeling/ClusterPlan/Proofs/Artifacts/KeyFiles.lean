import ClusterPlan.Proofs.Artifacts.Containment
import ClusterPlan.Proofs.Artifacts.Footprint
import ClusterPlan.Proofs.Artifacts.Kept
import ClusterPlan.Proofs.Artifacts.Places
import ClusterPlan.Proofs.Registry.Names
import ClusterPlan.Proofs.Text.Parts

/-!
# Files of keys

Both halves of all keys lie in one directory, a private half under the name of its key and a public
one under this name with a suffix. Every half is meant to have a file of its own, in which it stays
until all are written. Nothing keeps a key from having a name with the suffix, and then its private
half is written to the file of the public half of another key. No other two halves share a file.
-/

namespace ClusterPlan.Artifact

open Entity

/-! ### What the files are meant to hold -/

/-- The text is the material with one line end in the place of the blanks at its end. -/
def EndsLine (material text : String) : Prop :=
  ∃ kept blanks : List Char, material.toList = kept ++ blanks ∧
    (∀ c ∈ blanks, Text.isBlank c = true) ∧ (∀ c ∈ kept.getLast?, Text.isBlank c = false) ∧
      text = String.ofList kept ++ "\n"

theorem endsLine_keyText (material : String) : EndsLine material (keyText material) := by
  have hsplit := List.takeWhile_append_dropWhile (p := Text.isBlank) (l := material.toList.reverse)
  refine ⟨Text.trimEnd material.toList, (material.toList.reverse.takeWhile Text.isBlank).reverse,
    ?_, ?_, ?_, rfl⟩
  · calc
      material.toList = (material.toList.reverse.takeWhile Text.isBlank ++
          material.toList.reverse.dropWhile Text.isBlank).reverse := by
        rw [hsplit, List.reverse_reverse]
      _ = Text.trimEnd material.toList ++
          (material.toList.reverse.takeWhile Text.isBlank).reverse := List.reverse_append
  · intro c hc
    exact List.mem_takeWhile_imp (List.mem_reverse.mp hc)
  · rw [Text.trimEnd, List.getLast?_reverse]
    exact Text.isBlank_of_mem_head?_dropWhile

/-- All halves have files of their own, and hold what they should once they are written. -/
structure SeparatesKeys (layout : Layout) (registry : Registry) : Prop where
  files (tree : FileTree) : ((registry.sshKeys.flatMap (keyFiles layout)).map tree.target).Nodup
  privateHalves {tree after : FileTree} (h : (writeKeys layout registry).Makes tree after) :
    ∀ key ∈ registry.sshKeys, ∀ material, key.privateKey = some material →
      ∃ text, EndsLine material text ∧ after.readText (layout.privateKey key.name) = .ok text
  publicHalves {tree after : FileTree} (h : (writeKeys layout registry).Makes tree after) :
    ∀ key ∈ registry.sshKeys, ∀ material, key.publicKey = some material →
      ∃ text, EndsLine material text ∧
        after.readText (Path.join layout.sshDirectory (key.name ++ ".pub")) = .ok text

/-- The private half of the first key has the file name of the public half of the second. -/
structure Clash (first second : SshKey) : Prop where
  hasPrivate : first.privateKey.isSome
  hasPublic : second.publicKey.isSome
  name : first.name = second.name ++ ".pub"

/-! ### Halves -/

/-- A half of a key as it is written. -/
structure KeyHalf where
  name : String
  mode : Nat
  material : String

namespace KeyHalf

def file (layout : Layout) (half : KeyHalf) : String := Path.join layout.sshDirectory half.name

def write (layout : Layout) (half : KeyHalf) : Writing :=
  (Artifact.write (half.file layout) (keyText half.material)).andThen
    (setMode (half.file layout) half.mode)

/-- The half as it is read back. -/
def KeptIn (layout : Layout) (half : KeyHalf) (tree : FileTree) : Prop :=
  tree.readText (half.file layout) = .ok (keyText half.material)

end KeyHalf

def keyHalves (key : SshKey) : List KeyHalf :=
  (key.privateKey.map (KeyHalf.mk key.name privateMode)).toList ++
    (key.publicKey.map (KeyHalf.mk (key.name ++ ".pub") publicMode)).toList

section Halves

variable {layout : Layout} {key : SshKey} {half : KeyHalf} {tree after : FileTree}

theorem isFileName_of_mem_keyHalves (h : Path.IsFileName key.name) (hhalf : half ∈ keyHalves key) :
    Path.IsFileName half.name := by
  rcases List.mem_append.mp hhalf with hhalf | hhalf
  · obtain ⟨_, -, rfl⟩ := Option.map_eq_some_iff.mp (Option.mem_toList.mp hhalf)
    exact h
  · obtain ⟨_, -, rfl⟩ := Option.map_eq_some_iff.mp (Option.mem_toList.mp hhalf)
    exact Layout.isFileName_public h

theorem keyFiles_eq_map (h : Path.IsFileName key.name) :
    keyFiles layout key = (keyHalves key).map (·.file layout) := by
  rw [keyFiles, keyHalves, layout.publicKey_eq h, List.map_append, ← Option.toList_map,
    ← Option.toList_map, Option.map_map, Option.map_map]
  rfl

theorem mem_steps_writeHalf {name : String} {mode : Nat} {material : Option String}
    {step : FileStep} :
    step ∈ (writeHalf (Path.join layout.sshDirectory name) mode material).steps ↔
      ∃ half ∈ (material.map (KeyHalf.mk name mode)).toList, step ∈ (half.write layout).steps := by
  cases material with
  | none => simp [writeHalf, Change.done, Change.steps]
  | some s => simp [writeHalf, KeyHalf.write, KeyHalf.file]

theorem mem_steps_writeKey (h : Path.IsFileName key.name) {step : FileStep} :
    step ∈ (writeKey layout key).steps ↔
      ∃ half ∈ keyHalves key, step ∈ (half.write layout).steps := by
  rw [writeKey, Change.steps, List.mem_append, layout.publicKey_eq h, mem_steps_writeHalf]
  have hprivate : layout.privateKey key.name = Path.join layout.sshDirectory key.name := rfl
  rw [hprivate, mem_steps_writeHalf, keyHalves]
  simp only [List.mem_append, or_and_right, exists_or]

/-- The steps on files of keys are those on the files of all halves. -/
theorem mem_steps_writeKeys {registry : Registry}
    (h : ∀ key ∈ registry.sshKeys, Path.IsFileName key.name) {step : FileStep} :
    step ∈ (writeKeys layout registry).steps ↔
      step = .makeDirectory layout.sshDirectory ∨
        step = .setMode layout.sshDirectory directoryMode ∨
          ∃ half ∈ registry.sshKeys.flatMap keyHalves, step ∈ (half.write layout).steps := by
  have hkeys : (∃ key ∈ registry.sshKeys, step ∈ (writeKey layout key).steps) ↔
      ∃ half ∈ registry.sshKeys.flatMap keyHalves, step ∈ (half.write layout).steps := by
    simp only [List.mem_flatMap]
    constructor
    · rintro ⟨key, hkey, hstep⟩
      obtain ⟨half, hhalf, hstep⟩ := (mem_steps_writeKey (h key hkey)).mp hstep
      exact ⟨half, ⟨key, hkey, hhalf⟩, hstep⟩
    · rintro ⟨half, ⟨key, hkey, hhalf⟩, hstep⟩
      exact ⟨key, hkey, (mem_steps_writeKey (h key hkey)).mpr ⟨half, hhalf, hstep⟩⟩
  rw [← hkeys]
  simp [writeKeys, makeDirectory, setMode, steps_makeStep, Change.steps, Change.mem_steps_join]

end Halves

section Keys

variable {layout : Layout} {keys : List SshKey}

/-! ### File names -/

/-- The files lie where their names say, in the directory of keys. -/
theorem map_target_keyFiles (h : ∀ key ∈ keys, Path.IsFileName key.name) (tree : FileTree) :
    (keys.flatMap (keyFiles layout)).map tree.target =
      ((keys.flatMap keyHalves).map (·.name)).map (tree.target layout.sshDirectory ++ [·]) := by
  have hkey (key : SshKey) (hkey : key ∈ keys) : (keyFiles layout key).map tree.target =
      ((keyHalves key).map (·.name)).map (tree.target layout.sshDirectory ++ [·]) := by
    rw [keyFiles_eq_map (h key hkey), List.map_map, List.map_map, List.map_inj_left]
    exact fun half hhalf ↦ FileTree.target_join (isFileName_of_mem_keyHalves (h key hkey) hhalf)
  rw [List.map_flatMap, List.map_flatMap, List.map_flatMap]
  exact List.flatMap_congr hkey

theorem nodup_map_target_iff (h : ∀ key ∈ keys, Path.IsFileName key.name) (tree : FileTree) :
    ((keys.flatMap (keyFiles layout)).map tree.target).Nodup ↔
      ((keys.flatMap keyHalves).map (·.name)).Nodup := by
  have hinjective : Function.Injective (tree.target layout.sshDirectory ++ [·] : String → _) :=
    fun _ _ heq ↦ List.singleton_inj.mp (List.append_cancel_left heq)
  rw [map_target_keyFiles h, List.nodup_map_iff hinjective]

theorem mem_keyNames {key : SshKey} {name : String} :
    name ∈ (keyHalves key).map (·.name) ↔
      key.privateKey.isSome ∧ name = key.name ∨
        key.publicKey.isSome ∧ name = key.name ++ ".pub" := by
  rw [keyHalves]
  cases key.privateKey with
  | none =>
    cases key.publicKey with
    | none => simp
    | some m => simp
  | some m =>
    cases key.publicKey with
    | none => simp
    | some m => simp

theorem ne_append_pub (name : String) : name ≠ name ++ ".pub" := by
  intro h
  have hlength := congrArg String.length h
  rw [String.length_append] at hlength
  exact absurd hlength (by simp)

theorem nodup_keyNames (key : SshKey) : ((keyHalves key).map (·.name)).Nodup := by
  rw [keyHalves]
  cases key.privateKey with
  | none =>
    cases key.publicKey with
    | none => exact List.nodup_nil
    | some m => exact List.nodup_singleton _
  | some m =>
    cases key.publicKey with
    | none => exact List.nodup_singleton _
    | some m => simpa using ne_append_pub key.name

/-- Keys of different names share a file exactly if they clash, the one way or the other. -/
theorem disjoint_keyNames_iff {a b : SshKey} (hne : a.name ≠ b.name) :
    List.Disjoint ((keyHalves a).map (·.name)) ((keyHalves b).map (·.name)) ↔
      ¬Clash a b ∧ ¬Clash b a := by
  constructor
  · intro hdisjoint
    constructor
    · intro hclash
      have ha := mem_keyNames.mpr (.inl ⟨hclash.hasPrivate, rfl⟩)
      exact hdisjoint ha (mem_keyNames.mpr (.inr ⟨hclash.hasPublic, hclash.name⟩))
    · intro hclash
      have hb := mem_keyNames.mpr (.inl ⟨hclash.hasPrivate, rfl⟩)
      exact hdisjoint (mem_keyNames.mpr (.inr ⟨hclash.hasPublic, hclash.name⟩)) hb
  · rintro ⟨hfirst, hsecond⟩ name ha hb
    rcases mem_keyNames.mp ha with ⟨haPrivate, rfl⟩ | ⟨haPublic, rfl⟩
    · rcases mem_keyNames.mp hb with ⟨-, hname⟩ | ⟨hbPublic, hname⟩
      · exact hne hname
      · exact hfirst ⟨haPrivate, hbPublic, hname⟩
    · rcases mem_keyNames.mp hb with ⟨hbPrivate, hname⟩ | ⟨-, hname⟩
      · exact hsecond ⟨hbPrivate, haPublic, hname.symm⟩
      · exact hne ((String.append_left_inj ".pub").mp hname)

theorem nodup_map_name_iff (hkeys : (keys.map (·.name)).Nodup) :
    ((keys.flatMap keyHalves).map (·.name)).Nodup ↔ ∀ a ∈ keys, ∀ b ∈ keys, ¬Clash a b := by
  have hpairwise : keys.Pairwise fun a b ↦ a.name ≠ b.name := List.pairwise_map.mp hkeys
  rw [List.map_flatMap, List.nodup_flatMap]
  constructor
  · intro hnames a ha b hb hclash
    have hne : a ≠ b := fun heq ↦ ne_append_pub b.name (heq ▸ hclash.name)
    have hsymm : Std.Symm (Function.onFun List.Disjoint fun key ↦ (keyHalves key).map (·.name)) :=
      ⟨fun _ _ hdisjoint _ hb ha ↦ hdisjoint ha hb⟩
    have hdisjoint : List.Disjoint ((keyHalves a).map (·.name)) ((keyHalves b).map (·.name)) :=
      hnames.2.forall ha hb hne
    have hnameNe : a.name ≠ b.name := fun heq ↦ ne_append_pub b.name (heq.symm.trans hclash.name)
    exact ((disjoint_keyNames_iff hnameNe).mp hdisjoint).1 hclash
  · intro hclash
    refine ⟨fun key _ ↦ nodup_keyNames key, hpairwise.imp_of_mem fun ha hb hne ↦ ?_⟩
    exact (disjoint_keyNames_iff hne).mpr ⟨hclash _ ha _ hb, hclash _ hb _ ha⟩

/-! ### Writing all halves -/

section Writing

variable {registry : Registry} {tree after : FileTree}

/-- Halves of different names lie at different places. -/
theorem KeyHalf.name_eq_of_target {half other : KeyHalf} (hhalf : Path.IsFileName half.name)
    (hother : Path.IsFileName other.name)
    (h : tree.target (half.file layout) = tree.target (other.file layout)) :
    half.name = other.name := by
  rw [file, file, FileTree.target_join hhalf, FileTree.target_join hother,
    List.append_cancel_left_eq] at h
  exact List.singleton_inj.mp h

theorem isFileName_of_mem_halves (hnames : ∀ key ∈ registry.sshKeys, Path.IsFileName key.name)
    {half : KeyHalf} (hhalf : half ∈ registry.sshKeys.flatMap keyHalves) :
    Path.IsFileName half.name := by
  obtain ⟨key, hkey, hhalf⟩ := List.mem_flatMap.mp hhalf
  exact isFileName_of_mem_keyHalves (hnames key hkey) hhalf

/-- Where all halves have names of their own, the steps on their files agree with what is written
for each of them. -/
theorem agrees_of_nodup (hnames : ∀ key ∈ registry.sshKeys, Path.IsFileName key.name)
    (hnodup : ((registry.sshKeys.flatMap keyHalves).map (·.name)).Nodup) {half : KeyHalf}
    (hhalf : half ∈ registry.sshKeys.flatMap keyHalves) {step : FileStep}
    (hstep : step ∈ (writeKeys layout registry).steps)
    (htarget : tree.target (half.file layout) = tree.target step.path) :
    (FileStep.writeText (half.file layout) (keyText half.material)).Agrees step := by
  rcases (mem_steps_writeKeys hnames).mp hstep with rfl | rfl | ⟨other, hother, hstep⟩
  · trivial
  · trivial
  rcases List.mem_append.mp hstep with hstep | hstep
  · apply agrees_of_mem_steps_write hstep
    intro hpath
    rw [hpath] at htarget
    have hname : half.name = other.name :=
      KeyHalf.name_eq_of_target (isFileName_of_mem_halves hnames hhalf)
        (isFileName_of_mem_halves hnames hother) htarget
    rw [List.inj_on_of_nodup_map hnodup hhalf hother hname]
  · obtain rfl := List.mem_singleton.mp hstep
    trivial

/-- Halves with names of their own are all kept, whichever is written first. -/
theorem keptIn_of_writeKeys (hnames : ∀ key ∈ registry.sshKeys, Path.IsFileName key.name)
    (hnodup : ((registry.sshKeys.flatMap keyHalves).map (·.name)).Nodup)
    (h : (writeKeys layout registry).Makes tree after) :
    ∀ half ∈ registry.sshKeys.flatMap keyHalves, half.KeptIn layout after := by
  intro half hhalf
  have hstep : .writeText (half.file layout) (keyText half.material) ∈
      (writeKeys layout registry).steps := by
    refine (mem_steps_writeKeys hnames).mpr (.inr (.inr ⟨half, hhalf, ?_⟩))
    exact List.mem_append_left _ (mem_steps_write.mpr (.inr rfl))
  have hsettled := h.settled hstep trivial fun step hstep htarget ↦
    agrees_of_nodup hnames hnodup hhalf hstep htarget
  exact FileStep.settled_writeText_iff.mp hsettled

end Writing

end Keys

/-- The halves of all keys are kept apart exactly if no two keys clash. -/
theorem separatesKeys_iff {layout : Layout} {registry : Registry} (h : registry.IsMade)
    (hnames : ∀ key ∈ registry.sshKeys, Path.IsFileName key.name) :
    SeparatesKeys layout registry ↔
      ∀ a ∈ registry.sshKeys, ∀ b ∈ registry.sshKeys, ¬Clash a b := by
  rw [← nodup_map_name_iff (h.namesDistinct .sshKey)]
  constructor
  · intro hseparates
    exact (nodup_map_target_iff hnames ⟨[], []⟩).mp (hseparates.files _)
  · intro hnodup
    refine ⟨fun tree ↦ (nodup_map_target_iff hnames tree).mpr hnodup, ?_, ?_⟩
    · intro tree after hmakes key hkey material hmaterial
      have hhalf : KeyHalf.mk key.name privateMode material ∈ keyHalves key := by
        simp [keyHalves, hmaterial]
      have hkept := keptIn_of_writeKeys hnames hnodup hmakes _ (List.mem_flatMap_of_mem hkey hhalf)
      exact ⟨keyText material, endsLine_keyText material, hkept⟩
    · intro tree after hmakes key hkey material hmaterial
      have hhalf : KeyHalf.mk (key.name ++ ".pub") publicMode material ∈ keyHalves key := by
        simp [keyHalves, hmaterial]
      have hkept := keptIn_of_writeKeys hnames hnodup hmakes _ (List.mem_flatMap_of_mem hkey hhalf)
      exact ⟨keyText material, endsLine_keyText material, hkept⟩

/-! ### A key with the suffix in its name -/

def suffixedKey : SshKey := ⟨"deploy.pub", "root", some "other secret", none⟩

def plainKey : SshKey := ⟨"deploy", "root", some "secret", some "public"⟩

def suffixedKeys : Registry := { (∅ : Registry) with sshKeys := [suffixedKey, plainKey] }

theorem isMade_suffixedKeys : suffixedKeys.IsMade := by
  have hfirst : (∅ : Registry).insertSshKey suffixedKey =
      .ok { (∅ : Registry) with sshKeys := [suffixedKey] } := rfl
  have hsecond : Registry.insertSshKey { (∅ : Registry) with sshKeys := [suffixedKey] } plainKey =
      .ok suffixedKeys := rfl
  exact .sshKey (.sshKey .empty hfirst) hsecond

/-- The private half of the first key and the public half of the second are written to one file,
and which of them is lost the schedule decides. -/
theorem not_separatesKeys_suffixedKeys :
    suffixedKeys.IsMade ∧ ¬SeparatesKeys ⟨"out"⟩ suffixedKeys ∧
      (∀ tree after, (writeKeys ⟨"out"⟩ suffixedKeys).Makes tree after →
        ¬(after.readText "out/ssh/deploy.pub" = .ok "other secret\n" ∧
          after.readText "out/ssh/deploy.pub" = .ok "public\n")) ∧
      (∃ after, (writeKeys ⟨"out"⟩ suffixedKeys).Makes emptyWork after ∧
        after.readText "out/ssh/deploy.pub" = .ok "public\n") ∧
      ∃ after, (writeKeys ⟨"out"⟩ suffixedKeys).Makes emptyWork after ∧
        after.readText "out/ssh/deploy.pub" = .ok "other secret\n" := by
  have hnames : ∀ key ∈ suffixedKeys.sshKeys, Path.IsFileName key.name := by decide
  have hinTurn : ((writeKeys ⟨"out"⟩ suffixedKeys).run Change.inTurn emptyWork).2.toOption =
      some () := by decide +kernel
  have hlastFirst : ((writeKeys ⟨"out"⟩ suffixedKeys).run (fun _ ↦ 1) emptyWork).2.toOption =
      some () := by decide +kernel
  refine ⟨isMade_suffixedKeys, fun hseparates ↦ ?_, ?_, ?_, ?_⟩
  · exact (separatesKeys_iff isMade_suffixedKeys hnames).mp hseparates _ (.head _) _ (.tail _ (.head _))
      ⟨rfl, rfl, rfl⟩
  · rintro tree after - ⟨hprivate, hpublic⟩
    exact absurd (hprivate.symm.trans hpublic) (by decide)
  · exact ⟨_, ⟨_, Prod.ext rfl (Except.eq_ok_of_toOption hinTurn)⟩, by decide +kernel⟩
  · exact ⟨_, ⟨_, Prod.ext rfl (Except.eq_ok_of_toOption hlastFirst)⟩, by decide +kernel⟩

end ClusterPlan.Artifact
