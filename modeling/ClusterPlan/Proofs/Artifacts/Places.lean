import ClusterPlan.Artifacts.Layout
import ClusterPlan.Naming
import ClusterPlan.Proofs.Files.Frame
import ClusterPlan.Proofs.Files.Path
import ClusterPlan.Proofs.Naming

/-!
# Where artifacts lie

The directories of the output directory have fixed names, and the directory of a server has the name
of its host. Such a name leads from a directory into the directory and nowhere else.
-/

namespace ClusterPlan

namespace Naming

theorem isHostname_chars {name : String} (h : isHostname name = true) :
    ∀ c ∈ name.toList, isPlain c = true ∨ c = '-' := by
  obtain ⟨first, middle, last, hname, hfirst, hlast, hmiddle⟩ := isHostname_iff.mp h
  rw [hname]
  intro c hc
  rcases List.mem_cons.mp hc with rfl | hc
  · exact .inl hfirst
  · rcases List.mem_append.mp hc with hc | hc
    · exact hmiddle c hc
    · exact .inl (List.mem_singleton.mp hc ▸ hlast)

/-- The name of a host is the name of a file. -/
theorem isFileName_of_isHostname {name : String} (h : isHostname name = true) :
    Path.IsFileName name where
  slash := by
    intro hslash
    exact absurd (isHostname_chars h '/' hslash) (by decide)
  ne_empty := by
    intro hempty
    rw [hempty] at h
    cases h
  ne_point := by
    intro hpoint
    rw [hpoint] at h
    cases h
  ne_parent := by
    intro hparent
    rw [hparent] at h
    exact absurd h (by decide)

end Naming

namespace Layout

variable (layout : Layout) {server : String} (tree : FileTree)

theorem below_terraformDirectory : tree.Below layout.root layout.terraformDirectory :=
  (FileTree.below_self tree layout.root).join (by decide)

/-- The public half of a key is a file of its own name beside the private one. -/
theorem publicKey_eq {name : String} (h : Path.IsFileName name) :
    layout.publicKey name = Path.join layout.sshDirectory (name ++ ".pub") := by
  have hssh : Path.IsFileName "ssh" := by decide
  exact Path.withFileName_join_join layout.root hssh.toIsName h (name ++ ".pub")

theorem isFileName_public {name : String} (h : Path.IsFileName name) :
    Path.IsFileName (name ++ ".pub") :=
  Path.isFileName_append h.slash (by decide) (by decide : _ = some 'b') (by decide)

theorem below_sshDirectory : tree.Below layout.root layout.sshDirectory :=
  (FileTree.below_self tree layout.root).join (by decide)

theorem below_serverDirectory (h : Path.IsFileName server) :
    tree.Below layout.root (layout.serverDirectory server) :=
  ((FileTree.below_self tree layout.root).join (by decide)).join h

theorem target_serverDirectory (h : Path.IsFileName server) :
    tree.target (layout.serverDirectory server) =
      tree.target layout.root ++ ["servers", server] := by
  rw [serverDirectory, FileTree.target_join h, FileTree.target_join (by decide), List.append_assoc,
    List.singleton_append]

theorem target_serverFile {file : String} (h : Path.IsFileName server)
    (hfile : Path.IsFileName file) :
    tree.target (Path.join (layout.serverDirectory server) file) =
      tree.target layout.root ++ ["servers", server, file] := by
  rw [FileTree.target_join hfile, layout.target_serverDirectory tree h, List.append_assoc,
    List.cons_append, List.singleton_append]

theorem target_serverFile_eq_iff {other file otherFile : String} (h : Path.IsFileName server)
    (hother : Path.IsFileName other) (hfile : Path.IsFileName file)
    (hotherFile : Path.IsFileName otherFile) :
    tree.target (Path.join (layout.serverDirectory server) file) =
        tree.target (Path.join (layout.serverDirectory other) otherFile) ↔
      server = other ∧ file = otherFile := by
  rw [layout.target_serverFile tree h hfile, layout.target_serverFile tree hother hotherFile]
  simp

/-- What is passed on the way to a file of a server. -/
theorem mem_passes_serverFile {file : String} (h : Path.IsFileName server)
    (hfile : Path.IsFileName file) {location : Location} :
    location ∈ tree.passes (Path.join (layout.serverDirectory server) file) ↔
      location ∈ tree.passes layout.root ∨
        location = tree.target layout.root ++ ["servers"] ∨
        location = tree.target layout.root ++ ["servers", server] ∨
        location = tree.target layout.root ++ ["servers", server, file] := by
  rw [FileTree.mem_passes_join hfile, layout.target_serverDirectory tree h, serverDirectory,
    FileTree.mem_passes_join h, FileTree.mem_passes_join (by decide),
    FileTree.target_join (by decide), List.append_assoc, List.append_assoc, List.singleton_append,
    List.cons_append, List.singleton_append, or_assoc, or_assoc]

/-- The way to another file of a server leads past a file of a server only where the way to the
directory of that server does. -/
theorem mem_passes_serverDirectory_of_ne {other file otherFile : String}
    (h : Path.IsFileName server) (hother : Path.IsFileName other) (hfile : Path.IsFileName file)
    (hotherFile : Path.IsFileName otherFile) (hne : ¬(server = other ∧ file = otherFile))
    (hpassed : tree.target (Path.join (layout.serverDirectory server) file) ∈
      tree.passes (Path.join (layout.serverDirectory other) otherFile)) :
    tree.target (Path.join (layout.serverDirectory server) file) ∈
      tree.passes (layout.serverDirectory server) := by
  rw [layout.mem_passes_serverFile tree hother hotherFile] at hpassed
  rcases hpassed with hroot | heq | heq | heq
  · rw [serverDirectory, FileTree.mem_passes_join h, FileTree.mem_passes_join (by decide)]
    exact .inl (.inl hroot)
  · rw [layout.target_serverFile tree h hfile] at heq
    simp at heq
  · rw [layout.target_serverFile tree h hfile] at heq
    simp at heq
  · rw [layout.target_serverFile tree h hfile] at heq
    exact absurd (by simpa using heq) hne

end Layout

end ClusterPlan
