import ClusterPlan.Artifacts.Layout
import ClusterPlan.Artifacts.Writing
import ClusterPlan.Registry.Basic

/-!
# Key files

The halves of all keys as files, readable as far as a connection needs them.
-/

namespace ClusterPlan.Artifact

open Entity

/-- Only the owner may look into the directory of keys, and only into it. -/
def directoryMode : Nat := 0o700

def privateMode : Nat := 0o600

def publicMode : Nat := 0o644

/-- The text of a key with one line end behind it, without which it is not accepted. -/
def keyText (material : String) : String :=
  String.ofList (Text.trimEnd material.toList) ++ "\n"

def writeHalf (path : String) (mode : Nat) : Option String → Writing
  | some material => (write path (keyText material)).andThen (setMode path mode)
  | none => Change.done

def writeKey (layout : Layout) (key : SshKey) : Writing :=
  (writeHalf (layout.privateKey key.name) privateMode key.privateKey).andThen
    (writeHalf (layout.publicKey key.name) publicMode key.publicKey)

def writeKeys (layout : Layout) (registry : Registry) : Writing :=
  (makeDirectory layout.sshDirectory).andThen
    ((setMode layout.sshDirectory directoryMode).andThen
      (Change.join (registry.sshKeys.map (writeKey layout))))

end ClusterPlan.Artifact
