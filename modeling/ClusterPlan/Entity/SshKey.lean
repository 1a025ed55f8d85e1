import ClusterPlan.Entity.Options

/-!
# SSH keys

Keys that servers are registered with. Only a key with a private half can open a connection.
-/

namespace ClusterPlan.Entity

structure SshKey where
  name : String
  user : String
  privateKey : Option String
  publicKey : Option String
  deriving Repr, DecidableEq

namespace SshKey

def fields : List String := ["user", "private_key", "public_key"]

def defaultUser : String := "root"

def ofOptions (name : String) (options : Options) : Except Complaint SshKey := do
  options.checkKnown fields
  let user ← options.text? "user"
  let privateKey ← options.filledText? "private_key"
  let publicKey ← options.filledText? "public_key"
  if privateKey.isNone && publicKey.isNone then .error .noKeyHalf
  else return ⟨name, user.getD defaultUser, privateKey, publicKey⟩

def build (name : String) (options : Yaml) : Except Invalid SshKey :=
  built .sshKey name (Options.ofYaml options >>= ofOptions name)

def canConnect (key : SshKey) : Bool := key.privateKey.isSome

end SshKey

end ClusterPlan.Entity
