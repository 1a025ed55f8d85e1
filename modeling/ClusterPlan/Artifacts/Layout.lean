import ClusterPlan.Files.Path

/-!
# Layout of the output directory

Where artifacts lie: resources of the provisioner, key files, and one directory for each server.
-/

namespace ClusterPlan

structure Layout where
  root : String
  deriving Repr, DecidableEq

namespace Layout

def terraformDirectory (l : Layout) : String := Path.join l.root "terraform"

def stateFile (l : Layout) : String := Path.join l.terraformDirectory "terraform.tfstate"

def sshDirectory (l : Layout) : String := Path.join l.root "ssh"

def privateKey (l : Layout) (key : String) : String := Path.join l.sshDirectory key

/-- The public half of a key lies beside the private one. -/
def publicKey (l : Layout) (key : String) : String :=
  Path.withFileName (l.privateKey key) (key ++ ".pub")

def knownHosts (l : Layout) : String := Path.join l.sshDirectory "known_hosts"

def serverDirectory (l : Layout) (server : String) : String :=
  Path.join (Path.join l.root "servers") server

def composeFile (l : Layout) (server : String) : String :=
  Path.join (l.serverDirectory server) "docker-compose.yml"

def proxyFile (l : Layout) (server : String) : String :=
  Path.join (l.serverDirectory server) "nginx.conf"

end Layout

end ClusterPlan
