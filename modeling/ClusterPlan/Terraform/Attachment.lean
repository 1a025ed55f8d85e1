import ClusterPlan.Artifacts.Error
import ClusterPlan.Bindings.Global
import ClusterPlan.Template.Render
import ClusterPlan.Terraform.Resource

/-!
# Attachments of volumes

A volume is attached to the server that claims it and mounted over a connection with the first key
of the server that can open one. The lines of the mount script are templates of two passes: the
first fills in the device, the second the mount point.
-/

namespace ClusterPlan.Terraform

open Entity Naming

/-- What is left for the second pass stands behind a backslash. -/
def mountTemplates : List String :=
  ["mkdir -p \\$\x7bpath\x7d",
   "mountpoint -q \\$\x7bpath\x7d || mount -o discard,defaults $\x7bdevice\x7d \\$\x7bpath\x7d",
   "grep -qs '$\x7bdevice\x7d ' /etc/fstab || echo '$\x7bdevice\x7d \\$\x7bpath\x7d ext4 " ++
     "discard,nofail,defaults 0 0' >> /etc/fstab"]

def deviceReference (volume : Volume) : Reference :=
  ⟨volumeType, identifier volume.name, "linux_device"⟩

/-- The device is left to the provisioner: its reference must come out of both passes as it is. -/
def mountPipeline (volume : Volume) : Template.Pipeline :=
  ⟨.strict, Bindings.none,
    ⟨[("volume", .string volume.name),
      ("device", .string ("\\" ++ (deviceReference volume).text))]⟩⟩

def mountPoint (volume : Volume) : Template.Context := ⟨[("path", .string volume.path)]⟩

/-- The commands that mount a volume. -/
def mountScript (volume : Volume) : Except ArtifactError (List String) :=
  ((Activity.join (mountTemplates.map fun line ↦
      (mountPipeline volume).render line (mountPoint volume))).result).mapError
    (.template (.mountScript volume.name))

def attachmentId (server : Server) (volume : Volume) : String :=
  identifier server.name ++ "_" ++ identifier volume.name

def connection (server : Server) (key : SshKey) : Json :=
  .object
    [("type", .string "ssh"),
      ("host", .string (Reference.text ⟨serverType, identifier server.name, "ipv4_address"⟩)),
      ("user", .string key.user),
      ("private_key", .string ("$\x7bfile(\"../ssh/" ++ key.name ++ "\")\x7d"))]

def attachmentOf (server : Server) (volume : Volume) (key : SshKey) (script : List String) :
    Json :=
  resources [(attachmentType, attachmentId server volume,
    [("volume_id", .string (Reference.text ⟨volumeType, identifier volume.name, "id"⟩)),
      ("server_id", .string (Reference.text ⟨serverType, identifier server.name, "id"⟩)),
      ("automount", .bool false),
      ("connection", connection server key),
      ("provisioner", .array
        [single "remote-exec" (single "inline" (.array (script.map .string)))])])]

def attachmentResource (registry : Registry) (server : Server) (volume : Volume) :
    Except ArtifactError Json :=
  match registry.connectionKey? server with
  | none => .error (.noConnectableKey server.name)
  | some key => (mountScript volume).map (attachmentOf server volume key)

/-- Every server with each volume that it lists. -/
def attachmentPairs (registry : Registry) : List (Server × Volume) :=
  registry.servers.flatMap fun server ↦ (registry.volumesOf server).map (server, ·)

end ClusterPlan.Terraform
