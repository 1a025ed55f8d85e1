import ClusterPlan.Artifacts.Layout
import ClusterPlan.Artifacts.Writing
import ClusterPlan.Json.Writer
import ClusterPlan.Terraform.Attachment

/-!
# Provisioning files

A file for the provider and one for each resource. Attachments are only written once the files of
all servers, keys and volumes are there. Nothing is written for a registry whose references or
volumes are not in order.
-/

namespace ClusterPlan.Artifact

open Entity Naming Terraform

def resourceText (resource : Json) : String := resource.sorted.pretty ++ "\n"

/-- The path of the resource file of a name. -/
def resourceFile (layout : Layout) (name : String) : String :=
  Path.join layout.terraformDirectory (name ++ ".tf.json")

def writeResource (layout : Layout) (name : String) (resource : Json) : Writing :=
  write (resourceFile layout name) (resourceText resource)

/-! ### Names of resource files -/

def providerName : String := "provider"

def keyFileName (key : SshKey) : String := "ssh_key_" ++ identifier key.name

def serverFileName (server : Server) : String := "server_" ++ identifier server.name

def volumeFileName (volume : Volume) : String := "volume_" ++ identifier volume.name

def attachmentFileName (server : Server) (volume : Volume) : String :=
  "volume_attachment_" ++ attachmentId server volume

/-! ### Writing -/

/-- Keys without a public half are no resources. -/
def writeKeyResources (layout : Layout) (registry : Registry) : Writing :=
  Change.join ((registry.sshKeys.filter (·.publicKey.isSome)).map fun key ↦
    writeResource layout (keyFileName key) (keyResource key))

def writeServers (layout : Layout) (registry : Registry) : Writing :=
  Change.join (registry.servers.map fun server ↦
    writeResource layout (serverFileName server) (serverResource registry server))

def writeVolumes (layout : Layout) (registry : Registry) : Writing :=
  Change.join (registry.volumes.map fun volume ↦
    writeResource layout (volumeFileName volume) (volumeResource registry volume))

def writeAttachment (layout : Layout) (registry : Registry) (server : Server) (volume : Volume) :
    Writing :=
  match attachmentResource registry server volume with
  | .ok resource => writeResource layout (attachmentFileName server volume) resource
  | .error e => Change.fail e

def writeAttachments (layout : Layout) (registry : Registry) : Writing :=
  Change.join ((attachmentPairs registry).map fun (server, volume) ↦
    writeAttachment layout registry server volume)

def writeResources (layout : Layout) (registry : Registry) : Writing :=
  (Change.join
    [writeResource layout providerName provider, writeKeyResources layout registry,
      writeServers layout registry, writeVolumes layout registry]).andThen
    (writeAttachments layout registry)

def writeProvisioning (layout : Layout) (registry : Registry) : Writing :=
  match registry.checkReferences, registry.checkOwnership with
  | .error e, _ => Change.fail (.unknownReference e)
  | .ok (), .error e => Change.fail (.misowned e)
  | .ok (), .ok () => writeResources layout registry

end ClusterPlan.Artifact
