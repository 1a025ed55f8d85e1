import ClusterPlan.Entity.Server
import ClusterPlan.State
import ClusterPlan.Template.Value

/-!
# The binding of a server

What the strings of a service see of the server that it is placed on. Its address and its details
are null until it has been provisioned.
-/

namespace ClusterPlan.Bindings

open Template

def serverName : String := "server"

def server (server : Entity.Server) (details : Option ServerDetails) : Value :=
  Value.ofFields
    [("name", .string server.name), ("server_type", .string server.serverType),
      ("location", Value.ofText? server.location),
      ("address", Value.ofText? (details.map (·.address))),
      ("details", (details.map fun d ↦ Value.ofJson d.attributes).getD .null)]

end ClusterPlan.Bindings
