import ClusterPlan.Bindings.Global
import ClusterPlan.Proxy.Plan
import ClusterPlan.Template.Render

/-!
# Proxy configuration

The configuration text of a proxy plan. Its parts are templates that are filled from the inside to
the outside, so that a text of the plan is never read as a template itself.
-/

namespace ClusterPlan.Proxy.Nginx

open Template (Context Value)

/-- Lines of text, each with its end. -/
def lines (ls : List String) : String := String.join (ls.map (· ++ "\n"))

def configTemplate : String := lines
  ["# Generated by shipyard for $\x7bserver\x7d. Do not edit.",
   "events \x7b",
   "    worker_connections 1024;",
   "\x7d",
   "",
   "http \x7b",
   "    client_max_body_size 64m;",
   "",
   "$\x7bupstreams\x7d",
   "$\x7blisteners\x7d\x7d"]

def poolTemplate : String := lines
  ["    upstream $\x7bname\x7d \x7b",
   "$\x7bdirective\x7d$\x7bbackends\x7d    \x7d"]

def backendTemplate : String := lines ["        server $\x7bendpoint\x7d;"]

def listenerTemplate : String := lines
  ["    server \x7b",
   "        listen $\x7bport\x7d;",
   "        server_name $\x7bdomain\x7d;",
   "",
   "$\x7blocations\x7d    \x7d"]

def locationTemplate : String := lines
  ["        location $\x7bpath\x7d \x7b",
   "            proxy_pass http://$\x7bupstream\x7d;",
   "            proxy_http_version 1.1;",
   "            proxy_set_header Host $host;",
   "            proxy_set_header X-Real-IP $remote_addr;",
   "            proxy_set_header X-Forwarded-For $proxy_add_x_forwarded_for;",
   "            proxy_set_header X-Forwarded-Proto $scheme;",
   "            proxy_set_header Upgrade $http_upgrade;",
   "            proxy_set_header Connection \"upgrade\";",
   "        \x7d"]

/-- A template with texts in the places of names. -/
def fill (template : String) (bindings : List (String × String)) :
    Except Template.Error String :=
  (Template.render Bindings.none ⟨bindings.map fun (name, s) ↦ (name, .string s)⟩
    template).result

/-- The texts of all members of a list, or the first failure. -/
def fillAll {α : Type} (text : α → Except Template.Error String) :
    List α → Except Template.Error (List String)
  | [] => .ok []
  | a :: rest =>
    match text a with
    | .error e => .error e
    | .ok s => (fillAll text rest).map (s :: ·)

def backendText (b : Backend) : Except Template.Error String :=
  fill backendTemplate [("endpoint", b.endpoint)]

def directiveText (strategy : Strategy) : String :=
  match strategy.directive? with
  | some directive => "        " ++ directive ++ ";\n"
  | none => ""

def poolText (pool : Pool) : Except Template.Error String := do
  let backends ← fillAll backendText pool.backends
  fill poolTemplate
    [("name", pool.name), ("directive", directiveText pool.strategy),
      ("backends", String.join backends)]

def locationText (l : Location) : Except Template.Error String :=
  fill locationTemplate [("path", l.path), ("upstream", l.pool)]

def listenerText (l : Listener) : Except Template.Error String := do
  let locations ← fillAll locationText l.locations
  fill listenerTemplate
    [("port", l.port), ("domain", l.domain), ("locations", "\n".intercalate locations)]

/-- The configuration of a plan. -/
def config (plan : Plan) : Except Template.Error String := do
  let pools ← fillAll poolText plan.pools
  let listeners ← fillAll listenerText plan.listeners
  fill configTemplate
    [("server", plan.server), ("upstreams", "\n".intercalate pools),
      ("listeners", "\n".intercalate listeners)]

end ClusterPlan.Proxy.Nginx
