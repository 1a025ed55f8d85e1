import ClusterPlan.Proofs.Except
import ClusterPlan.Proofs.Template.Filling
import ClusterPlan.Proofs.Template.ValueText
import ClusterPlan.Proxy.Nginx

/-!
# Configurations as written

The configuration of a plan is put together from blocks inside blocks, each rendered before it is
put into the next. A block has the texts of the plan between fixed ones, exactly as they are, and
no text is rendered a second time as a part of the block around it. The word that stands for what
is undefined is the only text that cannot be written. An endpoint is never this word, and neither
is a block.
-/

namespace ClusterPlan.Proxy

open Nginx Template

/-! ### Blocks -/

namespace Backend

def line (b : Backend) : String := "        server " ++ b.endpoint ++ ";"

def written (b : Backend) : String := lines [b.line]

end Backend

namespace Pool

def blockLines (pool : Pool) : List String :=
  ["    upstream " ++ pool.name ++ " \x7b",
   directiveText pool.strategy ++ String.join (pool.backends.map (·.written)) ++ "    \x7d"]

def written (pool : Pool) : String := lines pool.blockLines

end Pool

namespace Location

/-- What every location ends with. The variables in it are those of the proxy. -/
def headerLines : List String :=
  ["            proxy_http_version 1.1;",
   "            proxy_set_header Host $host;",
   "            proxy_set_header X-Real-IP $remote_addr;",
   "            proxy_set_header X-Forwarded-For $proxy_add_x_forwarded_for;",
   "            proxy_set_header X-Forwarded-Proto $scheme;",
   "            proxy_set_header Upgrade $http_upgrade;",
   "            proxy_set_header Connection \"upgrade\";",
   "        \x7d"]

def blockLines (l : Location) : List String :=
  ("        location " ++ l.path ++ " \x7b") ::
    ("            proxy_pass http://" ++ l.pool ++ ";") :: headerLines

def written (l : Location) : String := lines l.blockLines

end Location

namespace Listener

def blockLines (l : Listener) : List String :=
  ["    server \x7b",
   "        listen " ++ l.port ++ ";",
   "        server_name " ++ l.domain ++ ";",
   "",
   "\n".intercalate (l.locations.map (·.written)) ++ "    \x7d"]

def written (l : Listener) : String := lines l.blockLines

end Listener

namespace Plan

/-- What stands between the first line and the blocks. -/
def middleLines : List String :=
  ["events \x7b",
   "    worker_connections 1024;",
   "\x7d",
   "",
   "http \x7b",
   "    client_max_body_size 64m;",
   ""]

def fileLines (plan : Plan) : List String :=
  ("# Generated by shipyard for " ++ plan.server ++ ". Do not edit.") :: middleLines ++
    ["\n".intercalate (plan.pools.map (·.written)),
     "\n".intercalate (plan.listeners.map (·.written)) ++ "\x7d"]

def written (plan : Plan) : String := lines plan.fileLines

/-- No text of the plan is the word that stands for what is undefined. -/
structure IsDefined (plan : Plan) : Prop where
  server : plan.server ≠ "undefined"
  pool : ∀ pool ∈ plan.pools, pool.name ≠ "undefined"
  domain : ∀ l ∈ plan.listeners, l.domain ≠ "undefined"
  port : ∀ l ∈ plan.listeners, l.port ≠ "undefined"
  path : ∀ l ∈ plan.listeners, ∀ location ∈ l.locations, location.path ≠ "undefined"
  target : ∀ l ∈ plan.listeners, ∀ location ∈ l.locations, location.pool ≠ "undefined"

end Plan

/-! ### Texts that are defined -/

theorem Backend.endpoint_ne_undefined (b : Backend) : b.endpoint ≠ "undefined" := by
  intro h
  have hcolon : ':' ∈ b.endpoint.toList := by
    simp [Backend.endpoint, String.toList_append]
  rw [h] at hcolon
  exact absurd hcolon (by decide)

theorem directiveText_ne_undefined (strategy : Strategy) :
    directiveText strategy ≠ "undefined" := by
  cases strategy with
  | roundRobin => decide
  | leastConn => decide
  | ipHash => decide
  | random => decide

/-- Every block is indented. -/
def IsIndented (s : String) : Prop := s.toList.head? = some ' '

section Indented

variable {s : String} {rest blocks : List String}

theorem IsIndented.ne_undefined (h : IsIndented s) : s ≠ "undefined" :=
  Value.ne_undefined_of_head? h (by decide)

theorem IsIndented.append (h : IsIndented s) (t : String) : IsIndented (s ++ t) := by
  rw [IsIndented, String.toList_append, List.head?_append, h, Option.some_or]

theorem IsIndented.lines (h : IsIndented s) : IsIndented (lines (s :: rest)) := by
  rw [Nginx.lines, List.map_cons, String.join_cons]
  exact (h.append "\n").append _

theorem join_ne_undefined (h : ∀ s ∈ blocks, IsIndented s) : String.join blocks ≠ "undefined" := by
  cases blocks with
  | nil => decide
  | cons s rest =>
    rw [String.join_cons]
    apply IsIndented.ne_undefined
    exact (h s (.head _)).append _

theorem intercalate_ne_undefined {separator : String} (h : ∀ s ∈ blocks, IsIndented s) :
    separator.intercalate blocks ≠ "undefined" := by
  cases blocks with
  | nil =>
    rw [String.intercalate_nil]
    decide
  | cons s rest =>
    have hs : IsIndented s := h s (.head _)
    cases rest with
    | nil =>
      rw [String.intercalate_singleton]
      exact hs.ne_undefined
    | cons t more =>
      rw [String.intercalate_cons_cons]
      exact ((hs.append _).append _).ne_undefined

end Indented

theorem isIndented_backend (b : Backend) : IsIndented b.written := by
  have hfront : IsIndented "        server " := rfl
  exact ((hfront.append _).append _).lines

theorem isIndented_pool (pool : Pool) : IsIndented pool.written := by
  have hfront : IsIndented "    upstream " := rfl
  exact ((hfront.append _).append _).lines

theorem isIndented_location (l : Location) : IsIndented l.written := by
  have hfront : IsIndented "        location " := rfl
  exact ((hfront.append _).append _).lines

theorem isIndented_listener (l : Listener) : IsIndented l.written := by
  have hfront : IsIndented "    server \x7b" := rfl
  exact hfront.lines

/-! ### Blocks as they are filled -/

namespace Nginx

section Filling

variable {bindings : List (String × String)} {templates texts : List String}

/-- What the names of a template are bound to. -/
def contextOf (bindings : List (String × String)) : Context :=
  ⟨bindings.map fun (name, s) ↦ (name, .string s)⟩

/-- The template is filled with the text by the bindings. -/
abbrev FillsBy (bindings : List (String × String)) : String → String → Prop :=
  Fills Bindings.none (contextOf bindings)

theorem fill_lines (h : List.Forall₂ (FillsBy bindings) templates texts) :
    fill (lines templates) bindings = .ok (lines texts) := by
  have hlines : FillsBy bindings (lines templates) (lines texts) := by
    apply Fills.join
    rw [List.forall₂_map_left_iff, List.forall₂_map_right_iff]
    exact h.imp fun _ _ hline ↦ hline.append (IsFixed.fills (by decide))
  exact hlines.result .strict

/-- One name between two fixed texts. -/
theorem fillsBy_between {front back name value : String} (hname : IsName name)
    (hvalue : (contextOf bindings).lookup name = .ok (.string value)) (hdefined : value ≠ "undefined")
    (hfront : IsFixed front) (hback : IsFixed back) :
    FillsBy bindings (front ++ embed name ++ back) (front ++ value ++ back) :=
  (hfront.fills.append (hname.fills hvalue hdefined)).append hback.fills

/-- Blocks that are rendered already are put in as they are. -/
theorem fillsBy_blocks {α : Type} {as : List α} {written : α → String} {name : String}
    (hname : IsName name) (hvalue : (contextOf bindings).lookup name =
      .ok (.string ("\n".intercalate (as.map written))))
    (hindented : ∀ a, IsIndented (written a)) :
    FillsBy bindings (embed name) ("\n".intercalate (as.map written)) := by
  apply hname.fills hvalue
  apply intercalate_ne_undefined
  rw [List.forall_mem_map]
  exact fun a _ ↦ hindented a

end Filling

theorem fillAll_eq_ok {α : Type} {text : α → Except Template.Error String} {written : α → String}
    {as : List α} (h : ∀ a ∈ as, text a = .ok (written a)) :
    fillAll text as = .ok (as.map written) := by
  induction as with
  | nil => rfl
  | cons a rest ih =>
    have hrest : fillAll text rest = .ok (rest.map written) :=
      ih fun b hb ↦ h b (.tail _ hb)
    rw [fillAll, h a (.head _), hrest]
    rfl

/-! ### Templates by their lines -/

theorem backendTemplate_eq :
    backendTemplate = lines ["        server " ++ embed "endpoint" ++ ";"] :=
  congrArg lines (by decide)

theorem poolTemplate_eq : poolTemplate = lines
    ["    upstream " ++ embed "name" ++ " \x7b",
     embed "directive" ++ embed "backends" ++ "    \x7d"] :=
  congrArg lines (by decide)

theorem locationTemplate_eq : locationTemplate = lines
    (("        location " ++ embed "path" ++ " \x7b") ::
      ("            proxy_pass http://" ++ embed "upstream" ++ ";") :: Location.headerLines) :=
  congrArg lines (by decide)

theorem listenerTemplate_eq : listenerTemplate = lines
    ["    server \x7b",
     "        listen " ++ embed "port" ++ ";",
     "        server_name " ++ embed "domain" ++ ";",
     "",
     embed "locations" ++ "    \x7d"] :=
  congrArg lines (by decide)

theorem configTemplate_eq : configTemplate = lines
    (("# Generated by shipyard for " ++ embed "server" ++ ". Do not edit.") ::
      Plan.middleLines ++ [embed "upstreams", embed "listeners" ++ "\x7d"]) :=
  congrArg lines (by decide)

/-! ### Bindings of the blocks -/

def backendBindings (b : Backend) : List (String × String) := [("endpoint", b.endpoint)]

def poolBindings (pool : Pool) : List (String × String) :=
  [("name", pool.name), ("directive", directiveText pool.strategy),
    ("backends", String.join (pool.backends.map (·.written)))]

def locationBindings (l : Location) : List (String × String) :=
  [("path", l.path), ("upstream", l.pool)]

def listenerBindings (l : Listener) : List (String × String) :=
  [("port", l.port), ("domain", l.domain),
    ("locations", "\n".intercalate (l.locations.map (·.written)))]

def configBindings (plan : Plan) : List (String × String) :=
  [("server", plan.server), ("upstreams", "\n".intercalate (plan.pools.map (·.written))),
    ("listeners", "\n".intercalate (plan.listeners.map (·.written)))]

theorem backendText_eq_ok (b : Backend) : backendText b = .ok b.written := by
  have hline : FillsBy (backendBindings b) ("        server " ++ embed "endpoint" ++ ";") b.line :=
    fillsBy_between ⟨rfl, by with_unfolding_all rfl⟩ rfl b.endpoint_ne_undefined (by decide) (by decide)
  rw [backendText, backendTemplate_eq]
  exact fill_lines (.cons hline .nil)

theorem poolText_eq_ok {pool : Pool} (hname : pool.name ≠ "undefined") :
    poolText pool = .ok pool.written := by
  have hopen : FillsBy (poolBindings pool) ("    upstream " ++ embed "name" ++ " \x7b")
      ("    upstream " ++ pool.name ++ " \x7b") :=
    fillsBy_between ⟨rfl, by with_unfolding_all rfl⟩ rfl hname (by decide) (by decide)
  have hdirective : FillsBy (poolBindings pool) (embed "directive")
      (directiveText pool.strategy) :=
    IsName.fills ⟨rfl, by with_unfolding_all rfl⟩ rfl (directiveText_ne_undefined pool.strategy)
  have hbackends : FillsBy (poolBindings pool) (embed "backends")
      (String.join (pool.backends.map (·.written))) := by
    apply IsName.fills ⟨rfl, by with_unfolding_all rfl⟩ rfl
    apply join_ne_undefined
    rw [List.forall_mem_map]
    exact fun b _ ↦ isIndented_backend b
  have hend : IsFixed "    \x7d" := by decide
  have hfill : fill poolTemplate (poolBindings pool) = .ok pool.written := by
    rw [poolTemplate_eq]
    exact fill_lines (.cons hopen (.cons ((hdirective.append hbackends).append hend.fills) .nil))
  rw [poolText, Except.bind_eq_ok_iff]
  exact ⟨_, fillAll_eq_ok fun b _ ↦ backendText_eq_ok b, hfill⟩

theorem isFixed_headerLines : ∀ s ∈ Location.headerLines, IsFixed s := by
  decide

theorem locationText_eq_ok {l : Location} (hpath : l.path ≠ "undefined")
    (hpool : l.pool ≠ "undefined") : locationText l = .ok l.written := by
  have hopen : FillsBy (locationBindings l) ("        location " ++ embed "path" ++ " \x7b")
      ("        location " ++ l.path ++ " \x7b") :=
    fillsBy_between ⟨rfl, by with_unfolding_all rfl⟩ rfl hpath (by decide) (by decide)
  have hpass : FillsBy (locationBindings l)
      ("            proxy_pass http://" ++ embed "upstream" ++ ";")
      ("            proxy_pass http://" ++ l.pool ++ ";") :=
    fillsBy_between ⟨rfl, by with_unfolding_all rfl⟩ rfl hpool (by decide) (by decide)
  rw [locationText, locationTemplate_eq]
  exact fill_lines (.cons hopen (.cons hpass (forall₂_fills_fixed isFixed_headerLines)))

theorem listenerText_eq_ok {l : Listener} (hport : l.port ≠ "undefined")
    (hdomain : l.domain ≠ "undefined")
    (hlocations : ∀ location ∈ l.locations, locationText location = .ok location.written) :
    listenerText l = .ok l.written := by
  have hopen : IsFixed "    server \x7b" := by decide
  have hlisten : FillsBy (listenerBindings l) ("        listen " ++ embed "port" ++ ";")
      ("        listen " ++ l.port ++ ";") :=
    fillsBy_between ⟨rfl, by with_unfolding_all rfl⟩ rfl hport (by decide) (by decide)
  have hname : FillsBy (listenerBindings l) ("        server_name " ++ embed "domain" ++ ";")
      ("        server_name " ++ l.domain ++ ";") :=
    fillsBy_between ⟨rfl, by with_unfolding_all rfl⟩ rfl hdomain (by decide) (by decide)
  have hempty : IsFixed "" := by decide
  have hblocks : FillsBy (listenerBindings l) (embed "locations")
      ("\n".intercalate (l.locations.map (·.written))) :=
    fillsBy_blocks ⟨rfl, by with_unfolding_all rfl⟩ rfl isIndented_location
  have hend : IsFixed "    \x7d" := by decide
  have hfill : fill listenerTemplate (listenerBindings l) = .ok l.written := by
    rw [listenerTemplate_eq]
    exact fill_lines (.cons hopen.fills (.cons hlisten (.cons hname (.cons hempty.fills
      (.cons (hblocks.append hend.fills) .nil)))))
  rw [listenerText, Except.bind_eq_ok_iff]
  exact ⟨_, fillAll_eq_ok hlocations, hfill⟩

theorem isFixed_middleLines : ∀ s ∈ Plan.middleLines, IsFixed s := by
  decide

theorem forall₂_fileLines {plan : Plan} (hserver : plan.server ≠ "undefined") :
    List.Forall₂ (FillsBy (configBindings plan))
      (("# Generated by shipyard for " ++ embed "server" ++ ". Do not edit.") ::
        Plan.middleLines ++ [embed "upstreams", embed "listeners" ++ "\x7d"]) plan.fileLines := by
  have hfirst : FillsBy (configBindings plan)
      ("# Generated by shipyard for " ++ embed "server" ++ ". Do not edit.")
      ("# Generated by shipyard for " ++ plan.server ++ ". Do not edit.") :=
    fillsBy_between ⟨rfl, by with_unfolding_all rfl⟩ rfl hserver (by decide) (by decide)
  have hpools : FillsBy (configBindings plan) (embed "upstreams")
      ("\n".intercalate (plan.pools.map (·.written))) :=
    fillsBy_blocks ⟨rfl, by with_unfolding_all rfl⟩ rfl isIndented_pool
  have hlisteners : FillsBy (configBindings plan) (embed "listeners")
      ("\n".intercalate (plan.listeners.map (·.written))) :=
    fillsBy_blocks ⟨rfl, by with_unfolding_all rfl⟩ rfl isIndented_listener
  have hend : IsFixed "\x7d" := by decide
  exact .cons hfirst (List.rel_append (forall₂_fills_fixed isFixed_middleLines)
    (.cons hpools (.cons (hlisteners.append hend.fills) .nil)))

theorem config_of_blocks {plan : Plan} (hserver : plan.server ≠ "undefined")
    (hpools : ∀ pool ∈ plan.pools, poolText pool = .ok pool.written)
    (hlisteners : ∀ l ∈ plan.listeners, listenerText l = .ok l.written) :
    config plan = .ok plan.written := by
  have hfill : fill configTemplate (configBindings plan) = .ok plan.written := by
    rw [configTemplate_eq]
    exact fill_lines (forall₂_fileLines hserver)
  rw [config, Except.bind_eq_ok_iff]
  refine ⟨_, fillAll_eq_ok hpools, ?_⟩
  rw [Except.bind_eq_ok_iff]
  exact ⟨_, fillAll_eq_ok hlisteners, hfill⟩

/-- The configuration of a plan without undefined texts is the plan as written, whatever stands in
its texts. -/
theorem config_eq_ok_written {plan : Plan} (h : plan.IsDefined) :
    config plan = .ok plan.written := by
  have hpools : ∀ pool ∈ plan.pools, poolText pool = .ok pool.written :=
    fun pool hpool ↦ poolText_eq_ok (h.pool pool hpool)
  have hlisteners : ∀ l ∈ plan.listeners, listenerText l = .ok l.written := fun l hl ↦
    listenerText_eq_ok (h.port l hl) (h.domain l hl) fun location hlocation ↦
      locationText_eq_ok (h.path l hl location hlocation) (h.target l hl location hlocation)
  exact config_of_blocks h.server hpools hlisteners

/-- A plan with expressions, backslashes, braces and variables of the proxy in its texts. -/
def templatedPlan : Plan where
  server := "web-$\x7b1 + 1\x7d"
  pools := [⟨"api\\$\x7bname\x7d", .leastConn, [⟨"$\x7bendpoint\x7d", "80\x7d"⟩]⟩]
  listeners := [⟨"$host", "80\\", [⟨"/a\x7b$\x7bpath", "api\\$\x7bname\x7d"⟩]⟩]

theorem config_templatedPlan :
    templatedPlan.IsDefined ∧ config templatedPlan = .ok templatedPlan.written := by
  have hdefined : templatedPlan.IsDefined := by
    refine ⟨?_, ?_, ?_, ?_, ?_, ?_⟩
    all_goals decide
  exact ⟨hdefined, config_eq_ok_written hdefined⟩

end Nginx

end ClusterPlan.Proxy
