import ClusterPlan.Registry.Basic
import ClusterPlan.Template.Render
import ClusterPlan.Yaml.Reader

/-!
# Cluster documents

A document maps the four sections to the options of their entities by name. It is loaded by
rendering the strings of its keys, volumes and servers, a section after the other, and building the
entities in the order of the sections. The strings of services are left for later.
-/

namespace ClusterPlan

open Entity

namespace Document

/-- The sections in the order in which they are worked through. -/
def order : List Kind := [.sshKey, .volume, .server, .service]

inductive Fault where
  | notMapping
  | unknownKey (key : Yaml)
  | keyNotText (kind : Kind) (key : Yaml)
  | sectionNotMapping (kind : Kind)

def Fault.message : Fault → String
  | notMapping => "top level must be a mapping"
  | unknownKey key => "unknown top-level key " ++ key.description ++
      "; expected servers, services, ssh_keys or volumes"
  | keyNotText kind key =>
    kind.sectionName ++ " keys must be strings, found " ++ key.description
  | sectionNotMapping kind => "`" ++ kind.sectionName ++ "` must map names to options"

inductive Error where
  | unreadable
  | malformed (fault : Fault)
  | invalid (e : Invalid)
  | render (kind : Kind) (name : String) (e : Template.Error)

/-- An unreadable document is described by its reader alone. -/
def Error.message? : Error → Option String
  | unreadable => none
  | malformed fault => some ("invalid document: " ++ fault.message)
  | invalid e => some e.message
  | render kind name e => some (kind.name ++ " \"" ++ name ++ "\": " ++ e.message)

/-- The entities of one kind: names with options. -/
abbrev Entries := List (String × Yaml)

abbrev Sections := List (Kind × Entries)

/-! ### Sections -/

def isSectionName (key : Yaml) : Bool :=
  key.text?.any fun s ↦ order.any (·.sectionName == s)

def entriesOf (kind : Kind) : List (Yaml × Yaml) → Except Fault Entries
  | [] => .ok []
  | (key, options) :: rest =>
    match key.text? with
    | none => .error (.keyNotText kind key)
    | some name => (entriesOf kind rest).map ((name, options) :: ·)

def sectionOf (root : List (Yaml × Yaml)) (kind : Kind) : Except Fault Entries :=
  match Yaml.lookup kind.sectionName root with
  | none | some .null => .ok []
  | some (.mapping entries) => entriesOf kind entries
  | some _ => .error (.sectionNotMapping kind)

def sectionsOf (root : List (Yaml × Yaml)) : List Kind → Except Fault Sections
  | [] => .ok []
  | kind :: rest =>
    match sectionOf root kind with
    | .error e => .error e
    | .ok entries => (sectionsOf root rest).map ((kind, entries) :: ·)

/-- The sections of a document; null stands for an empty one. -/
def sections (document : Yaml) : Except Fault Sections :=
  let ofRoot (root : List (Yaml × Yaml)) : Except Fault Sections :=
    match root.find? fun (key, _) ↦ !isSectionName key with
    | some (key, _) => .error (.unknownKey key)
    | none => sectionsOf root order
  match document with
  | .mapping root => ofRoot root
  | .null => ofRoot []
  | _ => .error .notMapping

/-! ### Strings of a value -/

mutual

/-- The strings of a value in order, keys of mappings left out. -/
def leaves : Yaml → List String
  | .string s => [s]
  | .sequence items => leavesOfItems items
  | .mapping entries => leavesOfEntries entries
  | .tagged _ value => leaves value
  | .null | .bool _ | .number _ => []

def leavesOfItems : List Yaml → List String
  | [] => []
  | item :: rest => leaves item ++ leavesOfItems rest

def leavesOfEntries : List (Yaml × Yaml) → List String
  | [] => []
  | (_, value) :: rest => leaves value ++ leavesOfEntries rest

end

mutual

/-- The value with texts in place of its strings, and the texts that are left over. -/
def refill : Yaml → List String → Yaml × List String
  | .string s, texts => (.string (texts.head?.getD s), texts.drop 1)
  | .sequence items, texts =>
    let (items, texts) := refillItems items texts
    (.sequence items, texts)
  | .mapping entries, texts =>
    let (entries, texts) := refillEntries entries texts
    (.mapping entries, texts)
  | .tagged tag value, texts =>
    let (value, texts) := refill value texts
    (.tagged tag value, texts)
  | .null, texts => (.null, texts)
  | .bool b, texts => (.bool b, texts)
  | .number n, texts => (.number n, texts)

def refillItems : List Yaml → List String → List Yaml × List String
  | [], texts => ([], texts)
  | item :: rest, texts =>
    let (item, texts) := refill item texts
    let (rest, texts) := refillItems rest texts
    (item :: rest, texts)

def refillEntries : List (Yaml × Yaml) → List String → List (Yaml × Yaml) × List String
  | [], texts => ([], texts)
  | (key, value) :: rest, texts =>
    let (value, texts) := refill value texts
    let (rest, texts) := refillEntries rest texts
    ((key, value) :: rest, texts)

end

/-! ### Rendering -/

/-- How the strings of a document are rendered. -/
structure Renderer where
  options : Template.Options
  functions : Template.Functions
  context : Template.Context

def Renderer.render (r : Renderer) (template : String) : Template.Evaluation String :=
  Template.renderWith r.options r.functions r.context template

abbrev Loading (α : Type) : Type := Activity Template.Call Error α

def renderOptions (r : Renderer) (options : Yaml) : Template.Evaluation Yaml :=
  (Activity.join ((leaves options).map r.render)).andThen fun texts ↦
    pure (refill options texts).1

def renderEntry (r : Renderer) (kind : Kind) (entry : String × Yaml) : Loading (String × Yaml) :=
  ((renderOptions r entry.2).mapError (.render kind entry.1)).andThen fun options ↦
    pure (entry.1, options)

def renderSection (r : Renderer) (kind : Kind) (entries : Entries) : Loading Entries :=
  if kind = .service then pure entries
  else Activity.join (entries.map (renderEntry r kind))

def renderSections (r : Renderer) : Sections → Loading Sections
  | [] => pure []
  | (kind, entries) :: rest =>
    (renderSection r kind entries).andThen fun entries ↦
      (renderSections r rest).andThen fun rest ↦ pure ((kind, entries) :: rest)

end Document

namespace Registry

def addEntries (r : Registry) (kind : Kind) : Document.Entries → Except Invalid Registry
  | [] => .ok r
  | (name, options) :: rest =>
    match r.add kind name options with
    | .ok r => r.addEntries kind rest
    | .error e => .error e

def addSections (r : Registry) : Document.Sections → Except Invalid Registry
  | [] => .ok r
  | (kind, entries) :: rest =>
    match r.addEntries kind entries with
    | .ok r => r.addSections rest
    | .error e => .error e

def ofSections (sections : Document.Sections) : Except Document.Error Registry :=
  (empty.addSections sections).mapError .invalid

/-- The registry of a document as it stands. -/
def ofDocument (document : Yaml) : Except Document.Error Registry :=
  ((Document.sections document).mapError .malformed).bind ofSections

/-- The registry of a document whose strings are rendered first. -/
def loadDocument (renderer : Document.Renderer) (document : Yaml) : Document.Loading Registry :=
  match Document.sections document with
  | .error fault => .fail (.malformed fault)
  | .ok sections =>
    (Document.renderSections renderer sections).andThen fun sections ↦
      .ofExcept (ofSections sections)

def readDocument (text : String) : Except Document.Error Yaml :=
  match Yaml.read? text with
  | some document => .ok document
  | none => .error .unreadable

def parse (text : String) : Except Document.Error Registry :=
  (readDocument text).bind ofDocument

def load (renderer : Document.Renderer) (text : String) : Document.Loading Registry :=
  (Activity.ofExcept (readDocument text)).andThen (loadDocument renderer)

end Registry

end ClusterPlan
