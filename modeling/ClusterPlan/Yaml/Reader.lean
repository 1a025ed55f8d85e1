import ClusterPlan.Yaml.Resolve
import ClusterPlan.Yaml.Token

/-!
# Reading documents

A text holds at most one document; an empty text stands for null. An anchor gives a name to a node,
and an alias stands for the node that had its name last. Containers nest at most 128 deep, no
mapping has a key twice, and aliases may not blow up a small text.
-/

namespace ClusterPlan.Yaml

/-- What a name stands for, and how many aliases are followed to build it. A node that is not yet
complete cannot be named. -/
structure Anchored where
  node : Option Yaml
  jumps : Nat

/-- The tokens still to be read and what has been gathered on the way. -/
structure Composing where
  tokens : List Token
  anchors : List (String × Anchored)
  handles : List (String × String)
  /-- Aliases followed so far, those inside of aliased nodes included. -/
  jumps : Nat
  /-- The beginnings and ends of nodes in the text. -/
  events : Nat

/-- A node and what is left after it. -/
abbrev Composed := Option (Yaml × Composing)

namespace Composing

def drop (s : Composing) : Composing := { s with tokens := s.tokens.drop 1 }

def countEvents (s : Composing) (n : Nat) : Composing := { s with events := s.events + n }

def open? (s : Composing) (anchor : Option String) : Composing :=
  match anchor with
  | some name => { s with anchors := (name, ⟨none, 0⟩) :: s.anchors }
  | none => s

/-- Give the finished node its name. -/
def close (s : Composing) (anchor : Option String) (before : Nat) (node : Yaml) : Composing :=
  match anchor with
  | some name => { s with anchors := (name, ⟨some node, s.jumps - before⟩) :: s.anchors }
  | none => s

end Composing

/-- The full name of a tag. -/
def fullTag? (handles : List (String × String)) (handle name : String) : Option String :=
  if handle.isEmpty then some name else (handles.lookup handle).map (· ++ name)

/-- The document's own name in a tag: what follows the exclamation mark. -/
def localTag? (tag : String) : Option String :=
  match tag.toList with
  | '!' :: rest => some (String.ofList rest)
  | _ => none

/-- The tag and the anchor in front of a node, in either order. -/
def takeProperties (s : Composing) : Option (Option String × Option String × Composing) :=
  match s.tokens with
  | .anchor a :: .tag handle name :: _ =>
    (fullTag? s.handles handle name).map fun tag ↦ (some tag, some a, s.drop.drop)
  | .tag handle name :: .anchor a :: _ =>
    (fullTag? s.handles handle name).map fun tag ↦ (some tag, some a, s.drop.drop)
  | .anchor a :: _ => some (none, some a, s.drop)
  | .tag handle name :: _ =>
    (fullTag? s.handles handle name).map fun tag ↦ (some tag, none, s.drop)
  | _ => some (none, none, s)

/-- A scalar under a tag. The exclamation mark alone asks for nothing. -/
def scalarValue? (tag : Option String) (text : String) (plain : Bool) : Option Yaml :=
  let untyped := if plain then resolve? text else some (string text)
  match tag with
  | none => untyped
  | some "!" => untyped
  | some tag =>
    match localTag? tag with
    | some name => untyped.map (tagged name)
    | none => resolveCore? tag text

/-- A container under a tag. -/
def containerValue (tag : Option String) (v : Yaml) : Yaml :=
  match tag.bind localTag? with
  | some name => if name.isEmpty then v else tagged name v
  | none => v

def emptyScalar (s : Composing) : Composed := some (null, s.countEvents 1)

mutual

/-- A node. Only within a block may it be a block itself, and only as part of a block mapping may it
be a sequence that is not indented. -/
def composeNode (block indentless : Bool) : Nat → Composing → Composed
  | 0, _ => none
  | fuel + 1, s =>
    match s.tokens with
    | .alias name :: _ =>
      match s.anchors.lookup name with
      | some ⟨some node, jumps⟩ =>
        some (node, { s.drop.countEvents 1 with jumps := s.jumps + jumps + 1 })
      | _ => none
    | _ =>
      match takeProperties s with
      | none => none
      | some (tag, anchor, s) =>
        let before := s.jumps
        let container (read : Composing → Option (Yaml × Composing)) : Composed :=
          match read ((s.open? anchor).countEvents 2) with
          | some (v, s) =>
            let v := containerValue tag v
            some (v, s.close anchor before v)
          | none => none
        match s.tokens with
        | .scalar text plain :: _ =>
          match scalarValue? tag text plain with
          | some v => some (v, (s.drop.countEvents 1).close anchor before v)
          | none => none
        | .blockEntry :: _ =>
          if indentless then
            container fun s ↦ composeIndentless fuel [] s
          else emptyTagged tag anchor s
        | .flowSequenceStart :: _ =>
          container fun s ↦ composeFlowSequence true fuel [] s.drop
        | .flowMappingStart :: _ =>
          container fun s ↦ composeFlowMapping true fuel [] s.drop
        | .blockSequenceStart :: _ =>
          if block then container fun s ↦ composeBlockSequence fuel [] s.drop
          else emptyTagged tag anchor s
        | .blockMappingStart :: _ =>
          if block then container fun s ↦ composeBlockMapping fuel [] s.drop
          else emptyTagged tag anchor s
        | _ => emptyTagged tag anchor s

/-- A node of nothing but a tag or an anchor. -/
def emptyTagged (tag anchor : Option String) (s : Composing) : Composed :=
  if tag.isNone && anchor.isNone then none
  else match scalarValue? tag "" true with
    | some v => some (v, (s.countEvents 1).close anchor s.jumps v)
    | none => none

def composeBlockSequence : Nat → List Yaml → Composing → Composed
  | 0, _, _ => none
  | fuel + 1, items, s =>
    match s.tokens with
    | .blockEntry :: rest =>
      let item := match rest with
        | .blockEntry :: _ | .blockEnd :: _ => emptyScalar s.drop
        | _ => composeNode true false fuel s.drop
      match item with
      | some (v, s) => composeBlockSequence fuel (v :: items) s
      | none => none
    | .blockEnd :: _ => some (sequence items.reverse, s.drop)
    | _ => none

def composeIndentless : Nat → List Yaml → Composing → Composed
  | 0, _, _ => none
  | fuel + 1, items, s =>
    match s.tokens with
    | .blockEntry :: rest =>
      let item := match rest with
        | .blockEntry :: _ | .key :: _ | .value :: _ | .blockEnd :: _ => emptyScalar s.drop
        | _ => composeNode true false fuel s.drop
      match item with
      | some (v, s) => composeIndentless fuel (v :: items) s
      | none => none
    | _ => some (sequence items.reverse, s)

def composeBlockMapping : Nat → List (Yaml × Yaml) → Composing → Composed
  | 0, _, _ => none
  | fuel + 1, entries, s =>
    let part (s : Composing) : Composed :=
      match s.tokens with
      | .key :: _ | .value :: _ | .blockEnd :: _ => emptyScalar s
      | _ => composeNode true true fuel s
    let value (s : Composing) : Composed :=
      match s.tokens with
      | .value :: _ => part s.drop
      | _ => emptyScalar s
    match s.tokens with
    | .key :: _ =>
      match part s.drop with
      | some (k, s) =>
        match value s with
        | some (v, s) => composeBlockMapping fuel ((k, v) :: entries) s
        | none => none
      | none => none
    | .blockEnd :: _ => some (mapping entries.reverse, s.drop)
    | _ => none

/-- The items of a flow sequence. An item with a colon is a mapping of one entry. -/
def composeFlowSequence (first : Bool) : Nat → List Yaml → Composing → Composed
  | 0, _, _ => none
  | fuel + 1, items, s =>
    let item (s : Composing) : Composed :=
      match s.tokens with
      | .flowSequenceEnd :: _ => some (sequence items.reverse, s.drop)
      | .key :: _ =>
        match composeFlowPair fuel (s.drop.countEvents 2) with
        | some (v, s) => composeFlowSequence false fuel (v :: items) s
        | none => none
      | _ =>
        match composeNode false false fuel s with
        | some (v, s) => composeFlowSequence false fuel (v :: items) s
        | none => none
    match s.tokens with
    | .flowSequenceEnd :: _ => some (sequence items.reverse, s.drop)
    | .flowEntry :: _ => if first then none else item s.drop
    | _ => if first then item s else none

/-- The one entry of a mapping without braces. -/
def composeFlowPair : Nat → Composing → Composed
  | 0, _ => none
  | fuel + 1, s =>
    let key := match s.tokens with
      | .value :: _ | .flowEntry :: _ | .flowSequenceEnd :: _ => emptyScalar s.drop
      | _ => composeNode false false fuel s
    match key with
    | none => none
    | some (k, s) =>
      let value := match s.tokens with
        | .value :: .flowEntry :: _ | .value :: .flowSequenceEnd :: _ => emptyScalar s.drop
        | .value :: _ => composeNode false false fuel s.drop
        | _ => emptyScalar s
      value.map fun (v, s) ↦ (mapping [(k, v)], s)

def composeFlowMapping (first : Bool) : Nat → List (Yaml × Yaml) → Composing → Composed
  | 0, _, _ => none
  | fuel + 1, entries, s =>
    let value (s : Composing) : Composed :=
      match s.tokens with
      | .value :: .flowEntry :: _ | .value :: .flowMappingEnd :: _ => emptyScalar s.drop
      | .value :: _ => composeNode false false fuel s.drop
      | _ => emptyScalar s
    let entry (s : Composing) : Composed :=
      match s.tokens with
      | .flowMappingEnd :: _ => some (mapping entries.reverse, s.drop)
      | .key :: rest =>
        let key := match rest with
          | .value :: _ | .flowEntry :: _ | .flowMappingEnd :: _ => emptyScalar s.drop
          | _ => composeNode false false fuel s.drop
        match key with
        | some (k, s) =>
          match value s with
          | some (v, s) => composeFlowMapping false fuel ((k, v) :: entries) s
          | none => none
        | none => none
      | _ =>
        match composeNode false false fuel s with
        | some (k, s) => composeFlowMapping false fuel ((k, null) :: entries) (s.countEvents 1)
        | none => none
    match s.tokens with
    | .flowMappingEnd :: _ => some (mapping entries.reverse, s.drop)
    | .flowEntry :: _ => if first then none else entry s.drop
    | _ => if first then entry s else none

end

/-- The handles that need no directive. -/
def coreHandles : List (String × String) := [("!", "!"), ("!!", coreTag "")]

/-- The directives in front of a document: at most one version, each handle at most once. -/
def takeDirectives (version : Bool) (own : List (String × String)) :
    List Token → Option (List (String × String) × List Token)
  | .version major minor :: rest =>
    if version || major != 1 || (minor != 1 && minor != 2) then none
    else takeDirectives true own rest
  | .tagDirective handle stem :: rest =>
    if (own.lookup handle).isSome then none
    else takeDirectives version ((handle, stem) :: own) rest
  | rest => some (own, rest)

def isDirective : Token → Bool
  | .version .. => true
  | .tagDirective .. => true
  | _ => false

/-- The tokens of the first document: its handles and its content. -/
def openDocument? (tokens : List Token) : Option (List (String × String) × List Token) :=
  match tokens with
  | [] => none
  | t :: rest =>
    if t == .documentStart then some (coreHandles, rest)
    else if isDirective t then
      match takeDirectives false [] tokens with
      | some (own, .documentStart :: rest) => some (own ++ coreHandles, rest)
      | _ => none
    else some (coreHandles, tokens)

/-- Whether nothing but the end of the document follows. -/
def isDocumentEnd (tokens : List Token) : Bool :=
  tokens.all (· == .documentEnd)

/-- An explicit document may be empty. -/
def endsAtOnce (tokens : List Token) : Bool :=
  match tokens with
  | [] => true
  | t :: _ => t == .documentStart || t == .documentEnd || isDirective t

def depthLimit : Nat := 128

def ofTokens? (tokens : List Token) : Option Yaml := do
  if tokens.isEmpty then return null
  let explicit := tokens.head?.any fun t ↦ t == .documentStart || isDirective t
  let (handles, content) ← openDocument? tokens
  let s : Composing := ⟨content, [], handles, 0, 0⟩
  let (v, s) ←
    if explicit && endsAtOnce content then some (null, s)
    else composeNode true false (4 * content.length + 8) s
  if isDocumentEnd s.tokens && s.jumps ≤ 100 * s.events && v.height ≤ depthLimit && v.keysDistinct
  then return v else none

def read? (text : String) : Option Yaml := (tokens? text).bind ofTokens?

end ClusterPlan.Yaml
