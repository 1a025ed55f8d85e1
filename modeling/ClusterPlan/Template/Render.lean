import ClusterPlan.Template.Eval
import ClusterPlan.Template.Segment

/-!
# Rendering

A template is rendered by putting the text of each expression in its place. All expressions are
read before the first is evaluated. `Pipeline.render` renders twice: what the first pass leaves of
an escaped `${` is an expression of the second.
-/

namespace ClusterPlan.Template

/-- A segment whose expression has been read. -/
inductive Piece where
  | text (s : String)
  | expr (source : String) (tree : Expr)

/-- An error names an expression without the blanks around it. -/
def parseSource (source : String) : Except Error Expr :=
  match Expr.parse source with
  | .ok tree => .ok tree
  | .error fault => .error (.malformed (Text.trim source) fault)

def Piece.ofSegment : Segment → Except Error Piece
  | .static s => .ok (.text s)
  | .dynamic source => (parseSource source).map (.expr source)

def Piece.ofSegments : List Segment → Except Error (List Piece)
  | [] => .ok []
  | segment :: rest =>
    match ofSegment segment with
    | .error e => .error e
    | .ok piece => (ofSegments rest).map (piece :: ·)

/-- Whether a text holds `${` anywhere. -/
def hasOpener : List Char → Bool
  | '$' :: '\x7b' :: _ => true
  | _ :: rest => hasOpener rest
  | [] => false

def lex (template : String) : Except Error (List Segment) :=
  (Segment.lex template).mapError .unterminated

structure Options where
  allowUndefined : Bool

def Options.strict : Options := ⟨false⟩

def Piece.render (options : Options) (functions : Functions) (context : Context) :
    Piece → Evaluation String
  | .text s => pure s
  | .expr source tree =>
    (tree.evaluate functions context).andThen fun value ↦
      let shown := value.text
      if shown = "undefined" ∧ options.allowUndefined = false then
        .fail (.undefined (Text.trim source))
      else pure shown

/-- The path that every template can take. -/
def renderPieces (options : Options) (functions : Functions) (context : Context)
    (template : String) : Evaluation String :=
  match (lex template).bind Piece.ofSegments with
  | .error e => .fail e
  | .ok pieces =>
    (Activity.join (pieces.map (·.render options functions context))).andThen fun texts ↦
      pure (String.join texts)

/-- A text without `${` is its own rendering. -/
def renderWith (options : Options) (functions : Functions) (context : Context)
    (template : String) : Evaluation String :=
  if hasOpener template.toList then renderPieces options functions context template
  else pure template

def render (functions : Functions) (context : Context) (template : String) : Evaluation String :=
  renderWith .strict functions context template

structure Pipeline where
  options : Options
  functions : Functions
  config : Context

namespace Pipeline

def renderConfig (pipeline : Pipeline) (template : String) : Evaluation String :=
  renderWith pipeline.options pipeline.functions pipeline.config template

def renderMacros (pipeline : Pipeline) (text : String) (macros : Context) : Evaluation String :=
  renderWith pipeline.options pipeline.functions macros text

def render (pipeline : Pipeline) (template : String) (macros : Context) : Evaluation String :=
  (pipeline.renderConfig template).andThen fun text ↦ pipeline.renderMacros text macros

end Pipeline

end ClusterPlan.Template
