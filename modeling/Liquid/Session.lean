import Liquid.Environment

/-!
# Sessions

In a session templates are read, parsed and rendered in one environment. A template keeps the variables that its last
successful render assigned, until it is made thread safe. Templates of the source and included templates are kept by
path; what is kept is dropped when the source is replaced.
-/

namespace Liquid

/-- A parsed template with the variables that it keeps. -/
structure Template where
  name : String
  source : String
  root : Block
  assigned : Entries String Value
  /-- Whether renders neither start with kept variables nor keep theirs. -/
  isThreadSafe : Bool

/-- What one render may set apart from its environment. -/
structure RenderOptions where
  format : Option FormatProvider
  filters : FilterSet
  level : Option SyntaxLevel
  errorMode : Option ErrorMode
  strict : Option Bool
  disabled : List String
  registers : Registers
  /-- Whether the render is cancelled from the start, if it can be cancelled. -/
  cancelled : Option Bool

namespace RenderOptions

/-- Options that leave everything to the environment. -/
def none : RenderOptions := ⟨.none, Registry.empty, .none, .none, .none, [], [], .none⟩

/-- The context with the options applied. -/
def apply (options : RenderOptions) (context : Context) : Context :=
  { context with
    format := options.format <|> context.format
    level := options.level.getD context.level
    errorMode := options.errorMode.getD context.errorMode
    strict := options.strict.getD context.strict
    disabled := context.disabled ++ options.disabled
    registers := context.registers.putAll options.registers }

end RenderOptions

/-- The output of a successful render and the errors that it recorded. -/
structure Rendered where
  output : String
  diagnostics : List Error

/-- An environment at work. -/
structure Session where
  environment : Environment
  /-- All templates; the place of a template is its number. -/
  templates : List Template
  /-- The numbers of the templates of the source, by path. -/
  kept : Entries String Nat
  /-- The trees of included templates, by path. -/
  includes : Entries String Block
  tallies : Tallies
  /-- The identity of the next object. -/
  nextObject : Nat
  /-- The names that the source was asked for, the last one first. -/
  reads : List String

/-- Something done in a session. -/
abbrev SessionM := ExceptT Error (StateM Session)

namespace Session

/-- A session in an environment; identities below the given one are taken. -/
def start (environment : Environment) (nextObject : Nat) : Session :=
  ⟨environment, [], [], [], [], nextObject, []⟩

/-- Drops the templates that are kept by path. -/
def clearCache (session : Session) : Session := { session with kept := [], includes := [] }

/-- Replaces the source; nothing has been read from the new one. -/
def setSource (session : Session) (source : Source) : Session :=
  { session.clearCache with
    environment := { session.environment with source := some source }
    reads := [] }

/-- The template of a number. -/
def template? (session : Session) (number : Nat) : Option Template := session.templates[number]?

/-- Changes the template of a number. -/
def modifyTemplate (session : Session) (number : Nat) (change : Template → Template) : Session :=
  { session with templates := session.templates.modify number change }

/-- Parses a template and gives its number. -/
def addTemplate (name source : String) : SessionM Nat := do
  let session ← get
  let root ← session.environment.parse name source
  let template : Template := ⟨name, source, root, [], false⟩
  set { session with templates := session.templates ++ [template] }
  return session.templates.length

/-- The result, or the error of the fault. -/
def ofExcept {α : Type} : Except Fault α → SessionM α
  | .ok value => return value
  | .error fault => throw (.of fault)

/-- Reads a template from the source and gives its number; it is read and parsed once as long as it is kept. -/
def getTemplate (name : String) : SessionM Nat := do
  match (← get).environment.source with
  | none => throw (.of (.templateNotFound name))
  | some source =>
    let path ← ofExcept (source.resolve name)
    match (← get).kept.find? path with
    | some number => return number
    | none =>
      if source.isLogged then modify fun session ↦ { session with reads := name :: session.reads }
      let number ← addTemplate name (← ofExcept (source.read name))
      modify fun session ↦ { session with kept := session.kept.put path number }
      return number

/-- The state in which a render of a template starts. -/
def renderState (session : Session) (template : Template) (inputs : Value) (options : RenderOptions) :
    RenderState where
  context :=
    { options.apply (session.environment.context inputs) with
      name := template.name
      assigned := if template.isThreadSafe then [] else template.assigned }
  output := .empty
  shared := ⟨⟨session.tallies, options.cancelled⟩, session.nextObject, 0⟩
  includes := session.includes
  reads := session.reads

/-- Renders a template: how the render ends, and the state in which it ends. -/
def rendering (session : Session) (template : Template) (drive : Drive) (inputs : Value) (options : RenderOptions) :
    Except Failure Flow × RenderState :=
  Render.block (session.environment.engine options.filters) template.root drive
    (session.renderState template inputs options)

/-- What a session takes over from a render, however it ended. -/
def afterRender (session : Session) (state : RenderState) : Session :=
  { session with
    includes := state.includes
    tallies := state.shared.counts.tallies
    nextObject := state.shared.nextObject
    reads := state.reads }

/-- Renders the template of a number; a number that no template has names a template that is not found. Only a successful
render changes the variables that the template keeps. -/
def render (drive : Drive) (number : Nat) (inputs : Value) (options : RenderOptions) : SessionM Rendered := do
  let session ← get
  match session.template? number with
  | none => throw (.of (.templateNotFound ""))
  | some template =>
    let (ended, state) := session.rendering template drive inputs options
    set (session.afterRender state)
    match ended with
    | .ok _ =>
      if !template.isThreadSafe then
        modify fun session ↦
          session.modifyTemplate number fun template ↦ { template with assigned := state.context.assigned }
      return ⟨state.output.text, state.context.diagnostics⟩
    | .error (.error error) => throw error
    | .error .suspended => throw (.of .suspended)

/-- The value of a markup: what a new template that assigns it to a variable leaves in that variable. -/
def evaluate (markup : String) (inputs : Value) (options : RenderOptions) : SessionM Value := do
  let number ← addTemplate "<string>" ("\x7b% assign result = " ++ markup ++ " %\x7d")
  let _ ← render .blocking number inputs options
  let template? := (← get).template? number
  return (template?.bind fun template ↦ template.assigned.find? "result").getD .undefined

/-- The output of a text that is parsed and rendered at once. -/
def renderText (source : String) (inputs : Value) : SessionM String := do
  let number ← addTemplate "<string>" source
  return (← render .blocking number inputs .none).output

/-- Makes the template of a number thread safe. -/
def makeThreadSafe (number : Nat) (session : Session) : Session :=
  session.modifyTemplate number fun template ↦ { template with isThreadSafe := true }

end Session

/-- Parses a text and renders it at once into a new output. -/
def Environment.renderWithin (environment : Environment) (source : String) (state : RenderState) :
    Except Error (Except Error Unit × RenderState) := do
  let block ← environment.parse "<block>" source
  let (ended, state) :=
    Render.block (environment.engine Registry.empty) block .blocking { state with output := .empty }
  match ended with
  | .ok _ => return (.ok (), state)
  | .error (.error error) => return (.error error, state)
  | .error .suspended => return (.error (.of .suspended), state)

end Liquid
