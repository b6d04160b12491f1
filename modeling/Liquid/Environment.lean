import Liquid.Filter.Builtin
import Liquid.Render.Tree

/-!
# Environments

An environment holds what templates are parsed and rendered with: filters, operators, custom tags, global variables, the
settings that renders start from and the source of included templates. A custom tag that a template was parsed with stays
known after its name has been registered anew.
-/

namespace Liquid

/-- What templates are parsed and rendered with. -/
structure Environment where
  filters : FilterSet
  operators : Registry Operator
  /-- All tags that have ever been registered; the place of a tag is its number. -/
  registered : List CustomTag
  /-- The numbers of the tags that names stand for. -/
  tags : Entries String Nat
  globals : Entries String Value
  /-- Changes or refuses the markup of outputs. -/
  factory : Option (Markup → Except Fault Markup)
  naming : NamingConvention
  level : SyntaxLevel
  errorMode : ErrorMode
  strict : Bool
  maxDepth : Nat
  maxTerms : Nat
  source : Option Source
  format : Option FormatProvider

namespace Environment

/-- The environment that has the built-in operators and no filters. -/
def empty : Environment where
  filters := Registry.empty
  operators := Registry.ofList Operator.builtins
  registered := []
  tags := []
  globals := []
  factory := none
  naming := .ruby
  level := .liquid20
  errorMode := .display
  strict := false
  maxDepth := 100
  maxTerms := 50
  source := none
  format := none

/-- The environment with the built-in operators and filters. -/
def standard : Environment := { empty with filters := FilterSet.ofList Filter.builtins }

/-- Registers a tag under a name. -/
def addTag (environment : Environment) (name : String) (tag : CustomTag) : Environment :=
  { environment with
    registered := environment.registered ++ [tag]
    tags := environment.tags.put name environment.registered.length }

/-- The tag of a number. -/
def tag? (environment : Environment) (registration : Nat) : Option CustomTag :=
  environment.registered[registration]?

/-- The form of the tag that a name stands for. -/
def tagForm? (environment : Environment) (name : String) : Option TagForm := do
  let registration ← environment.tags.find? name
  let tag ← environment.tag? registration
  return ⟨registration, tag.check, tag.ending⟩

/-- What the parser asks. -/
def grammar (environment : Environment) : Grammar :=
  ⟨environment.tagForm?, environment.factory, environment.maxTerms⟩

/-- The tree of a template. -/
def parse (environment : Environment) (name source : String) : Except Error Block :=
  Template.parse environment.grammar name source

/-- What a render asks that brings filters of its own. -/
def engine (environment : Environment) (localFilters : FilterSet) : Engine where
  tools := ⟨localFilters, environment.filters, environment.operators⟩
  tag? := environment.tag?
  source := environment.source
  grammar := environment.grammar

/-- The context in which a render with the given inputs starts. -/
def context (environment : Environment) (inputs : Value) : Context where
  name := ""
  scopes := .empty
  assigned := []
  inputs := inputs
  globals := environment.globals
  registers := []
  naming := environment.naming
  level := environment.level
  errorMode := environment.errorMode
  strict := environment.strict
  disabled := []
  format := environment.format
  depth := 0
  maxDepth := environment.maxDepth
  loops := 0
  recorded := []
  reported := []

end Environment

end Liquid
