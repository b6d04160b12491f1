import Liquid.Context.Lookup
import Liquid.Registry
import Liquid.Value.Argument

/-!
# Filters

A filter takes the value in front of its pipe and the arguments behind its name. Several filters may share a name if their
signatures differ; the number of values decides between them. A filter reads the context of the call, may change what
objects have counted and may cancel the render; a filter that may keep its caller waiting has no context.
-/

namespace Liquid

/-- What objects have counted, and whether the render has been cancelled if that is possible. -/
structure Counts where
  tallies : Tallies
  cancelled : Option Bool
deriving Repr, DecidableEq

/-- A computation that reads a context. -/
abbrev Query := ReaderT Context (ExceptT Fault (StateM Counts))

namespace Query

/-- Does something that may change what objects have counted. -/
def counting {α : Type} (action : Context → StateM Tallies α) : Query α := fun context ↦ do
  let counts ← get
  let (result, tallies) := action context counts.tallies
  set { counts with tallies := tallies }
  return result

/-- The text of a value. -/
def textOf (value : Value) : Query String := fun _ ↦ do return value.text (← get).tallies

/-- Cancels the render, if that is possible. -/
def cancel : Query Unit := fun _ ↦
  modify fun counts ↦ { counts with cancelled := counts.cancelled.map fun _ ↦ true }

/-- Fails. -/
def fail {α : Type} (fault : Fault) : Query α := fun _ ↦ throw fault

end Query

/-- A filter of the host. -/
structure Filter where
  parameters : List Parameter
  /-- Whether the filter may keep its caller waiting. -/
  isAsync : Bool
  /-- How often the caller has to wait. -/
  waits : Arguments parameters → Nat
  run : Arguments parameters → Query Value

namespace Filter

/-- A filter that never waits. -/
def atOnce (parameters : List Parameter) (run : Arguments parameters → Query Value) : Filter :=
  ⟨parameters, false, fun _ ↦ 0, run⟩

/-- A filter that computes its result from its arguments. -/
def direct (parameters : List Parameter) (run : Arguments parameters → Value) : Filter :=
  atOnce parameters fun arguments ↦ return run arguments

/-- A filter that keeps its caller waiting the given number of times. -/
def waiting (waits : Nat) (parameters : List Parameter) (run : Arguments parameters → Query Value) : Filter :=
  ⟨parameters, true, fun _ ↦ waits, run⟩

/-- The signature of a filter. -/
def signature (filter : Filter) : Signature := .ofParameters filter.parameters

/-- Whether a filter takes exactly the given number of values. -/
def fits (count : Nat) (filter : Filter) : Bool :=
  !filter.signature.variadic && filter.signature.required == count

/-- Whether a filter takes the given number of values, some of them as options. -/
def admits (count : Nat) (filter : Filter) : Bool :=
  !filter.signature.variadic && filter.signature.covers count

/-- Whether a filter takes any number of values, the given one included. -/
def absorbs (count : Nat) (filter : Filter) : Bool :=
  filter.signature.variadic && filter.signature.covers count

/-- The first of the filters with the fewest options. -/
def fewestOptions : List Filter → Option Filter
  | [] => none
  | filter :: rest =>
    match fewestOptions rest with
    | some best => some (if filter.signature.optional ≤ best.signature.optional then filter else best)
    | none => some filter

/-- The filter of several that takes the given number of values: one that takes exactly so many, else the one with the
fewest options, else one that takes any number. -/
def select? (overloads : List Filter) (count : Nat) : Option Filter :=
  overloads.find? (fits count) <|> fewestOptions (overloads.filter (admits count)) <|>
    overloads.find? (absorbs count)

/-- Adds an overload; one of the same signature is replaced. -/
def addOverload (filter : Filter) : List Filter → List Filter
  | [] => [filter]
  | other :: rest =>
    if other.signature = filter.signature then filter :: rest else other :: addOverload filter rest

/-- The error of a filter that failed: it names the filter, unless it is fatal or does so already. -/
def invocationError (name : String) (fault : Fault) : Error :=
  if fault.kind.isFatal || fault.kind = .filterInvocation then .of fault
  else ⟨.filterFailed name fault.message, none, some (.of fault)⟩

end Filter

/-- Filters by name. -/
abbrev FilterSet := Registry (List Filter)

namespace FilterSet

/-- Adds a filter under a name. -/
def add (filters : FilterSet) (name : String) (filter : Filter) : FilterSet :=
  filters.insert name (filter.addOverload ((filters.get? name).getD []))

/-- Adds all filters of another set. -/
def addAll (filters more : FilterSet) : FilterSet :=
  more.entries.foldl (fun filters entry ↦
    entry.2.foldl (fun filters filter ↦ add filters entry.1 filter) filters) filters

/-- The set of filters with the given names. -/
def ofList (entries : List (String × Filter)) : FilterSet :=
  entries.foldl (fun filters entry ↦ add filters entry.1 entry.2) Registry.empty

end FilterSet

end Liquid
