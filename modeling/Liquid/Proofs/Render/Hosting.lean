import Liquid.Proofs.Render.Unrolling

/-!
# Renders without the tags of the host

A template of built-in tags that includes only such templates never asks the engine for a tag of the host. So it is rendered
alike by the engine without these tags, whatever they would do.
-/

namespace Liquid

/-- The engine without the tags of the host. -/
def Engine.withoutTags (engine : Engine) : Engine := { engine with tag? := fun _ ↦ none }

@[simp]
theorem Engine.withoutTags_tools (engine : Engine) : engine.withoutTags.tools = engine.tools := rfl

namespace Render

open Template

variable {engine : Engine} {limit : Nat}

theorem load_withoutTags (engine : Engine) (name : String) : load engine.withoutTags name = load engine name := rfl

theorem Paired.blockWithin_withoutTags :
    ∀ {remaining level body}, AllTags Tag.IsBuiltin body →
      Paired (nested engine limit) level Eq (blockWithin engine remaining body)
        (blockWithin engine.withoutTags remaining body) := by
  intro remaining
  induction remaining with
  | zero =>
    intro level body hbody
    rw [blockWithin, blockWithin]
    exact .nested_nodes engine.withoutTags_tools (load_withoutTags engine) (fun _ _ _ ↦ .tooDeep) hbody
  | succ remaining ih =>
    intro level body hbody
    rw [blockWithin, blockWithin]
    exact .nested_nodes engine.withoutTags_tools (load_withoutTags engine) (fun _ _ hblock ↦ ih hblock) hbody

/-- Rendering a template of built-in tags is rendering it without the tags of the host. -/
theorem block_withoutTags {body : Block} {state : RenderState} (hbody : AllTags Tag.IsBuiltin body)
    (hincludes : IncludesOnly engine Tag.IsBuiltin state) (drive : Drive) :
    block engine.withoutTags body drive state = block engine body drive state := by
  have hpaired : Paired (nested engine state.context.maxDepth) state.context.depth Eq
      (blockWithin engine (state.context.maxDepth - state.context.depth) body)
      (blockWithin engine.withoutTags (state.context.maxDepth - state.context.depth) body) :=
    .blockWithin_withoutTags hbody
  rw [block, block, run_bind_ok (run_context drive state), run_bind_ok (run_context drive state)]
  exact (hpaired drive state state trivial (.nested_self rfl rfl hincludes)).eq_of_nested

end Render

end Liquid
