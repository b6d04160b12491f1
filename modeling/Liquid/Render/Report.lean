import Liquid.Render.State

/-!
# Errors within a render

A node that fails gives its error a place. Errors of fatal kinds end the render; others are handled as the error mode
says and recorded.
-/

namespace Liquid.Render

/-- What starts the text of an error in the output. -/
def errorOpening : String := "Liquid error: "

/-- Gives an error the place of a node, unless it already has a place. -/
def located (error : Error) (span : Span) : Render Error :=
  return error.locate ⟨(← context).name, span.start.line⟩

/-- Records an error. -/
def record (error : Error) : Render Unit := modifyContext fun context ↦ context.record error

/-- Handles an error as its kind and the error mode say. -/
def report (error : Error) : Render Unit := do
  modifyContext fun context ↦ context.noteReported error
  if error.kind.isFatal then raise error
  else
    match (← context).errorMode with
    | .rethrow => raise error
    | .display =>
      write (errorOpening ++ error.message)
      record error
    | .suppress => record error

/-- The flow of a node, or its error reported at the place of the node. -/
def guarded (span : Span) (action : Render Flow) : Render Flow := do
  match ← attempt action with
  | .ok flow => return flow
  | .error error =>
    report (← located error span)
    return .completed

end Liquid.Render
