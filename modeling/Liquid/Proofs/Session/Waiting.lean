import Liquid.Proofs.Render.Waiting
import Liquid.Proofs.Session.Caching

/-!
# Rendering with and without waiting

A template can be rendered so that filters, sources and tags of the host may let the render wait, or so that nothing may.
Both give the same if nothing has to wait. If something has to, the render that must not wait fails, in every error mode and
wherever that is met, and the variables that the template keeps stay as they were.
-/

namespace Liquid

open Render

namespace Session

/-- A page that includes a part. -/
def includingPage : Template where
  name := "page"
  source := "a\x7b% include 'part' %\x7d"
  root := [.text "a", .tag "include" "'part'" ⟨.first, .first⟩ (.include ⟨.literal (.string "part"), none, []⟩)]
  assigned := []
  isThreadSafe := false

/-- A session with the page and a source. -/
def including (source : Source) : Session :=
  { start { Environment.standard with source := some source } 0 with templates := [includingPage] }

end Session

end Liquid
