import Liquid.Entries
import Liquid.Error

/-!
# Template sources

A source gives the texts of templates by name. Reading gives a text at once; fetching may let the reader wait first. The
path of a template identifies what has been read of it.
-/

namespace Liquid

/-- Where the texts of templates come from. -/
structure Source where
  /-- The path of a template. -/
  resolve : String → Except Fault String
  /-- The text of a template at once. -/
  read : String → Except Fault String
  /-- The text of a template for a reader who can wait. -/
  fetch : String → Except Fault String
  /-- How often a reader who fetches a template has to wait. -/
  waits : String → Nat
  /-- Whether the names that are asked for are recorded. -/
  isLogged : Bool

namespace Source

/-- The source whose texts are all known; paths are names. -/
def ofTexts (texts : Entries String String) : Source where
  resolve name := .ok name
  read := text texts
  fetch := text texts
  waits _ := 0
  isLogged := true
where
  /-- The text of a name. -/
  text (texts : Entries String String) (name : String) : Except Fault String :=
    match texts.find? name with
    | some text => .ok text
    | none => .error (.templateNotFound name)

end Source

end Liquid
