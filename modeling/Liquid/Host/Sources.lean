import Liquid.Markup.Basic
import Liquid.Source
import Liquid.Text.Case

/-!
# Stock sources and factories

Sources over texts that the host holds, and a factory that protects outputs.
-/

namespace Liquid.Host

/-- A source whose paths do not distinguish the case of ASCII letters, and whose names do not begin with a slash. -/
def caseless (texts : Entries String String) : Source :=
  { Source.ofTexts texts with
    resolve := fun name ↦
      if name.startsWith "/" then .error (.reported .invalidOperation (some ("bad path " ++ name)))
      else .ok (String.ofList (Text.asciiLower name.toList)) }

/-- A source whose texts can only be waited for. -/
def remote (texts : Entries String String) : Source :=
  { Source.ofTexts texts with
    read := fun name ↦
      .error (.reported .invalidOperation (some (name ++ " can only be read asynchronously")))
    waits := fun _ ↦ 1 }

/-- A source that records nothing and has a name that cannot be read. -/
def computed (texts : Entries String String) : Source :=
  let text (name : String) : Except Fault String :=
    if name == "boom" then .error (.reported .invalidOperation (some "source failed"))
    else Source.ofTexts.text texts name
  { Source.ofTexts texts with read := text, fetch := text, isLogged := false }

/-- The stock source of a kind. -/
def source? (kind : String) (texts : Entries String String) : Option Source :=
  match kind with
  | "memory" => some (.ofTexts texts)
  | "lower" => some (caseless texts)
  | "async" => some (remote texts)
  | "closure" => some (computed texts)
  | _ => none

/-- Escapes every output that is not marked as raw, and refuses secrets. -/
def protect (markup : Markup) : Except Fault Markup :=
  if markup.name.startsWith "secret" then
    .error (.reported .syntaxError (some (markup.name ++ " cannot be printed")))
  else if markup.filters.any fun filter ↦ filter.name == "raw" then
    .ok { markup with filters := markup.filters.filter fun filter ↦ filter.name != "raw" }
  else .ok { markup with filters := markup.filters ++ [.mk "escape" [] []] }

end Liquid.Host
