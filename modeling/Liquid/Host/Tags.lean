import Liquid.Decimal.Reading
import Liquid.Host.Titles
import Liquid.Render.Script
import Liquid.Text.Blank
import Liquid.Text.Quoted

/-!
# Stock tags

Tags that a host can register under names of its choice, with or without a body.
-/

namespace Liquid.Host

/-- The words of a markup. -/
def wordsOf (markup : String) : List String := (Text.words markup.toList).map String.ofList

/-- The natural number that a markup writes. -/
def naturalOf? (markup : String) : Option Nat :=
  let (negative, digits) := Decimal.splitSign markup.toList
  if negative then none else (Decimal.digitsValue? digits).filter (· ≤ maxCount)

/-- Accepts every markup. -/
def acceptAny (_name _markup : String) : Except Fault Unit := .ok ()

/-- Refuses a markup of which a test does not hold. -/
def acceptIf (title : String) (test : String → Bool) (_name markup : String) : Except Fault Unit :=
  if test markup then .ok ()
  else .error (.reported .syntaxError (some (title ++ " cannot take " ++ Text.Quoted.show_ markup)))

/-- Fails with the kind whose name begins a markup; what stands behind the first space is the detail. -/
def raising (markup : String) : Script :=
  let name := String.ofList (markup.toList.takeWhile (· != ' '))
  let detail :=
    match markup.toList.dropWhile (· != ' ') with
    | _ :: detail => some (String.ofList detail)
    | [] => none
  match ErrorKind.all.find? fun kind ↦ kindTitle kind == name with
  | some kind => .fail (.reported kind detail)
  | none => .done

/-- Gives the first word of a markup the second one as its value. -/
def giving (give : Context → String → Value → Context) (markup : String) : Script :=
  let words := wordsOf markup
  .change fun context ↦ give context (words.headD "") (.string (words.tail.headD ""))

/-- Renders the body once for each number, at once and in a scope that knows the number. -/
def repeating (index : Nat) : (count : Nat) → Script
  | 0 => .done
  | count + 1 =>
    .change (fun context ↦ (context.push []).set "repetition" (.ofCount index))
      (.body true fun ended ↦ .pop (Script.afterBody (repeating (index + 1) count) ended))

/-- Writes the text that the host keeps for the current user. -/
def currentUser : Script :=
  .act (fun context output ↦
    match context.registers.text? "user" with
    | some name => .ok (context, output.write name)
    | none => .error (.reported .invalidOperation (some "nobody is logged in"))) .done

/-- Ends a capture and writes its text in brackets. -/
def endingCapture : Script :=
  .act (fun context output ↦
    let (text, output) := output.endCapture
    .ok (context, output.write ("[" ++ text ++ "]"))) .done

/-- Waits, then renders the body between brackets. -/
def deferring : Script :=
  .wait (.write "<" (.body false (Script.afterBody (.write ">"))))

/-- What a stock tag does, given its own name and its markup. -/
def script? (tag : String) : Option (String → String → Script) :=
  match tag with
  | "emit" => some fun name markup ↦ .write ("<" ++ name ++ ":" ++ markup ++ ">")
  | "lock" => some fun _ markup ↦ .change fun context ↦ context.disableTags (wordsOf markup)
  | "unlock" => some fun _ markup ↦ .change fun context ↦ (wordsOf markup).foldl Context.enableTag context
  | "set" => some fun _ markup ↦ giving Context.set markup
  | "assign" => some fun _ markup ↦ giving Context.assign markup
  | "push" => some fun _ _ ↦ .change fun context ↦ context.push []
  | "pop" => some fun _ _ ↦ .pop
  | "begin" => some fun _ _ ↦ .act (fun context output ↦ .ok (context, output.beginCapture)) .done
  | "end" => some fun _ _ ↦ endingCapture
  | "user" => some fun _ _ ↦ currentUser
  | "raise" => some fun _ markup ↦ raising markup
  | "fmterr" => some fun _ _ ↦ .fail (.reported .invalidOperation (some "formatting failed"))
  | "repeat" => some fun _ markup ↦ repeating 0 ((naturalOf? markup).getD 0)
  | "wrap" => some fun _ _ ↦ .done
  | "deferred" => some fun _ _ ↦ deferring
  | _ => none

/-- What a stock tag refuses. -/
def checkOf (tag : String) : String → String → Except Fault Unit :=
  match tag with
  | "repeat" => acceptIf "repeat" fun markup ↦ (naturalOf? markup).isSome
  | "wrap" => acceptIf "wrap" String.isEmpty
  | _ => acceptAny

/-- The stock tag of a name, registered under a name with or without a body. -/
def tag? (tag registered : String) (hasBody : Bool) : Option CustomTag :=
  (script? tag).map fun script ↦
    ⟨checkOf tag, script, if hasBody then some ("end" ++ registered) else none⟩

end Liquid.Host
