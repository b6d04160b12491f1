import Liquid.Markup.Cursor
import Liquid.Template.Basic

/-!
# Reading the markup of tags

Each built-in tag reads its markup in its own way, from expressions, identifiers and a few punctuation marks.
-/

namespace Liquid.Header

/-- A name and nothing else. -/
def name (markup : String) : Except Fault String := do
  let (name, cursor) ← (← Cursor.start markup).ident
  cursor.finish
  return name

/-- A name, an equals sign and a value with filters. -/
def assignment (markup : String) : Except Fault (String × Markup) :=
  let target := markup.toList.takeWhile (· != '=')
  match markup.toList.dropWhile (· != '=') with
  | [] => .error (.malformedTag "assign" "'name = value'")
  | _ :: value => do
    let target ← name (String.ofList target)
    let value ← Markup.parse (String.ofList value)
    return (target, value)

/-- The variable that a capture fills: a name or a text. -/
def captureTarget (markup : String) : Except Fault String := do
  let cursor ← Cursor.start markup
  match cursor.lexeme? with
  | some (.ident name) | some (.text name) =>
    cursor.advance.finish
    return name
  | _ => throw (.malformedTag "capture" "a variable name")

/-- One expression and nothing else. -/
def subject (markup : String) : Except Fault Expr := do
  let (subject, cursor) ← (← Cursor.start markup).expr
  cursor.finish
  return subject

/-- Expressions, each behind a separator; `fuel` exceeds the number of lexemes left. -/
def moreValues (separates : Cursor → Bool) : (fuel : Nat) → Cursor → Except Fault (List Expr × Cursor)
  | 0, cursor => .ok ([], cursor)
  | fuel + 1, cursor =>
    if separates cursor then do
      let (value, cursor) ← cursor.advance.expr
      let (others, cursor) ← moreValues separates fuel cursor
      return (value :: others, cursor)
    else .ok ([], cursor)

/-- Whether the next lexeme is a comma. -/
def atComma (cursor : Cursor) : Bool :=
  match cursor.lexeme? with
  | some .comma => true
  | _ => false

/-- Values separated by commas or the word `or`. -/
def whenValues (markup : String) : Except Fault (List Expr) := do
  let (first, cursor) ← (← Cursor.start markup).expr
  let (others, cursor) ← moreValues (fun cursor ↦ atComma cursor || cursor.atKeyword "or") cursor.fuel cursor
  cursor.finish
  return first :: others

/-- Values separated by commas, with a group and a colon in front of them if there is one. -/
def cycle (markup : String) : Except Fault (Option Expr × List Expr) := do
  let (first, cursor) ← (← Cursor.start markup).expr
  match cursor.lexeme? with
  | some .colon =>
    let (value, cursor) ← cursor.advance.expr
    let (others, cursor) ← moreValues atComma cursor.fuel cursor
    cursor.finish
    return (some first, value :: others)
  | _ =>
    let (others, cursor) ← moreValues atComma cursor.fuel cursor
    cursor.finish
    return (none, first :: others)

/-- An item, the word `in` and a collection, with the name that the loop gets from them. -/
def loopStart (tag : String) (cursor : Cursor) : Except Fault ((String × Expr × String) × Cursor) :=
  let malformed : Fault := .malformedTag tag "'item in collection'"
  match cursor.lexeme? with
  | some (.ident item) => do
    let cursor := cursor.advance
    if !cursor.atKeyword "in" then throw malformed
    let cursor := cursor.advance
    let start := cursor.offset
    let (collection, cursor) ← cursor.expr
    return ((item, collection, item ++ "-" ++ cursor.textFrom start), cursor)
  | _ => .error malformed

/-- The arguments of a loop in any order, commas between them optional; of several of one kind the last counts. -/
def loopArguments : (fuel : Nat) → LoopHeader → Cursor → Except Fault LoopHeader
  | 0, header, _ => .ok header
  | fuel + 1, header, cursor =>
    if cursor.atEnd then .ok header
    else if atComma cursor then loopArguments fuel header cursor.advance
    else do
      let (argument, cursor) ← cursor.ident
      if argument == "reversed" then loopArguments fuel { header with reversed := true } cursor
      else if argument == "limit" then
        let (limit, cursor) ← (← cursor.colon).expr
        loopArguments fuel { header with limit := some limit } cursor
      else if argument == "offset" then
        let cursor ← cursor.colon
        if cursor.atKeyword "continue" then
          loopArguments fuel { header with offset := some .resume } cursor.advance
        else
          let (offset, cursor) ← cursor.expr
          loopArguments fuel { header with offset := some (.expr offset) } cursor
      else throw (.unknownLoopArgument argument "for")

/-- The header of a loop. -/
def loop (markup : String) : Except Fault LoopHeader := do
  let ((item, collection, name), cursor) ← loopStart "for" (← Cursor.start markup)
  loopArguments cursor.fuel ⟨item, collection, name, false, none, none⟩ cursor

/-- The arguments of a table in any order, commas between them optional; of several of one kind the last counts. -/
def tableArguments : (fuel : Nat) → TableHeader → Cursor → Except Fault TableHeader
  | 0, header, _ => .ok header
  | fuel + 1, header, cursor =>
    if cursor.atEnd then .ok header
    else if atComma cursor then tableArguments fuel header cursor.advance
    else do
      let (argument, cursor) ← cursor.ident
      if argument != "cols" && argument != "limit" && argument != "offset" then
        throw (.unknownLoopArgument argument "tablerow")
      let (value, cursor) ← (← cursor.colon).expr
      let header :=
        if argument == "cols" then { header with columns := some value }
        else if argument == "limit" then { header with limit := some value }
        else { header with offset := some value }
      tableArguments fuel header cursor

/-- The header of a table. -/
def table (markup : String) : Except Fault TableHeader := do
  let ((item, collection, name), cursor) ← loopStart "tablerow" (← Cursor.start markup)
  tableArguments cursor.fuel ⟨item, collection, name, none, none, none⟩ cursor

/-- Keys with values, commas between them optional. -/
def attributes : (fuel : Nat) → Cursor → Except Fault (List (String × Expr))
  | 0, _ => .ok []
  | fuel + 1, cursor =>
    if cursor.atEnd then .ok []
    else if atComma cursor then attributes fuel cursor.advance
    else do
      let (key, cursor) ← cursor.ident
      let (value, cursor) ← (← cursor.colon).expr
      return (key, value) :: (← attributes fuel cursor)

/-- A template, what its variable is bound to, and attributes. -/
def inclusion (markup : String) : Except Fault Inclusion := do
  let (template, cursor) ← (← Cursor.start markup).expr
  if cursor.atKeyword "with" then
    let (value, cursor) ← cursor.advance.expr
    return ⟨template, some (.value value), ← attributes cursor.fuel cursor⟩
  else if cursor.atKeyword "for" then
    let (items, cursor) ← cursor.advance.expr
    return ⟨template, some (.each items), ← attributes cursor.fuel cursor⟩
  else return ⟨template, none, ← attributes cursor.fuel cursor⟩

end Liquid.Header
