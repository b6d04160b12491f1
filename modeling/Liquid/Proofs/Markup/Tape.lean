import Liquid.Proofs.Markup.Bytes
import Liquid.Proofs.Markup.Quotation

/-!
# Reading markup from a tape

The lexemes of a markup may also be read from a tape. A place on it is the number of the lexemes in front of it, and the places
of the lexemes are counted in bytes. Reading is given up where it would move beyond the place behind the last lexeme, and
where a text would be cut at a place that it does not have. That never happens, and what is read is what a cursor reads.
-/

namespace Liquid

open Text

/-- A result that does not come about where reading is given up. -/
abbrev Checked := ExceptT Fault Option

/-- The lexemes of a markup, with their places counted in bytes. -/
structure Tape where
  source : String
  lexemes : List PlacedLexeme

namespace Tape

/-- The tape in front of which reading a markup starts. -/
def ofSource (source : String) : Checked Tape := do
  let lexemes ← ExceptT.mk (Lexeme.scan? source)
  return ⟨source, lexemes⟩

/-- The lexeme behind a place. -/
def lexeme? (tape : Tape) (place : Nat) : Option Lexeme := tape.lexemes[place]?.map PlacedLexeme.lexeme

/-- Moves to a place, at most to the one behind the last lexeme. -/
def moveTo (tape : Tape) (place : Nat) : Checked Nat :=
  if place ≤ tape.lexemes.length then return place else ExceptT.mk none

/-- Passes the next lexeme, if there is one. -/
def pass (tape : Tape) (place : Nat) : Checked Nat :=
  if (tape.lexeme? place).isSome then tape.moveTo (place + 1) else return place

/-- Whether no lexeme is left. -/
def atEnd (tape : Tape) (place : Nat) : Bool := tape.lexemes.length ≤ place

/-- Where the next lexeme starts. -/
def offset (tape : Tape) (place : Nat) : Nat :=
  (tape.lexemes[place]?.map PlacedLexeme.start).getD (size tape.source.toList)

/-- Where the last lexeme stopped. -/
def stop (tape : Tape) : (place : Nat) → Nat
  | 0 => 0
  | place + 1 => (tape.lexemes[place]?.map PlacedLexeme.stop).getD 0

/-- The source text from a place in it to the end of the last lexeme. -/
def textFrom (tape : Tape) (start place : Nat) : Checked String := do
  let text ← between? start (tape.stop place) tape.source.toList
  return String.ofList text

/-- The markup as messages quote it. -/
def quotedSource (tape : Tape) : String := String.ofList (trim tape.source.toList)

/-- The next lexeme cannot stand here. -/
def unexpected (tape : Tape) (place : Nat) : Fault :=
  match tape.lexeme? place with
  | some lexeme => .unexpectedLexeme lexeme.shown tape.quotedSource
  | none => .unexpectedEnd tape.quotedSource

/-- Steps back over what was passed last and finds that it begins no expression. -/
def refuse {α : Type} (tape : Tape) (place : Nat) : Checked α := do
  let place ← tape.moveTo (place - 1)
  throw (tape.unexpected place)

/-- Whether the next lexeme is the given identifier. -/
def atKeyword (tape : Tape) (place : Nat) (keyword : String) : Bool :=
  match tape.lexeme? place with
  | some (.ident name) => name == keyword
  | _ => false

/-- Passes an identifier. -/
def ident (tape : Tape) (place : Nat) : Checked (String × Nat) :=
  match tape.lexeme? place with
  | some (.ident name) => do return (name, ← tape.pass place)
  | _ => throw (tape.unexpected place)

/-- Passes a colon. -/
def colon (tape : Tape) (place : Nat) : Checked Nat :=
  match tape.lexeme? place with
  | some .colon => tape.pass place
  | _ => throw (tape.unexpected place)

/-- Passes a closing bracket. -/
def closeBracket (tape : Tape) (place : Nat) : Checked Nat :=
  match tape.lexeme? place with
  | some .closeBracket => tape.pass place
  | _ => throw (tape.unexpected place)

/-- Passes a closing parenthesis. -/
def closeParen (tape : Tape) (place : Nat) : Checked Nat :=
  match tape.lexeme? place with
  | some .closeParen => tape.pass place
  | _ => throw (tape.unexpected place)

/-- Requires that no lexeme is left. -/
def finish (tape : Tape) (place : Nat) : Checked Unit :=
  if tape.atEnd place then return () else throw (tape.unexpected place)

/-- Whether the next lexeme continues a path. -/
def continuesPath (tape : Tape) (place : Nat) : Bool :=
  match tape.lexeme? place with
  | some .dot | some .openBracket => true
  | _ => false

/-- Whether no filter follows a pipe. -/
def skipsFilter (tape : Tape) (place : Nat) : Bool :=
  match tape.lexeme? place with
  | none | some .pipe | some .closeParen => true
  | _ => false

mutual

/-- Reads an expression without filters; `fuel` exceeds the number of lexemes left. -/
def exprWith (tape : Tape) : (fuel : Nat) → (place : Nat) → Checked (Expr × Nat)
  | 0, place => do tape.refuse (← tape.pass place)
  | fuel + 1, place => do
    let after ← tape.pass place
    match tape.lexeme? place with
    | some (.text content) => return (.literal (.string content), after)
    | some (.int value) => return (.literal (.int value), after)
    | some (.float value) => return (.literal (.float value), after)
    | some (.ident name) =>
      match if tape.continuesPath after then none else Cursor.keyword? name with
      | some value => return (.literal value, after)
      | none => tape.pathWith fuel [.member name] after
    | some .openBracket => do
      let (key, place) ← tape.exprWith fuel after
      let place ← tape.closeBracket place
      tape.pathWith fuel [.index key] place
    | some .openParen => do
      let (first, place) ← tape.exprWith fuel after
      match tape.lexeme? place with
      | some .dots =>
        let place ← tape.pass place
        let (last, place) ← tape.exprWith fuel place
        let place ← tape.closeParen place
        return (.range first last, place)
      | _ =>
        let name ← tape.textFrom (tape.offset after) place
        let (filters, place) ← tape.filtersWith fuel place
        let place ← tape.closeParen place
        return (if filters.isEmpty then first else .filtered name first filters, place)
    | _ => tape.refuse after

/-- Reads the segments that follow the given ones. -/
def pathWith (tape : Tape) : (fuel : Nat) → List Segment → (place : Nat) → Checked (Expr × Nat)
  | 0, _, place => do tape.refuse (← tape.pass place)
  | fuel + 1, segments, place =>
    match tape.lexeme? place with
    | some .dot => do
      let place ← tape.pass place
      let after ← tape.pass place
      match tape.lexeme? place with
      | some (.ident name) => tape.pathWith fuel (segments ++ [.member name]) after
      | some (.int value) => tape.pathWith fuel (segments ++ [.index (.literal (.int value))]) after
      | _ => tape.refuse after
    | some .openBracket => do
      let place ← tape.pass place
      let (key, place) ← tape.exprWith fuel place
      let place ← tape.closeBracket place
      tape.pathWith fuel (segments ++ [.index key]) place
    | _ => return (.path segments, place)

/-- Reads filters, each behind a pipe. -/
def filtersWith (tape : Tape) : (fuel : Nat) → (place : Nat) → Checked (List FilterRequest × Nat)
  | 0, place => do tape.refuse (← tape.pass place)
  | fuel + 1, place =>
    match tape.lexeme? place with
    | some .pipe => do
      let place ← tape.pass place
      if tape.skipsFilter place then tape.filtersWith fuel place
      else do
        let (name, place) ← tape.ident place
        let (arguments, place) ←
          match tape.lexeme? place with
          | some .colon => do tape.argumentsWith fuel (← tape.pass place)
          | _ => pure ([], place)
        let (others, place) ← tape.filtersWith fuel place
        return (.mk name (arguments.map Prod.fst) (arguments.map Prod.snd) :: others, place)
    | _ => return ([], place)

/-- Reads the arguments of a filter with their source texts; an argument with a name is refused. -/
def argumentsWith (tape : Tape) : (fuel : Nat) → (place : Nat) → Checked (List (String × Expr) × Nat)
  | 0, place => do tape.refuse (← tape.pass place)
  | fuel + 1, place =>
    match tape.lexeme? (place + 1) with
    | some .colon => throw (.keywordArgument tape.quotedSource)
    | _ => do
      let start := tape.offset place
      let (argument, place) ← tape.exprWith fuel place
      let text ← tape.textFrom start place
      match tape.lexeme? place with
      | some .comma =>
        let place ← tape.pass place
        let (others, place) ← tape.argumentsWith fuel place
        return ((text, argument) :: others, place)
      | _ => return ([(text, argument)], place)

end

/-- A bound that exceeds the number of lexemes left. -/
def fuel (tape : Tape) (place : Nat) : Nat := tape.lexemes.length - place + 1

/-- Reads an expression without filters. -/
def expr (tape : Tape) (place : Nat) : Checked (Expr × Nat) := tape.exprWith (tape.fuel place) place

/-- Reads filters, each behind a pipe. -/
def filters (tape : Tape) (place : Nat) : Checked (List FilterRequest × Nat) := tape.filtersWith (tape.fuel place) place

/-- Passes pipes; `fuel` exceeds the number of lexemes left. -/
def skipPipes (tape : Tape) : (fuel : Nat) → (place : Nat) → Checked Nat
  | 0, _ => ExceptT.mk none
  | fuel + 1, place =>
    match tape.lexeme? place with
    | some .pipe => do tape.skipPipes fuel (← tape.pass place)
    | _ => return place

/-- Reads an expression and the filters behind it; nothing at all stands for nil. -/
def markup (tape : Tape) (place : Nat) : Checked (Markup × Nat) := do
  let place ← tape.skipPipes (tape.fuel place) place
  if tape.atEnd place then return (⟨"", .literal .nil, []⟩, place)
  else do
    let start := tape.offset place
    let (primary, place) ← tape.expr place
    let name ← tape.textFrom start place
    let (filters, place) ← tape.filters place
    return (⟨name, primary, filters⟩, place)

/-- Reads a comparison or a test. -/
def term (tape : Tape) (place : Nat) : Checked (Condition × Nat) := do
  let (left, place) ← tape.expr place
  let operator? :=
    match tape.lexeme? place with
    | some (.sign marks) => some marks
    | some (.ident name) => if name == "and" || name == "or" then none else some name
    | _ => none
  match operator? with
  | some operator =>
    let place ← tape.moveTo (place + 1)
    let (right, place) ← tape.expr place
    return (.compare left operator right, place)
  | none => return (.truthy left, place)

/-- Reads terms joined by `and` and `or`, at most `limit` of them; `fuel` exceeds the number of lexemes left. -/
def conditionWith (tape : Tape) (tag : String) (limit : Nat) :
    (fuel : Nat) → (before : Nat) → (place : Nat) → Checked ((Condition × Nat) × Nat)
  | 0, _, place => do tape.refuse (← tape.pass place)
  | fuel + 1, before, place => do
    let (left, place) ← tape.term place
    let isAnd := tape.atKeyword place "and"
    if isAnd || tape.atKeyword place "or" then
      if before + 1 ≥ limit then throw (.tooManyTerms tag limit)
      let place ← tape.pass place
      let ((right, count), place) ← tape.conditionWith tag limit fuel (before + 1) place
      return ((if isAnd then .and left right else .or left right, count), place)
    else return ((left, before + 1), place)

/-- Removes the lexeme at a place. -/
def remove (tape : Tape) (place : Nat) : Checked Tape :=
  if place < tape.lexemes.length then return { tape with lexemes := tape.lexemes.eraseIdx place } else ExceptT.mk none

/-- Removes one parenthesis if the numbers of opening and closing ones differ by one. -/
def dropLoneParen (tape : Tape) : Checked Tape :=
  let opening := tape.lexemes.countP PlacedLexeme.opens
  let closing := tape.lexemes.countP PlacedLexeme.closes
  if opening == closing + 1 then
    match tape.lexemes.findIdx? PlacedLexeme.opens with
    | some place => tape.remove place
    | none => return tape
  else if closing == opening + 1 then
    match tape.lexemes.reverse.findIdx? PlacedLexeme.closes with
    | some behind => tape.remove (tape.lexemes.length - 1 - behind)
    | none => return tape
  else return tape

end Tape

/-- The markup that a text writes, read from a tape. -/
def Markup.parse? (source : String) : Checked Markup := do
  let tape ← Tape.ofSource source
  let tape ← tape.dropLoneParen
  let (markup, place) ← tape.markup 0
  tape.finish place
  return markup

/-- The condition that a text writes and the number of its terms, read from a tape. -/
def Condition.parse? (source tag : String) (limit : Nat) : Checked (Condition × Nat) := do
  let tape ← Tape.ofSource source
  if tape.atEnd 0 then throw .missingCondition
  let (result, place) ← tape.conditionWith tag limit (tape.lexemes.length + 1) 0 0
  tape.finish place
  return result

end Liquid
