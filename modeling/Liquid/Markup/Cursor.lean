import Liquid.Markup.Basic
import Liquid.Markup.Lexeme

/-!
# Reading markup

A cursor stands between the lexemes of a markup. Expressions, filters and conditions are read from it by recursive
descent; every step moves the cursor over at least one lexeme, so that the number of lexemes left bounds the
recursion. Outputs and assignments forgive a single parenthesis without a partner and empty filters.
-/

namespace Liquid

/-- A place between the lexemes of a markup. -/
structure Cursor where
  source : String
  /-- The lexeme that was passed last. -/
  last : Option PlacedLexeme
  rest : List PlacedLexeme

namespace Cursor

/-- The cursor in front of all lexemes of a markup. -/
def start (source : String) : Except Fault Cursor := do
  let lexemes ← Lexeme.scan source
  return ⟨source, none, lexemes⟩

/-- The next lexeme. -/
def lexeme? (cursor : Cursor) : Option Lexeme := cursor.rest.head?.map PlacedLexeme.lexeme

/-- The lexeme behind the next one. -/
def second? (cursor : Cursor) : Option Lexeme := cursor.rest.tail.head?.map PlacedLexeme.lexeme

/-- The cursor behind the next lexeme. -/
def advance (cursor : Cursor) : Cursor :=
  match cursor.rest with
  | [] => cursor
  | placed :: rest => ⟨cursor.source, some placed, rest⟩

/-- Whether no lexeme is left. -/
def atEnd (cursor : Cursor) : Bool := cursor.rest.isEmpty

/-- Where the next lexeme starts. -/
def offset (cursor : Cursor) : Nat :=
  match cursor.rest with
  | placed :: _ => placed.start
  | [] => cursor.source.length

/-- Where the last lexeme stopped. -/
def stop (cursor : Cursor) : Nat := (cursor.last.map PlacedLexeme.stop).getD 0

/-- The source text from a place to the end of the last lexeme. -/
def textFrom (cursor : Cursor) (start : Nat) : String :=
  String.ofList ((cursor.source.toList.take cursor.stop).drop start)

/-- The markup as messages quote it. -/
def quotedSource (cursor : Cursor) : String := String.ofList (Text.trim cursor.source.toList)

/-- The next lexeme cannot stand here. -/
def unexpected (cursor : Cursor) : Fault :=
  match cursor.lexeme? with
  | some lexeme => .unexpectedLexeme lexeme.shown cursor.quotedSource
  | none => .unexpectedEnd cursor.quotedSource

/-- The next lexeme begins no expression; at the end of the markup the last lexeme is at fault. -/
def noOperand (cursor : Cursor) : Fault :=
  match cursor.lexeme? <|> cursor.last.map PlacedLexeme.lexeme with
  | some lexeme => .unexpectedLexeme lexeme.shown cursor.quotedSource
  | none => .unexpectedEnd cursor.quotedSource

/-- Whether the next lexeme is the given identifier. -/
def atKeyword (cursor : Cursor) (keyword : String) : Bool :=
  match cursor.lexeme? with
  | some (.ident name) => name == keyword
  | _ => false

/-- Passes an identifier. -/
def ident (cursor : Cursor) : Except Fault (String × Cursor) :=
  match cursor.lexeme? with
  | some (.ident name) => .ok (name, cursor.advance)
  | _ => .error cursor.unexpected

/-- Passes a colon. -/
def colon (cursor : Cursor) : Except Fault Cursor :=
  match cursor.lexeme? with
  | some .colon => .ok cursor.advance
  | _ => .error cursor.unexpected

/-- Passes a closing bracket. -/
def closeBracket (cursor : Cursor) : Except Fault Cursor :=
  match cursor.lexeme? with
  | some .closeBracket => .ok cursor.advance
  | _ => .error cursor.unexpected

/-- Passes a closing parenthesis. -/
def closeParen (cursor : Cursor) : Except Fault Cursor :=
  match cursor.lexeme? with
  | some .closeParen => .ok cursor.advance
  | _ => .error cursor.unexpected

/-- Requires that no lexeme is left. -/
def finish (cursor : Cursor) : Except Fault Unit :=
  if cursor.atEnd then .ok () else .error cursor.unexpected

/-- The value of an identifier that is a keyword. -/
def keyword? (name : String) : Option Value :=
  if name == "nil" || name == "null" then some .nil
  else if name == "true" then some (.bool true)
  else if name == "false" then some (.bool false)
  else if name == "empty" then some .empty
  else if name == "blank" then some .blank
  else none

/-- Whether the next lexeme continues a path. -/
def continuesPath (cursor : Cursor) : Bool :=
  match cursor.lexeme? with
  | some .dot | some .openBracket => true
  | _ => false

/-- Whether no filter follows a pipe: at the end, at another pipe or at a closing parenthesis. -/
def skipsFilter (cursor : Cursor) : Bool :=
  match cursor.lexeme? with
  | none | some .pipe | some .closeParen => true
  | _ => false

mutual

/-- Reads an expression without filters; `fuel` exceeds the number of lexemes left. -/
def exprWith : (fuel : Nat) → Cursor → Except Fault (Expr × Cursor)
  | 0, cursor => .error cursor.noOperand
  | fuel + 1, cursor =>
    let after := cursor.advance
    match cursor.lexeme? with
    | some (.text content) => .ok (.literal (.string content), after)
    | some (.int value) => .ok (.literal (.int value), after)
    | some (.float value) => .ok (.literal (.float value), after)
    | some (.ident name) =>
      match if after.continuesPath then none else keyword? name with
      | some value => .ok (.literal value, after)
      | none => pathWith fuel [.member name] after
    | some .openBracket => do
      let (key, cursor) ← exprWith fuel after
      let cursor ← cursor.closeBracket
      pathWith fuel [.index key] cursor
    | some .openParen => do
      let (first, cursor) ← exprWith fuel after
      match cursor.lexeme? with
      | some .dots =>
        let (last, cursor) ← exprWith fuel cursor.advance
        let cursor ← cursor.closeParen
        return (.range first last, cursor)
      | _ =>
        let name := cursor.textFrom after.offset
        let (filters, cursor) ← filtersWith fuel cursor
        let cursor ← cursor.closeParen
        return (if filters.isEmpty then first else .filtered name first filters, cursor)
    | _ => .error cursor.noOperand

/-- Reads the segments that follow the given ones. -/
def pathWith : (fuel : Nat) → List Segment → Cursor → Except Fault (Expr × Cursor)
  | 0, _, cursor => .error cursor.noOperand
  | fuel + 1, segments, cursor =>
    match cursor.lexeme? with
    | some .dot =>
      let cursor := cursor.advance
      match cursor.lexeme? with
      | some (.ident name) => pathWith fuel (segments ++ [.member name]) cursor.advance
      | some (.int value) => pathWith fuel (segments ++ [.index (.literal (.int value))]) cursor.advance
      | _ => .error cursor.noOperand
    | some .openBracket => do
      let (key, cursor) ← exprWith fuel cursor.advance
      let cursor ← cursor.closeBracket
      pathWith fuel (segments ++ [.index key]) cursor
    | _ => .ok (.path segments, cursor)

/-- Reads filters, each behind a pipe. -/
def filtersWith : (fuel : Nat) → Cursor → Except Fault (List FilterRequest × Cursor)
  | 0, cursor => .error cursor.noOperand
  | fuel + 1, cursor =>
    match cursor.lexeme? with
    | some .pipe =>
      let cursor := cursor.advance
      if cursor.skipsFilter then filtersWith fuel cursor
      else do
        let (name, cursor) ← cursor.ident
        let (arguments, cursor) ←
          match cursor.lexeme? with
          | some .colon => argumentsWith fuel cursor.advance
          | _ => .ok ([], cursor)
        let (others, cursor) ← filtersWith fuel cursor
        return (.mk name (arguments.map Prod.fst) (arguments.map Prod.snd) :: others, cursor)
    | _ => .ok ([], cursor)

/-- Reads the arguments of a filter with their source texts; an argument with a name is refused. -/
def argumentsWith : (fuel : Nat) → Cursor → Except Fault (List (String × Expr) × Cursor)
  | 0, cursor => .error cursor.noOperand
  | fuel + 1, cursor =>
    match cursor.second? with
    | some .colon => .error (.keywordArgument cursor.quotedSource)
    | _ => do
      let start := cursor.offset
      let (argument, cursor) ← exprWith fuel cursor
      let text := cursor.textFrom start
      match cursor.lexeme? with
      | some .comma =>
        let (others, cursor) ← argumentsWith fuel cursor.advance
        return ((text, argument) :: others, cursor)
      | _ => return ([(text, argument)], cursor)

end

/-- A bound that exceeds the number of lexemes left. -/
def fuel (cursor : Cursor) : Nat := cursor.rest.length + 1

/-- Reads an expression without filters. -/
def expr (cursor : Cursor) : Except Fault (Expr × Cursor) := exprWith cursor.fuel cursor

/-- Reads filters, each behind a pipe. -/
def filters (cursor : Cursor) : Except Fault (List FilterRequest × Cursor) := filtersWith cursor.fuel cursor

/-- Passes pipes. -/
def skipPipes (cursor : Cursor) : Cursor :=
  let pipes := cursor.rest.takeWhile fun placed ↦
    match placed.lexeme with
    | .pipe => true
    | _ => false
  pipes.foldl (fun cursor _ ↦ cursor.advance) cursor

/-- Reads an expression and the filters behind it; nothing at all stands for nil. -/
def markup (cursor : Cursor) : Except Fault (Markup × Cursor) :=
  let cursor := cursor.skipPipes
  if cursor.atEnd then .ok (⟨"", .literal .nil, []⟩, cursor)
  else do
    let start := cursor.offset
    let (primary, cursor) ← cursor.expr
    let name := cursor.textFrom start
    let (filters, cursor) ← cursor.filters
    return (⟨name, primary, filters⟩, cursor)

/-- Reads a comparison or a test. -/
def term (cursor : Cursor) : Except Fault (Condition × Cursor) := do
  let (left, cursor) ← cursor.expr
  let operator? :=
    match cursor.lexeme? with
    | some (.sign marks) => some marks
    | some (.ident name) => if name == "and" || name == "or" then none else some name
    | _ => none
  match operator? with
  | some operator =>
    let (right, cursor) ← cursor.advance.expr
    return (.compare left operator right, cursor)
  | none => return (.truthy left, cursor)

/-- Reads terms joined by `and` and `or`, at most `limit` of them; `fuel` exceeds the number of lexemes left. -/
def conditionWith (tag : String) (limit : Nat) :
    (fuel : Nat) → (before : Nat) → Cursor → Except Fault ((Condition × Nat) × Cursor)
  | 0, _, cursor => .error cursor.noOperand
  | fuel + 1, before, cursor => do
    let (left, cursor) ← cursor.term
    let isAnd := cursor.atKeyword "and"
    if isAnd || cursor.atKeyword "or" then
      if before + 1 ≥ limit then throw (.tooManyTerms tag limit)
      let ((right, count), cursor) ← conditionWith tag limit fuel (before + 1) cursor.advance
      return ((if isAnd then .and left right else .or left right, count), cursor)
    else return ((left, before + 1), cursor)

end Cursor

/-- Whether a lexeme is an opening parenthesis. -/
def PlacedLexeme.opens (placed : PlacedLexeme) : Bool :=
  match placed.lexeme with
  | .openParen => true
  | _ => false

/-- Whether a lexeme is a closing parenthesis. -/
def PlacedLexeme.closes (placed : PlacedLexeme) : Bool :=
  match placed.lexeme with
  | .closeParen => true
  | _ => false

/-- Removes one parenthesis if the numbers of opening and closing ones differ by one: the first opening or the last
closing one. -/
def dropLoneParen (lexemes : List PlacedLexeme) : List PlacedLexeme :=
  let opening := lexemes.countP PlacedLexeme.opens
  let closing := lexemes.countP PlacedLexeme.closes
  if opening == closing + 1 then lexemes.eraseP PlacedLexeme.opens
  else if closing == opening + 1 then (lexemes.reverse.eraseP PlacedLexeme.closes).reverse
  else lexemes

/-- The markup that lexemes of a source form. -/
def Markup.ofLexemes (source : String) (lexemes : List PlacedLexeme) : Except Fault Markup := do
  let (markup, cursor) ← (Cursor.mk source none lexemes).markup
  cursor.finish
  return markup

/-- The markup that a text writes. -/
def Markup.parse (source : String) : Except Fault Markup := do
  let lexemes ← Lexeme.scan source
  Markup.ofLexemes source (dropLoneParen lexemes)

/-- The condition that lexemes of a source form, and the number of its terms. -/
def Condition.ofLexemes (source tag : String) (limit : Nat) (lexemes : List PlacedLexeme) :
    Except Fault (Condition × Nat) := do
  if lexemes.isEmpty then throw .missingCondition
  let (result, cursor) ← Cursor.conditionWith tag limit (lexemes.length + 1) 0 ⟨source, none, lexemes⟩
  cursor.finish
  return result

/-- The condition that a text writes, and the number of its terms. -/
def Condition.parse (source tag : String) (limit : Nat) : Except Fault (Condition × Nat) := do
  let lexemes ← Lexeme.scan source
  Condition.ofLexemes source tag limit lexemes

end Liquid
