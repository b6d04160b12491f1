/-!
# Tokens of a template

A template is a sequence of plain text, outputs and tags. Every token knows the stretch of the source that it comes
from, its line, its column in characters and its offset in bytes.
-/

namespace Liquid

/-- A place in a source: lines count from one, columns and offsets from zero. -/
structure Position where
  line : Nat
  column : Nat
  offset : Nat
deriving Repr, DecidableEq

namespace Position

/-- The start of a source. -/
def first : Position := ⟨1, 0, 0⟩

/-- The place behind a character. -/
def next (position : Position) (c : Char) : Position :=
  if c == '\n' then ⟨position.line + 1, 0, position.offset + c.utf8Size⟩
  else ⟨position.line, position.column + 1, position.offset + c.utf8Size⟩

/-- The place behind a text. -/
def after (position : Position) (text : List Char) : Position := text.foldl next position

@[simp] theorem after_nil (position : Position) : position.after [] = position := rfl

theorem after_append (position : Position) (text more : List Char) :
    position.after (text ++ more) = (position.after text).after more := by
  simp [after]

end Position

/-- A stretch of a source. -/
structure Span where
  start : Position
  stop : Position
deriving Repr, DecidableEq

/-- A part of a template. -/
inductive Token where
  /-- Plain text, trimmed as its neighbours ask. -/
  | data (text : String)
  /-- Text that is no markup although it may look like it. -/
  | raw (text : String)
  | output (content : String) (trimLeft trimRight : Bool)
  | tag (name markup : String) (trimLeft trimRight : Bool)
deriving Repr, DecidableEq

/-- What a token is called. -/
def Token.title : Token → String
  | data _ => "template-data"
  | raw _ => "raw data"
  | output _ _ _ => "output"
  | tag name _ _ _ => "tag `" ++ name ++ "`"

/-- A token with the stretch that it comes from. -/
structure PlacedToken where
  token : Token
  span : Span
deriving Repr, DecidableEq

end Liquid
