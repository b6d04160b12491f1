/-!
# Settings of a render

The level selects between evaluation rules that differ. The error mode says what an error that does not end the
render writes into the output.
-/

namespace Liquid

/-- Selects between evaluation rules; later levels keep the changes of earlier ones. -/
inductive SyntaxLevel where
  | liquid20
  /-- Capitalizing touches the first character only. -/
  | liquid21
  /-- A number no longer equals a text that writes it. -/
  | liquid22
  /-- Slicing works on sequences. -/
  | liquid22a
deriving Repr, DecidableEq

namespace SyntaxLevel

/-- All levels in their order. -/
def all : List SyntaxLevel := [liquid20, liquid21, liquid22, liquid22a]

/-- The place of a level in the order. -/
def rank : SyntaxLevel → Nat
  | liquid20 => 0
  | liquid21 => 1
  | liquid22 => 2
  | liquid22a => 3

/-- Whether a level includes the changes that came with another one. -/
def includes (level change : SyntaxLevel) : Bool := change.rank ≤ level.rank

end SyntaxLevel

/-- What an error that does not end the render writes into the output. -/
inductive ErrorMode where
  /-- Nothing. -/
  | suppress
  /-- Its short message. -/
  | display
  /-- Nothing, because it ends the render after all. -/
  | rethrow
deriving Repr, DecidableEq

end Liquid
