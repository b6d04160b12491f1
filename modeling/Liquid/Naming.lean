import Liquid.Text.Case

/-!
# Naming conventions

Filters, operators, tags and members are registered under one name and asked for under another. A convention says which
requests a registered name answers.
-/

namespace Liquid

/-- How names in templates relate to registered names. -/
inductive NamingConvention where
  /-- Registered names are turned into snake case and matched exactly. -/
  | ruby
  /-- Registered names are kept, and the case of the first letter does not matter. -/
  | csharp
deriving Repr, DecidableEq

namespace Naming

open Text

/-- The first character of the other case of a letter. -/
def flipCase (c : Char) : Char :=
  ((if isUppercase c then lowerOf c else upperOf c).head?).getD c

/-- Whether a capital letter starts a new word behind the character before it. -/
def startsWord (before : Option Char) (rest : List Char) : Bool :=
  match before with
  | none => false
  | some p =>
    if p == '_' then false
    else if isLowercase p || p.isDigit then true
    else if isUppercase p then
      match rest with
      | next :: _ => isLowercase next
      | [] => false
    else false

/-- Snake case of a text behind a given character. -/
def snakeAfter (before : Option Char) : List Char → List Char
  | [] => []
  | c :: rest =>
    if isUppercase c then
      (if startsWord before rest then ['_'] else []) ++ lowerOf c ++ snakeAfter (some c) rest
    else c :: snakeAfter (some c) rest

/-- Turns camel case into snake case. -/
def snakeCase (name : String) : String := String.ofList (snakeAfter none name.toList)

/-- Whether two names differ in the case of their first letter and in nothing else. -/
def differInFirstCase (registered requested : String) : Bool :=
  match registered.toList, requested.toList with
  | x :: xs, y :: ys => x != y && flipCase x == y && xs == ys
  | _, _ => false

end Naming

namespace NamingConvention

/-- The name under which a registration is known. -/
def registeredName (convention : NamingConvention) (name : String) : String :=
  match convention with
  | ruby => Naming.snakeCase name
  | csharp => name

/-- Whether a request refers to a registered name. -/
def matchesName (convention : NamingConvention) (registered requested : String) : Bool :=
  registered == requested || match convention with
    | ruby => false
    | csharp => Naming.differInFirstCase registered requested

end NamingConvention

end Liquid
