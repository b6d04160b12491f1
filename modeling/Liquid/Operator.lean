import Liquid.Registry
import Liquid.Text.Search
import Liquid.Value.Access
import Liquid.Value.Equality
import Liquid.Value.Text

/-!
# Operators of conditions

An operator compares two values. Nothing is neither smaller nor larger than anything. Up to a level of the rules texts that
write numbers are ordered as numbers where they meet one.
-/

namespace Liquid

/-- A comparison of two values; what it says of objects may depend on what they have counted. -/
abbrev Operator := SyntaxLevel → Tallies → Value → Value → Bool

namespace Operator

/-- The order of two values, if they have one. -/
def order? (level : SyntaxLevel) (a b : Value) : Option Ordering :=
  if a.isNil || b.isNil then none
  else
    match a.compare? b with
    | some order => some order
    | none =>
      if level.includes .liquid22 then none
      else
        match a.toNumber?, b.toNumber? with
        | some x, some y => x.compare? y
        | _, _ => none

/-- Whether two values are equal. -/
def equal : Operator := fun level _ a b ↦ a.looselyEqual level b

/-- Whether two values are not equal. -/
def unequal : Operator := fun level _ a b ↦ !a.looselyEqual level b

/-- Whether the first value is smaller. -/
def less : Operator := fun level _ a b ↦ order? level a b == some .lt

/-- Whether the first value is smaller, or as large. -/
def lessOrEqual : Operator := fun level _ a b ↦
  order? level a b == some .lt || order? level a b == some .eq

/-- Whether the first value is larger. -/
def greater : Operator := fun level _ a b ↦ order? level a b == some .gt

/-- Whether the first value is larger, or as large. -/
def greaterOrEqual : Operator := fun level _ a b ↦
  order? level a b == some .gt || order? level a b == some .eq

/-- Whether a text has the text of a value as a part, a map has it as a key, or items have the value among them. -/
def contains : Operator := fun level tallies a b ↦
  if b.isUndefined then false
  else
    match a with
    | .string text => !b.isNil && Text.contains (b.text tallies).toList text.toList
    | .map entries => Entries.contains (b.text tallies) entries
    | _ => a.items?.any fun items ↦ items.any (·.looselyEqual level b)

/-- Whether a text begins with the text of a value, or items begin with the value. -/
def startsWith : Operator := fun level tallies a b ↦
  match a with
  | .string text => !b.isNil && (b.text tallies).toList.isPrefixOf text.toList
  | _ => (a.index? 0).any (·.looselyEqual level b)

/-- Whether a text ends with the text of a value, or items end with the value. -/
def endsWith : Operator := fun level tallies a b ↦
  match a with
  | .string text => !b.isNil && (b.text tallies).toList.isSuffixOf text.toList
  | _ => (a.index? (-1)).any (·.looselyEqual level b)

/-- Whether a map has the text of a value as a key. -/
def hasKey : Operator := fun _ tallies a b ↦ a.entries?.any (Entries.contains (b.text tallies))

/-- Whether a map has an entry with the value. -/
def hasValue : Operator := fun level _ a b ↦
  a.entries?.any fun entries ↦ entries.any (·.2.looselyEqual level b)

/-- The built-in operators with their names. -/
def builtins : List (String × Operator) :=
  [("==", equal), ("!=", unequal), ("<>", unequal), ("<", less), ("<=", lessOrEqual), (">", greater),
    (">=", greaterOrEqual), ("contains", contains), ("startswith", startsWith), ("endswith", endsWith),
    ("haskey", hasKey), ("hasvalue", hasValue)]

end Operator

end Liquid
