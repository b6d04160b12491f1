import Liquid.Filter.Basic
import Liquid.Host.Titles
import Liquid.Text.Case

/-!
# Stock filters

Filters that a host can register under names of its choice. Those whose names begin with `slow` keep their caller waiting
once.
-/

namespace Liquid.Host

/-- The integer that a whole number gives; numbers beyond the integers wrap around. -/
def wrapped (n : Int) : Value := .int (Int64.ofInt n)

/-- A text parameter. -/
def printed : Parameter := .one .printed

/-- A parameter for any value. -/
def anything : Parameter := .one .value

/-- An integer parameter. -/
def integer : Parameter := .one (.integer .signed64)

/-- What a filter tells of the context that it is called in. -/
def contextText (context : Context) (value : String) : String :=
  ":".intercalate
    [value, context.name, toString context.scopes.depth, toString context.recorded.length,
      levelTitle context.level, modeTitle context.errorMode, truthText context.strict]

/-- The stock filters with their names. -/
def filters : List (String × Filter) :=
  [("concat2", .direct [printed, printed] fun (a, b, ()) ↦ .string (a ++ b)),
    ("concat3", .direct [printed, printed, printed] fun (a, b, c, ()) ↦ .string (a ++ b ++ "+" ++ c)),
    ("wrap", .direct [printed, .one (.option .printed), .one (.option .printed)] fun (value, left, right, ()) ↦
      let left := left.getD "["
      .string (left ++ value ++ right.getD left)),
    ("sum", .direct [integer, .rest (.integer .signed64)] fun (first, rest, ()) ↦ wrapped (rest.foldl (· + ·) first)),
    ("greet", .atOnce [.context, printed] fun (value, ()) ↦ do
      match ← Query.counting fun context ↦ context.lookup "greeting" with
      | some greeting => return .string ((← Query.textOf greeting) ++ ", " ++ value)
      | none => return .string ("Hello, " ++ value)),
    ("ctxinfo", .atOnce [.context, printed] fun (value, ()) context ↦ return .string (contextText context value)),
    ("shout", .direct [printed] fun (value, ()) ↦ .string (value ++ "!")),
    ("paren", .direct [printed] fun (value, ()) ↦ .string ("(" ++ value ++ ")")),
    ("upper", .direct [printed] fun (value, ()) ↦ .ofText (Text.upper value.toList)),
    ("fail", .atOnce [anything] fun _ ↦ .fail (.reported .invalidOperation (some "nope"))),
    ("fatal", .atOnce [anything] fun _ ↦ .fail (.reported .scopingError none)),
    ("stop", .atOnce [anything] fun (value, ()) ↦ do
      Query.cancel
      return value),
    ("kind", .direct [anything] fun (value, ()) ↦ .string value.kind.title),
    ("strlen", .direct [.one .text] fun (value, ()) ↦ .ofCount value.utf8ByteSize),
    ("opt1", .direct [printed, .one (.option .value)] fun (value, a, ()) ↦
      .string ("opt1(" ++ value ++ "," ++ truthText a.isSome ++ ")")),
    ("opt2", .direct [printed, .one (.option .value), .one (.option .value)] fun (value, a, b, ()) ↦
      .string ("opt2(" ++ value ++ "," ++ truthText a.isSome ++ "," ++ truthText b.isSome ++ ")")),
    ("rest", .direct [printed, .rest .value] fun (value, rest, ()) ↦
      .string ("rest(" ++ value ++ "," ++ toString rest.length ++ ")")),
    ("rest2", .direct [printed, printed, .rest .value] fun (a, b, rest, ()) ↦
      .string ("rest2(" ++ a ++ "," ++ b ++ "," ++ toString rest.length ++ ")")),
    ("five", .direct [integer, integer, integer, .one (.option .float), .one (.option .bool)]
      fun (a, b, c, d, e, ()) ↦
        .string ("/".intercalate
          [toString a, toString b, toString c, (d.map printedFloat.write).getD "-", (e.map truthText).getD "-"])),
    ("slow_upcase", .waiting 1 [printed] fun (value, ()) ↦ return .ofText (Text.upper value.toList)),
    ("instant", .waiting 0 [printed] fun (value, ()) ↦ return .string ("<" ++ value ++ ">")),
    ("slow_fail", .waiting 1 [anything] fun _ ↦ .fail (.reported .invalidOperation (some "slow nope"))),
    ("slow_add", .waiting 1 [integer, .one (.option (.integer .signed64))] fun (a, b, ()) ↦
      return wrapped (a + b.getD 1))]

/-- The stock filter of a name. -/
def filter? (name : String) : Option Filter := (filters.find? fun entry ↦ entry.1 == name).map Prod.snd

end Liquid.Host
