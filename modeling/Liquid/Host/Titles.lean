import Liquid.Error
import Liquid.Naming
import Liquid.Settings

/-!
# Names of settings

The names that hosts use for settings and for kinds of errors.
-/

namespace Liquid.Host

/-- The name of a level. -/
def levelTitle : SyntaxLevel → String
  | .liquid20 => "Liquid20"
  | .liquid21 => "Liquid21"
  | .liquid22 => "Liquid22"
  | .liquid22a => "Liquid22a"

/-- The level that a number with an optional letter names. -/
def level? (text : String) : Option SyntaxLevel :=
  SyntaxLevel.all.find? fun level ↦ levelTitle level == "Liquid" ++ text

/-- The name of an error mode. -/
def modeTitle : ErrorMode → String
  | .suppress => "Suppress"
  | .display => "Display"
  | .rethrow => "Rethrow"

/-- The error mode that a word names. -/
def mode? (text : String) : Option ErrorMode :=
  match text with
  | "suppress" => some .suppress
  | "display" => some .display
  | "rethrow" => some .rethrow
  | _ => none

/-- The name of a naming convention. -/
def namingTitle : NamingConvention → String
  | .ruby => "Ruby"
  | .csharp => "CSharp"

/-- The naming convention that a word names. -/
def naming? (text : String) : Option NamingConvention :=
  match text with
  | "ruby" => some .ruby
  | "csharp" => some .csharp
  | _ => none

/-- The name of a kind of errors. -/
def kindTitle : ErrorKind → String
  | .syntaxError => "SyntaxError"
  | .undefinedError => "UndefinedError"
  | .unknownOperator => "UnknownOperator"
  | .unknownFilter => "UnknownFilter"
  | .filterInvocation => "FilterInvocation"
  | .invalidArguments => "InvalidArguments"
  | .missingArgument => "MissingArgument"
  | .tooManyArguments => "TooManyArguments"
  | .disabledTag => "DisabledTag"
  | .recursionLimit => "RecursionLimit"
  | .scopingError => "ScopingError"
  | .templateNotFound => "TemplateNotFound"
  | .invalidOperation => "InvalidOperation"
  | .badSerialization => "BadSerialization"
  | .cancelled => "Cancelled"
  | .asyncRequired => "AsyncRequired"

end Liquid.Host
