import Liquid.Text.Quoted

/-!
# Errors

A fault says what went wrong. Its kind, its wording and the name it concerns follow from it. An error is a fault together
with the place where it arose and the error that caused it. Errors of some kinds end a render in every error mode.
-/

namespace Liquid

/-- The kinds of errors. -/
inductive ErrorKind where
  | syntaxError
  | undefinedError
  | unknownOperator
  | unknownFilter
  | filterInvocation
  | invalidArguments
  | missingArgument
  | tooManyArguments
  | disabledTag
  | recursionLimit
  | scopingError
  | templateNotFound
  | invalidOperation
  | badSerialization
  | cancelled
  | asyncRequired
deriving Repr, DecidableEq

namespace ErrorKind

/-- All kinds in their order. -/
def all : List ErrorKind :=
  [syntaxError, undefinedError, unknownOperator, unknownFilter, filterInvocation, invalidArguments,
    missingArgument, tooManyArguments, disabledTag, recursionLimit, scopingError, templateNotFound,
    invalidOperation, badSerialization, cancelled, asyncRequired]

/-- The words for a kind. -/
def title : ErrorKind → String
  | syntaxError => "syntax error"
  | undefinedError => "variable not found"
  | unknownOperator => "unknown operator"
  | unknownFilter => "unknown filter"
  | filterInvocation => "filter invocation failed"
  | invalidArguments => "invalid arguments"
  | missingArgument => "missing argument"
  | tooManyArguments => "too many arguments"
  | disabledTag => "tag not allowed"
  | recursionLimit => "stack level too deep"
  | scopingError => "scoping error"
  | templateNotFound => "template not found"
  | invalidOperation => "invalid operation"
  | badSerialization => "could not serialize to internal format"
  | cancelled => "render cancelled"
  | asyncRequired => "asynchronous render required"

/-- Whether an error of the kind ends a render in every error mode. -/
def isFatal : ErrorKind → Bool
  | recursionLimit | scopingError | cancelled | asyncRequired => true
  | _ => false

end ErrorKind

/-- What went wrong. -/
inductive Fault where
  /-- An output or a tag has no end; the text names the kind of marker. -/
  | unterminatedMarker (what : String)
  | namelessTag (inner : String)
  | unclosedTag (tag expected : String)
  | unterminatedString (markup : String)
  | unexpectedCharacter (character : Char) (markup : String)
  | unexpectedLexeme (lexeme markup : String)
  | unexpectedEnd (markup : String)
  | keywordArgument (markup : String)
  | tooManyTerms (tag : String) (limit : Nat)
  | missingCondition
  /-- An end tag closes nothing; the second name is that of the tag it would close. -/
  | strayEnd (name opening : String)
  | strayPart (name : String)
  | nestedTooDeep
  | unknownTag (name : String)
  /-- The markup of a tag does not have the form that the tag expects. -/
  | malformedTag (tag expected : String)
  | unknownLoopArgument (argument tag : String)
  | undefinedVariable (name : String)
  | unknownOperator (name : String)
  | unknownFilter (name : String)
  | filterArity (name : String) (arguments : Nat)
  | filterFailed (name message : String)
  | notConvertible (kind target : String)
  | missingArgument
  | tooManyArguments
  | contextUnavailable
  | disabledTag (name : String)
  | tooDeep (limit : Nat)
  | unmatchedPop
  | templateNotFound (name : String)
  | badRangeBound (text : String)
  | notANumber (text : String)
  | badOperand (verb text : String)
  | dividedByZero
  | badMapKey (kind : String)
  | valueWithoutKey
  | lostHandle
  | cancelled
  | suspended
  /-- A fault that a host reports. -/
  | reported (kind : ErrorKind) (detail : Option String)
deriving Repr, DecidableEq

namespace Fault

/-- The kind of a fault. -/
def kind : Fault → ErrorKind
  | unterminatedMarker _ | namelessTag _ | unclosedTag _ _ | unterminatedString _ | unexpectedCharacter _ _
  | unexpectedLexeme _ _ | unexpectedEnd _ | keywordArgument _ | tooManyTerms _ _ | missingCondition
  | strayEnd _ _ | strayPart _ | nestedTooDeep | unknownTag _ | malformedTag _ _
  | unknownLoopArgument _ _ => .syntaxError
  | undefinedVariable _ => .undefinedError
  | unknownOperator _ => .unknownOperator
  | unknownFilter _ => .unknownFilter
  | filterArity _ _ | filterFailed _ _ => .filterInvocation
  | notConvertible _ _ | notANumber _ => .invalidArguments
  | missingArgument => .missingArgument
  | tooManyArguments => .tooManyArguments
  | disabledTag _ => .disabledTag
  | tooDeep _ => .recursionLimit
  | unmatchedPop => .scopingError
  | templateNotFound _ => .templateNotFound
  | badRangeBound _ | badOperand _ _ | dividedByZero | contextUnavailable => .invalidOperation
  | badMapKey _ | valueWithoutKey | lostHandle => .badSerialization
  | cancelled => .cancelled
  | suspended => .asyncRequired
  | reported kind _ => kind

open Text.Quoted in
/-- The wording of a fault, if it says more than its kind. -/
def detail : Fault → Option String
  | unterminatedMarker what => some ("unterminated " ++ what)
  | namelessTag inner => some ("tag '\x7b%" ++ inner ++ "%\x7d' was not properly terminated or has no name")
  | unclosedTag tag expected => some ("'" ++ tag ++ "' tag was never closed, expected '" ++ expected ++ "'")
  | unterminatedString markup => some ("unterminated string in " ++ show_ markup)
  | unexpectedCharacter character markup =>
    some ("unexpected character " ++ showSingle character ++ " in " ++ show_ markup)
  | unexpectedLexeme lexeme markup => some ("unexpected '" ++ lexeme ++ "' in " ++ show_ markup)
  | unexpectedEnd markup => some ("unexpected end of markup in " ++ show_ markup)
  | keywordArgument markup => some ("keyword arguments are not supported in " ++ show_ markup)
  | tooManyTerms tag limit =>
    some ("condition of '" ++ tag ++ "' tag has more than " ++ toString limit ++ " terms")
  | missingCondition => some "missing condition"
  | strayEnd name opening => some ("unexpected '" ++ name ++ "', there is no open '" ++ opening ++ "' tag")
  | strayPart name => some ("unexpected '" ++ name ++ "' outside of its enclosing block tag")
  | nestedTooDeep => some "template exceeds maximum nesting depth"
  | unknownTag name => some ("unknown tag '" ++ name ++ "'")
  | malformedTag tag expected => some ("syntax error in '" ++ tag ++ "', expected " ++ expected)
  | unknownLoopArgument argument tag => some ("unknown argument '" ++ argument ++ "' in '" ++ tag ++ "'")
  | undefinedVariable name => some ("variable '" ++ name ++ "' not found")
  | unknownOperator name => some ("unknown operator '" ++ name ++ "'")
  | unknownFilter name => some ("unknown filter '" ++ name ++ "'")
  | filterArity name arguments =>
    some ("filter '" ++ name ++ "' does not take " ++ toString arguments ++ " argument" ++
      (if arguments == 1 then "" else "s"))
  | filterFailed _ message => some message
  | notConvertible kind target => some ("cannot convert " ++ kind ++ " to " ++ target)
  | contextUnavailable => some "context unavailable"
  | disabledTag name => some (name ++ " usage is not allowed in this context")
  | tooDeep limit => some ("nesting exceeded the maximum depth of " ++ toString limit)
  | unmatchedPop => some "pop without matching push"
  | templateNotFound name => some ("template " ++ show_ name ++ " does not exist")
  | badRangeBound text => some ("invalid range bound " ++ show_ text)
  | notANumber text => some (show_ text ++ " is not a number")
  | badOperand verb text => some ("unable to " ++ verb ++ " " ++ show_ text ++ ", not a number")
  | dividedByZero => some "divided by 0"
  | badMapKey kind => some ("unsupported map key of kind " ++ kind)
  | valueWithoutKey => some "map value without key"
  | lostHandle => some "value handle not in registry"
  | cancelled => some "the render was cancelled"
  | suspended => some "a filter, tag or template source suspended, use render_async"
  | reported _ detail => detail
  | missingArgument | tooManyArguments => none

/-- The name that a fault concerns. -/
def subject : Fault → Option String
  | undefinedVariable name | unknownOperator name | unknownFilter name | filterArity name _
  | filterFailed name _ | disabledTag name | templateNotFound name => some name
  | _ => none

/-- The short message of a fault. -/
def message (fault : Fault) : String := fault.detail.getD fault.kind.title

end Fault

/-- The name of a template and a line in it. -/
structure Location where
  name : String
  line : Nat
deriving Repr, DecidableEq

/-- A fault with the place where it arose and the error that caused it. -/
structure Error where
  fault : Fault
  location : Option Location
  cause : Option Error

namespace Error

/-- The error of a fault whose place is not known yet. -/
def of (fault : Fault) : Error := ⟨fault, none, none⟩

/-- The kind of an error. -/
def kind (error : Error) : ErrorKind := error.fault.kind

/-- The short message of an error. -/
def message (error : Error) : String := error.fault.message

/-- The full text of an error: its kind, its wording and its place. -/
def text (error : Error) : String :=
  let body :=
    match error.fault.detail with
    | some detail => error.kind.title ++ ": " ++ detail
    | none => error.kind.title
  match error.location with
  | some place => body ++ " (in " ++ place.name ++ ":" ++ toString place.line ++ ")"
  | none => body

/-- Gives an error a place unless it already has one. -/
def locate (error : Error) (place : Location) : Error :=
  { error with location := error.location <|> some place }

@[simp] theorem fault_locate (error : Error) (place : Location) : (error.locate place).fault = error.fault := rfl

@[simp] theorem kind_locate (error : Error) (place : Location) : (error.locate place).kind = error.kind := rfl

@[simp] theorem isSome_location_locate (error : Error) (place : Location) :
    (error.locate place).location.isSome = true := by
  cases h : error.location <;> simp [locate, h]

theorem locate_of_isSome {error : Error} (h : error.location.isSome) (place : Location) :
    error.locate place = error := by
  obtain ⟨fault, _ | known, cause⟩ := error
  · cases h
  · rfl

/-- The first place that an error is given stays. -/
theorem locate_locate (error : Error) (first second : Location) :
    (error.locate first).locate second = error.locate first := by
  cases h : error.location <;> simp [locate, h]

end Error

/-- Both parts of a sequence that succeeds succeed. -/
theorem of_bind_eq_ok {ε α β : Type} {first : Except ε α} {second : α → Except ε β} {result : β}
    (h : first >>= second = .ok result) : ∃ value, first = .ok value ∧ second value = .ok result := by
  cases first with
  | ok value => exact ⟨value, rfl, h⟩
  | error failure => cases h

/-- A sequence fails with one of its parts. -/
theorem of_bind_eq_error {ε α β : Type} {first : Except ε α} {second : α → Except ε β} {failure : ε}
    (h : first >>= second = .error failure) :
    first = .error failure ∨ ∃ value, first = .ok value ∧ second value = .error failure := by
  cases first with
  | ok value => exact .inr ⟨value, rfl, h⟩
  | error other =>
    obtain rfl : other = failure := Except.error.inj h
    exact .inl rfl

end Liquid
