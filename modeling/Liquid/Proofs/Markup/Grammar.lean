import Liquid.Markup.Cursor

/-!
# The grammar of markup

A grammar of markup without a parser: which lexemes write an expression, the rest of a path, filters, arguments or a whole
markup, and the tree that they write. Nothing is said about the order in which lexemes are read. A tree quotes the parts of
the source that its lexemes cover.
-/

namespace Liquid.Markup

/-- The part of a source from the start of the first of some lexemes to the stop of the last one. -/
def coveredText (source : String) (lexemes : List PlacedLexeme) : String :=
  let start := (lexemes.head?.map PlacedLexeme.start).getD source.length
  let stop := (lexemes.getLast?.map PlacedLexeme.stop).getD 0
  String.ofList ((source.toList.take stop).drop start)

/-- A part of a markup that lexemes can write. -/
inductive Phrase where
  | expr (expr : Expr)
  /-- What stands behind the first segment of a path. -/
  | segments (segments : List Segment)
  | filters (filters : List FilterRequest)
  /-- Arguments of a filter with their source texts. -/
  | arguments (arguments : List (String × Expr))

/-- A pipeline in parentheses; without filters the parentheses only group. -/
def enclosed (name : String) (primary : Expr) (filters : List FilterRequest) : Expr :=
  if filters.isEmpty then primary else .filtered name primary filters

/-- The lexemes of a part of a source write a phrase. -/
inductive Writes (source : String) : Phrase → List PlacedLexeme → Prop where
  | text {content : String} {start stop : Nat} :
      Writes source (.expr (.literal (.string content))) [⟨.text content, start, stop⟩]
  | int {value : Int64} {start stop : Nat} : Writes source (.expr (.literal (.int value))) [⟨.int value, start, stop⟩]
  | float {value : Float} {start stop : Nat} :
      Writes source (.expr (.literal (.float value))) [⟨.float value, start, stop⟩]
  | keyword {name : String} {value : Value} {start stop : Nat} (hkeyword : Cursor.keyword? name = some value) :
      Writes source (.expr (.literal value)) [⟨.ident name, start, stop⟩]
  /-- A keyword stands for a variable only if something follows it in the path. -/
  | named {name : String} {segments : List Segment} {start stop : Nat} {rest : List PlacedLexeme}
      (hname : segments = [] → Cursor.keyword? name = none) (hrest : Writes source (.segments segments) rest) :
      Writes source (.expr (.path (.member name :: segments))) (⟨.ident name, start, stop⟩ :: rest)
  | indexed {key : Expr} {segments : List Segment} {start stop start' stop' : Nat} {inside rest : List PlacedLexeme}
      (hkey : Writes source (.expr key) inside) (hrest : Writes source (.segments segments) rest) :
      Writes source (.expr (.path (.index key :: segments)))
        (⟨.openBracket, start, stop⟩ :: inside ++ ⟨.closeBracket, start', stop'⟩ :: rest)
  | range {first last : Expr} {start stop start' stop' start'' stop'' : Nat} {front back : List PlacedLexeme}
      (hfirst : Writes source (.expr first) front) (hlast : Writes source (.expr last) back) :
      Writes source (.expr (.range first last))
        (⟨.openParen, start, stop⟩ :: front ++ ⟨.dots, start', stop'⟩ :: back ++ [⟨.closeParen, start'', stop''⟩])
  | enclosed {primary : Expr} {filters : List FilterRequest} {start stop start' stop' : Nat}
      {front back : List PlacedLexeme} (hprimary : Writes source (.expr primary) front)
      (hfilters : Writes source (.filters filters) back) :
      Writes source (.expr (enclosed (coveredText source front) primary filters))
        (⟨.openParen, start, stop⟩ :: front ++ back ++ [⟨.closeParen, start', stop'⟩])
  | noSegment : Writes source (.segments []) []
  | member {name : String} {segments : List Segment} {start stop start' stop' : Nat} {rest : List PlacedLexeme}
      (hrest : Writes source (.segments segments) rest) :
      Writes source (.segments (.member name :: segments))
        (⟨.dot, start, stop⟩ :: ⟨.ident name, start', stop'⟩ :: rest)
  | place {value : Int64} {segments : List Segment} {start stop start' stop' : Nat} {rest : List PlacedLexeme}
      (hrest : Writes source (.segments segments) rest) :
      Writes source (.segments (.index (.literal (.int value)) :: segments))
        (⟨.dot, start, stop⟩ :: ⟨.int value, start', stop'⟩ :: rest)
  | index {key : Expr} {segments : List Segment} {start stop start' stop' : Nat} {inside rest : List PlacedLexeme}
      (hkey : Writes source (.expr key) inside) (hrest : Writes source (.segments segments) rest) :
      Writes source (.segments (.index key :: segments))
        (⟨.openBracket, start, stop⟩ :: inside ++ ⟨.closeBracket, start', stop'⟩ :: rest)
  | noFilter : Writes source (.filters []) []
  /-- A pipe with no filter behind it. -/
  | skipped {filters : List FilterRequest} {start stop : Nat} {rest : List PlacedLexeme}
      (hrest : Writes source (.filters filters) rest) :
      Writes source (.filters filters) (⟨.pipe, start, stop⟩ :: rest)
  | bare {name : String} {filters : List FilterRequest} {start stop start' stop' : Nat} {rest : List PlacedLexeme}
      (hrest : Writes source (.filters filters) rest) :
      Writes source (.filters (.mk name [] [] :: filters))
        (⟨.pipe, start, stop⟩ :: ⟨.ident name, start', stop'⟩ :: rest)
  | applied {name : String} {arguments : List (String × Expr)} {filters : List FilterRequest}
      {start stop start' stop' start'' stop'' : Nat} {inside rest : List PlacedLexeme}
      (harguments : Writes source (.arguments arguments) inside) (hrest : Writes source (.filters filters) rest) :
      Writes source (.filters (.mk name (arguments.map Prod.fst) (arguments.map Prod.snd) :: filters))
        (⟨.pipe, start, stop⟩ :: ⟨.ident name, start', stop'⟩ :: ⟨.colon, start'', stop''⟩ :: inside ++ rest)
  | lastArgument {argument : Expr} {inside : List PlacedLexeme} (hargument : Writes source (.expr argument) inside) :
      Writes source (.arguments [(coveredText source inside, argument)]) inside
  | argument {argument : Expr} {others : List (String × Expr)} {start stop : Nat} {inside rest : List PlacedLexeme}
      (hargument : Writes source (.expr argument) inside) (hrest : Writes source (.arguments others) rest) :
      Writes source (.arguments ((coveredText source inside, argument) :: others))
        (inside ++ ⟨.comma, start, stop⟩ :: rest)

/-- The lexemes of a source write a markup. Pipes in front do not count, and nothing at all stands for nil. -/
inductive IsWritten (source : String) : Markup → List PlacedLexeme → Prop where
  | nothing {pipes : List PlacedLexeme} (hpipes : ∀ placed ∈ pipes, placed.lexeme = .pipe) :
      IsWritten source ⟨"", .literal .nil, []⟩ pipes
  | pipeline {primary : Expr} {filters : List FilterRequest} {pipes front back : List PlacedLexeme}
      (hpipes : ∀ placed ∈ pipes, placed.lexeme = .pipe) (hprimary : Writes source (.expr primary) front)
      (hfilters : Writes source (.filters filters) back) :
      IsWritten source ⟨coveredText source front, primary, filters⟩ (pipes ++ front ++ back)

/-! ## What phrases begin with -/

/-- The first of some lexemes. -/
def first? (lexemes : List PlacedLexeme) : Option Lexeme := lexemes.head?.map PlacedLexeme.lexeme

/-- Whether an expression may begin with a lexeme. -/
def BeginsExpr : Lexeme → Prop
  | .text _ | .int _ | .float _ | .ident _ | .openBracket | .openParen => True
  | _ => False

/-- Whether a path goes on with a lexeme. -/
def ContinuesPath : Option Lexeme → Prop
  | some .dot | some .openBracket => True
  | _ => False

/-- Whether an expression or an argument may end in front of a lexeme: no path goes on with it, and it is no colon. -/
def EndsExpr : Option Lexeme → Prop
  | some .dot | some .openBracket | some .colon => False
  | _ => True

/-- Whether arguments may end in front of a lexeme. -/
def EndsArguments : Option Lexeme → Prop
  | some .comma => False
  | next => EndsExpr next

/-- Whether filters may end in front of a lexeme. -/
def EndsFilters : Option Lexeme → Prop
  | none | some .closeParen => True
  | _ => False

variable {source : String}

/-- An expression begins with a lexeme that only an expression begins with. -/
theorem Writes.exists_head {expr : Expr} {lexemes : List PlacedLexeme} (h : Writes source (.expr expr) lexemes) :
    ∃ placed rest, lexemes = placed :: rest ∧ BeginsExpr placed.lexeme := by
  cases h <;> exact ⟨_, _, rfl, trivial⟩

theorem Writes.ne_nil {expr : Expr} {lexemes : List PlacedLexeme} (h : Writes source (.expr expr) lexemes) :
    lexemes ≠ [] := by
  obtain ⟨placed, rest, rfl, -⟩ := h.exists_head
  exact List.cons_ne_nil placed rest

/-- What stands behind the first segment of a path goes on with the path, unless it is nothing at all. -/
theorem Writes.continuesPath {segments : List Segment} {lexemes : List PlacedLexeme}
    (h : Writes source (.segments segments) lexemes) :
    segments = [] ∧ lexemes = [] ∨ ContinuesPath (first? lexemes) := by
  cases h with
  | noSegment => exact .inl ⟨rfl, rfl⟩
  | member hrest => exact .inr trivial
  | place hrest => exact .inr trivial
  | index hkey hrest => exact .inr trivial

/-- Filters begin with a pipe, unless there are none. -/
theorem Writes.first?_append {filters : List FilterRequest} {lexemes : List PlacedLexeme}
    (h : Writes source (.filters filters) lexemes) (rest : List PlacedLexeme) :
    first? (lexemes ++ rest) = first? rest ∨ first? (lexemes ++ rest) = some .pipe := by
  cases h with
  | noFilter => exact .inl rfl
  | _ => exact .inr rfl

/-- No expression has a colon behind its first lexeme, and none follows one. -/
theorem Writes.second_ne_colon {expr : Expr} {lexemes rest : List PlacedLexeme}
    (h : Writes source (.expr expr) lexemes) (hends : EndsExpr (first? rest)) :
    first? (lexemes ++ rest).tail ≠ some .colon := by
  have hrest : first? rest ≠ some .colon := by
    intro hcolon
    rw [hcolon] at hends
    exact hends
  have hbegins {inside behind : List PlacedLexeme} {part : Expr} (hinside : Writes source (.expr part) inside) :
      first? (inside ++ behind) ≠ some .colon := by
    obtain ⟨placed, others, rfl, hplaced⟩ := hinside.exists_head
    intro hcolon
    rw [show placed.lexeme = .colon from Option.some.inj hcolon] at hplaced
    exact hplaced
  cases h with
  | text | int | float | keyword => exact hrest
  | named hname hsegments =>
    cases hsegments with
    | noSegment => exact hrest
    | _ => exact nofun
  | indexed hkey hsegments => simpa using hbegins hkey
  | range hfirst hlast => simpa using hbegins hfirst
  | enclosed hprimary hfilters => simpa using hbegins hprimary

end Liquid.Markup
