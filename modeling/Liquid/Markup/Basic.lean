import Liquid.Value.Text

/-!
# Expressions, filter pipelines and conditions

The markup of an output is a primary expression followed by filters. Expressions are literals, paths, ranges and
pipelines in parentheses. A condition combines comparisons and tests; it associates to the right.
-/

namespace Liquid

mutual

/-- An expression. -/
inductive Expr where
  | literal (value : Value)
  | path (segments : List Segment)
  /-- All integers from the first to the last. -/
  | range (first last : Expr)
  /-- A pipeline in parentheses, with the source text of its primary expression. -/
  | filtered (name : String) (primary : Expr) (filters : List FilterRequest)

/-- One step of a path. -/
inductive Segment where
  | member (name : String)
  | index (key : Expr)

/-- A filter with its arguments, as source texts and as expressions. -/
inductive FilterRequest where
  | mk (name : String) (texts : List String) (arguments : List Expr)

end

namespace FilterRequest

/-- The name of the filter as it is written. -/
def name : FilterRequest → String
  | mk name _ _ => name

/-- The source texts of the arguments. -/
def texts : FilterRequest → List String
  | mk _ texts _ => texts

/-- The arguments. -/
def arguments : FilterRequest → List Expr
  | mk _ _ arguments => arguments

end FilterRequest

instance : Inhabited Expr := ⟨.literal .nil⟩

/-- A primary expression with its source text, and the filters that it passes through. -/
structure Markup where
  name : String
  primary : Expr
  filters : List FilterRequest

/-- Whether a markup is a path without filters. -/
def Markup.isPlainPath (markup : Markup) : Bool :=
  markup.filters.isEmpty && match markup.primary with
    | .path _ => true
    | _ => false

/-- A condition. -/
inductive Condition where
  | truthy (operand : Expr)
  | compare (left : Expr) (operator : String) (right : Expr)
  | and (left right : Condition)
  | or (left right : Condition)

/-! ## Written forms -/

namespace Expr

mutual

/-- The form of an expression that names each part by its kind; different expressions have different forms. -/
def written : Expr → String
  | literal value => "Literal(" ++ value.quoted [] ++ ")"
  | path segments => "Path([" ++ writtenSegments segments ++ "])"
  | range first last => "Range(" ++ written first ++ ", " ++ written last ++ ")"
  | filtered name primary filters =>
    "Filtered(ParsedMarkup \x7b name: " ++ Text.Quoted.show_ name ++ ", expr: " ++ written primary ++
      ", filters: [" ++ writtenFilters filters ++ "] \x7d)"

/-- The written form of one segment. -/
def writtenSegment : Segment → String
  | .member name => "Member(" ++ Text.Quoted.show_ name ++ ")"
  | .index key => "Index(" ++ written key ++ ")"

/-- The written forms of segments, separated by commas. -/
def writtenSegments : List Segment → String
  | [] => ""
  | [segment] => writtenSegment segment
  | segment :: rest => writtenSegment segment ++ ", " ++ writtenSegments rest

/-- The written form of one filter. -/
def writtenFilter : FilterRequest → String
  | .mk name texts arguments =>
    "FilterRequest \x7b name: " ++ Text.Quoted.show_ name ++ ", arguments: [" ++
      ", ".intercalate (texts.map Text.Quoted.show_) ++ "], args: [" ++ writtenList arguments ++ "] \x7d"

/-- The written forms of filters, separated by commas. -/
def writtenFilters : List FilterRequest → String
  | [] => ""
  | [filter] => writtenFilter filter
  | filter :: rest => writtenFilter filter ++ ", " ++ writtenFilters rest

/-- The written forms of expressions, separated by commas. -/
def writtenList : List Expr → String
  | [] => ""
  | [expr] => written expr
  | expr :: rest => written expr ++ ", " ++ writtenList rest

end

end Expr

/-- The name of a path in messages: an index that is no literal is left open. -/
def pathName (segments : List Segment) : String :=
  segments.foldl step ""
where
  /-- Appends one segment. -/
  step (name : String) : Segment → String
    | .member member => if name.isEmpty then member else name ++ "." ++ member
    | .index (.literal value) => name ++ "[" ++ value.quoted [] ++ "]"
    | .index _ => name ++ "[...]"

end Liquid
