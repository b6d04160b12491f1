import Liquid.Markup.Basic
import Liquid.Token.Basic

/-!
# Template trees

A template is a block of nodes: texts, outputs and tags. A block tag owns the blocks between its opening tag and its
end tag.
-/

namespace Liquid

/-- Where a loop begins. -/
inductive LoopOffset where
  | expr (offset : Expr)
  /-- Where the last loop over the same thing stopped. -/
  | resume

/-- The opening tag of a loop. -/
structure LoopHeader where
  item : String
  collection : Expr
  /-- Names the item and the source text of the collection; loops of one name share their place. -/
  name : String
  reversed : Bool
  limit : Option Expr
  offset : Option LoopOffset

/-- The opening tag of a table. -/
structure TableHeader where
  item : String
  collection : Expr
  name : String
  columns : Option Expr
  limit : Option Expr
  offset : Option Expr

/-- How an included template gets the variable that has its name. -/
inductive Binding where
  /-- It is bound to a value. -/
  | value (value : Expr)
  /-- The template is rendered for each item of a sequence. -/
  | each (items : Expr)

/-- The tag that includes a template. -/
structure Inclusion where
  template : Expr
  binding : Option Binding
  attributes : List (String × Expr)

mutual

/-- A node of a template. -/
inductive Node where
  | text (content : String)
  | output (markup : Markup) (span : Span)
  /-- A tag with its name and markup as they are written, and what it does. -/
  | tag (name markup : String) (span : Span) (action : Tag)

/-- What a tag does. -/
inductive Tag where
  | assign (target : String) (value : Markup)
  | capture (target : String) (body : List Node)
  | case (subject : Expr) (whens : List (List Expr × List Node)) (otherwise : Option (List Node))
  | comment
  | cycle (group : Option Expr) (values : List Expr)
  | increment (name : String)
  | decrement (name : String)
  | loop (header : LoopHeader) (body : List Node) (otherwise : Option (List Node))
  | breakLoop
  | continueLoop
  /-- Branches with conditions; the first condition may be negated. -/
  | branch (negated : Bool) (branches : List (Condition × List Node)) (otherwise : Option (List Node))
  | ifChanged (body : List Node)
  | include (inclusion : Inclusion)
  | table (header : TableHeader) (body : List Node)
  /-- A tag of the host, known by the number of its registration. -/
  | custom (registration : Nat) (body : Option (List Node))

end

/-- Sibling nodes in their order. -/
abbrev Block := List Node

instance : Inhabited Node := ⟨.text ""⟩

end Liquid
