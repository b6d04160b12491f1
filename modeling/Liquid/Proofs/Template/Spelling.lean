import Liquid.Template.Parser

/-!
# The nesting of tags

A grammar of templates without a parser: which tokens spell a tree. A block tag is its opening tag, its bodies with the
tags between them, and its own end tag; a body is a sequence of texts, outputs and whole tags. Nothing is said about the
order in which tokens are read.
-/

namespace Liquid

/-- The name and the markup of a tag. -/
def PlacedToken.tag? (placed : PlacedToken) : Option (String × String) :=
  match placed.token with
  | .tag name markup _ _ => some (name, markup)
  | _ => none

/-- Whether a token is a tag with a name. -/
def PlacedToken.IsTag (placed : PlacedToken) (name : String) : Prop := placed.tag?.map Prod.fst = some name

theorem PlacedToken.isTag_of_tag? {placed : PlacedToken} {name markup : String}
    (h : placed.tag? = some (name, markup)) : placed.IsTag name := by
  rw [IsTag, h]
  rfl

theorem PlacedToken.IsTag.exists_markup {placed : PlacedToken} {name : String} (h : placed.IsTag name) :
    ∃ markup, placed.tag? = some (name, markup) := by
  obtain ⟨⟨title, markup⟩, htag, rfl⟩ := Option.map_eq_some_iff.mp h
  exact ⟨markup, htag⟩

/-- The grammar without tags of a host and without a factory. -/
def Grammar.builtin (maxTerms : Nat) : Grammar := ⟨fun _ ↦ none, none, maxTerms⟩

namespace Template

/-- The contents of a comment: any tokens, except that the comments in it are whole. -/
inductive Commented : List PlacedToken → Prop where
  | nil : Commented []
  | skip {placed : PlacedToken} {rest : List PlacedToken} (hopen : ¬placed.IsTag "comment")
      (hend : ¬placed.IsTag "endcomment") (hrest : Commented rest) : Commented (placed :: rest)
  | nested {opening ending : PlacedToken} {inside rest : List PlacedToken} (hopen : opening.IsTag "comment")
      (hinside : Commented inside) (hend : ending.IsTag "endcomment") (hrest : Commented rest) :
      Commented (opening :: inside ++ ending :: rest)

/-- A part of a tree that tokens can spell. -/
inductive Phrase where
  /-- Sibling nodes. -/
  | block (nodes : Block)
  | node (node : Node)
  /-- What stands behind the first body of a block tag with a name and a markup, its end tag included. -/
  | rest (name markup : String) (body : Block) (action : Tag)
  /-- The sections of a case from the first one on, its end tag included. -/
  | whens (whens : List (List Expr × Block)) (otherwise : Option Block)
  /-- The branches of a condition behind the first one, its end tag included. -/
  | branches (closing : String) (branches : List (Condition × Block)) (otherwise : Option Block)
  /-- An end tag, with the body of an `else` in front of it if there is one. -/
  | ending (closing : String) (otherwise : Option Block)

/-- The tokens spell a phrase inside a number of open blocks. -/
inductive Spelled (maxTerms : Nat) : (depth : Nat) → Phrase → List PlacedToken → Prop where
  | nil {depth : Nat} : Spelled maxTerms depth (.block []) []
  | cons {depth : Nat} {node : Node} {nodes : Block} {front back : List PlacedToken}
      (hnode : Spelled maxTerms depth (.node node) front) (hnodes : Spelled maxTerms depth (.block nodes) back) :
      Spelled maxTerms depth (.block (node :: nodes)) (front ++ back)
  | data {depth : Nat} {text : String} {span : Span} :
      Spelled maxTerms depth (.node (.text text)) [⟨.data text, span⟩]
  | raw {depth : Nat} {text : String} {span : Span} :
      Spelled maxTerms depth (.node (.text text)) [⟨.raw text, span⟩]
  | output {depth : Nat} {content : String} {trimLeft trimRight : Bool} {markup : Markup} {span : Span}
      (hmarkup : Markup.parse content = .ok markup) :
      Spelled maxTerms depth (.node (.output markup span)) [⟨.output content trimLeft trimRight, span⟩]
  | leaf {depth : Nat} {placed : PlacedToken} {name markup : String} {action : Tag}
      (htag : placed.tag? = some (name, markup))
      (hleaf : builtinMeaning (.builtin maxTerms) name markup = .ok (.leaf action)) :
      Spelled maxTerms depth (.node (.tag name markup placed.span action)) [placed]
  | comment {depth : Nat} {opening ending : PlacedToken} {markup : String} {inside : List PlacedToken}
      (hopen : opening.tag? = some ("comment", markup)) (hinside : Commented inside)
      (hend : ending.IsTag "endcomment") :
      Spelled maxTerms depth (.node (.tag "comment" markup opening.span .comment)) (opening :: inside ++ [ending])
  | tag {depth : Nat} {opening : PlacedToken} {name markup : String} {body : Block} {action : Tag}
      {inside rest : List PlacedToken} (hopen : opening.tag? = some (name, markup)) (hdepth : depth < maxNesting)
      (hbody : Spelled maxTerms (depth + 1) (.block body) inside)
      (hrest : Spelled maxTerms depth (.rest name markup body action) rest) :
      Spelled maxTerms depth (.node (.tag name markup opening.span action)) (opening :: inside ++ rest)
  | capture {depth : Nat} {ending : PlacedToken} {markup target : String} {body : Block}
      (hmarkup : Header.captureTarget markup = .ok target) (hend : ending.IsTag "endcapture") :
      Spelled maxTerms depth (.rest "capture" markup body (.capture target body)) [ending]
  | ifChanged {depth : Nat} {ending : PlacedToken} {markup : String} {body : Block}
      (hend : ending.IsTag "endifchanged") :
      Spelled maxTerms depth (.rest "ifchanged" markup body (.ifChanged body)) [ending]
  | table {depth : Nat} {ending : PlacedToken} {markup : String} {header : TableHeader} {body : Block}
      (hmarkup : Header.table markup = .ok header) (hend : ending.IsTag "endtablerow") :
      Spelled maxTerms depth (.rest "tablerow" markup body (.table header body)) [ending]
  | loop {depth : Nat} {markup : String} {header : LoopHeader} {body : Block} {otherwise : Option Block}
      {rest : List PlacedToken} (hmarkup : Header.loop markup = .ok header)
      (hrest : Spelled maxTerms depth (.ending "endfor" otherwise) rest) :
      Spelled maxTerms depth (.rest "for" markup body (.loop header body otherwise)) rest
  | case {depth : Nat} {markup : String} {subject : Expr} {dropped : Block} {whens : List (List Expr × Block)}
      {otherwise : Option Block} {rest : List PlacedToken} (hmarkup : Header.subject markup = .ok subject)
      (hrest : Spelled maxTerms depth (.whens whens otherwise) rest) :
      Spelled maxTerms depth (.rest "case" markup dropped (.case subject whens otherwise)) rest
  | branch {depth terms : Nat} {name markup : String} {negated : Bool} {condition : Condition} {body : Block}
      {branches : List (Condition × Block)} {otherwise : Option Block} {rest : List PlacedToken}
      (hname : name = if negated then "unless" else "if")
      (hmarkup : Condition.parse markup name maxTerms = .ok (condition, terms))
      (hrest : Spelled maxTerms depth (.branches (branchEnd negated) branches otherwise) rest) :
      Spelled maxTerms depth (.rest name markup body (.branch negated ((condition, body) :: branches) otherwise)) rest
  | lastWhen {depth : Nat} {otherwise : Option Block} {rest : List PlacedToken}
      (hrest : Spelled maxTerms depth (.ending "endcase" otherwise) rest) :
      Spelled maxTerms depth (.whens [] otherwise) rest
  | when {depth : Nat} {placed : PlacedToken} {markup : String} {values : List Expr} {body : Block}
      {whens : List (List Expr × Block)} {otherwise : Option Block} {inside rest : List PlacedToken}
      (htag : placed.tag? = some ("when", markup)) (hmarkup : Header.whenValues markup = .ok values)
      (hbody : Spelled maxTerms (depth + 1) (.block body) inside)
      (hrest : Spelled maxTerms depth (.whens whens otherwise) rest) :
      Spelled maxTerms depth (.whens ((values, body) :: whens) otherwise) (placed :: inside ++ rest)
  | lastBranch {depth : Nat} {closing : String} {otherwise : Option Block} {rest : List PlacedToken}
      (hrest : Spelled maxTerms depth (.ending closing otherwise) rest) :
      Spelled maxTerms depth (.branches closing [] otherwise) rest
  | elsif {depth terms : Nat} {placed : PlacedToken} {closing markup : String} {condition : Condition} {body : Block}
      {branches : List (Condition × Block)} {otherwise : Option Block} {inside rest : List PlacedToken}
      (htag : placed.tag? = some ("elsif", markup))
      (hmarkup : Condition.parse markup "elsif" maxTerms = .ok (condition, terms))
      (hbody : Spelled maxTerms (depth + 1) (.block body) inside)
      (hrest : Spelled maxTerms depth (.branches closing branches otherwise) rest) :
      Spelled maxTerms depth (.branches closing ((condition, body) :: branches) otherwise) (placed :: inside ++ rest)
  | close {depth : Nat} {closing : String} {ending : PlacedToken} (hend : ending.IsTag closing) :
      Spelled maxTerms depth (.ending closing none) [ending]
  | otherwise {depth : Nat} {closing : String} {placed ending : PlacedToken} {body : Block}
      {inside : List PlacedToken} (htag : placed.IsTag "else")
      (hbody : Spelled maxTerms (depth + 1) (.block body) inside) (hend : ending.IsTag closing) :
      Spelled maxTerms depth (.ending closing (some body)) (placed :: inside ++ [ending])

end Template

end Liquid
