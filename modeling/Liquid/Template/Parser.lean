import Liquid.Template.Header
import Liquid.Token.Lexer

/-!
# Building the tree

The tokens of a template are taken one by one. An opening tag puts a frame on a stack, the nodes that follow are collected
in it, and its end tag turns the frame into a node of the block around it. A tag that ends or divides the innermost
open block always belongs to that block.
-/

namespace Liquid

/-- A tag of the host as the parser knows it. -/
structure TagForm where
  /-- The number of the registration. -/
  registration : Nat
  /-- Refuses markup that the tag cannot take, given its name and its markup. -/
  check : String → String → Except Fault Unit
  /-- The name of the end tag, if the tag has a body. -/
  ending : Option String

/-- What the parser asks its environment. -/
structure Grammar where
  /-- The tags of the host; they take precedence over built-in ones. -/
  customTag? : String → Option TagForm
  /-- Changes or refuses the markup of an output. -/
  factory : Option (Markup → Except Fault Markup)
  /-- The largest number of terms of a condition. -/
  maxTerms : Nat

/-- The grammar without extensions. -/
def Grammar.plain : Grammar := ⟨fun _ ↦ none, none, 50⟩

namespace Template

/-- The largest number of blocks that may be open at once. -/
def maxNesting : Nat := 200

/-- A tag whose end tag has not been seen yet, with the finished ones of its blocks. -/
inductive OpenTag where
  | capture (target : String)
  /-- Before the first `when`; what stands there is dropped. -/
  | caseStart (subject : Expr)
  | caseWhen (subject : Expr) (whens : List (List Expr × Block)) (values : List Expr)
  | caseElse (subject : Expr) (whens : List (List Expr × Block))
  /-- A comment with the number of comments open in it, itself included. -/
  | comment (depth : Nat)
  | loop (header : LoopHeader)
  | loopElse (header : LoopHeader) (body : Block)
  | branch (negated : Bool) (branches : List (Condition × Block)) (condition : Condition)
  | branchElse (negated : Bool) (branches : List (Condition × Block))
  | ifChanged
  | table (header : TableHeader)
  | custom (registration : Nat) (ending : String)

/-- The name of the tag that ends a branch. -/
def branchEnd (negated : Bool) : String := if negated then "endunless" else "endif"

/-- The tags that end or divide an open tag; the last of them ends it. -/
def OpenTag.endings : OpenTag → List String
  | capture _ => ["endcapture"]
  | caseStart _ | caseWhen _ _ _ => ["when", "else", "endcase"]
  | caseElse _ _ => ["endcase"]
  | comment _ => ["endcomment"]
  | loop _ => ["else", "endfor"]
  | loopElse _ _ => ["endfor"]
  | branch negated _ _ => ["elsif", "else", branchEnd negated]
  | branchElse negated _ => [branchEnd negated]
  | ifChanged => ["endifchanged"]
  | table _ => ["endtablerow"]
  | custom _ ending => [ending]

/-- Whether an open tag has a block that counts towards the nesting depth. -/
def OpenTag.isBlock : OpenTag → Bool
  | comment _ => false
  | _ => true

/-- An open tag with its opening token and the nodes in front of it, the last one first. -/
structure Frame where
  opened : OpenTag
  name : String
  markup : String
  span : Span
  before : List Node

/-- A tree in the making: the nodes of the innermost open block, the last one first, and the open tags. -/
structure Partial where
  nodes : List Node
  frames : List Frame

/-- What a tag token means where it neither ends nor divides a block. -/
inductive Meaning where
  | leaf (action : Tag)
  | opening (opened : OpenTag)

/-- What is left of a text behind a beginning. -/
def dropBeginning? (beginning text : String) : Option String :=
  (beginning.toList.isPrefixOf? text.toList).map String.ofList

/-- The fault of a tag that no open block expects. -/
def strayTag (name : String) : Fault :=
  match dropBeginning? "end" name with
  | some opening => .strayEnd name opening
  | none => .strayPart name

/-- The meaning of a built-in tag. -/
def builtinMeaning (grammar : Grammar) (name markup : String) : Except Fault Meaning :=
  match name with
  | "assign" => do
    let (target, value) ← Header.assignment markup
    return .leaf (.assign target value)
  | "capture" => return .opening (.capture (← Header.captureTarget markup))
  | "case" => return .opening (.caseStart (← Header.subject markup))
  | "comment" => return .opening (.comment 1)
  | "cycle" => do
    let (group, values) ← Header.cycle markup
    return .leaf (.cycle group values)
  | "increment" => return .leaf (.increment (← Header.name markup))
  | "decrement" => return .leaf (.decrement (← Header.name markup))
  | "for" => return .opening (.loop (← Header.loop markup))
  | "break" => return .leaf .breakLoop
  | "continue" => return .leaf .continueLoop
  | "if" => do
    let (condition, _) ← Condition.parse markup name grammar.maxTerms
    return .opening (.branch false [] condition)
  | "unless" => do
    let (condition, _) ← Condition.parse markup name grammar.maxTerms
    return .opening (.branch true [] condition)
  | "ifchanged" => return .opening .ifChanged
  | "include" => return .leaf (.include (← Header.inclusion markup))
  | "tablerow" => return .opening (.table (← Header.table markup))
  | _ =>
    if (dropBeginning? "end" name).isSome || name == "else" || name == "elsif" || name == "when" then
      throw (strayTag name)
    else throw (.unknownTag name)

/-- The meaning of a tag where it neither ends nor divides a block. -/
def meaning (grammar : Grammar) (name markup : String) : Except Fault Meaning :=
  match grammar.customTag? name with
  | some form => do
    form.check name markup
    match form.ending with
    | some ending => return .opening (.custom form.registration ending)
    | none => return .leaf (.custom form.registration none)
  | none => builtinMeaning grammar name markup

namespace Partial

/-- The empty tree. -/
def empty : Partial := ⟨[], []⟩

/-- Adds a node to the innermost open block. -/
def add (tree : Partial) (node : Node) : Partial := { tree with nodes := node :: tree.nodes }

/-- The number of open blocks. -/
def depth (tree : Partial) : Nat := tree.frames.countP fun frame ↦ frame.opened.isBlock

/-- The block collected so far in the innermost open tag. -/
def block (tree : Partial) : Block := tree.nodes.reverse

/-- Goes on with the next block of the innermost open tag. -/
def divide (opened : OpenTag) (frame : Frame) (frames : List Frame) : Partial :=
  ⟨[], { frame with opened := opened } :: frames⟩

/-- Turns the innermost open tag into a node of the block around it. -/
def close (action : Tag) (frame : Frame) (frames : List Frame) : Partial :=
  ⟨.tag frame.name frame.markup frame.span action :: frame.before, frames⟩

/-- Takes a tag that ends or divides the innermost open tag. -/
def endTag (grammar : Grammar) (tree : Partial) (frame : Frame) (frames : List Frame) (name markup : String) :
    Except Fault Partial :=
  let block := tree.block
  match frame.opened with
  | .capture target => return close (.capture target block) frame frames
  | .caseStart subject =>
    if name == "when" then return divide (.caseWhen subject [] (← Header.whenValues markup)) frame frames
    else if name == "else" then return divide (.caseElse subject []) frame frames
    else return close (.case subject [] none) frame frames
  | .caseWhen subject whens values =>
    let whens := whens ++ [(values, block)]
    if name == "when" then return divide (.caseWhen subject whens (← Header.whenValues markup)) frame frames
    else if name == "else" then return divide (.caseElse subject whens) frame frames
    else return close (.case subject whens none) frame frames
  | .caseElse subject whens => return close (.case subject whens (some block)) frame frames
  | .comment _ => return close .comment frame frames
  | .loop header =>
    if name == "else" then return divide (.loopElse header block) frame frames
    else return close (.loop header block none) frame frames
  | .loopElse header body => return close (.loop header body (some block)) frame frames
  | .branch negated branches condition =>
    let branches := branches ++ [(condition, block)]
    if name == "elsif" then do
      let (condition, _) ← Condition.parse markup "elsif" grammar.maxTerms
      return divide (.branch negated branches condition) frame frames
    else if name == "else" then return divide (.branchElse negated branches) frame frames
    else return close (.branch negated branches none) frame frames
  | .branchElse negated branches => return close (.branch negated branches (some block)) frame frames
  | .ifChanged => return close (.ifChanged block) frame frames
  | .table header => return close (.table header block) frame frames
  | .custom registration _ => return close (.custom registration (some block)) frame frames

/-- Takes a token inside a comment, where only the comments in it count. -/
def insideComment (depth : Nat) (frame : Frame) (frames : List Frame) (tree : Partial) : Token → Partial
  | .tag name _ _ _ =>
    if name == "comment" then divide (.comment (depth + 1)) frame frames
    else if name == "endcomment" then
      if depth ≤ 1 then close .comment frame frames else divide (.comment (depth - 1)) frame frames
    else tree
  | _ => tree

/-- Takes a tag that neither ends nor divides the innermost open tag. -/
def otherTag (grammar : Grammar) (tree : Partial) (name markup : String) (span : Span) :
    Except Fault Partial := do
  match ← meaning grammar name markup with
  | .leaf action => return tree.add (.tag name markup span action)
  | .opening opened =>
    if opened.isBlock && tree.depth ≥ maxNesting then throw .nestedTooDeep
    return ⟨[], ⟨opened, name, markup, span, tree.nodes⟩ :: tree.frames⟩

/-- Takes a token outside of comments. -/
def outsideComment (grammar : Grammar) (tree : Partial) (placed : PlacedToken) : Except Fault Partial :=
  match placed.token with
  | .data text | .raw text => return tree.add (.text text)
  | .output content _ _ => do
    let markup ← Markup.parse content
    let markup ← match grammar.factory with
      | some factory => factory markup
      | none => pure markup
    return tree.add (.output markup placed.span)
  | .tag name markup _ _ =>
    match tree.frames with
    | frame :: frames =>
      if frame.opened.endings.contains name then tree.endTag grammar frame frames name markup
      else tree.otherTag grammar name markup placed.span
    | [] => tree.otherTag grammar name markup placed.span

/-- Takes a token. -/
def step (grammar : Grammar) (tree : Partial) (placed : PlacedToken) : Except Fault Partial :=
  match tree.frames with
  | ⟨.comment depth, name, markup, span, before⟩ :: frames =>
    return tree.insideComment depth ⟨.comment depth, name, markup, span, before⟩ frames placed.token
  | _ => tree.outsideComment grammar placed

/-- Takes tokens; a fault comes with the line of its token. -/
def run (grammar : Grammar) : Partial → List PlacedToken → Except (Fault × Nat) Partial
  | tree, [] => .ok tree
  | tree, placed :: rest =>
    match tree.step grammar placed with
    | .ok tree => run grammar tree rest
    | .error fault => .error (fault, placed.span.start.line)

/-- The finished tree, or the fault of the innermost tag that is still open. -/
def finish (tree : Partial) : Except Fault Block :=
  match tree.frames with
  | [] => .ok tree.block
  | frame :: _ => .error (.unclosedTag frame.name ((frame.opened.endings.getLast?).getD "end"))

end Partial

/-- The tree of a stream of tokens; a fault comes with its line. -/
def ofTokens (grammar : Grammar) (stream : TokenStream) : Except (Fault × Nat) Block := do
  let tree ← Partial.empty.run grammar stream.tokens
  match stream.failure with
  | some failure => throw failure
  | none =>
    let lastLine := ((stream.tokens.getLast?).map fun placed ↦ placed.span.start.line).getD 0
    tree.finish.mapError fun fault ↦ (fault, lastLine)

/-- The tree of a template with a name and a source. -/
def parse (grammar : Grammar) (name source : String) : Except Error Block :=
  (ofTokens grammar (.ofSource source)).mapError fun (fault, line) ↦
    (Error.of fault).locate ⟨name, line⟩

end Template

end Liquid
