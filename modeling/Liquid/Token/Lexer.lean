import Liquid.Error
import Liquid.Text.Blank
import Liquid.Text.Search
import Liquid.Token.Basic

/-!
# Cutting a source into tokens

Markers begin with two braces, a brace and a percent sign, or a brace and a number sign; three braces enclose text as it
is. The lexer takes one piece of the source after the other: the text up to the next marker, or one whole marker. A piece
may yield no token, as a comment does. After a marker that could not be read the lexer stands where it stood.
-/

namespace Liquid

/-- The kinds of markers. -/
inductive Marker where
  | output
  | tag
  | comment
  | literal
deriving Repr, DecidableEq

namespace Marker

/-- The marker at the start of a text, if there is one. -/
def at? : List Char → Option Marker
  | '\x7b' :: '\x7b' :: rest =>
    match rest with
    | '\x7b' :: inner =>
      if Text.contains ['\x7d', '\x7d', '\x7d'] inner then some literal else some output
    | _ => some output
  | '\x7b' :: '%' :: _ => some tag
  | '\x7b' :: '#' :: rest => if Text.contains ['#', '\x7d'] rest then some comment else none
  | _ => none

/-- Whether the marker at the start of a text asks for the blanks before it to be dropped. -/
def trimsBefore (text : List Char) : Bool :=
  match at? text, text with
  | some output, _ :: _ :: '-' :: _ | some tag, _ :: _ :: '-' :: _ => true
  | _, _ => false

/-- The text before the first marker. -/
def textBefore : List Char → List Char
  | [] => []
  | c :: rest => if (at? (c :: rest)).isSome then [] else c :: textBefore rest

end Marker

namespace Lexer

/-- Whether a character is a space or a tab. -/
def isInlineBlank (c : Char) : Bool := c == ' ' || c == '\t'

/-- Drops the spaces and tabs at the end of a text, or one line break if there are none. -/
def trimBefore (text : List Char) : List Char :=
  let trimmed := Text.dropEndWhile isInlineBlank text
  if trimmed.length != text.length then trimmed
  else
    match text.reverse with
    | '\n' :: '\r' :: rest => rest.reverse
    | '\n' :: rest => rest.reverse
    | _ => text

/-- Drops the spaces and tabs at the start of a text. -/
def trimAfter (text : List Char) : List Char := text.dropWhile isInlineBlank

/-- The text before and behind the first occurrence of a delimiter outside of quotes. -/
def breakUnquoted (delimiter : List Char) : (quote : Option Char) → List Char → Option (List Char × List Char)
  | _, [] => none
  | some quote, c :: rest =>
    (breakUnquoted delimiter (if c == quote then none else some quote) rest).map
      fun (before, after) ↦ (c :: before, after)
  | none, c :: rest =>
    if c == '\'' || c == '"' then
      (breakUnquoted delimiter (some c) rest).map fun (before, after) ↦ (c :: before, after)
    else
      match delimiter.isPrefixOf? (c :: rest) with
      | some after => some ([], after)
      | none => (breakUnquoted delimiter none rest).map fun (before, after) ↦ (c :: before, after)

/-- The text before and behind the delimiter that closes a marker: the first one outside of quotes or, failing that,
the first one. -/
def breakClosing (delimiter text : List Char) : Option (List Char × List Char) :=
  breakUnquoted delimiter none text <|> Text.breakOn delimiter text

/-- Drops a hyphen at the start of a text and says whether there was one. -/
def dropHyphen : List Char → Bool × List Char
  | '-' :: rest => (true, rest)
  | text => (false, text)

/-- Drops a hyphen at the end of a text and says whether there was one. -/
def dropLastHyphen (text : List Char) : Bool × List Char :=
  match text.reverse with
  | '-' :: rest => (true, rest.reverse)
  | _ => (false, text)

/-- The name at the start of the inside of a tag: a letter or an underscore, then letters, digits and
underscores. -/
def takeName : List Char → List Char
  | c :: rest => if c.isAlpha || c == '_' then c :: rest.takeWhile (fun d ↦ d.isAlphanum || d == '_') else []
  | [] => []

/-- If a text starts with an end tag of the given name: its hyphens and the text behind it. -/
def endTag? (name : List Char) : List Char → Option (Bool × Bool × List Char)
  | '\x7b' :: '%' :: text => do
    let (trimLeft, text) := dropHyphen text
    let text ← name.isPrefixOf? (Text.trimStart text)
    let (trimRight, text) := dropHyphen (Text.trimStart text)
    let rest ← ['%', '\x7d'].isPrefixOf? text
    return (trimLeft, trimRight, rest)
  | _ => none

/-- The text before the first end tag of the given name, its hyphens and the text behind it. -/
def breakEndTag (name : List Char) : List Char → Option (List Char × Bool × Bool × List Char)
  | [] => none
  | c :: rest =>
    match endTag? name (c :: rest) with
    | some (trimLeft, trimRight, after) => some ([], trimLeft, trimRight, after)
    | none => (breakEndTag name rest).map fun (before, ending) ↦ (c :: before, ending)

/-- What taking one piece of a source gives. -/
inductive Piece where
  /-- The piece yields a token, or none. -/
  | taken (token : Option Token) (rest : List Char) (trimNext : Bool)
  /-- The piece cannot be read, and the lexer goes on behind what it has taken. -/
  | failed (fault : Fault) (rest : List Char) (trimNext : Bool)

/-- The text up to the next marker. -/
def takeData (trimFirst : Bool) (text : List Char) : Piece :=
  let data := Marker.textBefore text
  let rest := text.drop data.length
  let data := if trimFirst then trimAfter data else data
  let data := if Marker.trimsBefore rest then trimBefore data else data
  .taken (if data.isEmpty then none else some (.data (String.ofList data))) rest false

/-- The token of text that is no markup up to its end tag. -/
def takeRaw (name : List Char) (trimFirst : Bool) (text : List Char) : Piece :=
  let ending := "end".toList ++ name
  match breakEndTag ending text with
  | some (content, trimLeft, trimRight, rest) =>
    let content := if trimFirst then trimAfter content else content
    let content := if trimLeft then trimBefore content else content
    .taken (some (.raw (String.ofList content))) rest trimRight
  | none => .failed (.unclosedTag (String.ofList name) (String.ofList ending)) text trimFirst

/-- The tag whose inside, hyphens removed, and whose rest are given. -/
def takeTag (inner rest : List Char) (trimLeft trimRight : Bool) : Piece :=
  let name := takeName inner
  if name.isEmpty then .failed (.namelessTag (String.ofList inner)) rest trimRight
  else if name == "raw".toList || name == "literal".toList then takeRaw name trimRight rest
  else
    let markup := Text.trim (inner.drop name.length)
    .taken (some (.tag (String.ofList name) (String.ofList markup) trimLeft trimRight)) rest trimRight

/-- The marker at the start of a text. -/
def takeMarker (marker : Marker) (text : List Char) : Piece :=
  match marker with
  | .comment =>
    match Text.breakOn ['#', '\x7d'] text with
    | some (_, rest) => .taken none rest false
    | none => .failed (.unterminatedMarker "comment") text false
  | .literal =>
    match Text.breakOn ['\x7d', '\x7d', '\x7d'] text with
    | some (before, rest) =>
      let content := before.drop 3
      let content := match content with
        | ' ' :: kept => kept
        | _ => content
      .taken (some (.raw (String.ofList (Text.trimEnd content)))) rest false
    | none => .failed (.unterminatedMarker "literal `\x7b\x7b\x7b`") text false
  | .output =>
    match breakClosing ['\x7d', '\x7d'] (text.drop 2) with
    | some (inside, rest) =>
      let (trimLeft, inside) := dropHyphen inside
      let (trimRight, inside) := dropLastHyphen inside
      .taken (some (.output (String.ofList (Text.trim inside)) trimLeft trimRight)) rest trimRight
    | none => .failed (.unterminatedMarker "output marker `\x7b\x7b`") text false
  | .tag =>
    match breakClosing ['%', '\x7d'] (text.drop 2) with
    | some (inside, rest) =>
      let (trimLeft, inside) := dropHyphen inside
      let (trimRight, inside) := dropLastHyphen inside
      takeTag (Text.trim inside) rest trimLeft trimRight
    | none => .failed (.unterminatedMarker "tag marker `\x7b%`") text false

/-- One piece of a text that is not empty. -/
def takePiece (trimFirst : Bool) (text : List Char) : Piece :=
  match Marker.at? text with
  | some marker => takeMarker marker text
  | none => takeData trimFirst text

end Lexer

/-- A place in a source from which tokens are taken. -/
structure Lexer where
  rest : List Char
  position : Position
  /-- Whether the marker before this place asks for the spaces and tabs behind it to be dropped. -/
  trimNext : Bool

namespace Lexer

/-- The lexer at the start of a source. -/
def start (source : String) : Lexer := ⟨source.toList, .first, false⟩

/-- The lexer behind a piece. -/
def moveTo (lexer : Lexer) (rest : List Char) (trimNext : Bool) : Lexer :=
  ⟨rest, lexer.position.after (lexer.rest.take (lexer.rest.length - rest.length)), trimNext⟩

/-- What asking a lexer for a token gives. -/
inductive Step where
  | ended
  | token (placed : PlacedToken)
  /-- The piece that starts in the given line cannot be read. -/
  | failed (fault : Fault) (line : Nat)

/-- Takes pieces until one yields a token or cannot be read; `fuel` bounds the number of pieces. -/
def nextWith : (fuel : Nat) → Lexer → Step × Lexer
  | 0, lexer => (.ended, lexer)
  | fuel + 1, lexer =>
    if lexer.rest.isEmpty then (.ended, lexer)
    else
      match takePiece lexer.trimNext lexer.rest with
      | .failed fault rest trimNext => (.failed fault lexer.position.line, lexer.moveTo rest trimNext)
      | .taken token? rest trimNext =>
        let moved := lexer.moveTo rest trimNext
        match token? with
        | some token => (.token ⟨token, lexer.position, moved.position⟩, moved)
        | none => nextWith fuel moved

/-- The next token. Every piece takes a character, so that the characters left bound the number of pieces. -/
def next (lexer : Lexer) : Step × Lexer := nextWith (lexer.rest.length + 1) lexer

end Lexer

/-- The tokens of a source up to its end, or up to the first piece that cannot be read. -/
structure TokenStream where
  tokens : List PlacedToken
  /-- What cannot be read behind the last token, and its line. -/
  failure : Option (Fault × Nat)

namespace TokenStream

/-- Takes tokens until the source ends or cannot be read; `fuel` bounds their number. -/
def collect : (fuel : Nat) → Lexer → TokenStream
  | 0, _ => ⟨[], none⟩
  | fuel + 1, lexer =>
    match lexer.next with
    | (.ended, _) => ⟨[], none⟩
    | (.failed fault line, _) => ⟨[], some (fault, line)⟩
    | (.token placed, lexer) =>
      let others := collect fuel lexer
      ⟨placed :: others.tokens, others.failure⟩

/-- The tokens of a source. Every token takes a character, so that the length of the source bounds their number. -/
def ofSource (source : String) : TokenStream := collect (source.length + 1) (.start source)

end TokenStream

end Liquid
