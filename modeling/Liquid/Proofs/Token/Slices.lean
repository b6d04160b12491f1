import Liquid.Proofs.Token.Searching

/-!
# Slices of the lexer

The lexer may also be run over the bytes of a source, which is cut at the places that searches of the bytes find. Such a run
is given up where a place is inside of a character, behind the end of what is cut or behind the place where a part should
end, and where an offset is not below the limit of offsets. On sources that are shorter than this limit that never happens,
and the tokens are those of the lexer.
-/

namespace Liquid.Lexer

open Text Text.Html Text.Utf8

/-! ## A lexer over bytes -/

/-- Offsets into a source are below this number. -/
def offsetLimit : Nat := 0x100000000

/-- Steps over bytes: the text that is passed, and the lexer behind it. -/
def advance? (bytes : Nat) (lexer : Lexer) : Option (List Char × Lexer) := do
  let (passed, rest) ← splitAt? bytes lexer.rest
  let offset := lexer.position.offset + bytes
  if offset < offsetLimit then
    return (passed, ⟨rest, { lexer.position.after passed with offset := offset }, lexer.trimNext⟩)
  else none

/-- What a piece gives, and the lexer behind it. -/
abbrev Read := Except Fault (Option Token) × Lexer

/-- Reads text that is no markup up to its end tag. -/
def readRaw? (name : List Char) (lexer : Lexer) : Option Read := do
  let ending := "end".toList ++ name
  match ← rawEnd? ending lexer.rest (lexer.rest.length + 1) 0 with
  | none => return (.error (.unclosedTag (String.ofList name) (String.ofList ending)), lexer)
  | some (start, bytes, trimLeft, trimRight) =>
    let (content, behind) ← lexer.advance? start
    let content := if lexer.trimNext then trimAfter content else content
    let content := if trimLeft then trimBefore content else content
    let (_, behind) ← behind.advance? bytes
    return (.ok (some (.raw (String.ofList content))), { behind with trimNext := trimRight })

/-- Reads an output or a tag up to its delimiter: what stands inside without its hyphens, and the lexer behind it. -/
def readInside? (delimiter : List Char) (lexer : Lexer) : Option (Option (List Char × Bool × Bool × Lexer)) := do
  let body ← from? 2 lexer.rest
  match closingPlace? delimiter body with
  | none => return none
  | some stop =>
    let (trimLeft, inside) := dropHyphen (← upTo? stop body)
    let (trimRight, inside) := dropLastHyphen inside
    let (_, behind) ← lexer.advance? (2 + stop + size delimiter)
    return some (trim inside, trimLeft, trimRight, { behind with trimNext := trimRight })

/-- Reads the name and the markup of a tag with the given inside, in front of the lexer. -/
def readTag? (inside : List Char) (trimLeft trimRight : Bool) (lexer : Lexer) : Option Read :=
  let bytes := nameBytes (encode inside)
  if bytes = 0 then return (.error (.namelessTag (String.ofList inside)), lexer)
  else do
    let (name, markup) ← splitAt? bytes inside
    if name == "raw".toList || name == "literal".toList then readRaw? name lexer
    else return (.ok (some (.tag (String.ofList name) (String.ofList (trim markup)) trimLeft trimRight)), lexer)

/-- Reads the marker at the place of the lexer. -/
def readMarker? (lexer : Lexer) : Marker → Option Read
  | .comment =>
    match find? ['#', '\x7d'] lexer.rest with
    | none => return (.error (.unterminatedMarker "comment"), { lexer with trimNext := false })
    | some stop => do
      let (_, behind) ← lexer.advance? (stop + 2)
      return (.ok none, { behind with trimNext := false })
  | .literal =>
    match find? ['\x7d', '\x7d', '\x7d'] lexer.rest with
    | none => return (.error (.unterminatedMarker "literal `\x7b\x7b\x7b`"), { lexer with trimNext := false })
    | some stop => do
      let content ← between? 3 stop lexer.rest
      let content := match content with
        | ' ' :: kept => kept
        | _ => content
      let (_, behind) ← lexer.advance? (stop + 3)
      return (.ok (some (.raw (String.ofList (trimEnd content)))), { behind with trimNext := false })
  | .output => do
    match ← readInside? ['\x7d', '\x7d'] lexer with
    | none => return (.error (.unterminatedMarker "output marker `\x7b\x7b`"), { lexer with trimNext := false })
    | some (inside, trimLeft, trimRight, behind) =>
      return (.ok (some (.output (String.ofList inside) trimLeft trimRight)), behind)
  | .tag => do
    match ← readInside? ['%', '\x7d'] lexer with
    | none => return (.error (.unterminatedMarker "tag marker `\x7b%`"), { lexer with trimNext := false })
    | some (inside, trimLeft, trimRight, behind) => readTag? inside trimLeft trimRight behind

/-- Reads the text up to a place, in front of a marker that may ask for blanks to be dropped. -/
def readData? (bytes : Nat) (trimLast : Bool) (lexer : Lexer) : Option Read := do
  let (data, behind) ← lexer.advance? bytes
  let data := if lexer.trimNext then trimAfter data else data
  let data := if trimLast then trimBefore data else data
  return (.ok (if data.isEmpty then none else some (.data (String.ofList data))), { behind with trimNext := false })

/-- Reads one piece. -/
def readPiece? (lexer : Lexer) : Option Read := do
  match ← startMarker? lexer.rest 0 (encode lexer.rest) with
  | some (0, marker, _) => readMarker? lexer marker
  | some (place, _, trims) => readData? place trims lexer
  | none => readData? (size lexer.rest) false lexer

/-- Reads pieces until one yields a token or cannot be read. -/
def nextWith? : (fuel : Nat) → Lexer → Option (Step × Lexer)
  | 0, _ => none
  | fuel + 1, lexer =>
    if lexer.rest.isEmpty then return (.ended, lexer)
    else do
      match ← readPiece? lexer with
      | (.error fault, behind) => return (.failed fault lexer.position.line, behind)
      | (.ok (some token), behind) => return (.token ⟨token, lexer.position, behind.position⟩, behind)
      | (.ok none, behind) => nextWith? fuel behind

/-- The next token, read from the bytes. -/
def next? (lexer : Lexer) : Option (Step × Lexer) := nextWith? (lexer.rest.length + 1) lexer

variable {lexer : Lexer} {text rest taken : List Char}

/-! ## Stepping over bytes -/

theorem offset_after (position : Position) (text : List Char) :
    (position.after text).offset = position.offset + size text := by
  induction text generalizing position with
  | nil => rw [Position.after_nil, size_nil, Nat.add_zero]
  | cons c rest ih =>
    have hnext : (position.next c).offset = position.offset + size [c] := by
      rw [size_singleton, Position.next]
      split <;> rfl
    change ((position.next c).after rest).offset = _
    rw [ih, hnext, size_cons c rest, Nat.add_assoc]

/-- The offsets up to the end of the source are below the limit. -/
def Fits (lexer : Lexer) : Prop := lexer.position.offset + size lexer.rest < offsetLimit

theorem moveTo_of_append (h : lexer.rest = taken ++ rest) (trimNext : Bool) :
    lexer.moveTo rest trimNext = ⟨rest, lexer.position.after taken, trimNext⟩ := by
  rw [moveTo, h, List.length_append, Nat.add_sub_cancel, List.take_left]

theorem moveTo_moveTo (h : lexer.rest = taken ++ rest) {more later : List Char} (hrest : rest = more ++ later)
    (first second : Bool) : (lexer.moveTo rest first).moveTo later second = lexer.moveTo later second := by
  have hwhole : lexer.rest = (taken ++ more) ++ later := by rw [h, hrest, List.append_assoc]
  have hmoved (place : Position) : moveTo ⟨rest, place, first⟩ later second = ⟨later, place.after more, second⟩ :=
    moveTo_of_append hrest second
  rw [moveTo_of_append h, moveTo_of_append hwhole, hmoved, Position.after_append]

theorem Fits.moveTo (hfits : lexer.Fits) (h : lexer.rest = taken ++ rest) (trimNext : Bool) :
    (lexer.moveTo rest trimNext).Fits := by
  have hoffset := offset_after lexer.position taken
  rw [Fits, h, size_append] at hfits
  rw [Fits, moveTo_of_append h]
  change (lexer.position.after taken).offset + size rest < offsetLimit
  omega

/-- Text is passed if its bytes are stepped over. -/
theorem advance?_size (hfits : lexer.Fits) (h : lexer.rest = taken ++ rest) {bytes : Nat} (hbytes : bytes = size taken) :
    lexer.advance? bytes = some (taken, lexer.moveTo rest lexer.trimNext) := by
  have hbelow : lexer.position.offset + size taken < offsetLimit := by
    rw [Fits, h, size_append] at hfits
    omega
  have hoffset := offset_after lexer.position taken
  rw [advance?, h, hbytes, splitAt?_size]
  dsimp only [Option.bind_eq_bind, Option.bind_some]
  rw [if_pos hbelow, moveTo_of_append h, ← hoffset]
  rfl

/-! ## Pieces -/

/-- What a piece gives, and the lexer behind it. -/
def Piece.read (lexer : Lexer) : Piece → Read
  | .taken token? rest trimNext => (.ok token?, lexer.moveTo rest trimNext)
  | .failed fault rest trimNext => (.error fault, lexer.moveTo rest trimNext)

theorem moveTo_self (lexer : Lexer) (trimNext : Bool) :
    lexer.moveTo lexer.rest trimNext = { lexer with trimNext := trimNext } :=
  moveTo_of_append (show lexer.rest = [] ++ lexer.rest from rfl) trimNext

/-- What is left of a text behind a piece. -/
def Piece.behind : Piece → List Char
  | .taken _ rest _ | .failed _ rest _ => rest

/-- It does not matter at which place in front of a piece the lexer stands. -/
theorem Piece.read_moveTo {piece : Piece} (h : lexer.rest = taken ++ rest) (hpiece : piece.behind <:+ rest) (trimNext : Bool) :
    piece.read (lexer.moveTo rest trimNext) = piece.read lexer := by
  obtain ⟨more, hmore⟩ := hpiece
  cases piece with
  | taken | failed => exact congrArg (Prod.mk _) (moveTo_moveTo h hmore.symm _ _)

theorem takeRaw_isSuffix (name text : List Char) (trimFirst : Bool) : (takeRaw name trimFirst text).behind <:+ text := by
  unfold takeRaw
  dsimp only
  split
  · next hended =>
    obtain ⟨tag, hshape⟩ := breakEndTag_split hended
    exact ⟨_, by rw [hshape, ← List.append_assoc]; rfl⟩
  · exact List.suffix_rfl

/-- A piece is taken from the start of a text. -/
theorem takePiece_isSuffix (hrest : text ≠ []) (trimFirst : Bool) : (takePiece trimFirst text).behind <:+ text := by
  cases hpiece : takePiece trimFirst text with
  | taken token? rest trimNext =>
    obtain ⟨taken, -, hshape, -⟩ := takePiece_isPiece hrest hpiece
    exact ⟨taken, hshape.symm⟩
  | failed fault rest trimNext =>
    cases takePiece_isUnreadable hpiece with
    | leftOpen => exact List.suffix_rfl
    | nameless hshape | unclosed hshape => exact ⟨_, hshape.symm⟩

theorem readData?_eq (hfits : lexer.Fits) (h : lexer.rest = taken ++ rest) (trimLast : Bool) :
    readData? (size taken) trimLast lexer =
      some (.ok (let data := if lexer.trimNext then trimAfter taken else taken
        let data := if trimLast then trimBefore data else data
        if data.isEmpty then none else some (.data (String.ofList data))), lexer.moveTo rest false) := by
  rw [readData?, advance?_size hfits h rfl]
  rfl

theorem readRaw?_eq (hfits : lexer.Fits) (name : List Char) :
    readRaw? name lexer = some ((takeRaw name lexer.trimNext lexer.rest).read lexer) := by
  have hfound := rawEnd?_eq ("end".toList ++ name) [] lexer.rest (lexer.rest.length + 1) (Nat.lt_succ_self _)
  rw [size_nil, List.nil_append] at hfound
  rw [readRaw?, takeRaw]
  dsimp only
  rw [hfound]
  cases hended : breakEndTag ("end".toList ++ name) lexer.rest with
  | none =>
    change some (_, lexer) = some (_, lexer.moveTo lexer.rest lexer.trimNext)
    rw [moveTo_self]
  | some ending =>
    obtain ⟨content, trimLeft, trimRight, behind⟩ := ending
    obtain ⟨tag, hshape⟩ := breakEndTag_split hended
    have hbytes : size lexer.rest - size content - size behind = size tag := by
      rw [hshape, size_append, size_append, Nat.add_sub_cancel_left, Nat.add_sub_cancel]
    have hcontent := advance?_size hfits hshape rfl
    have htag := advance?_size (hfits.moveTo hshape lexer.trimNext) (moveTo_rest _ _ _) (Eq.refl (size tag))
    dsimp only [Option.map_some, endPlace, Option.bind_eq_bind, Option.bind_some]
    rw [hbytes, size_nil, Nat.zero_add, hcontent, Option.bind_some, htag, moveTo_moveTo hshape rfl]
    rfl

/-- A text with a closing delimiter is that in front of it, the delimiter and the rest. -/
theorem readInside?_eq (d : Char) (delimiter : List Char) {opening body : List Char}
    (hascii : ∀ e ∈ d :: delimiter, e.toNat < 0x80) (hfits : lexer.Fits) (h : lexer.rest = opening ++ body)
    (hopening : size opening = 2) :
    readInside? (d :: delimiter) lexer = some ((breakClosing (d :: delimiter) body).map fun (inside, rest) ↦
      let (trimLeft, inside) := dropHyphen inside
      let (trimRight, inside) := dropLastHyphen inside
      (trim inside, trimLeft, trimRight, lexer.moveTo rest trimRight)) := by
  have hbody : from? 2 lexer.rest = some body := by rw [h, ← hopening, from?_size]
  rw [readInside?, hbody]
  dsimp only [Option.bind_eq_bind, Option.bind_some]
  rw [closingPlace?_eq hascii]
  cases hclosed : breakClosing (d :: delimiter) body with
  | none => rfl
  | some parts =>
    obtain ⟨inside, behind⟩ := parts
    have hshape : body = inside ++ ((d :: delimiter) ++ behind) := by
      rw [eq_append_of_breakClosing hclosed, List.append_assoc]
    have htaken : lexer.rest = (opening ++ (inside ++ (d :: delimiter))) ++ behind := by
      rw [h, hshape, List.append_assoc, List.append_assoc]
    have hbytes : 2 + size inside + size (d :: delimiter) = size (opening ++ (inside ++ (d :: delimiter))) := by
      rw [size_append, size_append, hopening, Nat.add_assoc]
    have hinside : upTo? (size inside) body = some inside := by rw [hshape, upTo?_size]
    dsimp only [Option.map_some]
    rw [hinside, advance?_size hfits htaken hbytes]
    rfl

theorem find?_of_breakOn {pattern before after : List Char} (h : breakOn pattern text = some (before, after)) :
    find? pattern text = some (size before) := by
  rw [find?, h]
  rfl

theorem find?_of_none {pattern : List Char} (h : breakOn pattern text = none) : find? pattern text = none := by
  rw [find?, h]
  rfl

/-- A search is for as many bytes as are stepped over. -/
theorem advance?_breakOn (hfits : lexer.Fits) {pattern before after : List Char}
    (h : breakOn pattern lexer.rest = some (before, after)) {bytes : Nat} (hbytes : bytes = size pattern) :
    lexer.advance? (size before + bytes) = some (before ++ pattern, lexer.moveTo after lexer.trimNext) :=
  advance?_size hfits (eq_append_of_breakOn h) (by rw [hbytes, size_append])

theorem readTag?_eq (hfits : lexer.Fits) (hrest : lexer.rest = taken ++ rest) (inside : List Char)
    (trimLeft trimRight : Bool) :
    readTag? inside trimLeft trimRight (lexer.moveTo rest trimRight) =
      some ((takeTag inside rest trimLeft trimRight).read lexer) := by
  have hname := takeName_append_drop inside
  have hsplit : splitAt? (size (takeName inside)) inside = some (takeName inside, inside.drop (takeName inside).length) := by
    rw [splitAt?_eq_some_iff]
    exact ⟨hname.symm, rfl⟩
  rw [readTag?, takeTag, nameBytes_encode]
  dsimp only
  by_cases hempty : takeName inside = []
  · rw [hempty, size_nil, if_pos rfl, List.isEmpty_nil, if_pos rfl]
    rfl
  · have hbytes : size (takeName inside) ≠ 0 := by
      have hle := length_le_size (takeName inside)
      have hpos := List.length_pos_iff.2 hempty
      omega
    rw [if_neg hbytes, List.isEmpty_eq_false_iff.2 hempty, if_neg Bool.false_ne_true, hsplit]
    dsimp only [Option.bind_eq_bind, Option.bind_some]
    split
    · rw [readRaw?_eq (hfits.moveTo hrest trimRight), moveTo_rest]
      exact congrArg some (Piece.read_moveTo hrest (takeRaw_isSuffix _ rest trimRight) trimRight)
    · rfl

/-- What stands behind the three braces that open a text as it is, up to those that close it. -/
theorem between?_literal {before after : List Char} (h : Marker.at? text = some .literal)
    (hclosed : breakOn ['\x7d', '\x7d', '\x7d'] text = some (before, after)) :
    between? 3 (size before) text = some (before.drop 3) := by
  obtain ⟨inside, rfl⟩ : ∃ inside, text = ['\x7b', '\x7b', '\x7b'] ++ inside := by
    cases Marker.opens_of_at? h with
    | literal => exact ⟨_, rfl⟩
  -- None of the three opening braces begins the closing ones.
  have hpassed : breakOn ['\x7d', '\x7d', '\x7d'] (['\x7b', '\x7b', '\x7b'] ++ inside) =
      (breakOn ['\x7d', '\x7d', '\x7d'] inside).map fun (content, rest) ↦ ('\x7b' :: '\x7b' :: '\x7b' :: content, rest) := by
    change Option.map _ (Option.map _ (Option.map _ _)) = _
    rw [Option.map_map, Option.map_map]
    rfl
  rw [hpassed] at hclosed
  obtain ⟨⟨content, rest⟩, hcontent, hparts⟩ := Option.map_eq_some_iff.1 hclosed
  cases hparts
  have hthree : size ['\x7b', '\x7b', '\x7b'] = 3 := size_eq_length _ rfl
  have hbetween := between?_size ['\x7b', '\x7b', '\x7b'] content (['\x7d', '\x7d', '\x7d'] ++ after)
  rw [← size_append, hthree] at hbetween
  rw [List.append_assoc] at hbetween
  rw [eq_append_of_breakOn hcontent, List.append_assoc content]
  exact hbetween

theorem readMarker?_comment (hfits : lexer.Fits) :
    readMarker? lexer .comment = some ((takeMarker .comment lexer.rest).read lexer) := by
  rw [readMarker?, takeMarker]
  cases hended : breakOn ['#', '\x7d'] lexer.rest with
  | none =>
    rw [find?_of_none hended]
    dsimp only [Piece.read]
    rw [moveTo_self]
    rfl
  | some parts =>
    have hbytes : 2 = size ['#', '\x7d'] := (size_eq_length ['#', '\x7d'] rfl).symm
    rw [find?_of_breakOn hended]
    dsimp only
    rw [advance?_breakOn hfits hended hbytes]
    rfl

theorem readMarker?_literal (hfits : lexer.Fits) (h : Marker.at? lexer.rest = some .literal) :
    readMarker? lexer .literal = some ((takeMarker .literal lexer.rest).read lexer) := by
  rw [readMarker?, takeMarker]
  cases hended : breakOn ['\x7d', '\x7d', '\x7d'] lexer.rest with
  | none =>
    rw [find?_of_none hended]
    dsimp only [Piece.read]
    rw [moveTo_self]
    rfl
  | some parts =>
    obtain ⟨before, after⟩ := parts
    have hbytes : 3 = size ['\x7d', '\x7d', '\x7d'] := (size_eq_length ['\x7d', '\x7d', '\x7d'] rfl).symm
    rw [find?_of_breakOn hended]
    dsimp only
    rw [between?_literal h hended, advance?_breakOn hfits hended hbytes]
    rfl

theorem readMarker?_output (hfits : lexer.Fits) {body : List Char} (hbody : lexer.rest = ['\x7b', '\x7b'] ++ body) :
    readMarker? lexer .output = some ((takeMarker .output lexer.rest).read lexer) := by
  have hinside := readInside?_eq '\x7d' ['\x7d'] (forall_ascii_of_all rfl) hfits hbody
    (size_eq_length ['\x7b', '\x7b'] rfl)
  rw [readMarker?, takeMarker, hinside]
  dsimp only
  rw [show lexer.rest.drop 2 = body by rw [hbody]; rfl]
  cases breakClosing ['\x7d', '\x7d'] body with
  | none =>
    dsimp only [Piece.read]
    rw [moveTo_self]
    rfl
  | some parts => rfl

theorem readMarker?_tag (hfits : lexer.Fits) {body : List Char} (hbody : lexer.rest = ['\x7b', '%'] ++ body) :
    readMarker? lexer .tag = some ((takeMarker .tag lexer.rest).read lexer) := by
  have hinside := readInside?_eq '%' ['\x7d'] (forall_ascii_of_all rfl) hfits hbody
    (size_eq_length ['\x7b', '%'] rfl)
  rw [readMarker?, takeMarker, hinside]
  dsimp only
  rw [show lexer.rest.drop 2 = body by rw [hbody]; rfl]
  cases hclosed : breakClosing ['%', '\x7d'] body with
  | none =>
    dsimp only [Piece.read]
    rw [moveTo_self]
    rfl
  | some parts =>
    obtain ⟨inside, behind⟩ := parts
    have hshape : lexer.rest = (['\x7b', '%'] ++ (inside ++ ['%', '\x7d'])) ++ behind := by
      rw [hbody, List.append_assoc, eq_append_of_breakClosing hclosed]
    exact readTag?_eq hfits hshape _ _ _

/-- The marker at the place of the lexer is the one that is read. -/
theorem readMarker?_eq (hfits : lexer.Fits) {marker : Marker} (h : Marker.at? lexer.rest = some marker) :
    readMarker? lexer marker = some ((takeMarker marker lexer.rest).read lexer) := by
  cases marker with
  | comment => exact readMarker?_comment hfits
  | literal => exact readMarker?_literal hfits h
  | output =>
    obtain ⟨body, hbody⟩ : ∃ body, lexer.rest = ['\x7b', '\x7b'] ++ body := by
      generalize lexer.rest = text at h
      cases Marker.opens_of_at? h with
      | output => exact ⟨_, rfl⟩
    exact readMarker?_output hfits hbody
  | tag =>
    obtain ⟨body, hbody⟩ : ∃ body, lexer.rest = ['\x7b', '%'] ++ body := by
      generalize lexer.rest = text at h
      cases Marker.opens_of_at? h with
      | tag => exact ⟨_, rfl⟩
    exact readMarker?_tag hfits hbody

/-- The piece at the place of the lexer is the one that is read. -/
theorem readPiece?_eq (hfits : lexer.Fits) : readPiece? lexer = some ((takePiece lexer.trimNext lexer.rest).read lexer) := by
  have hstart := startMarker?_eq [] lexer.rest
  rw [size_nil, List.nil_append, Nat.zero_add] at hstart
  rw [readPiece?, hstart, takePiece]
  dsimp only [Option.bind_eq_bind, Option.bind_some]
  have hshape := (textBefore_append_behindText lexer.rest).symm
  cases hmarker : Marker.at? lexer.rest with
  | some marker =>
    have hnothing := textBefore_eq_nil hmarker
    have hbehind : behindText lexer.rest = lexer.rest := by rw [behindText, hnothing, List.length_nil, List.drop_zero]
    rw [hbehind, hmarker, hnothing, size_nil]
    exact readMarker?_eq hfits hmarker
  | none =>
    cases hfound : Marker.at? (behindText lexer.rest) with
    | some marker =>
      have hsome : size (Marker.textBefore lexer.rest) ≠ 0 := by
        intro hzero
        have hle := length_le_size (Marker.textBefore lexer.rest)
        have hnothing : Marker.textBefore lexer.rest = [] := List.length_eq_zero_iff.1 (by omega)
        rw [behindText, hnothing, List.length_nil, List.drop_zero, hmarker] at hfound
        cases hfound
      rw [Option.map_some]
      split
      · next hfirst => exact absurd (congrArg Prod.fst (Option.some.inj hfirst)) hsome
      · next hfirst =>
        cases hfirst
        exact readData?_eq hfits hshape _
      · next hnone => cases hnone
    | none =>
      have hnothing : behindText lexer.rest = [] := by
        by_contra hmore
        have hstarts := Marker.isSome_at?_drop_textBefore hmore
        rw [behindText] at hfound
        rw [hfound] at hstarts
        cases hstarts
      have hwhole : lexer.rest = Marker.textBefore lexer.rest := by rw [hnothing, List.append_nil] at hshape; exact hshape
      have hdata := readData?_eq hfits hshape false
      rw [← hwhole] at hdata
      rw [Option.map_none]
      dsimp only
      rw [hdata, takeData, ← hwhole, List.drop_length, hnothing]
      rfl

/-! ## Tokens -/

theorem Fits.read (hfits : lexer.Fits) (hrest : lexer.rest ≠ []) :
    ((takePiece lexer.trimNext lexer.rest).read lexer).2.Fits := by
  obtain ⟨taken, hshape⟩ := takePiece_isSuffix hrest lexer.trimNext
  cases hpiece : takePiece lexer.trimNext lexer.rest with
  | taken token? rest trimNext | failed fault rest trimNext =>
    rw [hpiece] at hshape
    exact hfits.moveTo hshape.symm trimNext

/-- As long as the offsets are below the limit, the pieces that are read give the next token. -/
theorem nextWith?_eq (fuel : Nat) (hfits : lexer.Fits) (hfuel : lexer.rest.length < fuel) :
    nextWith? fuel lexer = some (nextWith fuel lexer) ∧ (nextWith fuel lexer).2.Fits := by
  induction fuel generalizing lexer with
  | zero => exact absurd hfuel (Nat.not_lt_zero _)
  | succ fuel ih =>
    by_cases hrest : lexer.rest = []
    · rw [nextWith?, nextWith, if_pos (List.isEmpty_iff.2 hrest), if_pos (List.isEmpty_iff.2 hrest)]
      exact ⟨rfl, hfits⟩
    · have hread := hfits.read hrest
      rw [nextWith?, if_neg (fun hempty ↦ hrest (List.isEmpty_iff.1 hempty)), readPiece?_eq hfits, nextWith_succ fuel hrest]
      cases hpiece : takePiece lexer.trimNext lexer.rest with
      | failed fault rest trimNext =>
        rw [hpiece] at hread
        exact ⟨rfl, hread⟩
      | taken token? rest trimNext =>
        have hshorter := length_lt_of_taken hrest hpiece
        rw [hpiece] at hread
        cases token? with
        | some token => exact ⟨rfl, hread⟩
        | none => exact ih hread (by rw [moveTo_rest]; omega)

theorem next?_eq (hfits : lexer.Fits) : next? lexer = some lexer.next := (nextWith?_eq _ hfits (Nat.lt_succ_self _)).1

theorem Fits.next (hfits : lexer.Fits) : lexer.next.2.Fits := (nextWith?_eq _ hfits (Nat.lt_succ_self _)).2

theorem fits_start {source : String} (h : source.utf8ByteSize < offsetLimit) : (start source).Fits := by
  rw [Fits, start, size_toList]
  exact (Nat.zero_add _).symm ▸ h

/-- Every call on a source that is shorter than the limit can be read from the bytes. -/
theorem next?_called {source : String} (h : source.utf8ByteSize < offsetLimit) (calls : Nat) :
    next? ((start source).called calls) = some ((start source).called calls).next := by
  have hfits : ((start source).called calls).Fits := by
    induction calls with
    | zero => exact fits_start h
    | succ calls ih => exact ih.next
  exact next?_eq hfits

end Liquid.Lexer

namespace Liquid.TokenStream

open Lexer

/-- Reads tokens from the bytes until the source ends or cannot be read. -/
def collect? : (fuel : Nat) → Lexer → Option TokenStream
  | 0, _ => none
  | fuel + 1, lexer => do
    match ← lexer.next? with
    | (.ended, _) => return ⟨[], none⟩
    | (.failed fault line, _) => return ⟨[], some (fault, line)⟩
    | (.token placed, lexer) =>
      let others ← collect? fuel lexer
      return ⟨placed :: others.tokens, others.failure⟩

theorem collect?_eq {lexer : Lexer} (fuel : Nat) (hfits : lexer.Fits) (hfuel : lexer.rest.length < fuel) :
    collect? fuel lexer = some (collect fuel lexer) := by
  induction fuel generalizing lexer with
  | zero => exact absurd hfuel (Nat.not_lt_zero _)
  | succ fuel ih =>
    have hmoved := hfits.next
    rw [collect?, collect, next?_eq hfits]
    cases hnext : lexer.next with
    | mk step moved =>
      rw [hnext] at hmoved
      cases step with
      | ended | failed => rfl
      | token placed =>
        have hshorter := length_lt_of_next hnext
        have hothers := ih (show moved.Fits from hmoved) (by omega)
        dsimp only [Option.bind_eq_bind, Option.bind_some]
        rw [hothers]
        rfl

/-- The tokens of a source, read from its bytes. -/
def ofSource? (source : String) : Option TokenStream := collect? (source.length + 1) (.start source)

theorem ofSource?_eq {source : String} (h : source.utf8ByteSize < offsetLimit) :
    ofSource? source = some (ofSource source) :=
  collect?_eq _ (fits_start h) (by rw [start, String.length_toList]; exact Nat.lt_succ_self _)

end Liquid.TokenStream
