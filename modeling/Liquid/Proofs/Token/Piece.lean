import Liquid.Proofs.Token.Position
import Liquid.Token.Lexer
import Mathlib.Data.List.TakeWhile

/-!
# What a piece of a source is

The lexer takes one piece of a source after the other. A piece is a text between markers, of which trimming may leave
nothing, a comment, or a marker with its token. The pieces follow one another without gaps, and each says whether the
spaces and tabs behind it are dropped.
-/

namespace Liquid.Lexer

/-! ## Trimming -/

/-- A text and what is left without its leading run of spaces and tabs. -/
def TrimmedStart (text kept : List Char) : Prop :=
  ∃ run, text = run ++ kept ∧ (∀ c ∈ run, isInlineBlank c) ∧ ∀ c ∈ kept.head?, ¬isInlineBlank c

/-- A text and what is left without its trailing run of spaces and tabs or, if there is none, without one line break. -/
inductive TrimmedEnd : List Char → List Char → Prop where
  | run {kept run : List Char} (hrun : run ≠ []) (hblank : ∀ c ∈ run, isInlineBlank c)
      (hkept : ∀ c ∈ kept.getLast?, ¬isInlineBlank c) : TrimmedEnd (kept ++ run) kept
  | returned {kept : List Char} : TrimmedEnd (kept ++ ['\r', '\n']) kept
  | broken {kept : List Char} (hkept : kept.getLast? ≠ some '\r') : TrimmedEnd (kept ++ ['\n']) kept
  | same {kept : List Char} (hblank : ∀ c ∈ kept.getLast?, ¬isInlineBlank c) (hbreak : kept.getLast? ≠ some '\n') :
      TrimmedEnd kept kept

theorem trimAfter_trimmed (text : List Char) : TrimmedStart text (trimAfter text) := by
  refine ⟨text.takeWhile isInlineBlank, List.takeWhile_append_dropWhile.symm, fun c hc ↦ List.mem_takeWhile_imp hc, ?_⟩
  intro c hc
  have hhead := List.head?_dropWhile_not isInlineBlank text
  rw [trimAfter] at hc
  rw [show (text.dropWhile isInlineBlank).head? = some c from hc] at hhead
  simpa using hhead

/-- Behind the text that is left there was a run of spaces and tabs. -/
theorem getLast?_dropEndWhile_not (class_ : Char → Bool) (text : List Char) :
    ∀ c ∈ (Text.dropEndWhile class_ text).getLast?, ¬class_ c := by
  intro c hc
  have hhead := List.head?_dropWhile_not class_ text.reverse
  rw [Text.dropEndWhile, List.getLast?_reverse] at hc
  rw [show (text.reverse.dropWhile class_).head? = some c from hc] at hhead
  simpa using hhead

theorem trimBefore_trimmed (text : List Char) : TrimmedEnd text (trimBefore text) := by
  have hsplit := Text.dropEndWhile_append_takeEndWhile isInlineBlank text
  have hlast := getLast?_dropEndWhile_not isInlineBlank text
  unfold trimBefore
  by_cases hrun : Text.takeEndWhile isInlineBlank text = []
  · have hsame : Text.dropEndWhile isInlineBlank text = text := by
      rw [hrun, List.append_nil] at hsplit
      exact hsplit
    rw [hsame] at hlast ⊢
    simp only [bne_self_eq_false, Bool.false_eq_true, if_false]
    split
    · next rest hreversed =>
      have htext : text = rest.reverse ++ ['\r', '\n'] := by
        rw [← List.reverse_reverse text, hreversed]
        simp
      rw [htext]
      exact .returned
    · next rest hreturn hreversed =>
      have htext : text = rest.reverse ++ ['\n'] := by
        rw [← List.reverse_reverse text, hreversed, List.reverse_cons]
      rw [htext]
      refine .broken fun hreturned ↦ ?_
      rw [List.getLast?_reverse] at hreturned
      cases rest with
      | nil => cases hreturned
      | cons c others =>
        obtain rfl := Option.some.inj hreturned
        exact hreturn others rfl
    · next hbreak =>
      refine .same hlast fun hended ↦ ?_
      rw [← List.head?_reverse] at hended
      cases hreversed : text.reverse with
      | nil =>
        rw [hreversed] at hended
        cases hended
      | cons c others =>
        rw [hreversed] at hended
        obtain rfl := Option.some.inj hended
        exact hbreak others hreversed
  · have hlonger : (Text.dropEndWhile isInlineBlank text).length ≠ text.length := by
      have hlength := congrArg List.length hsplit
      have hpositive := List.length_pos_iff.2 hrun
      rw [List.length_append] at hlength
      omega
    have hblank : ∀ c ∈ Text.takeEndWhile isInlineBlank text, isInlineBlank c := by
      intro c hc
      exact List.mem_takeWhile_imp (List.mem_reverse.1 hc)
    rw [if_pos (bne_iff_ne.2 hlonger)]
    have htrimmed : TrimmedEnd (_ ++ _) _ := .run hrun hblank hlast
    rwa [hsplit] at htrimmed

/-- What trimming makes of a text, if its start, its end or both are to be trimmed. -/
def Trimmed (atStart atEnd : Prop) (text kept : List Char) : Prop :=
  ∃ middle, (atStart → TrimmedStart text middle) ∧ (¬atStart → middle = text) ∧ (atEnd → TrimmedEnd middle kept) ∧
    (¬atEnd → kept = middle)

/-! ## Texts between markers -/

/-- A text starts with the opening of a marker that asks for the text before it to be trimmed. -/
def OpensTrimming (text : List Char) : Prop :=
  ['\x7b', '\x7b', '-'] <+: text ∨ ['\x7b', '%', '-'] <+: text

theorem trimsBefore_iff (text : List Char) : Marker.trimsBefore text = true ↔ OpensTrimming text := by
  constructor
  · intro h
    unfold Marker.trimsBefore at h
    split at h
    · next first second rest hmarker =>
      unfold Marker.at? at hmarker
      split at hmarker
      · next hopening =>
        cases hopening
        exact .inl ⟨rest, rfl⟩
      · cases hmarker
      · split at hmarker <;> cases hmarker
      · cases hmarker
    · next first second rest hmarker =>
      unfold Marker.at? at hmarker
      split at hmarker
      · split at hmarker
        · split at hmarker <;> cases hmarker
        · cases hmarker
      · next hopening =>
        cases hopening
        exact .inr ⟨rest, rfl⟩
      · split at hmarker <;> cases hmarker
      · cases hmarker
    · cases h
  · rintro (⟨rest, rfl⟩ | ⟨rest, rfl⟩) <;> rfl

theorem textBefore_isPrefixOf : ∀ text, Marker.textBefore text <+: text
  | [] => List.nil_prefix
  | c :: rest => by
    rw [Marker.textBefore]
    split
    · exact List.nil_prefix
    · exact List.cons_prefix_cons.2 ⟨rfl, textBefore_isPrefixOf rest⟩

theorem textBefore_append_drop (text : List Char) :
    Marker.textBefore text ++ text.drop (Marker.textBefore text).length = text :=
  List.prefix_iff_eq_append.1 (textBefore_isPrefixOf text)

theorem textBefore_ne_nil {text : List Char} (htext : text ≠ []) (hmarker : Marker.at? text = none) :
    Marker.textBefore text ≠ [] := by
  obtain ⟨c, rest, rfl⟩ := List.exists_cons_of_ne_nil htext
  rw [Marker.textBefore, hmarker]
  exact List.cons_ne_nil c _

/-! ## Delimiters -/

theorem eq_append_of_breakUnquoted {delimiter after : List Char} :
    ∀ {text before : List Char} {quote : Option Char},
      breakUnquoted delimiter quote text = some (before, after) → text = before ++ delimiter ++ after
  | [], _, _, h => by
    rw [breakUnquoted] at h
    cases h
  | c :: rest, _, some quote, h => by
    rw [breakUnquoted, Option.map_eq_some_iff] at h
    obtain ⟨⟨inside, behind⟩, hfound, hparts⟩ := h
    obtain ⟨rfl, rfl⟩ := Prod.mk.inj hparts
    rw [eq_append_of_breakUnquoted hfound, List.cons_append, List.cons_append]
  | c :: rest, _, none, h => by
    rw [breakUnquoted] at h
    split at h
    · rw [Option.map_eq_some_iff] at h
      obtain ⟨⟨inside, behind⟩, hfound, hparts⟩ := h
      obtain ⟨rfl, rfl⟩ := Prod.mk.inj hparts
      rw [eq_append_of_breakUnquoted hfound, List.cons_append, List.cons_append]
    · split at h
      · next here =>
        obtain ⟨rfl, rfl⟩ := Prod.mk.inj (Option.some.inj h)
        exact Text.eq_append_of_isPrefixOf? here
      · rw [Option.map_eq_some_iff] at h
        obtain ⟨⟨inside, behind⟩, hfound, hparts⟩ := h
        obtain ⟨rfl, rfl⟩ := Prod.mk.inj hparts
        rw [eq_append_of_breakUnquoted hfound, List.cons_append, List.cons_append]

theorem eq_append_of_breakClosing {delimiter text before after : List Char}
    (h : breakClosing delimiter text = some (before, after)) : text = before ++ delimiter ++ after := by
  rw [breakClosing, Option.orElse_eq_orElse, Option.orElse_eq_or, Option.or_eq_some_iff] at h
  obtain h | ⟨-, h⟩ := h
  · exact eq_append_of_breakUnquoted h
  · exact Text.eq_append_of_breakOn h

/-! ## End tags -/

/-- A hyphen is dropped exactly if that is said. -/
theorem dropHyphen_split (text : List Char) :
    ∃ hyphen, text = hyphen ++ (dropHyphen text).2 ∧ ((dropHyphen text).1 = true → hyphen = ['-']) ∧
      ((dropHyphen text).1 = false → hyphen = []) := by
  unfold dropHyphen
  split
  · exact ⟨['-'], rfl, fun _ ↦ rfl, nofun⟩
  · exact ⟨[], rfl, nofun, fun _ ↦ rfl⟩

theorem trimStart_split (text : List Char) :
    ∃ blanks, text = blanks ++ Text.trimStart text ∧ ∀ c ∈ blanks, Text.isBlank c :=
  ⟨text.takeWhile Text.isBlank, List.takeWhile_append_dropWhile.symm, fun _ hc ↦ List.mem_takeWhile_imp hc⟩

/-- A name and blanks behind it do not end with a hyphen. -/
theorem getLast?_name_ne_hyphen {before name blanks : List Char} {final : Char} (hname : name.getLast? = some final)
    (hfinal : final ≠ '-') (hblanks : ∀ c ∈ blanks, Text.isBlank c) :
    (before ++ name ++ blanks).getLast? ≠ some '-' := by
  intro hhyphen
  rw [List.getLast?_append, List.getLast?_append, hname] at hhyphen
  cases hlast : blanks.getLast? with
  | none =>
    rw [hlast] at hhyphen
    exact hfinal (Option.some.inj hhyphen)
  | some c =>
    rw [hlast] at hhyphen
    obtain rfl : c = '-' := Option.some.inj hhyphen
    have hblank := hblanks '-' (List.mem_of_getLast? hlast)
    exact absurd hblank (by decide)

/-- A text up to its end tag ends with a hyphen in front of the delimiter exactly if the end tag asks for trimming. -/
theorem endTag?_eq_some {name text rest : List Char} {trimLeft trimRight : Bool} {final : Char}
    (hname : name.getLast? = some final) (hfinal : final ≠ '-')
    (h : endTag? name text = some (trimLeft, trimRight, rest)) :
    ∃ inside, text = inside ++ ['%', '\x7d'] ++ rest ∧ inside ≠ [] ∧
      (trimRight = true ↔ inside.getLast? = some '-') := by
  unfold endTag? at h
  split at h
  · next behind =>
    simp only [Option.bind_eq_bind, Option.bind_eq_some_iff, Option.pure_def, Option.some.injEq, Prod.mk.injEq] at h
    obtain ⟨behindName, hnamed, behindEnd, hdelimiter, -, rfl, rfl⟩ := h
    obtain ⟨hyphen, hhyphen, -⟩ := dropHyphen_split behind
    obtain ⟨blanks, hblanks, -⟩ := trimStart_split (dropHyphen behind).2
    obtain ⟨moreBlanks, hmore, hmoreBlank⟩ := trimStart_split behindName
    obtain ⟨lastHyphen, hlast, hasked, hnotAsked⟩ := dropHyphen_split (Text.trimStart behindName)
    refine ⟨'\x7b' :: '%' :: (hyphen ++ blanks) ++ name ++ moreBlanks ++ lastHyphen, ?_, ?_, ?_⟩
    · rw [hhyphen, hblanks, Text.eq_append_of_isPrefixOf? hnamed, hmore, hlast, Text.eq_append_of_isPrefixOf? hdelimiter]
      simp only [List.append_assoc, List.cons_append, List.nil_append]
    · exact List.cons_ne_nil _ _
    · cases hright : (dropHyphen (Text.trimStart behindName)).1 with
      | true =>
        rw [hasked hright, List.getLast?_concat]
        exact ⟨fun _ ↦ rfl, fun _ ↦ rfl⟩
      | false =>
        rw [hnotAsked hright, List.append_nil]
        exact ⟨nofun, fun hended ↦ (getLast?_name_ne_hyphen hname hfinal hmoreBlank hended).elim⟩
  · cases h

/-- So does a text up to the first end tag in it. -/
theorem breakEndTag_eq_some {name rest : List Char} {trimLeft trimRight : Bool} {final : Char}
    (hname : name.getLast? = some final) (hfinal : final ≠ '-') :
    ∀ {text content : List Char}, breakEndTag name text = some (content, trimLeft, trimRight, rest) →
      ∃ inside, text = inside ++ ['%', '\x7d'] ++ rest ∧ inside ≠ [] ∧
        (trimRight = true ↔ inside.getLast? = some '-')
  | [], _, h => by
    rw [breakEndTag] at h
    cases h
  | c :: text, content, h => by
    rw [breakEndTag] at h
    split at h
    · next hended =>
      cases h
      exact endTag?_eq_some hname hfinal hended
    · rw [Option.map_eq_some_iff] at h
      obtain ⟨⟨before, ending⟩, hfound, hparts⟩ := h
      cases hparts
      obtain ⟨inside, htext, hinside, hright⟩ := breakEndTag_eq_some hname hfinal hfound
      refine ⟨c :: inside, ?_, List.cons_ne_nil c inside, ?_⟩
      · rw [htext]
        rfl
      · rw [List.getLast?_cons_of_ne_nil hinside, hright]

/-! ## Pieces -/

/-- A whole comment. -/
def IsComment (text : List Char) : Prop := ∃ inside, text = ['\x7b', '#'] ++ inside ++ ['#', '\x7d']

/-- The opening and the end of a comment with one number sign for both. -/
def overlappingComment : List Char := ['\x7b', '#', '\x7d']

/-- A token with its text asks for the spaces and tabs behind it to be dropped: an output or a tag that says so, or text
that is no markup, if its end tag is closed with a hyphen. -/
def TrimsRight (text : List Char) : Token → Prop
  | .output _ _ trimRight => trimRight = true
  | .tag _ _ _ trimRight => trimRight = true
  | .raw _ => ['-', '%', '\x7d'] <:+ text
  | .data _ => False

/-- What the lexer takes for a comment: a whole one, or the overlapping one if an end begins anywhere behind it. -/
def TakenForComment (text rest : List Char) : Prop :=
  IsComment text ∨ text = overlappingComment ∧ ['#', '\x7d'] <:+: rest

/-- A text that yields no token is a comment, or trimming leaves nothing of it. -/
def IsGap (isComment : List Char → List Char → Prop) (trimFirst : Prop) (text rest : List Char) : Prop :=
  isComment text rest ∨ Trimmed trimFirst (OpensTrimming rest) text []

/-- The token of a text. Plain text is what trimming leaves of the text, as the neighbours ask. -/
def IsTokenOf (trimFirst : Prop) (text rest : List Char) : Token → Prop
  | .data content => content ≠ "" ∧ Trimmed trimFirst (OpensTrimming rest) text content.toList
  | _ => True

/-- A piece of a source: its text, the text behind it, its token and whether it asks for trimming behind it. -/
inductive IsPiece (trimFirst : Prop) (text rest : List Char) : Option Token → Bool → Prop where
  | gap (hgap : IsGap TakenForComment trimFirst text rest) : IsPiece trimFirst text rest none false
  | token {token : Token} {trimNext : Bool} (htoken : IsTokenOf trimFirst text rest token)
      (htrims : trimNext = true ↔ TrimsRight text token) : IsPiece trimFirst text rest (some token) trimNext

/-- A text between markers gives a token of what trimming leaves, if it leaves anything. -/
theorem takeData_eq (trimFirst : Bool) (text : List Char) :
    ∃ kept, Trimmed (trimFirst = true) (OpensTrimming (text.drop (Marker.textBefore text).length))
        (Marker.textBefore text) kept ∧
      takeData trimFirst text =
        .taken (if kept.isEmpty then none else some (.data (String.ofList kept)))
          (text.drop (Marker.textBefore text).length) false := by
  refine ⟨_, ⟨if trimFirst then trimAfter (Marker.textBefore text) else Marker.textBefore text, ?_, ?_, ?_, ?_⟩, rfl⟩
  · intro hfirst
    rw [if_pos hfirst]
    exact trimAfter_trimmed _
  · intro hfirst
    rw [if_neg hfirst]
  · intro hopens
    rw [if_pos ((trimsBefore_iff _).2 hopens)]
    exact trimBefore_trimmed _
  · intro hopens
    rw [if_neg fun htrims ↦ hopens ((trimsBefore_iff _).1 htrims)]

theorem takeData_isPiece {text rest : List Char} {token? : Option Token} {trimFirst trimNext : Bool}
    (htext : text ≠ []) (hmarker : Marker.at? text = none)
    (h : takeData trimFirst text = .taken token? rest trimNext) :
    ∃ taken, taken ≠ [] ∧ text = taken ++ rest ∧ IsPiece (trimFirst = true) taken rest token? trimNext := by
  obtain ⟨kept, htrimmed, htaken⟩ := takeData_eq trimFirst text
  rw [htaken] at h
  obtain ⟨rfl, rfl, rfl⟩ := Piece.taken.inj h
  refine ⟨Marker.textBefore text, textBefore_ne_nil htext hmarker, (textBefore_append_drop text).symm, ?_⟩
  cases kept with
  | nil => exact .gap (.inr htrimmed)
  | cons c others =>
    have hkept : String.ofList (c :: others) ≠ "" := fun hnone ↦ by simpa using congrArg String.toList hnone
    refine .token ⟨hkept, ?_⟩ ⟨nofun, False.elim⟩
    rw [String.toList_ofList]
    exact htrimmed

/-- In front of a delimiter with a percent sign a text ends with a hyphen exactly if it ends so with its delimiter. -/
theorem hyphen_suffix_iff (inside : List Char) :
    ['-', '%', '\x7d'] <:+ inside ++ ['%', '\x7d'] ↔ inside.getLast? = some '-' := by
  constructor
  · rintro ⟨before, hbefore⟩
    have hsame : before ++ ['-'] = inside := by
      have happended : (before ++ ['-']) ++ ['%', '\x7d'] = inside ++ ['%', '\x7d'] := by
        rw [List.append_assoc]
        exact hbefore
      exact List.append_cancel_right happended
    rw [← hsame, List.getLast?_concat]
  · intro hlast
    obtain ⟨before, rfl⟩ := List.getLast?_eq_some_iff.1 hlast
    exact ⟨before, by simp⟩

theorem takeRaw_isPiece {name opened text rest : List Char} {token? : Option Token} {trimFirst trimNext : Bool}
    {trimStart : Prop} {final : Char} (hname : name.getLast? = some final) (hfinal : final ≠ '-')
    (h : takeRaw name trimFirst text = .taken token? rest trimNext) :
    ∃ taken, text = taken ++ rest ∧ IsPiece trimStart (opened ++ taken) rest token? trimNext := by
  have hending : ("end".toList ++ name).getLast? = some final := by
    rw [List.getLast?_append, hname]
    rfl
  unfold takeRaw at h
  dsimp only at h
  split at h
  · next content trimLeft trimRight behind hended =>
    obtain ⟨rfl, rfl, rfl⟩ := Piece.taken.inj h
    obtain ⟨inside, htext, hinside, hright⟩ := breakEndTag_eq_some hending hfinal hended
    refine ⟨inside ++ ['%', '\x7d'], htext, .token trivial ?_⟩
    rw [hright, TrimsRight, ← List.append_assoc, hyphen_suffix_iff, List.getLast?_append,
      List.getLast?_eq_some_getLast hinside, Option.some_or]
  · cases h

/-- The tag that the inside of a marker gives, or the text up to its end tag. -/
theorem takeTag_isPiece {inner opened text rest : List Char} {token? : Option Token} {trimLeft trimRight trimNext : Bool}
    {trimStart : Prop} (h : takeTag inner text trimLeft trimRight = .taken token? rest trimNext) :
    ∃ taken, text = taken ++ rest ∧ IsPiece trimStart (opened ++ taken) rest token? trimNext := by
  unfold takeTag at h
  dsimp only at h
  split at h
  · cases h
  · split at h
    · next hraw =>
      rw [Bool.or_eq_true, beq_iff_eq, beq_iff_eq] at hraw
      obtain hraw | hliteral := hraw
      · rw [hraw] at h
        exact takeRaw_isPiece rfl (by decide) h
      · rw [hliteral] at h
        exact takeRaw_isPiece rfl (by decide) h
    · obtain ⟨rfl, rfl, rfl⟩ := Piece.taken.inj h
      exact ⟨[], rfl, .token trivial Iff.rfl⟩

/-- A comment is opened, and an end begins anywhere behind its opening. -/
theorem exists_opening_of_comment {text : List Char} (hmarker : Marker.at? text = some .comment) :
    ∃ behind, text = '\x7b' :: '#' :: behind ∧ Text.contains ['#', '\x7d'] behind = true := by
  unfold Marker.at? at hmarker
  split at hmarker
  · split at hmarker
    · split at hmarker <;> cases hmarker
    · cases hmarker
  · cases hmarker
  · next behind =>
    split at hmarker
    · next hended => exact ⟨behind, rfl, hended⟩
    · cases hmarker
  · cases hmarker

/-- A comment is whole, unless its end begins with the number sign of its opening. -/
theorem comment_shape {text before rest : List Char} (hmarker : Marker.at? text = some .comment)
    (htext : text = before ++ ['#', '\x7d'] ++ rest) : TakenForComment (before ++ ['#', '\x7d']) rest := by
  obtain ⟨behind, hopening, hended⟩ := exists_opening_of_comment hmarker
  rw [hopening] at htext
  match before, htext with
  | [], htext => cases htext
  | [c], htext =>
    cases htext
    have hlater : ['#', '\x7d'] <:+: '\x7d' :: rest := (Text.contains_iff _ _).1 hended
    obtain hhere | hlater := List.infix_cons_iff.1 hlater
    · cases (List.cons_prefix_cons.1 hhere).1
    · exact .inr ⟨rfl, hlater⟩
  | c :: d :: inside, htext =>
    cases htext
    exact .inl ⟨inside, rfl⟩

/-- The overlapping comment is all that is taken of a text that starts with it, if an end begins anywhere behind it. -/
theorem takePiece_overlappingComment (trimFirst : Bool) {rest : List Char} (h : ['#', '\x7d'] <:+: rest) :
    takePiece trimFirst (overlappingComment ++ rest) = .taken none rest false := by
  have hended : Text.contains ['#', '\x7d'] ('\x7d' :: rest) = true :=
    (Text.contains_iff _ _).2 (List.infix_cons_iff.2 (.inr h))
  have hmarker : Marker.at? (overlappingComment ++ rest) = some .comment := if_pos hended
  rw [takePiece, hmarker]
  rfl

theorem takeMarker_isPiece {marker : Marker} {text rest : List Char} {token? : Option Token} {trimNext : Bool}
    {trimStart : Prop} (hmarker : Marker.at? text = some marker)
    (h : takeMarker marker text = .taken token? rest trimNext) :
    ∃ taken, taken ≠ [] ∧ text = taken ++ rest ∧ IsPiece trimStart taken rest token? trimNext := by
  cases marker with
  | comment =>
    rw [takeMarker] at h
    split at h
    · next before behind hended =>
      obtain ⟨rfl, rfl, rfl⟩ := Piece.taken.inj h
      refine ⟨before ++ ['#', '\x7d'], by simp, Text.eq_append_of_breakOn hended, .gap (.inl ?_)⟩
      exact comment_shape hmarker (Text.eq_append_of_breakOn hended)
    · cases h
  | literal =>
    rw [takeMarker] at h
    split at h
    · next before behind hended =>
      obtain ⟨rfl, rfl, rfl⟩ := Piece.taken.inj h
      refine ⟨before ++ ['\x7d', '\x7d', '\x7d'], by simp, Text.eq_append_of_breakOn hended, .token trivial ?_⟩
      refine ⟨nofun, fun ⟨opened, hopened⟩ ↦ ?_⟩
      have hends : (opened ++ ['-']) ++ ['%', '\x7d'] = (before ++ ['\x7d']) ++ ['\x7d', '\x7d'] := by
        rw [List.append_assoc, List.append_assoc]
        exact hopened
      cases List.append_inj_right' hends rfl
    · cases h
  | output =>
    rw [takeMarker] at h
    split at h
    · next inside behind hended =>
      obtain ⟨rfl, rfl, rfl⟩ := Piece.taken.inj h
      refine ⟨text.take 2 ++ inside ++ ['\x7d', '\x7d'], by simp, ?_, .token trivial Iff.rfl⟩
      calc text = text.take 2 ++ text.drop 2 := (List.take_append_drop 2 text).symm
        _ = text.take 2 ++ (inside ++ ['\x7d', '\x7d'] ++ behind) := by rw [eq_append_of_breakClosing hended]
        _ = text.take 2 ++ inside ++ ['\x7d', '\x7d'] ++ behind := by simp only [List.append_assoc]
    · cases h
  | tag =>
    rw [takeMarker] at h
    split at h
    · next inside behind hended =>
      obtain ⟨taken, hbehind, hpiece⟩ := takeTag_isPiece h
      refine ⟨text.take 2 ++ inside ++ ['%', '\x7d'] ++ taken, by simp, ?_, hpiece⟩
      have hinside : text.drop 2 = inside ++ ['%', '\x7d'] ++ (taken ++ rest) := by
        rw [← hbehind, ← eq_append_of_breakClosing hended]
      calc text = text.take 2 ++ text.drop 2 := (List.take_append_drop 2 text).symm
        _ = text.take 2 ++ (inside ++ ['%', '\x7d'] ++ (taken ++ rest)) := by rw [hinside]
        _ = text.take 2 ++ inside ++ ['%', '\x7d'] ++ taken ++ rest := by simp only [List.append_assoc]
    · cases h

/-- A piece of a source is what it is taken for, and what follows it is the rest of the source. -/
theorem takePiece_isPiece {text rest : List Char} {token? : Option Token} {trimFirst trimNext : Bool}
    (htext : text ≠ []) (h : takePiece trimFirst text = .taken token? rest trimNext) :
    ∃ taken, taken ≠ [] ∧ text = taken ++ rest ∧ IsPiece (trimFirst = true) taken rest token? trimNext := by
  unfold takePiece at h
  cases hmarker : Marker.at? text with
  | none =>
    rw [hmarker] at h
    exact takeData_isPiece htext hmarker h
  | some marker =>
    rw [hmarker] at h
    exact takeMarker_isPiece hmarker h

end Liquid.Lexer
