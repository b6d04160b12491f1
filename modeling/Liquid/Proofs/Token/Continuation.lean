import Liquid.Proofs.Token.Piece

/-!
# Pieces of a source that goes on

Text behind a source changes a piece of it only by closing what the source leaves open: three braces that open an
output for want of an end, a comment that is plain text for want of one, or a quote in front of the end of an output
or a tag. If it closes none of these, the piece is the same.
-/

namespace Liquid

variable {text later before after : List Char}

/-! ## Delimiters -/

namespace Text

variable {pattern : List Char}

theorem isPrefixOf?_append_of_some (h : pattern.isPrefixOf? text = some after) (later : List Char) :
    pattern.isPrefixOf? (text ++ later) = some (after ++ later) := by
  rw [eq_append_of_isPrefixOf? h, List.append_assoc, isPrefixOf?_append]

theorem isPrefixOf?_append_of_none (h : pattern.isPrefixOf? text = none) (hlength : pattern.length ≤ text.length)
    (later : List Char) : pattern.isPrefixOf? (text ++ later) = none := by
  cases hwhole : pattern.isPrefixOf? (text ++ later) with
  | none => rfl
  | some rest =>
    have hpattern : pattern <+: text ++ later := ⟨rest, (eq_append_of_isPrefixOf? hwhole).symm⟩
    obtain ⟨behind, rfl⟩ := List.prefix_of_prefix_length_le hpattern (List.prefix_append text later) hlength
    rw [isPrefixOf?_append] at h
    cases h

/-- What the first occurrence of a pattern is does not depend on what follows it. -/
theorem breakOn_append (hpattern : pattern ≠ []) (h : breakOn pattern text = some (before, after)) (later : List Char) :
    breakOn pattern (text ++ later) = some (before, after ++ later) := by
  induction text generalizing before with
  | nil =>
    rw [breakOn, if_neg (by simpa using hpattern)] at h
    cases h
  | cons c rest ih =>
    rw [breakOn] at h
    rw [List.cons_append, breakOn, ← List.cons_append]
    split at h
    · next behind here =>
      rw [isPrefixOf?_append_of_some here]
      obtain ⟨rfl, rfl⟩ := Prod.mk.inj (Option.some.inj h)
      rfl
    · next here =>
      obtain ⟨⟨inside, behind⟩, hfound, hparts⟩ := Option.map_eq_some_iff.1 h
      obtain ⟨rfl, rfl⟩ := Prod.mk.inj hparts
      have hlength : pattern.length ≤ (c :: rest).length := by
        rw [eq_append_of_breakOn hfound]
        simp only [List.length_cons, List.length_append]
        omega
      rw [isPrefixOf?_append_of_none here hlength, ih hfound]
      rfl

end Text

namespace Lexer

variable {delimiter : List Char} {quote : Option Char}

theorem breakUnquoted_append (h : breakUnquoted delimiter quote text = some (before, after)) (later : List Char) :
    breakUnquoted delimiter quote (text ++ later) = some (before, after ++ later) := by
  induction text generalizing before quote with
  | nil =>
    rw [breakUnquoted] at h
    cases h
  | cons c rest ih =>
    cases quote with
    | some quote =>
      rw [breakUnquoted] at h
      obtain ⟨⟨inside, behind⟩, hfound, hparts⟩ := Option.map_eq_some_iff.1 h
      obtain ⟨rfl, rfl⟩ := Prod.mk.inj hparts
      rw [List.cons_append, breakUnquoted, ih hfound]
      rfl
    | none =>
      rw [breakUnquoted] at h
      rw [List.cons_append, breakUnquoted, ← List.cons_append]
      split at h
      · next hquote =>
        obtain ⟨⟨inside, behind⟩, hfound, hparts⟩ := Option.map_eq_some_iff.1 h
        obtain ⟨rfl, rfl⟩ := Prod.mk.inj hparts
        rw [if_pos hquote, ih hfound]
        rfl
      · next hquote =>
        rw [if_neg hquote]
        split at h
        · next behind here =>
          rw [Text.isPrefixOf?_append_of_some here]
          obtain ⟨rfl, rfl⟩ := Prod.mk.inj (Option.some.inj h)
          rfl
        · next here =>
          obtain ⟨⟨inside, behind⟩, hfound, hparts⟩ := Option.map_eq_some_iff.1 h
          obtain ⟨rfl, rfl⟩ := Prod.mk.inj hparts
          have hlength : delimiter.length ≤ (c :: rest).length := by
            rw [eq_append_of_breakUnquoted hfound]
            simp only [List.length_cons, List.length_append]
            omega
          rw [Text.isPrefixOf?_append_of_none here hlength, ih hfound]
          rfl

/-- The end of a marker stays where it is, unless it was the first delimiter of all for want of one outside of quotes,
and there is one now. -/
theorem breakClosing_append (hdelimiter : delimiter ≠ []) (h : breakClosing delimiter text = some (before, after))
    (hquoted : breakUnquoted delimiter none text = none → breakUnquoted delimiter none (text ++ later) = none) :
    breakClosing delimiter (text ++ later) = some (before, after ++ later) := by
  rw [breakClosing, Option.orElse_eq_orElse, Option.orElse_eq_or, Option.or_eq_some_iff] at h ⊢
  obtain h | ⟨hnone, h⟩ := h
  · exact .inl (breakUnquoted_append h later)
  · exact .inr ⟨hquoted hnone, Text.breakOn_append hdelimiter h later⟩

/-! ## End tags -/

/-- In front of a percent sign a hyphen is dropped alike, whatever follows the sign, -/
theorem dropHyphen_local {left : Bool} (h : dropHyphen text = (left, before ++ '%' :: after)) :
    ∃ whole, text = whole ++ '%' :: after ∧ ('\x7b' ∈ whole → '\x7b' ∈ before) ∧
      ∀ other, dropHyphen (whole ++ '%' :: other) = (left, before ++ '%' :: other) := by
  unfold dropHyphen at h
  split at h
  · obtain ⟨rfl, rfl⟩ := Prod.mk.inj h
    exact ⟨'-' :: before, rfl, by simp, fun _ ↦ rfl⟩
  · next hhyphen =>
    obtain ⟨rfl, rfl⟩ := Prod.mk.inj h
    refine ⟨before, rfl, id, fun other ↦ ?_⟩
    cases before with
    | nil => rfl
    | cons c rest =>
      rw [dropHyphen]
      exact fun others hsame ↦ hhyphen _ (by rw [List.cons_append, (List.cons.inj hsame).1])

/-- and so are blanks. -/
theorem trimStart_local (h : Text.trimStart text = before ++ '%' :: after) :
    ∃ whole, text = whole ++ '%' :: after ∧ ('\x7b' ∈ whole → '\x7b' ∈ before) ∧
      ∀ other, Text.trimStart (whole ++ '%' :: other) = before ++ '%' :: other := by
  obtain ⟨blanks, htext, hblank⟩ := trimStart_split text
  have hhead := List.head?_dropWhile_not Text.isBlank text
  rw [show text.dropWhile Text.isBlank = before ++ '%' :: after from h] at hhead
  refine ⟨blanks ++ before, by rw [List.append_assoc, ← h, ← htext], fun hbrace ↦ ?_, fun other ↦ ?_⟩
  · obtain hbrace | hbrace := List.mem_append.1 hbrace
    · exact absurd (hblank _ hbrace) (by decide)
    · exact hbrace
  · rw [Text.trimStart, List.append_assoc, List.dropWhile_append_of_pos hblank]
    cases before with
    | nil => exact List.dropWhile_cons_of_neg (by decide)
    | cons c rest => exact List.dropWhile_cons_of_neg (by simpa using hhead)

/-- An end tag has no brace that could begin a marker behind its first one, and it is read alike, whatever follows. -/
theorem endTag?_local {name text rest : List Char} {trimLeft trimRight : Bool} (hname : '\x7b' ∉ name)
    (h : endTag? name text = some (trimLeft, trimRight, rest)) :
    ∃ body, text = '\x7b' :: (body ++ rest) ∧ '\x7b' ∉ body ∧
      ∀ other, endTag? name ('\x7b' :: (body ++ other)) = some (trimLeft, trimRight, other) := by
  unfold endTag? at h
  split at h
  · next behind =>
    simp only [Option.bind_eq_bind, Option.bind_eq_some_iff, Option.pure_def, Option.some.injEq, Prod.mk.injEq] at h
    obtain ⟨behindName, hnamed, behindEnd, hdelimiter, hleft, hright, rfl⟩ := h
    have hbehind : (dropHyphen (Text.trimStart behindName)).2 = ['%', '\x7d'] ++ behindEnd :=
      Text.eq_append_of_isPrefixOf? hdelimiter
    have hend : dropHyphen (Text.trimStart behindName) = (trimRight, [] ++ '%' :: '\x7d' :: behindEnd) :=
      Prod.ext hright hbehind
    obtain ⟨hyphen, hhyphen, hhyphenBrace, hhyphenLocal⟩ := dropHyphen_local hend
    obtain ⟨blanks, rfl, hblankBrace, hblankLocal⟩ := trimStart_local hhyphen
    have hstart := Text.eq_append_of_isPrefixOf? hnamed
    rw [← List.append_assoc] at hstart
    obtain ⟨front, hfront, hfrontBrace, hfrontLocal⟩ := trimStart_local hstart
    obtain ⟨whole, rfl, hwholeBrace, hwholeLocal⟩ := dropHyphen_local (Prod.ext hleft hfront)
    refine ⟨'%' :: whole ++ ['%', '\x7d'], by simp, fun hbrace ↦ ?_, fun other ↦ ?_⟩
    · have hinside : '\x7b' ∈ whole := by simpa using hbrace
      obtain hbrace | hbrace := List.mem_append.1 (hfrontBrace (hwholeBrace hinside))
      · exact hname hbrace
      · exact absurd (hhyphenBrace (hblankBrace hbrace)) List.not_mem_nil
    · have hnameLocal := Text.isPrefixOf?_append name (blanks ++ '%' :: '\x7d' :: other)
      rw [List.append_assoc]
      simp only [List.cons_append, List.nil_append, endTag?, hwholeLocal, hfrontLocal, List.append_assoc, hnameLocal]
      rw [Option.bind_eq_bind, Option.bind_some, hblankLocal, hhyphenLocal]
      rfl
  · cases h

theorem mem_of_breakEndTag {name content : List Char} {ending : Bool × Bool × List Char} (hname : '{' ∉ name)
    (h : breakEndTag name text = some (content, ending)) : '{' ∈ text := by
  induction text generalizing content with
  | nil =>
    rw [breakEndTag] at h
    cases h
  | cons c rest ih =>
    rw [breakEndTag] at h
    split at h
    · next hended =>
      obtain ⟨body, hbody, -⟩ := endTag?_local hname hended
      rw [hbody]
      exact List.mem_cons_self
    · obtain ⟨⟨inside, behind⟩, hfound, hparts⟩ := Option.map_eq_some_iff.1 h
      obtain ⟨rfl, rfl⟩ := Prod.mk.inj hparts
      exact List.mem_cons_of_mem c (ih hfound)

/-- The first end tag is the same, whatever follows it. -/
theorem breakEndTag_append {name content rest : List Char} {trimLeft trimRight : Bool} (hname : '{' ∉ name)
    (h : breakEndTag name text = some (content, trimLeft, trimRight, rest)) (later : List Char) :
    breakEndTag name (text ++ later) = some (content, trimLeft, trimRight, rest ++ later) := by
  induction text generalizing content with
  | nil =>
    rw [breakEndTag] at h
    cases h
  | cons c text ih =>
    rw [breakEndTag] at h
    rw [List.cons_append, breakEndTag, ← List.cons_append]
    split at h
    · next hended =>
      cases h
      obtain ⟨body, hbody, -, hlocal⟩ := endTag?_local hname hended
      rw [hbody, List.cons_append, List.append_assoc, hlocal]
    · next hnone =>
      obtain ⟨⟨inside, behind⟩, hfound, hparts⟩ := Option.map_eq_some_iff.1 h
      cases hparts
      have hbrace := mem_of_breakEndTag hname hfound
      have hnone' : endTag? name (c :: text ++ later) = none := by
        cases hended : endTag? name (c :: text ++ later) with
        | none => rfl
        | some ending =>
          obtain ⟨left, right, behind⟩ := ending
          obtain ⟨body, hbody, hfree, hlocal⟩ := endTag?_local hname hended
          obtain ⟨rfl, hrest⟩ := List.cons.inj hbody
          obtain ⟨more, rfl, -⟩ | ⟨more, rfl, -⟩ := List.append_eq_append_iff.1 hrest
          · exact (hfree (List.mem_append_left more hbrace)).elim
          · rw [hlocal] at hnone
            cases hnone
      rw [hnone', ih hfound]
      rfl

end Lexer

/-! ## Markers -/

namespace Marker

theorem at?_braces (inner : List Char) : at? ('\x7b' :: '\x7b' :: '\x7b' :: inner) =
    if Text.contains ['\x7d', '\x7d', '\x7d'] inner then some literal else some output := rfl

theorem at?_comment (rest : List Char) : at? ('\x7b' :: '#' :: rest) =
    if Text.contains ['#', '\x7d'] rest then some comment else none := rfl

theorem at?_output {c : Char} (h : c ≠ '\x7b') (rest : List Char) :
    at? ('\x7b' :: '\x7b' :: c :: rest) = some output := by
  rw [at?]
  intro inner hsame
  exact h (List.cons.inj hsame).1

theorem isSome_at?_braces (rest : List Char) : (at? ('\x7b' :: '\x7b' :: rest)).isSome = true := by
  match rest with
  | [] => rfl
  | c :: inner =>
    by_cases hbrace : c = '\x7b'
    · subst hbrace
      rw [at?_braces]
      split <;> rfl
    · rw [at?_output hbrace]
      rfl

/-- What occurs in a text occurs in a longer one. -/
theorem contains_append {pattern : List Char} (h : Text.contains pattern text = true) (later : List Char) :
    Text.contains pattern (text ++ later) = true := by
  rw [Text.contains_iff] at h ⊢
  exact h.trans (List.prefix_append text later).isInfix

/-- A marker at the start of a text stays one, -/
theorem isSome_at?_append (h : (at? text).isSome = true) (later : List Char) :
    (at? (text ++ later)).isSome = true := by
  unfold at? at h
  split at h
  · exact isSome_at?_braces _
  · rfl
  · split at h
    · next hended =>
      rw [List.cons_append, List.cons_append, at?_comment, if_pos (contains_append hended later)]
      rfl
    · cases h
  · cases h

/-- of the same kind unless three braces are given an end, -/
theorem at?_append_of_some {marker : Marker} (h : at? text = some marker) (hlength : 3 ≤ text.length)
    (hliteral : ∀ inner, text = '\x7b' :: '\x7b' :: '\x7b' :: inner →
      ['\x7d', '\x7d', '\x7d'] <:+: inner ++ later → ['\x7d', '\x7d', '\x7d'] <:+: inner) :
    at? (text ++ later) = some marker := by
  unfold at? at h
  split at h
  · next rest =>
    match rest, hlength with
    | c :: inner, _ =>
      by_cases hbrace : c = '\x7b'
      · subst hbrace
        rw [List.cons_append, List.cons_append, List.cons_append, at?_braces, ← h]
        by_cases hended : Text.contains ['\x7d', '\x7d', '\x7d'] inner = true
        · simp only [if_pos hended, if_pos (contains_append hended later)]
        · have hlonger : ¬Text.contains ['\x7d', '\x7d', '\x7d'] (inner ++ later) = true := by
            rw [Text.contains_iff] at hended ⊢
            exact fun hlater ↦ hended (hliteral inner rfl hlater)
          simp only [if_neg hended, if_neg hlonger]
      · have houtput : at? ('\x7b' :: '\x7b' :: c :: inner) = some marker := h
        rw [at?_output hbrace] at houtput
        rw [List.cons_append, List.cons_append, List.cons_append, at?_output hbrace, houtput]
  · exact h
  · split at h
    · next hended => rw [List.cons_append, List.cons_append, at?_comment, if_pos (contains_append hended later), h]
    · cases h
  · cases h

/-- and none begins unless a comment is given an end. -/
theorem at?_append_of_none (h : at? text = none) (hlength : 2 ≤ text.length)
    (hcomment : ∀ rest, text = '\x7b' :: '#' :: rest → ¬['#', '\x7d'] <:+: rest ++ later) :
    at? (text ++ later) = none := by
  match text, hlength with
  | c :: d :: rest, _ =>
    unfold at?
    split
    · next hsame =>
      cases hsame
      have hsome := isSome_at?_braces rest
      rw [h] at hsome
      cases hsome
    · next hsame =>
      cases hsame
      cases h
    · next hsame =>
      cases hsame
      exact if_neg fun hended ↦ hcomment rest rfl ((Text.contains_iff _ _).1 hended)
    · rfl

/-- The text before the first marker is the same unless a comment in it is given an end. -/
theorem textBefore_append (hrest : 3 ≤ (text.drop (textBefore text).length).length)
    (hcomment : ∀ before rest, text = before ++ '\x7b' :: '#' :: rest → before.length < (textBefore text).length →
      ¬['#', '\x7d'] <:+: rest ++ later) :
    textBefore (text ++ later) = textBefore text := by
  induction text with
  | nil => cases hrest
  | cons c rest ih =>
    rw [List.cons_append, textBefore, textBefore, ← List.cons_append]
    rw [textBefore] at hrest hcomment
    by_cases hmarker : (at? (c :: rest)).isSome = true
    · rw [if_pos hmarker, if_pos (isSome_at?_append hmarker later)]
    · rw [if_neg hmarker] at hrest hcomment ⊢
      rw [List.length_cons, List.drop_succ_cons] at hrest
      have hlength : 2 ≤ (c :: rest).length := by
        rw [List.length_drop] at hrest
        rw [List.length_cons]
        omega
      have hnone := at?_append_of_none (Option.not_isSome_iff_eq_none.1 hmarker) hlength
        fun behind hshape ↦ hcomment [] behind hshape (Nat.succ_pos _)
      rw [hnone, Option.isSome_none, if_neg Bool.false_ne_true, ih hrest fun before behind hshape hbefore ↦ ?_]
      exact hcomment (c :: before) behind (congrArg (c :: ·) hshape) (Nat.succ_lt_succ hbefore)

/-- Behind the text before the first marker stands this marker. -/
theorem isSome_at?_drop_textBefore (h : text.drop (textBefore text).length ≠ []) :
    (at? (text.drop (textBefore text).length)).isSome = true := by
  induction text with
  | nil => exact (h rfl).elim
  | cons c rest ih =>
    rw [textBefore] at h ⊢
    by_cases hmarker : (at? (c :: rest)).isSome = true
    · rw [if_pos hmarker]
      exact hmarker
    · rw [if_neg hmarker] at h ⊢
      exact ih h

end Marker

namespace Lexer

variable {token? : Option Token} {rest : List Char} {trimFirst trimLeft trimRight trimNext : Bool}

theorem trimsBefore_append (hlength : 3 ≤ text.length) (later : List Char) :
    Marker.trimsBefore (text ++ later) = Marker.trimsBefore text := by
  have hopening {opening : List Char} (hopening : opening.length = 3) : opening <+: text ++ later ↔ opening <+: text :=
    ⟨fun h ↦ List.prefix_of_prefix_length_le h (List.prefix_append text later) (hopening ▸ hlength),
      fun h ↦ h.trans (List.prefix_append text later)⟩
  rw [Bool.eq_iff_iff, trimsBefore_iff, trimsBefore_iff, OpensTrimming, OpensTrimming, hopening rfl, hopening rfl]

/-! ## Pieces -/

/-- The delimiter that closes a marker if it stands outside of quotes. -/
def closing? : Marker → Option (List Char)
  | .output => some ['\x7d', '\x7d']
  | .tag => some ['%', '\x7d']
  | .comment | .literal => none

/-- Text behind a source closes nothing that the first piece of the source leaves open. -/
structure Settled (text later : List Char) : Prop where
  /-- Three braces that open an output for want of an end are given none. -/
  literal : ∀ inner, text = '\x7b' :: '\x7b' :: '\x7b' :: inner →
    ['\x7d', '\x7d', '\x7d'] <:+: inner ++ later → ['\x7d', '\x7d', '\x7d'] <:+: inner
  /-- A comment that is plain text for want of an end is given none. -/
  comment : ∀ before rest, text = before ++ '\x7b' :: '#' :: rest → before.length < (Marker.textBefore text).length →
    ¬['#', '\x7d'] <:+: rest ++ later
  /-- A marker without a delimiter outside of quotes is given none. -/
  quoted : ∀ delimiter, (Marker.at? text).bind closing? = some delimiter →
    breakUnquoted delimiter none (text.drop 2) = none → breakUnquoted delimiter none (text.drop 2 ++ later) = none

theorem takeData_append (h : takeData trimFirst text = .taken token? rest trimNext) (hrest : 3 ≤ rest.length)
    (hsettled : Settled text later) :
    takeData trimFirst (text ++ later) = .taken token? (rest ++ later) trimNext := by
  rw [takeData] at h
  obtain ⟨rfl, rfl, rfl⟩ := Piece.taken.inj h
  have hbefore := Marker.textBefore_append hrest hsettled.comment
  have hlength : (Marker.textBefore text).length ≤ text.length := (textBefore_isPrefixOf text).length_le
  rw [takeData, hbefore, List.drop_append_of_le_length hlength, trimsBefore_append hrest]

theorem takeRaw_append {name : List Char} (hname : '\x7b' ∉ "end".toList ++ name)
    (h : takeRaw name trimFirst text = .taken token? rest trimNext) (later : List Char) :
    takeRaw name trimFirst (text ++ later) = .taken token? (rest ++ later) trimNext := by
  rw [takeRaw] at h ⊢
  dsimp only at h ⊢
  split at h
  · next hended =>
    obtain ⟨rfl, rfl, rfl⟩ := Piece.taken.inj h
    rw [breakEndTag_append hname hended]
  · cases h

theorem takeTag_append {inner : List Char} (h : takeTag inner text trimLeft trimRight = .taken token? rest trimNext)
    (later : List Char) :
    takeTag inner (text ++ later) trimLeft trimRight = .taken token? (rest ++ later) trimNext := by
  rw [takeTag] at h ⊢
  dsimp only at h ⊢
  split at h
  · cases h
  · next hnamed =>
    rw [if_neg hnamed]
    split at h
    · next hraw =>
      rw [if_pos hraw]
      rw [Bool.or_eq_true, beq_iff_eq, beq_iff_eq] at hraw
      obtain hraw | hraw := hraw
      · rw [hraw] at h ⊢
        exact takeRaw_append (by decide) h later
      · rw [hraw] at h ⊢
        exact takeRaw_append (by decide) h later
    · next hraw =>
      obtain ⟨rfl, rfl, rfl⟩ := Piece.taken.inj h
      rw [if_neg hraw]

/-- A marker that can be read has three characters at least. -/
theorem three_le_length {marker : Marker} (hmarker : Marker.at? text = some marker)
    (h : takeMarker marker text = .taken token? rest trimNext) : 3 ≤ text.length := by
  have hclosed {delimiter inside behind : List Char} (hdelimiter : delimiter.length = 2)
      (hended : breakClosing delimiter (text.drop 2) = some (inside, behind)) : 3 ≤ text.length := by
    have hlength := congrArg List.length (eq_append_of_breakClosing hended)
    simp only [List.length_drop, List.length_append] at hlength
    omega
  cases marker with
  | comment =>
    rw [takeMarker] at h
    split at h
    · next before behind hended =>
      have htext := Text.eq_append_of_breakOn hended
      cases before with
      | nil =>
        rw [htext] at hmarker
        cases hmarker
      | cons c before =>
        rw [htext]
        simp only [List.length_append, List.length_cons]
        omega
    · cases h
  | literal =>
    rw [takeMarker] at h
    split at h
    · next before behind hended =>
      rw [Text.eq_append_of_breakOn hended]
      simp only [List.length_append, List.length_cons]
      omega
    · cases h
  | output =>
    rw [takeMarker] at h
    split at h
    · next hended => exact hclosed rfl hended
    · cases h
  | tag =>
    rw [takeMarker] at h
    split at h
    · next hended => exact hclosed rfl hended
    · cases h

theorem takeMarker_append {marker : Marker} (hmarker : Marker.at? text = some marker)
    (h : takeMarker marker text = .taken token? rest trimNext) (hsettled : Settled text later) :
    takeMarker marker (text ++ later) = .taken token? (rest ++ later) trimNext := by
  have hdrop : (text ++ later).drop 2 = text.drop 2 ++ later :=
    List.drop_append_of_le_length (Nat.le_of_succ_le (three_le_length hmarker h))
  have hquoted := hsettled.quoted
  rw [hmarker] at hquoted
  cases marker with
  | comment =>
    rw [takeMarker] at h ⊢
    split at h
    · next before behind hended =>
      obtain ⟨rfl, rfl, rfl⟩ := Piece.taken.inj h
      rw [Text.breakOn_append (List.cons_ne_nil _ _) hended]
    · cases h
  | literal =>
    rw [takeMarker] at h ⊢
    split at h
    · next before behind hended =>
      obtain ⟨rfl, rfl, rfl⟩ := Piece.taken.inj h
      rw [Text.breakOn_append (List.cons_ne_nil _ _) hended]
    · cases h
  | output =>
    rw [takeMarker] at h ⊢
    split at h
    · next inside behind hended =>
      obtain ⟨rfl, rfl, rfl⟩ := Piece.taken.inj h
      rw [hdrop, breakClosing_append (List.cons_ne_nil _ _) hended (hquoted _ rfl)]
      rfl
    · cases h
  | tag =>
    rw [takeMarker] at h ⊢
    split at h
    · next inside behind hended =>
      rw [hdrop, breakClosing_append (List.cons_ne_nil _ _) hended (hquoted _ rfl)]
      exact takeTag_append h later
    · cases h

/-- A piece in front of which nothing is left open is the same in a longer source, if a marker follows it or it is one. -/
theorem takePiece_append (h : takePiece trimFirst text = .taken token? rest trimNext)
    (hrest : Marker.at? text = none → 3 ≤ rest.length) (hsettled : Settled text later) :
    takePiece trimFirst (text ++ later) = .taken token? (rest ++ later) trimNext := by
  rw [takePiece] at h ⊢
  cases hmarker : Marker.at? text with
  | none =>
    rw [hmarker] at h
    have hfollows := hrest hmarker
    have hcomment (behind : List Char) (hshape : text = '\x7b' :: '#' :: behind) :
        ¬['#', '\x7d'] <:+: behind ++ later := by
      refine hsettled.comment [] behind hshape (List.length_pos_iff.2 (textBefore_ne_nil ?_ hmarker))
      rw [hshape]
      exact List.cons_ne_nil _ _
    have hlength : 2 ≤ text.length := by
      obtain ⟨rfl, rfl, rfl⟩ := Piece.taken.inj h
      rw [List.length_drop] at hfollows
      omega
    rw [Marker.at?_append_of_none hmarker hlength hcomment]
    exact takeData_append h hfollows hsettled
  | some marker =>
    rw [hmarker] at h
    rw [Marker.at?_append_of_some hmarker (three_le_length hmarker h) hsettled.literal]
    exact takeMarker_append hmarker h hsettled

/-! ## Pieces that stay the same -/

/-- A token is no plain text. -/
def IsMarked : Token → Prop
  | .data _ => False
  | _ => True

theorem not_isMarked_of_takeData {token : Token} (h : takeData trimFirst text = .taken (some token) rest trimNext) :
    ¬IsMarked token := by
  obtain ⟨kept, -, hdata⟩ := takeData_eq trimFirst text
  have htoken := (Piece.taken.inj (hdata.symm.trans h)).1
  cases kept with
  | nil => cases htoken
  | cons c others =>
    obtain rfl := Option.some.inj htoken
    exact id

/-- If trimming leaves nothing of a text, no marker could begin in it. -/
theorem brace_not_mem_of_trimmed {atStart atEnd : Prop} (h : Trimmed atStart atEnd text []) : '\x7b' ∉ text := by
  obtain ⟨middle, hstart, hsame, hend, hnone⟩ := h
  have hmiddle : '\x7b' ∉ middle := by
    by_cases hasked : atEnd
    · have htrimmed := hend hasked
      generalize hkept : ([] : List Char) = kept at htrimmed
      cases htrimmed with
      | run _ hblank =>
        subst hkept
        exact fun hbrace ↦ absurd (hblank _ hbrace) (by decide)
      | returned =>
        subst hkept
        decide
      | broken =>
        subst hkept
        decide
      | same =>
        subst hkept
        exact List.not_mem_nil
    · rw [← hnone hasked]
      exact List.not_mem_nil
  by_cases hasked : atStart
  · obtain ⟨run, rfl, hblank, -⟩ := hstart hasked
    rw [List.mem_append, not_or]
    exact ⟨fun hbrace ↦ absurd (hblank _ hbrace) (by decide), hmiddle⟩
  · rwa [← hsame hasked]

/-- What stands in front of the first marker is plain text. -/
theorem mem_textBefore {c : Char} (htext : text = before ++ c :: after)
    (hbefore : before.length < (Marker.textBefore text).length) : c ∈ Marker.textBefore text := by
  have hbegins : before <+: text := ⟨c :: after, htext.symm⟩
  obtain ⟨more, hmore⟩ := List.prefix_of_prefix_length_le hbegins (textBefore_isPrefixOf text) (Nat.le_of_lt hbefore)
  cases more with
  | nil =>
    rw [List.append_nil] at hmore
    rw [← hmore] at hbefore
    exact (Nat.lt_irrefl _ hbefore).elim
  | cons d more =>
    obtain ⟨behind, hbehind⟩ := textBefore_isPrefixOf text
    rw [← hmore, htext, List.append_assoc, List.append_cancel_left_eq] at hbehind
    rw [← hmore, (List.cons.inj hbehind).1]
    simp

theorem eq_none_of_comment (h : takeMarker .comment text = .taken token? rest trimNext) : token? = none := by
  rw [takeMarker] at h
  split at h
  · exact (Piece.taken.inj h).1.symm
  · cases h

theorem exists_raw_of_literal (h : takeMarker .literal text = .taken token? rest trimNext) :
    ∃ content, token? = some (.raw content) := by
  rw [takeMarker] at h
  split at h
  · exact ⟨_, (Piece.taken.inj h).1.symm⟩
  · cases h

theorem exists_output_of_output (h : takeMarker .output text = .taken token? rest trimNext) :
    ∃ content trimLeft trimRight, token? = some (.output content trimLeft trimRight) := by
  rw [takeMarker] at h
  split at h
  · exact ⟨_, _, _, (Piece.taken.inj h).1.symm⟩
  · cases h

theorem exists_marked_of_tag (h : takeMarker .tag text = .taken token? rest trimNext) :
    ∃ token, token? = some token ∧ IsMarked token := by
  rw [takeMarker] at h
  split at h
  · dsimp only [takeTag] at h
    split at h
    · cases h
    · split at h
      · rw [takeRaw] at h
        dsimp only at h
        split at h
        · exact ⟨_, (Piece.taken.inj h).1.symm, trivial⟩
        · cases h
      · exact ⟨_, (Piece.taken.inj h).1.symm, trivial⟩
  · cases h

theorem textBefore_eq_nil {marker : Marker} (h : Marker.at? text = some marker) : Marker.textBefore text = [] := by
  cases text with
  | nil => rfl
  | cons c rest =>
    rw [Marker.textBefore, h]
    rfl

/-- A piece without a token leaves nothing open that matters. -/
theorem Settled.of_gap (h : takePiece trimFirst text = .taken none rest trimNext) (later : List Char) :
    Settled text later := by
  rw [takePiece] at h
  cases hmarker : Marker.at? text with
  | none =>
    rw [hmarker] at h
    obtain ⟨kept, htrimmed, hdata⟩ := takeData_eq trimFirst text
    have hkept := (Piece.taken.inj (hdata.symm.trans h)).1
    cases kept with
    | cons c others => cases hkept
    | nil =>
      refine ⟨?_, fun before behind htext hbefore ↦ ?_, ?_⟩
      · rintro inner rfl
        have hsome := Marker.isSome_at?_braces ('\x7b' :: inner)
        rw [hmarker] at hsome
        cases hsome
      · exact (brace_not_mem_of_trimmed htrimmed (mem_textBefore htext hbefore)).elim
      · intro delimiter hclosing
        rw [hmarker] at hclosing
        cases hclosing
  | some marker =>
    rw [hmarker] at h
    cases marker with
    | comment =>
      refine ⟨?_, fun before behind htext hbefore ↦ ?_, ?_⟩
      · rintro inner rfl
        rw [Marker.at?_braces] at hmarker
        split at hmarker <;> cases hmarker
      · rw [textBefore_eq_nil hmarker] at hbefore
        cases hbefore
      · intro delimiter hclosing
        rw [hmarker] at hclosing
        cases hclosing
    | literal =>
      obtain ⟨content, htoken⟩ := exists_raw_of_literal h
      cases htoken
    | output =>
      obtain ⟨content, trimLeft, trimRight, htoken⟩ := exists_output_of_output h
      cases htoken
    | tag =>
      obtain ⟨token, htoken, -⟩ := exists_marked_of_tag h
      cases htoken

/-- A delimiter that is found within a part of a text is found in the part. -/
theorem breakUnquoted_part {delimiter : List Char} {quote : Option Char} (hdelimiter : delimiter ≠ [])
    (h : breakUnquoted delimiter quote (text ++ later) = some (before, after ++ later)) :
    breakUnquoted delimiter quote text = some (before, after) := by
  induction text generalizing before quote with
  | nil =>
    have hlength := congrArg List.length (eq_append_of_breakUnquoted h)
    have hpositive := List.length_pos_iff.2 hdelimiter
    simp only [List.nil_append, List.length_append] at hlength
    omega
  | cons c text ih =>
    cases quote with
    | some quote =>
      rw [List.cons_append, breakUnquoted] at h
      obtain ⟨⟨inside, behind⟩, hfound, hparts⟩ := Option.map_eq_some_iff.1 h
      obtain ⟨rfl, rfl⟩ := Prod.mk.inj hparts
      rw [breakUnquoted, ih hfound]
      rfl
    | none =>
      rw [List.cons_append, breakUnquoted, ← List.cons_append] at h
      rw [breakUnquoted]
      split at h
      · next hquote =>
        obtain ⟨⟨inside, behind⟩, hfound, hparts⟩ := Option.map_eq_some_iff.1 h
        obtain ⟨rfl, rfl⟩ := Prod.mk.inj hparts
        rw [if_pos hquote, ih hfound]
        rfl
      · next hquote =>
        rw [if_neg hquote]
        split at h
        · next behind here =>
          obtain ⟨rfl, rfl⟩ := Prod.mk.inj (Option.some.inj h)
          have hshape := Text.eq_append_of_isPrefixOf? here
          rw [← List.append_assoc] at hshape
          rw [List.append_cancel_right hshape, Text.isPrefixOf?_append]
        · next here =>
          obtain ⟨⟨inside, behind⟩, hfound, hparts⟩ := Option.map_eq_some_iff.1 h
          obtain ⟨rfl, rfl⟩ := Prod.mk.inj hparts
          have hnone : delimiter.isPrefixOf? (c :: text) = none := by
            cases hsome : delimiter.isPrefixOf? (c :: text) with
            | none => rfl
            | some behind =>
              rw [Text.isPrefixOf?_append_of_some hsome] at here
              cases here
          rw [hnone, ih hfound]
          rfl

/-- A delimiter that is found only in a longer text is found at its end: it leaves less than what the text goes on by. -/
theorem length_lt_of_breakUnquoted {delimiter : List Char} (hdelimiter : delimiter ≠ [])
    (hnone : breakUnquoted delimiter none text = none)
    (h : breakUnquoted delimiter none (text ++ later) = some (before, after)) : after.length < later.length := by
  by_contra hlength
  have hshape := eq_append_of_breakUnquoted h
  obtain ⟨middle, rfl⟩ : later <:+ after :=
    List.suffix_of_suffix_length_le (List.suffix_append text later) ⟨before ++ delimiter, hshape.symm⟩
      (Nat.not_lt.1 hlength)
  rw [breakUnquoted_part hdelimiter h] at hnone
  cases hnone

/-- The text before the first marker ends in front of every marker. -/
theorem length_textBefore_le (hmarker : (Marker.at? text).isSome = true) (before : List Char) :
    (Marker.textBefore (before ++ text)).length ≤ before.length := by
  induction before with
  | nil =>
    obtain ⟨marker, hmarker⟩ := Option.isSome_iff_exists.1 hmarker
    rw [List.nil_append, textBefore_eq_nil hmarker]
  | cons c before ih =>
    rw [List.cons_append, Marker.textBefore]
    split
    · exact Nat.zero_le _
    · exact Nat.succ_le_succ ih

/-- A marker with its delimiter outside of quotes takes the text up to it at least. -/
theorem length_le_of_takeMarker {marker : Marker} {delimiter : List Char} (hclosing : closing? marker = some delimiter)
    (hended : breakUnquoted delimiter none (text.drop 2) = some (before, after))
    (h : takeMarker marker text = .taken token? rest trimNext) : rest.length ≤ after.length := by
  have hclosed : breakClosing delimiter (text.drop 2) = some (before, after) := by
    rw [breakClosing, hended]
    rfl
  cases marker with
  | comment | literal => cases hclosing
  | output =>
    obtain rfl := Option.some.inj hclosing
    rw [takeMarker, hclosed] at h
    rw [(Piece.taken.inj h).2.1]
  | tag =>
    obtain rfl := Option.some.inj hclosing
    rw [takeMarker, hclosed] at h
    have hpiece : ∃ taken, after = taken ++ rest ∧ IsPiece True ([] ++ taken) rest token? trimNext := takeTag_isPiece h
    obtain ⟨taken, hafter, -⟩ := hpiece
    rw [hafter, List.length_append]
    exact Nat.le_add_left _ _

/-- What a marker gives is never plain text. -/
theorem isMarked_of_takeMarker {marker : Marker} {token : Token}
    (h : takeMarker marker text = .taken (some token) rest trimNext) : IsMarked token := by
  cases marker with
  | comment => cases eq_none_of_comment h
  | literal =>
    obtain ⟨content, htoken⟩ := exists_raw_of_literal h
    obtain rfl := Option.some.inj htoken
    trivial
  | output =>
    obtain ⟨content, trimLeft, trimRight, htoken⟩ := exists_output_of_output h
    obtain rfl := Option.some.inj htoken
    trivial
  | tag =>
    obtain ⟨marked, htoken, hmarked⟩ := exists_marked_of_tag h
    rwa [Option.some.inj htoken]

/-- Plain text that is the same in a longer source has no comment in it that the longer source ends. -/
theorem Settled.of_data {token : Token} {rest' : List Char} {trimNext' : Bool} (hmarker : Marker.at? text = none)
    (h : takeData trimFirst text = .taken (some token) rest trimNext)
    (hlonger : takePiece trimFirst (text ++ later) = .taken (some token) rest' trimNext')
    (hlength : rest'.length = rest.length + later.length) : Settled text later := by
  refine ⟨?_, fun before behind htext hbefore hended ↦ ?_, ?_⟩
  · rintro inner rfl
    have hsome := Marker.isSome_at?_braces ('\x7b' :: inner)
    rw [hmarker] at hsome
    cases hsome
  · have hcomment : (Marker.at? ('\x7b' :: '#' :: (behind ++ later))).isSome = true := by
      rw [Marker.at?_comment, if_pos ((Text.contains_iff _ _).2 hended)]
      rfl
    have hshort := length_textBefore_le hcomment before
    have hwhole : text ++ later = before ++ '\x7b' :: '#' :: (behind ++ later) := by
      rw [htext, List.append_assoc]
      rfl
    rw [← hwhole] at hshort
    rw [takePiece] at hlonger
    cases hmarker' : Marker.at? (text ++ later) with
    | none =>
      rw [hmarker'] at hlonger
      obtain ⟨-, rfl, -⟩ := Piece.taken.inj h
      obtain ⟨-, rfl, -⟩ := Piece.taken.inj hlonger
      have hwithin := (textBefore_isPrefixOf text).length_le
      have hwithin' := (textBefore_isPrefixOf (text ++ later)).length_le
      simp only [List.length_drop, List.length_append] at hlength hwithin'
      omega
    | some marker =>
      rw [hmarker'] at hlonger
      exact not_isMarked_of_takeData h (isMarked_of_takeMarker hlonger)
  · intro delimiter hclosing
    rw [hmarker] at hclosing
    cases hclosing

/-- A marker that is the same in a longer source is given no end there that it has not. -/
theorem Settled.of_marker {marker : Marker} {token : Token} {rest' : List Char} {trimNext' : Bool}
    (hmarker : Marker.at? text = some marker) (h : takeMarker marker text = .taken (some token) rest trimNext)
    (hlonger : takePiece trimFirst (text ++ later) = .taken (some token) rest' trimNext')
    (hlength : rest'.length = rest.length + later.length) : Settled text later := by
  have hliteral (inner : List Char) (htext : text = '\x7b' :: '\x7b' :: '\x7b' :: inner)
      (hended : ['\x7d', '\x7d', '\x7d'] <:+: inner ++ later) : ['\x7d', '\x7d', '\x7d'] <:+: inner := by
    by_contra hnone
    subst htext
    rw [Marker.at?_braces, if_neg (mt (Text.contains_iff _ _).1 hnone)] at hmarker
    obtain rfl := Option.some.inj hmarker
    have hmarker' : Marker.at? ('\x7b' :: '\x7b' :: '\x7b' :: inner ++ later) = some .literal := by
      rw [List.cons_append, List.cons_append, List.cons_append, Marker.at?_braces]
      exact if_pos ((Text.contains_iff _ _).2 hended)
    obtain ⟨content, trimLeft, trimRight, houtput⟩ := exists_output_of_output h
    rw [takePiece, hmarker'] at hlonger
    obtain ⟨raw, hraw⟩ := exists_raw_of_literal hlonger
    rw [houtput] at hraw
    cases hraw
  refine ⟨hliteral, fun before behind htext hbefore ↦ ?_, fun delimiter hclosing hnone ↦ ?_⟩
  · rw [textBefore_eq_nil hmarker] at hbefore
    cases hbefore
  · have hthree := three_le_length hmarker h
    rw [hmarker] at hclosing
    rw [takePiece, Marker.at?_append_of_some hmarker hthree hliteral] at hlonger
    cases hended : breakUnquoted delimiter none (text.drop 2 ++ later) with
    | none => rfl
    | some parts =>
      -- The delimiter stands behind the source, but the marker ends in it.
      have hdelimiter : delimiter ≠ [] := by
        rintro rfl
        cases marker <;> cases hclosing
      have hbehind := length_lt_of_breakUnquoted hdelimiter hnone hended
      have hdrop : (text ++ later).drop 2 = text.drop 2 ++ later :=
        List.drop_append_of_le_length (Nat.le_of_succ_le hthree)
      rw [← hdrop] at hended
      have hrest := length_le_of_takeMarker hclosing hended hlonger
      omega

/-- A piece that gives the same token of the same text in a longer source is settled. -/
theorem Settled.of_token {token : Token} {rest' : List Char} {trimNext' : Bool}
    (h : takePiece trimFirst text = .taken (some token) rest trimNext)
    (hlonger : takePiece trimFirst (text ++ later) = .taken (some token) rest' trimNext')
    (hlength : rest'.length = rest.length + later.length) : Settled text later := by
  rw [takePiece] at h
  cases hmarker : Marker.at? text with
  | none =>
    rw [hmarker] at h
    exact .of_data hmarker h hlonger hlength
  | some marker =>
    rw [hmarker] at h
    exact .of_marker hmarker h hlonger hlength

/-- A brace that text does not have stands in front of it. -/
theorem isSuffix_of_not_mem (hbrace : '\x7d' ∉ later) (h : text ++ later = before ++ '\x7d' :: after) :
    later <:+ after := by
  obtain ⟨more, -, rfl⟩ | ⟨more, -, hmore⟩ := List.append_eq_append_iff.1 h
  · exact (hbrace (by simp)).elim
  · cases more with
    | nil =>
      rw [List.nil_append] at hmore
      exact (hbrace (hmore ▸ List.mem_cons_self)).elim
    | cons c more =>
      rw [List.cons_append] at hmore
      exact ⟨more, (List.cons.inj hmore).2.symm⟩

/-- What ends in such a brace does not reach into the text. -/
theorem isInfix_of_not_mem (front : List Char) (hbrace : '\x7d' ∉ later)
    (h : front ++ ['\x7d'] <:+: text ++ later) : front ++ ['\x7d'] <:+: text := by
  obtain ⟨before, after, hshape⟩ := h
  have hsource : text ++ later = (before ++ front) ++ '\x7d' :: after := by simp [← hshape]
  obtain ⟨more, rfl⟩ := isSuffix_of_not_mem hbrace hsource
  have hsame : before ++ (front ++ ['\x7d']) ++ more ++ later = text ++ later := by simpa using hshape
  exact ⟨before, more, List.append_cancel_right hsame⟩

/-- Text without a closing brace closes nothing. -/
theorem Settled.of_not_mem (hbrace : '\x7d' ∉ later) (text : List Char) : Settled text later := by
  refine ⟨fun inner _ ↦ isInfix_of_not_mem ['\x7d', '\x7d'] hbrace,
    fun before rest htext hbefore hended ↦ ?_, fun delimiter hclosing hnone ↦ ?_⟩
  · have hwithin : ['#', '\x7d'] <:+: rest := isInfix_of_not_mem ['#'] hbrace hended
    have hcomment : (Marker.at? ('\x7b' :: '#' :: rest)).isSome = true := by
      rw [Marker.at?_comment, if_pos ((Text.contains_iff _ _).2 hwithin)]
      rfl
    have hshort := length_textBefore_le hcomment before
    rw [← htext] at hshort
    exact (Nat.not_lt.2 hshort hbefore).elim
  · obtain ⟨front, rfl⟩ : ∃ front, delimiter = front ++ ['\x7d'] := by
      obtain ⟨marker, -, hmarker⟩ := Option.bind_eq_some_iff.1 hclosing
      cases marker with
      | comment | literal => cases hmarker
      | output =>
        obtain rfl := Option.some.inj hmarker
        exact ⟨['\x7d'], rfl⟩
      | tag =>
        obtain rfl := Option.some.inj hmarker
        exact ⟨['%'], rfl⟩
    cases hended : breakUnquoted (front ++ ['\x7d']) none (text.drop 2 ++ later) with
    | none => rfl
    | some parts =>
      have hshort := length_lt_of_breakUnquoted (List.concat_ne_nil _ _) hnone hended
      have hshape : text.drop 2 ++ later = (parts.1 ++ front) ++ '\x7d' :: parts.2 := by
        simp [eq_append_of_breakUnquoted hended]
      exact (Nat.not_lt.2 (isSuffix_of_not_mem hbrace hshape).length_le hshort).elim

end Lexer

end Liquid
