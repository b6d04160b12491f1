import Liquid.Proofs.Token.Lookahead

/-!
# Comments

A comment is recognised where an end stands anywhere behind its opening, and it is taken up to the first end that the
text has from the opening on. The two agree unless a closing brace stands directly behind the opening, whose number sign
then begins an end, too. An opening that no end follows is part of the text around it.
-/

namespace Liquid

variable {text before inside after plain later kept : List Char}

namespace Text

/-- Not even a part of a pattern's first occurrence is needed for an earlier one. -/
theorem not_isInfix_of_breakOn {pattern : List Char} (hpattern : pattern ≠ [])
    (h : breakOn pattern text = some (before, after)) : ¬pattern <:+: before ++ pattern.dropLast := by
  induction text generalizing before with
  | nil =>
    rw [breakOn, if_neg fun hempty ↦ hpattern (List.isEmpty_iff.1 hempty)] at h
    cases h
  | cons c rest ih =>
    rw [breakOn] at h
    split at h
    · obtain ⟨rfl, -⟩ := Prod.mk.inj (Option.some.inj h)
      intro hwithin
      have hlength := hwithin.length_le
      have hpositive := List.length_pos_iff.2 hpattern
      rw [List.nil_append, List.length_dropLast] at hlength
      omega
    · next hhere =>
      obtain ⟨⟨front, behind⟩, hfound, hparts⟩ := Option.map_eq_some_iff.1 h
      obtain ⟨rfl, rfl⟩ := Prod.mk.inj hparts
      rw [List.cons_append, List.infix_cons_iff, not_or]
      refine ⟨fun hstarts ↦ ?_, ih hfound⟩
      -- what begins here begins here in the whole text
      have hpart : c :: (front ++ pattern.dropLast) <+: c :: rest := by
        rw [eq_append_of_breakOn hfound, List.append_assoc, List.prefix_cons_inj, List.prefix_append_right_inj]
        exact (List.dropLast_prefix pattern).trans (List.prefix_append pattern behind)
      obtain ⟨later, hlater⟩ := hstarts.trans hpart
      rw [← hlater, isPrefixOf?_append] at hhere
      cases hhere

end Text

namespace Lexer

/-! ## From the opening to the first end -/

/-- A text begins with a comment that goes through the first end behind its opening. -/
structure BeginsWithComment (text inside after : List Char) : Prop where
  shape : text = ['\x7b', '#'] ++ inside ++ ['#', '\x7d'] ++ after
  first : ¬['#', '\x7d'] <:+: inside ++ ['#']

/-- A comment is recognised exactly where there is one. -/
theorem at?_eq_comment_iff :
    Marker.at? text = some .comment ↔ ∃ inside after, BeginsWithComment text inside after := by
  constructor
  · intro h
    obtain ⟨behind, rfl, hended⟩ := exists_opening_of_comment h
    obtain ⟨⟨inside, after⟩, hfound⟩ := Option.isSome_iff_exists.1 hended
    refine ⟨inside, after, ?_, Text.not_isInfix_of_breakOn (List.cons_ne_nil _ _) hfound⟩
    rw [Text.eq_append_of_breakOn hfound]
    rfl
  · rintro ⟨inside, after, rfl, -⟩
    exact if_pos ((Text.contains_iff _ _).2 ⟨inside, after, rfl⟩)

namespace BeginsWithComment

theorem breakOn_eq (h : BeginsWithComment text inside after) :
    Text.breakOn ['#', '\x7d'] (inside ++ ['#', '\x7d'] ++ after) = some (inside, after) := by
  have hfirst := h.first
  clear h
  induction inside with
  | nil => exact rfl
  | cons c inside ih =>
    rw [List.cons_append, List.infix_cons_iff, not_or] at hfirst
    have hhere : ['#', '\x7d'].isPrefixOf? (c :: (inside ++ ['#', '\x7d'] ++ after)) = none := by
      cases hfound : ['#', '\x7d'].isPrefixOf? (c :: (inside ++ ['#', '\x7d'] ++ after)) with
      | none => rfl
      | some rest =>
        obtain ⟨rfl, hrest⟩ := List.cons.inj (Text.eq_append_of_isPrefixOf? hfound)
        cases inside with
        | nil => cases hrest
        | cons d inside =>
          obtain rfl := (List.cons.inj hrest).1
          exact (hfirst.1 ⟨inside ++ ['#'], rfl⟩).elim
    rw [List.cons_append, List.cons_append, Text.breakOn, hhere, ih hfirst.2]
    rfl

/-- The whole comment is taken, unless its text begins with a closing brace. -/
theorem takePiece_eq (h : BeginsWithComment text inside after) (hinside : inside.head? ≠ some '\x7d')
    (trimFirst : Bool) : takePiece trimFirst text = .taken none after false := by
  have hmarker := at?_eq_comment_iff.2 ⟨inside, after, h⟩
  have hnumber : ['#', '\x7d'].isPrefixOf? ('#' :: (inside ++ ['#', '\x7d'] ++ after)) = none := by
    cases inside with
    | nil => rfl
    | cons c inside =>
      have hc : '\x7d' ≠ c := fun hsame ↦ hinside (congrArg some hsame.symm)
      exact if_neg fun hsame ↦ hc (eq_of_beq hsame)
  have hbreak : Text.breakOn ['#', '\x7d'] text = some ('\x7b' :: '#' :: inside, after) := by
    rw [h.shape]
    change (Text.breakOn ['#', '\x7d'] ('#' :: (inside ++ ['#', '\x7d'] ++ after))).map _ = _
    rw [Text.breakOn, hnumber, h.breakOn_eq]
    rfl
  rw [takePiece, hmarker]
  dsimp only [takeMarker]
  rw [hbreak]

/-- If it does, the number sign of the opening and the brace are taken for the end. -/
theorem takePiece_eq_of_brace (h : BeginsWithComment text ('\x7d' :: inside) after) (trimFirst : Bool) :
    takePiece trimFirst text = .taken none (inside ++ ['#', '\x7d'] ++ after) false := by
  rw [h.shape]
  exact takePiece_overlappingComment trimFirst ⟨inside, after, rfl⟩

end BeginsWithComment

/-! ## Openings without an end -/

/-- An opening that no end follows is text before the first marker, if everything in front of it is. -/
theorem opening_isPrefixOf_textBefore (htext : text = plain ++ ['\x7b', '#'] ++ later)
    (hplain : plain <+: Marker.textBefore text) (hopen : ¬['#', '\x7d'] <:+: later) :
    plain ++ ['\x7b', '#'] <+: Marker.textBefore text := by
  subst htext
  induction plain with
  | nil =>
    have hmarker : Marker.at? ('\x7b' :: '#' :: later) = none :=
      if_neg fun hended ↦ hopen ((Text.contains_iff _ _).1 hended)
    refine ⟨Marker.textBefore later, ?_⟩
    change _ = Marker.textBefore ('\x7b' :: '#' :: later)
    rw [Marker.textBefore, hmarker]
    rfl
  | cons c plain ih =>
    rw [List.cons_append, List.cons_append, Marker.textBefore] at hplain ⊢
    split at hplain
    · exact absurd (List.prefix_nil.1 hplain) (List.cons_ne_nil c plain)
    · next hmarker =>
      rw [if_neg hmarker, List.prefix_cons_inj]
      exact ih ((List.prefix_cons_inj c).1 hplain)

/-- Trimming the start of a text takes nothing of an opening in it. -/
theorem TrimmedStart.opening (h : TrimmedStart (plain ++ '\x7b' :: after) kept) :
    ∃ front, kept = front ++ '\x7b' :: after ∧ front <:+ plain := by
  obtain ⟨run, htext, hblank, -⟩ := h
  obtain ⟨more, rfl, hmore⟩ | ⟨more, rfl, hkept⟩ := List.append_eq_append_iff.1 htext
  · cases more with
    | nil => exact ⟨[], hmore.symm, List.nil_suffix⟩
    | cons c more =>
      obtain ⟨rfl, -⟩ := List.cons.inj hmore
      have hbrace := hblank '\x7b' (List.mem_append_right plain List.mem_cons_self)
      exact absurd hbrace (by decide)
  · exact ⟨more, hkept, List.suffix_append run more⟩

/-- What is trimmed at the end of a text has no number sign. -/
theorem TrimmedEnd.exists_dropped (h : TrimmedEnd text kept) : ∃ dropped, text = kept ++ dropped ∧ '#' ∉ dropped := by
  cases h with
  | run _ hblank => exact ⟨_, rfl, fun hnumber ↦ absurd (hblank _ hnumber) (by decide)⟩
  | returned => exact ⟨_, rfl, by decide⟩
  | broken => exact ⟨_, rfl, by decide⟩
  | same => exact ⟨[], (List.append_nil text).symm, List.not_mem_nil⟩

/-- Trimming takes nothing of an opening in a text. -/
theorem Trimmed.opening {atStart atEnd : Prop} (h : Trimmed atStart atEnd (plain ++ ['\x7b', '#'] ++ later) kept) :
    ∃ front rest, kept = front ++ ['\x7b', '#'] ++ rest ∧ front <:+ plain ∧ rest <+: later := by
  obtain ⟨middle, hstart, hsame, hend, hnone⟩ := h
  obtain ⟨front, rfl, hfront⟩ : ∃ front, middle = front ++ ['\x7b', '#'] ++ later ∧ front <:+ plain := by
    by_cases hasked : atStart
    · have htrimmed := hstart hasked
      rw [List.append_assoc] at htrimmed
      obtain ⟨front, rfl, hfront⟩ := htrimmed.opening
      exact ⟨front, by rw [List.append_assoc]; rfl, hfront⟩
    · exact ⟨plain, hsame hasked, List.suffix_rfl⟩
  obtain ⟨dropped, hmiddle, hdropped⟩ : ∃ dropped, front ++ ['\x7b', '#'] ++ later = kept ++ dropped ∧ '#' ∉ dropped := by
    by_cases hasked : atEnd
    · exact (hend hasked).exists_dropped
    · exact ⟨[], by rw [List.append_nil, hnone hasked], List.not_mem_nil⟩
  obtain ⟨rest, rfl, hrest⟩ | ⟨more, hopening, rfl⟩ := List.append_eq_append_iff.1 hmiddle
  · exact ⟨front, rest, rfl, hfront, ⟨dropped, hrest.symm⟩⟩
  · obtain rfl | ⟨more, c, rfl⟩ := List.eq_nil_or_concat more
    · rw [List.append_nil] at hopening
      exact ⟨front, [], by rw [List.append_nil, hopening], hfront, List.nil_prefix⟩
    · have hwhole : (front ++ ['\x7b']) ++ ['#'] = (kept ++ more) ++ [c] := by simpa using hopening
      obtain rfl := (List.cons.inj (List.append_inj_right' hwhole rfl)).1
      exact (hdropped (by simp)).elim

end Lexer

namespace TokenStream

open Lexer Position

variable {source : String} {lexer final : Lexer} {tokens earlier : List PlacedToken}

theorem Takes.failure_eq (h : Takes lexer tokens final) : (ofLexer lexer).failure = (ofLexer final).failure := by
  induction h with
  | here lexer => rfl
  | gap hrest hpiece hothers ih => rw [ofLexer_of_gap hrest hpiece, ih]
  | token hrest hpiece hothers ih => rw [ofLexer_of_token hrest hpiece, ih]

/-- The tokens of the pieces taken end where the lexer stands, or before. -/
theorem Takes.stop_le (h : Takes lexer tokens final) :
    ∀ placed ∈ tokens, placed.span.stop.offset ≤ final.position.offset := by
  induction h with
  | here lexer => exact fun _ ↦ False.elim ∘ List.not_mem_nil
  | gap hrest hpiece hothers ih => exact ih
  | @token lexer final token rest trimNext tokens hrest hpiece hothers ih =>
    intro placed hmem
    obtain rfl | hmem := List.mem_cons.1 hmem
    · obtain ⟨taken, -, hposition⟩ := hothers.exists_taken
      rw [hposition]
      exact Position.offset_le_after _ taken
    · exact ih placed hmem

/-- What a lexer has left is the end of its source, and it stands behind the rest. -/
theorem Takes.exists_before (h : Takes (.start source) earlier lexer) :
    ∃ before, source.toList = before ++ lexer.rest ∧ lexer.position = behind before := by
  obtain ⟨before, hsource, hposition⟩ := h.exists_taken
  exact ⟨before, hsource, hposition.trans (after_behind [] before)⟩

/-- No token takes anything of a stretch of a source: the tokens in front of it end where it begins, and the others are
those that the text behind it gives from its end on. -/
structure Skips (source : String) (earlier : List PlacedToken) (before stretch after : List Char) : Prop where
  whole : source.toList = before ++ stretch ++ after
  tokens : (ofSource source).tokens = earlier ++ (ofLexer ⟨after, behind (before ++ stretch), false⟩).tokens
  failure : (ofSource source).failure = (ofLexer ⟨after, behind (before ++ stretch), false⟩).failure
  front : ∀ placed ∈ earlier, placed.span.stop.offset ≤ (behind before).offset
  back : ∀ placed ∈ (ofLexer ⟨after, behind (before ++ stretch), false⟩).tokens,
    (behind (before ++ stretch)).offset ≤ placed.span.start.offset

/-- A piece without a token is skipped if no trimming is asked for behind it. -/
theorem Takes.skips {stretch : List Char} (h : Takes (.start source) earlier lexer)
    (hsource : source.toList = before ++ lexer.rest) (hposition : lexer.position = behind before)
    (hrest : lexer.rest = stretch ++ after) (hstretch : stretch ≠ [])
    (hpiece : takePiece lexer.trimNext lexer.rest = .taken none after false) :
    Skips source earlier before stretch after := by
  have hne : lexer.rest ≠ [] := hrest ▸ List.append_ne_nil_of_left_ne_nil hstretch after
  have hmoved : lexer.moveTo after false = ⟨after, behind (before ++ stretch), false⟩ := by
    rw [moveTo, hrest, List.length_append, Nat.add_sub_cancel, List.take_left, hposition, after_behind]
  have hothers := ofLexer_of_gap hne hpiece
  rw [hmoved] at hothers
  refine ⟨?_, ?_, ?_, hposition ▸ h.stop_le, fun placed hmem ↦ offset_le_of_mem hmem⟩
  · rw [hsource, hrest, List.append_assoc]
  · rw [ofSource_eq_ofLexer, h.tokens_eq, hothers]
  · rw [ofSource_eq_ofLexer, h.failure_eq, hothers]

/-- An opening that no end follows is in the token of the text around it. -/
theorem Takes.exists_data_of_opening (h : Takes (.start source) earlier lexer)
    (hrest : lexer.rest = plain ++ ['\x7b', '#'] ++ later) (hplain : plain <+: Marker.textBefore lexer.rest)
    (hopen : ¬['#', '\x7d'] <:+: later) :
    ∃ front rest stop others, front <:+ plain ∧ rest <+: later ∧ (ofSource source).tokens =
      earlier ++ ⟨.data (String.ofList (front ++ ['\x7b', '#'] ++ rest)), ⟨lexer.position, stop⟩⟩ :: others := by
  obtain ⟨more, htextBefore⟩ := opening_isPrefixOf_textBefore hrest hplain hopen
  have hne : lexer.rest ≠ [] := by
    rw [hrest]
    simp
  have hmarker : Marker.at? lexer.rest = none := by
    cases hmarker : Marker.at? lexer.rest with
    | none => rfl
    | some marker =>
      rw [textBefore_eq_nil hmarker] at htextBefore
      simp at htextBefore
  obtain ⟨kept, htrimmed, hdata⟩ := takeData_eq lexer.trimNext lexer.rest
  rw [← htextBefore] at htrimmed
  obtain ⟨front, rest, rfl, hfront, hmore⟩ := htrimmed.opening
  have hlater : more <+: later := by
    have hwhole := textBefore_isPrefixOf lexer.rest
    rw [← htextBefore, hrest] at hwhole
    exact (List.prefix_append_right_inj _).1 hwhole
  have hkept : (front ++ ['\x7b', '#'] ++ rest).isEmpty = false := by simp
  rw [hkept, if_neg Bool.false_ne_true] at hdata
  have hpiece : takePiece lexer.trimNext lexer.rest = takeData lexer.trimNext lexer.rest := by rw [takePiece, hmarker]
  have htokens := h.tokens_eq
  rw [← ofSource_eq_ofLexer, ofLexer_of_token hne (hpiece.trans hdata)] at htokens
  exact ⟨front, rest, _, _, hfront, hmore.trans hlater, htokens⟩

/-- Wherever the lexer comes to in a source, it recognises a comment exactly where an opening and an end behind it
stand. No token takes anything of the comment, through the first end behind the opening, and what follows is read from
there on. If a closing brace stands directly behind the opening, however, this holds of these three characters and what
follows them. An opening without an end that the lexer comes to in the text before the next marker stays in the token of
this text. -/
theorem comment_skipped (htakes : Takes (.start source) earlier lexer) :
    ∃ before, source.toList = before ++ lexer.rest ∧ lexer.position = behind before ∧
      (Marker.at? lexer.rest = some .comment ↔ ∃ inside after, BeginsWithComment lexer.rest inside after) ∧
      (∀ inside after, BeginsWithComment lexer.rest inside after → inside.head? ≠ some '\x7d' →
        Skips source earlier before (['\x7b', '#'] ++ inside ++ ['#', '\x7d']) after) ∧
      (∀ inside after, BeginsWithComment lexer.rest ('\x7d' :: inside) after →
        Skips source earlier before overlappingComment (inside ++ ['#', '\x7d'] ++ after)) ∧
      ∀ plain later, lexer.rest = plain ++ ['\x7b', '#'] ++ later → plain <+: Marker.textBefore lexer.rest →
        ¬['#', '\x7d'] <:+: later →
          ∃ front rest stop others, front <:+ plain ∧ rest <+: later ∧ (ofSource source).tokens =
            earlier ++ ⟨.data (String.ofList (front ++ ['\x7b', '#'] ++ rest)), ⟨behind before, stop⟩⟩ :: others := by
  obtain ⟨before, hsource, hposition⟩ := htakes.exists_before
  refine ⟨before, hsource, hposition, at?_eq_comment_iff, ?_, ?_, ?_⟩
  · intro inside after hcomment hinside
    exact htakes.skips hsource hposition hcomment.shape (List.cons_ne_nil _ _) (hcomment.takePiece_eq hinside _)
  · intro inside after hcomment
    have hrest : lexer.rest = overlappingComment ++ (inside ++ ['#', '\x7d'] ++ after) := hcomment.shape
    exact htakes.skips hsource hposition hrest (List.cons_ne_nil _ _) (hcomment.takePiece_eq_of_brace _)
  · intro plain later hrest hplain hopen
    rw [← hposition]
    exact htakes.exists_data_of_opening hrest hplain hopen

/-- A source with a comment and, behind it, an opening without an end. -/
def commented : String := "a\x7b# b #\x7dc\x7b# d"

/-- The comment is skipped, and the opening behind it is in a token. -/
theorem comment_skipped_commented :
    ∃ earlier atComment atOpening, Takes (.start commented) earlier atComment ∧
      Skips commented earlier ['a'] "\x7b# b #\x7d".toList "c\x7b# d".toList ∧
      Takes (.start commented) earlier atOpening ∧ ∃ front rest stop others, (ofSource commented).tokens =
        earlier ++ ⟨.data (String.ofList (front ++ ['\x7b', '#'] ++ rest)), ⟨⟨1, 8, 8⟩, stop⟩⟩ :: others := by
  have hnonempty : (Lexer.start commented).rest ≠ [] := by decide
  have hdata : takePiece (Lexer.start commented).trimNext (Lexer.start commented).rest =
      .taken (some (.data "a")) "\x7b# b #\x7dc\x7b# d".toList false := rfl
  have hcomment := Takes.token hnonempty hdata (.here _)
  have hgap : takePiece false "\x7b# b #\x7dc\x7b# d".toList = .taken none "c\x7b# d".toList false := rfl
  have hopening := Takes.token hnonempty hdata (.gap (by decide) hgap (.here _))
  refine ⟨_, _, _, hcomment, ?_, hopening, ?_⟩
  · obtain ⟨before, hsource, -, -, hskips, -⟩ := comment_skipped hcomment
    obtain rfl : ['a'] = before := List.append_cancel_right (show ['a'] ++ _ = _ from hsource)
    exact hskips [' ', 'b', ' '] _ ⟨rfl, by decide⟩ (by decide)
  · obtain ⟨before, -, hposition, -, -, -, hkept⟩ := comment_skipped hopening
    have hplain : ['c'] <+: Marker.textBefore "c\x7b# d".toList := ⟨"\x7b# d".toList, by decide⟩
    obtain ⟨front, rest, stop, others, -, -, htokens⟩ := hkept ['c'] [' ', 'd'] rfl hplain (by decide)
    rw [← hposition] at htokens
    exact ⟨front, rest, stop, others, htokens⟩

/-- A source with a comment whose opening is directly followed by a closing brace. -/
def closedEarly : String := "\x7b#\x7da#\x7db"

/-- The comment is not skipped up to its end. -/
theorem closedEarly_not_skipped :
    Takes (.start closedEarly) [] (.start closedEarly) ∧
      Marker.at? closedEarly.toList = some .comment ∧ BeginsWithComment closedEarly.toList ['\x7d', 'a'] ['b'] ∧
      ¬Skips closedEarly [] [] (['\x7b', '#'] ++ ['\x7d', 'a'] ++ ['#', '\x7d']) ['b'] := by
  refine ⟨.here _, rfl, ⟨rfl, by decide⟩, fun hskips ↦ ?_⟩
  exact absurd hskips.tokens (by decide +kernel)

end TokenStream
end Liquid
