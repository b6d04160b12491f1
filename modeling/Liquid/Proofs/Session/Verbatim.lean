import Liquid.Proofs.Render.Opening
import Liquid.Proofs.Session.History
import Liquid.Proofs.Token.Lookahead

/-!
# Text that is no markup

A text in which no marker begins comes out as it is, and so does a text between a tag that begins such text and its end
tag, whatever braces, quotes and parts of end tags there are in it. The search for the end tag goes over false beginnings
of it, also over those that the text leaves for the real one to continue: behind its first brace an end tag has no brace
that could begin another one.
-/

namespace Liquid

/-! ## Texts without markers -/

namespace Marker

/-- No marker begins anywhere in a text; a comment begins only where its end follows. -/
structure IsFree (text : List Char) : Prop where
  no_output : ¬['\x7b', '\x7b'] <:+: text
  no_tag : ¬['\x7b', '%'] <:+: text
  no_comment : ∀ before after, text = before ++ ['\x7b', '#'] ++ after → ¬['#', '\x7d'] <:+: after

namespace IsFree

variable {c : Char} {rest text : List Char}

theorem nil : IsFree [] where
  no_output := by decide
  no_tag := by decide
  no_comment before after h := by simp at h

theorem tail (h : IsFree (c :: rest)) : IsFree rest where
  no_output hinside := h.no_output (hinside.trans (List.suffix_cons c rest).isInfix)
  no_tag hinside := h.no_tag (hinside.trans (List.suffix_cons c rest).isInfix)
  no_comment before after hrest := h.no_comment (c :: before) after (by rw [hrest]; rfl)

theorem at?_eq_none (h : IsFree text) : at? text = none := by
  unfold at?
  split
  · next rest => exact (h.no_output ⟨[], rest, rfl⟩).elim
  · next rest => exact (h.no_tag ⟨[], rest, rfl⟩).elim
  · next rest =>
    have hend : ¬Text.contains ['#', '\x7d'] rest = true := fun hcontains ↦
      h.no_comment [] rest rfl ((Text.contains_iff _ _).1 hcontains)
    exact if_neg hend
  · rfl

/-- The text before the first marker is all of it. -/
theorem textBefore_eq (h : IsFree text) : textBefore text = text := by
  induction text with
  | nil => rfl
  | cons c rest ih =>
    rw [textBefore, h.at?_eq_none, ih h.tail]
    rfl

/-- A text is free of markers if none begins where the lexer looks for one. -/
theorem of_textBefore_eq (h : textBefore text = text) : IsFree text := by
  have hnone (before : List Char) {after : List Char} (hafter : after ≠ []) (htext : text = before ++ after) :
      ¬(at? after).isSome = true := by
    intro hmarker
    have hlength := Lexer.length_textBefore_le hmarker before
    have hpositive := List.length_pos_iff.2 hafter
    rw [← htext, h, htext, List.length_append] at hlength
    omega
  refine ⟨?_, ?_, ?_⟩
  · rintro ⟨before, after, htext⟩
    rw [List.append_assoc] at htext
    exact hnone before (List.cons_ne_nil _ _) htext.symm (isSome_at?_braces after)
  · rintro ⟨before, after, htext⟩
    rw [List.append_assoc] at htext
    exact hnone before (List.cons_ne_nil _ _) htext.symm rfl
  · intro before after htext hend
    rw [List.append_assoc] at htext
    have hcomment : at? ('\x7b' :: '#' :: after) = some comment := if_pos ((Text.contains_iff _ _).2 hend)
    exact hnone before (List.cons_ne_nil _ _) htext (congrArg Option.isSome hcomment)

end IsFree

instance (text : List Char) : Decidable (IsFree text) :=
  decidable_of_iff (textBefore text = text) ⟨.of_textBefore_eq, IsFree.textBefore_eq⟩

end Marker

/-! ## Texts without end tags -/

namespace Lexer

/-- A complete end tag of a name: a hyphen or none, blanks, the name, blanks and a hyphen or none. -/
inductive IsEndTag (name : List Char) : List Char → Prop where
  | mk {hyphen blanks moreBlanks lastHyphen : List Char} (hhyphen : hyphen = [] ∨ hyphen = ['-'])
      (hblanks : ∀ c ∈ blanks, Text.isBlank c) (hmoreBlanks : ∀ c ∈ moreBlanks, Text.isBlank c)
      (hlastHyphen : lastHyphen = [] ∨ lastHyphen = ['-']) :
      IsEndTag name (['\x7b', '%'] ++ hyphen ++ blanks ++ name ++ moreBlanks ++ lastHyphen ++ ['%', '\x7d'])

variable {name content ending rest text : List Char} {trimLeft trimRight : Bool}

theorem exists_hyphen (text : List Char) :
    ∃ hyphen, (hyphen = [] ∨ hyphen = ['-']) ∧ text = hyphen ++ (dropHyphen text).2 := by
  obtain ⟨hyphen, htext, hsome, hnone⟩ := dropHyphen_split text
  cases hdropped : (dropHyphen text).1 with
  | true => exact ⟨hyphen, .inr (hsome hdropped), htext⟩
  | false => exact ⟨hyphen, .inl (hnone hdropped), htext⟩

/-- What is taken for an end tag is one. -/
theorem exists_isEndTag (h : endTag? name text = some (trimLeft, trimRight, rest)) :
    ∃ tag, IsEndTag name tag ∧ text = tag ++ rest := by
  unfold endTag? at h
  split at h
  · next behind =>
    simp only [Option.bind_eq_bind, Option.bind_eq_some_iff, Option.pure_def, Option.some.injEq, Prod.mk.injEq] at h
    obtain ⟨behindName, hnamed, behindEnd, hdelimiter, -, -, rfl⟩ := h
    obtain ⟨hyphen, hhyphen, hbehind⟩ := exists_hyphen behind
    obtain ⟨blanks, hblanks, hblank⟩ := trimStart_split (dropHyphen behind).2
    obtain ⟨moreBlanks, hmoreBlanks, hmoreBlank⟩ := trimStart_split behindName
    obtain ⟨lastHyphen, hlastHyphen, hlast⟩ := exists_hyphen (Text.trimStart behindName)
    refine ⟨_, .mk hhyphen hblank hmoreBlank hlastHyphen, ?_⟩
    rw [hbehind, hblanks, Text.eq_append_of_isPrefixOf? hnamed, hmoreBlanks, hlast,
      Text.eq_append_of_isPrefixOf? hdelimiter]
    simp only [List.append_assoc, List.cons_append, List.nil_append]
  · cases h

/-- In front of an end tag no other one begins in a text that has none: it would have to go on behind the brace that begins
the real one. -/
theorem endTag?_append_eq_none (hname : '\x7b' ∉ name) (hcontent : ∀ tag, IsEndTag name tag → ¬tag <:+: text)
    (htext : text ≠ []) (rest : List Char) : endTag? name (text ++ '\x7b' :: rest) = none := by
  cases hended : endTag? name (text ++ '\x7b' :: rest) with
  | none => rfl
  | some ended =>
    obtain ⟨left, right, behind⟩ := ended
    obtain ⟨body, hbody, hfree, hlocal⟩ := endTag?_local hname hended
    obtain ⟨c, others, rfl⟩ := List.exists_cons_of_ne_nil htext
    obtain ⟨rfl, hothers⟩ := List.cons.inj hbody
    have hinside : ∃ further, others = body ++ further := by
      obtain ⟨further, rfl, hbehind⟩ | ⟨further, hover, -⟩ := List.append_eq_append_iff.1 hothers
      · cases further with
        | nil => exact ⟨[], by rw [List.append_nil, List.append_nil]⟩
        | cons d further =>
          obtain ⟨rfl, -⟩ := List.cons.inj hbehind
          exact (hfree (List.mem_append_right others List.mem_cons_self)).elim
      · exact ⟨further, hover⟩
    obtain ⟨further, rfl⟩ := hinside
    obtain ⟨tag, htag, hshape⟩ := exists_isEndTag (hlocal further)
    exact (hcontent tag htag ⟨[], further, hshape.symm⟩).elim

/-- The text in front of the first end tag is all of a text that has none itself. -/
theorem breakEndTag_append_eq (hname : '\x7b' ∉ name) (hcontent : ∀ tag, IsEndTag name tag → ¬tag <:+: content)
    (hending : endTag? name ('\x7b' :: ending) = some (trimLeft, trimRight, rest)) :
    breakEndTag name (content ++ '\x7b' :: ending) = some (content, trimLeft, trimRight, rest) := by
  induction content with
  | nil => rw [List.nil_append, breakEndTag, hending]
  | cons c content ih =>
    have hnone := endTag?_append_eq_none hname hcontent (List.cons_ne_nil c content) ending
    have hrest := ih fun tag htag hinside ↦ hcontent tag htag (hinside.trans (List.suffix_cons c content).isInfix)
    rw [List.cons_append] at hnone
    rw [List.cons_append, breakEndTag, hnone, hrest]
    rfl

end Lexer

/-! ## Their tokens -/

/-- The tags between which text is no markup. -/
inductive IsRawTag : String → Prop where
  | raw : IsRawTag "raw"
  | literal : IsRawTag "literal"

/-- A text between a tag that begins text that is no markup and its end tag. -/
def enclosedRaw (name text : String) : String := "\x7b% " ++ name ++ " %\x7d" ++ text ++ "\x7b% end" ++ name ++ " %\x7d"

namespace TokenStream

open Lexer

/-- One token is all of a source. -/
theorem ofSource_of_token {source : String} {token : Token} {trimNext : Bool} (hsource : source.toList ≠ [])
    (hpiece : takePiece false source.toList = .taken (some token) [] trimNext) :
    ∃ span, ofSource source = ⟨[⟨token, span⟩], none⟩ := by
  have hlexer : ofLexer (Lexer.start source) = _ := ofLexer_of_token hsource hpiece
  have hbehind : ofLexer ((Lexer.start source).moveTo [] trimNext) = ⟨[], none⟩ := ofLexer_of_nil rfl
  rw [hbehind] at hlexer
  exact ⟨_, (ofSource_eq_ofLexer source).trans hlexer⟩

/-- A text without markers is one token of plain text, or none if it is empty. -/
theorem ofSource_of_isFree {source : String} (h : Marker.IsFree source.toList) :
    source = "" ∧ ofSource source = ⟨[], none⟩ ∨ ∃ span, ofSource source = ⟨[⟨.data source, span⟩], none⟩ := by
  by_cases hsource : source.toList = []
  · obtain rfl : source = "" := String.toList_inj.1 hsource
    exact .inl ⟨rfl, rfl⟩
  · have hpiece : takePiece false source.toList = .taken (some (.data source)) [] false := by
      have hempty : source.toList.isEmpty = false := by simpa using hsource
      have hmarker : Marker.trimsBefore [] = false := rfl
      rw [takePiece, h.at?_eq_none]
      simp only [takeData, h.textBefore_eq, List.drop_length, Bool.false_eq_true, if_false, hmarker, hempty,
        String.ofList_toList]
    exact .inr (ofSource_of_token hsource hpiece)

/-- A text without an end tag in it is one token between its tags. -/
theorem ofSource_enclosedRaw {name text : String} (hname : IsRawTag name)
    (htext : ∀ tag, IsEndTag ("end" ++ name).toList tag → ¬tag <:+: text.toList) :
    ∃ span, ofSource (enclosedRaw name text) = ⟨[⟨.raw text, span⟩], none⟩ := by
  have hlist : (enclosedRaw name text).toList =
      ("\x7b% " ++ name ++ " %\x7d").toList ++ (text.toList ++ '\x7b' :: ("% end" ++ name ++ " %\x7d").toList) := by
    simp [enclosedRaw]
  have hopening (rest : List Char) : takePiece false (("\x7b% " ++ name ++ " %\x7d").toList ++ rest) =
      takeRaw name.toList false rest := by
    cases hname <;> rfl
  have hclosing : endTag? ("end" ++ name).toList ('\x7b' :: ("% end" ++ name ++ " %\x7d").toList) =
      some (false, false, []) := by
    cases hname <;> rfl
  have hbrace : '\x7b' ∉ ("end" ++ name).toList := by
    cases hname <;> decide
  have hfound := breakEndTag_append_eq hbrace htext hclosing
  have hsource : (enclosedRaw name text).toList ≠ [] := by
    rw [hlist]
    cases hname <;> exact List.cons_ne_nil _ _
  have hpiece : takePiece false (enclosedRaw name text).toList = .taken (some (.raw text)) [] false := by
    rw [String.toList_append] at hfound
    rw [hlist, hopening, takeRaw]
    simp only [hfound, Bool.false_eq_true, if_false, String.ofList_toList]
  exact ofSource_of_token hsource hpiece

end TokenStream

/-! ## Their output -/

namespace Session

open Render

/-- What parsing a source and rendering it at once gives. -/
def parseAndRender (session : Session) (drive : Drive) (name source : String) (inputs : Value) (options : RenderOptions) :
    Except Error Rendered :=
  ((do let number ← addTemplate name source; render drive number inputs options : SessionM Rendered) session).1

/-- A source that can be parsed is rendered like any template with its tree. -/
theorem parseAndRender_of_parse {session : Session} {name source : String} {root : Block}
    (h : session.environment.parse name source = .ok root) (drive : Drive) (inputs : Value) (options : RenderOptions) :
    session.parseAndRender drive name source inputs options =
      outcome (session.rendering ⟨name, source, root, [], false⟩ drive inputs options) := by
  rw [parseAndRender, SessionM.run_bind, run_addTemplate, h]
  have hadded : template? { session with templates := session.templates ++ [⟨name, source, root, [], false⟩] }
      session.templates.length = some ⟨name, source, root, [], false⟩ := by
    simp [template?]
  exact render_eq_outcome hadded drive inputs options

/-- Texts are written one after the other. -/
theorem run_texts (engine : Engine) (inclusions : Inclusion → Render Flow) (texts : List String) (drive : Drive)
    {state : RenderState} (hcancelled : state.shared.counts.cancelled ≠ some true) :
    nodes engine inclusions (texts.map .text) drive state =
      (.ok .completed, { state with output := state.output.write (String.join texts) }) := by
  induction texts generalizing state with
  | nil =>
    rw [String.join_nil, Output.write_empty]
    rfl
  | cons text texts ih =>
    have htext : node engine inclusions (.text text) drive state =
        (.ok .completed, { state with output := state.output.write text }) := rfl
    have hrest : nodes engine inclusions (texts.map .text) drive { state with output := state.output.write text } = _ :=
      ih hcancelled
    rw [List.map_cons, run_nodes_cons, if_neg hcancelled, htext]
    dsimp only
    rw [hrest, String.join_cons, Output.write_write]

/-- A tree of texts is rendered to them. -/
theorem outcome_texts {session : Session} {template : Template} {texts : List String}
    (hroot : template.root = texts.map .text) (drive : Drive) (inputs : Value) {options : RenderOptions}
    (hcancelled : options.cancelled ≠ some true) :
    outcome (session.rendering template drive inputs options) = .ok ⟨String.join texts, []⟩ := by
  rw [rendering, hroot, block, run_bind_ok (run_context drive _), run_blockWithin, run_texts _ _ _ _ hcancelled]
  have hwritten : (Output.empty.write (String.join texts)).text = String.join texts := by
    simp [Output.write, Output.empty, Output.text]
  exact congrArg (fun written ↦ (Except.ok ⟨written, []⟩ : Except Error Rendered)) hwritten

/-- A source that is parsed to texts is printed as they are. -/
theorem parseAndRender_texts {session : Session} {name source : String} {texts : List String}
    (hparse : session.environment.parse name source = .ok (texts.map .text)) (drive : Drive) (inputs : Value)
    {options : RenderOptions} (hcancelled : options.cancelled ≠ some true) :
    session.parseAndRender drive name source inputs options = .ok ⟨String.join texts, []⟩ := by
  rw [parseAndRender_of_parse hparse]
  exact outcome_texts rfl drive inputs hcancelled

/-- Text that is no markup is printed as it is, without diagnostics, in every environment and whatever the session has done
before: a text in which no output, no tag and no comment begins, and any text without an end tag of its own between a tag
that begins such text and its end tag. -/
theorem prints_verbatim (session : Session) (drive : Drive) (name text : String) (inputs : Value) (options : RenderOptions)
    (hcancelled : options.cancelled ≠ some true) :
    (Marker.IsFree text.toList → session.parseAndRender drive name text inputs options = .ok ⟨text, []⟩) ∧
    ∀ tag, IsRawTag tag → (∀ ending, Lexer.IsEndTag ("end" ++ tag).toList ending → ¬ending <:+: text.toList) →
      session.parseAndRender drive name (enclosedRaw tag text) inputs options = .ok ⟨text, []⟩ := by
  have hone : String.join [text] = text := by simp
  refine ⟨fun hfree ↦ ?_, fun tag htag hending ↦ ?_⟩
  · obtain ⟨rfl, hstream⟩ | ⟨span, hstream⟩ := TokenStream.ofSource_of_isFree hfree
    · have hparse : session.environment.parse name "" = .ok (([] : List String).map .text) := by
        rw [Environment.parse, Template.parse, hstream]
        rfl
      exact parseAndRender_texts hparse drive inputs hcancelled
    · have hparse : session.environment.parse name text = .ok ([text].map .text) := by
        rw [Environment.parse, Template.parse, hstream]
        rfl
      rw [parseAndRender_texts hparse drive inputs hcancelled, hone]
  · obtain ⟨span, hstream⟩ := TokenStream.ofSource_enclosedRaw htag hending
    have hparse : session.environment.parse name (enclosedRaw tag text) = .ok ([text].map .text) := by
      rw [Environment.parse, Template.parse, hstream]
      rfl
    rw [parseAndRender_texts hparse drive inputs hcancelled, hone]

/-- A text with braces, an opening of a comment that has no end, and a quote. -/
def loneMarks : String := "a \x7b \x7b#\x7d ' \x7d\x7d \x7b"

/-- A text with an opening of an output and an end tag that breaks off. -/
def brokenOff : String := "\x7b\x7b ' \x7b%- endraw \x7b% endliteral -% \x7b"

theorem prints_verbatim_marks :
    (start Environment.standard 0).parseAndRender .blocking "page" loneMarks .nil .none = .ok ⟨loneMarks, []⟩ ∧
      ∀ tag, IsRawTag tag →
        (start Environment.standard 0).parseAndRender .blocking "page" (enclosedRaw tag brokenOff) .nil .none =
          .ok ⟨brokenOff, []⟩ := by
  have hcancelled : RenderOptions.none.cancelled ≠ some true := by decide
  have hfree : Marker.IsFree loneMarks.toList := by decide +kernel
  have hdelimiter : ¬['%', '\x7d'] <:+: brokenOff.toList := by decide +kernel
  refine ⟨(prints_verbatim (start Environment.standard 0) .blocking "page" loneMarks .nil .none hcancelled).1 hfree, ?_⟩
  intro tag htag
  refine (prints_verbatim (start Environment.standard 0) .blocking "page" brokenOff .nil .none hcancelled).2 tag htag ?_
  rintro _ ⟨-, -, -, -⟩ hinside
  exact hdelimiter ((List.suffix_append _ _).isInfix.trans hinside)

end Session

end Liquid
