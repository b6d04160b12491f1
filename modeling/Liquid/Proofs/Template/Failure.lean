import Liquid.Environment
import Liquid.Proofs.Template.ParserSteps
import Liquid.Proofs.Template.Refusal
import Liquid.Proofs.Token.Draining

/-!
# Where a template cannot be read

Reading a template fails at a marker that cannot be read, at a token that cannot stand where it stands, or behind the last
token, if a tag is still open there. The error names the template and the line of that marker or token, which is a line of
the source.
-/

namespace Liquid

namespace Position

/-- The number of lines of a text. A line feed at its very end begins no line. -/
def lineCount (text : List Char) : Nat := if text.isEmpty then 0 else text.dropLast.count '\n' + 1

/-- A place with something behind it is in a line of the text. -/
theorem line_behind_le {before after : List Char} (hafter : after ≠ []) :
    (behind before).line ≤ lineCount (before ++ after) := by
  have hne : before ++ after ≠ [] := List.append_ne_nil_of_right_ne_nil before hafter
  rw [lineCount, if_neg fun hempty ↦ hne (List.isEmpty_iff.1 hempty), List.dropLast_append_of_ne_nil hafter,
    List.count_append, behind]
  exact Nat.succ_le_succ (Nat.le_add_right _ _)

end Position

namespace TokenStream

open Lexer Position

variable {lexer place : Lexer} {tokens : List PlacedToken}

/-- A token starts where something is left of the source. -/
theorem Takes.exists_start (h : Takes lexer tokens place) {placed : PlacedToken} (hplaced : placed ∈ tokens) :
    ∃ passed left, lexer.rest = passed ++ left ∧ left ≠ [] ∧ placed.span.start = lexer.position.after passed := by
  induction h with
  | here => cases hplaced
  | @gap lexer final rest trimNext tokens hrest hpiece hothers ih =>
    obtain ⟨taken, -, hshape, hmoved⟩ := Lexer.exists_taken hrest hpiece
    obtain ⟨passed, left, hlater, hleft, hstart⟩ := ih hplaced
    rw [moveTo_rest] at hlater
    exact ⟨taken ++ passed, left, by rw [hshape, hlater, List.append_assoc], hleft,
      by rw [hstart, hmoved, Position.after_append]⟩
  | @token lexer final token rest trimNext tokens hrest hpiece hothers ih =>
    obtain rfl | hlater := List.mem_cons.1 hplaced
    · exact ⟨[], lexer.rest, rfl, hrest, rfl⟩
    · obtain ⟨taken, -, hshape, hmoved⟩ := Lexer.exists_taken hrest hpiece
      obtain ⟨passed, left, hlater, hleft, hstart⟩ := ih hlater
      rw [moveTo_rest] at hlater
      exact ⟨taken ++ passed, left, by rw [hshape, hlater, List.append_assoc], hleft,
        by rw [hstart, hmoved, Position.after_append]⟩

/-- Places are counted from the start of the source. -/
theorem after_start (source : String) (passed : List Char) : (Lexer.start source).position.after passed = behind passed := by
  have hfirst : (Lexer.start source).position = behind [] := rfl
  rw [hfirst, after_behind, List.nil_append]

end TokenStream

namespace Template

variable {grammar : Grammar} {maxTerms line : Nat} {tree : Partial} {tokens : List PlacedToken} {fault : Fault}
  {name source : String} {error : Error}

/-- Tokens that cannot be taken one after the other can be taken up to one that is refused. -/
theorem Partial.exists_refused (h : tree.run grammar tokens = .error (fault, line)) :
    ∃ read placed unread after, tokens = read ++ placed :: unread ∧ tree.run grammar read = .ok after ∧
      after.step grammar placed = .error fault ∧ line = placed.span.start.line := by
  induction tokens generalizing tree with
  | nil => cases h
  | cons placed rest ih =>
    rw [run] at h
    cases hstep : tree.step grammar placed with
    | error other =>
      rw [hstep] at h
      cases h
      exact ⟨[], placed, rest, tree, rfl, rfl, hstep, rfl⟩
    | ok next =>
      rw [hstep] at h
      obtain ⟨read, last, unread, after, rfl, hread, hlast, hline⟩ := ih h
      exact ⟨placed :: read, last, unread, after, rfl, (run_cons_of_ok hstep).trans hread, hlast, hline⟩

/-- Reading a source fails with a fault in a line: that of a marker that cannot be read, all tokens in front of it being
taken, or else that in which the last token starts that is read. -/
inductive FailsIn (grammar : Grammar) (source : String) (fault : Fault) : (line : Nat) → Prop where
  /-- A marker cannot be read. -/
  | unreadable {before rest : List Char} {place : Lexer} {marker : Marker} {trimNext : Bool} {tree : Partial}
      (hsource : source.toList = before ++ place.rest)
      (htakes : TokenStream.Takes (.start source) (TokenStream.ofSource source).tokens place)
      (hmarker : Marker.at? place.rest = some marker)
      (hpiece : Lexer.takePiece place.trimNext place.rest = .failed fault rest trimNext)
      (hread : Partial.empty.run grammar (TokenStream.ofSource source).tokens = .ok tree) :
      FailsIn grammar source fault (before.count '\n' + 1)
  /-- A token cannot be taken. -/
  | refused {read unread : List PlacedToken} {placed : PlacedToken} {tree : Partial}
      (htokens : (TokenStream.ofSource source).tokens = read ++ placed :: unread)
      (hread : Partial.empty.run grammar read = .ok tree) (hstep : tree.step grammar placed = .error fault) :
      FailsIn grammar source fault placed.span.start.line
  /-- A tag is still open behind the last token. -/
  | unfinished {read : List PlacedToken} {placed : PlacedToken} {tree : Partial}
      (htokens : TokenStream.ofSource source = ⟨read ++ [placed], none⟩)
      (hread : Partial.empty.run grammar (read ++ [placed]) = .ok tree) (hfinish : tree.finish = .error fault) :
      FailsIn grammar source fault placed.span.start.line

/-- Where reading fails there is a line of the source. -/
theorem FailsIn.line_le (h : FailsIn grammar source fault line) :
    1 ≤ line ∧ line ≤ Position.lineCount source.toList := by
  have hstart {placed : PlacedToken} (hplaced : placed ∈ (TokenStream.ofSource source).tokens) :
      1 ≤ placed.span.start.line ∧ placed.span.start.line ≤ Position.lineCount source.toList := by
    rw [TokenStream.ofSource_eq_ofLexer] at hplaced
    obtain ⟨place, htakes, -⟩ := TokenStream.exists_stop (.start source)
    obtain ⟨passed, left, hsource, hleft, hplace⟩ := htakes.exists_start hplaced
    rw [show source.toList = passed ++ left from hsource, hplace, TokenStream.after_start]
    exact ⟨Nat.le_add_left _ _, Position.line_behind_le hleft⟩
  cases h with
  | @unreadable before rest place marker trimNext tree hsource htakes hmarker hpiece hread =>
    have hplace : place.rest ≠ [] := by
      intro hnone
      rw [hnone] at hmarker
      cases hmarker
    rw [hsource]
    exact ⟨Nat.le_add_left _ _, Position.line_behind_le hplace⟩
  | refused htokens => exact hstart (by rw [htokens]; exact List.mem_append_cons_self)
  | unfinished htokens => exact hstart (by rw [htokens]; exact List.mem_append_cons_self)

/-- A text that starts with no marker can be read. -/
theorem exists_marker_of_failed {text rest : List Char} {trimFirst trimNext : Bool}
    (h : Lexer.takePiece trimFirst text = .failed fault rest trimNext) : ∃ marker, Marker.at? text = some marker := by
  unfold Lexer.takePiece at h
  split at h
  · next marker hmarker => exact ⟨marker, hmarker⟩
  · cases h

theorem failsIn_of_ofTokens (h : ofTokens grammar (.ofSource source) = .error (fault, line)) :
    FailsIn grammar source fault line := by
  obtain hrun | ⟨tree, hrun, hended⟩ := of_bind_eq_error h
  · obtain ⟨read, placed, unread, after, htokens, hread, hstep, rfl⟩ := Partial.exists_refused hrun
    exact .refused htokens hread hstep
  · cases hfailure : (TokenStream.ofSource source).failure with
    | some failure =>
      rw [hfailure] at hended
      cases hended
      obtain ⟨place, htakes, hstops⟩ := TokenStream.exists_stop (.start source)
      rw [← TokenStream.ofSource_eq_ofLexer] at htakes hstops
      rw [hfailure] at hstops
      obtain ⟨rfl, rest, trimNext, hpiece⟩ := hstops
      obtain ⟨marker, hmarker⟩ := exists_marker_of_failed hpiece
      obtain ⟨passed, hsource, hplace⟩ := htakes.exists_taken
      rw [hplace, TokenStream.after_start]
      exact .unreadable hsource htakes hmarker hpiece hrun
    | none =>
      rw [hfailure] at hended
      cases hfinish : tree.finish with
      | ok block =>
        rw [hfinish] at hended
        cases hended
      | error other =>
        rw [hfinish] at hended
        obtain ⟨rfl, rfl⟩ := Prod.mk.inj (Except.error.inj hended)
        obtain hnone | ⟨read, placed, hread⟩ := (TokenStream.ofSource source).tokens.eq_nil_or_concat
        · -- Without tokens nothing is open.
          rw [hnone] at hrun
          cases hrun
          cases hfinish
        · rw [List.concat_eq_append] at hread
          rw [hread] at hrun
          rw [hread, List.getLast?_concat]
          exact .unfinished (by rw [← hread, ← hfailure]) hrun hfinish

/-- What cannot be parsed has a place in its text, under its name. -/
theorem parse_eq_error {name : String} {error : Error} (h : parse grammar name source = .error error) :
    ∃ line, error.location = some ⟨name, line⟩ ∧ FailsIn grammar source error.fault line ∧
      1 ≤ line ∧ line ≤ Position.lineCount source.toList := by
  unfold parse at h
  cases hread : ofTokens grammar (.ofSource source) with
  | ok block =>
    rw [hread] at h
    cases h
  | error failure =>
    rw [hread] at h
    cases h
    have hfails := failsIn_of_ofTokens hread
    exact ⟨failure.2, rfl, hfails, hfails.line_le⟩

theorem FailsIn.failsSyntactically (h : FailsIn (.builtin maxTerms) source fault line) : fault.kind = .syntaxError := by
  cases h with
  | unreadable hsource htakes hmarker hpiece hread => cases Lexer.takePiece_isUnreadable hpiece <;> rfl
  | refused htokens hread hstep => exact Partial.step_failsSyntactically fault hstep
  | unfinished htokens hread hfinish => exact Partial.finish_failsSyntactically fault hfinish

end Template

namespace Environment

variable {environment : Environment} {name source : String} {error : Error}

theorem grammar_eq_builtin (htags : environment.tags = []) (hfactory : environment.factory = none) :
    environment.grammar = .builtin environment.maxTerms := by
  have hform : environment.tagForm? = fun _ ↦ none := by
    funext name
    rw [tagForm?, htags]
    rfl
  rw [grammar, hform, hfactory]
  rfl

/-- Without tags of a host and without a factory, a template that cannot be read is refused with an error of syntax that
names the template and the line in which reading fails, which is a line of the source. -/
theorem parse_error_located (htags : environment.tags = []) (hfactory : environment.factory = none)
    (h : environment.parse name source = .error error) :
    error.kind = .syntaxError ∧ ∃ line, error.location = some ⟨name, line⟩ ∧
      Template.FailsIn environment.grammar source error.fault line ∧
      1 ≤ line ∧ line ≤ Position.lineCount source.toList := by
  obtain ⟨line, hlocation, hfails, hline⟩ := Template.parse_eq_error h
  refine ⟨?_, line, hlocation, hfails, hline⟩
  rw [grammar_eq_builtin htags hfactory] at hfails
  exact hfails.failsSyntactically

/-- A source whose second line is a tag that nobody knows. -/
def strayedSource : String := "a\n\x7b% nope %\x7d\nb"

/-- What is said about it. -/
def strayedError : Error := ⟨.unknownTag "nope", some ⟨"page", 2⟩, none⟩

theorem parse_error_located_strayed :
    Environment.standard.parse "page" strayedSource = .error strayedError ∧
      strayedError.kind = .syntaxError ∧ ∃ line, strayedError.location = some ⟨"page", line⟩ ∧
        Template.FailsIn Environment.standard.grammar strayedSource strayedError.fault line ∧
        1 ≤ line ∧ line ≤ Position.lineCount strayedSource.toList := by
  have hparse : Environment.standard.parse "page" strayedSource = .error strayedError := rfl
  exact ⟨hparse, parse_error_located rfl rfl hparse⟩

end Environment

end Liquid
