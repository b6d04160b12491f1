import Liquid.Proofs.Markup.Resemblance
import Liquid.Proofs.Markup.Tape

/-!
# Slices of a markup

Reading from a tape follows a cursor step by step. The lexemes of a markup stand one behind the other in it, and so do those
that are left once a parenthesis was removed. Every expression has a lexeme at least. So its text ends behind its start, both
are places at which the markup can be cut, and reading is never given up.
-/

namespace Liquid

open Text

/-! ## Results that come about -/

/-- A result comes about, and it is related to another one: both succeed with related values, or both fail alike. -/
inductive Follows {α β : Type} (related : α → β → Prop) : Checked α → Except Fault β → Prop where
  | ok {value : α} {other : β} (h : related value other) : Follows related (pure value) (.ok other)
  | error (fault : Fault) : Follows related (throw fault) (.error fault)

namespace Follows

variable {α β γ δ : Type} {related : α → β → Prop} {read : Checked α} {expected : Except Fault β}

theorem bind {continued : γ → δ → Prop} {next : α → Checked γ} {next' : β → Except Fault δ}
    (h : Follows related read expected)
    (hnext : ∀ value other, related value other → Follows continued (next value) (next' other)) :
    Follows continued (read >>= next) (expected >>= next') := by
  cases h with
  | ok h => exact hnext _ _ h
  | error fault => exact .error fault

theorem ite {condition : Prop} [Decidable condition] {read' : Checked α} {expected' : Except Fault β}
    (h : Follows related read expected) (h' : Follows related read' expected') :
    Follows related (if condition then read else read') (if condition then expected else expected') := by
  by_cases hcondition : condition
  · rw [if_pos hcondition, if_pos hcondition]
    exact h
  · rw [if_neg hcondition, if_neg hcondition]
    exact h'

theorem exists_pure {other : β} (h : Follows related read (.ok other)) : ∃ value, read = pure value ∧ related value other := by
  cases h with
  | ok h => exact ⟨_, rfl, h⟩

/-- Results that are the same come about as what they are. -/
theorem eq_mk {read : Checked α} {expected : Except Fault α} (h : Follows Eq read expected) :
    read = ExceptT.mk (some expected) := by
  cases h with
  | ok h =>
    subst h
    rfl
  | error fault => rfl

end Follows

/-! ## Places on a tape -/

/-- Lexemes stand one behind the other. -/
structure InOrder (lexemes : List PlacedLexeme) : Prop where
  ascending : lexemes.Pairwise fun placed later ↦ placed.stop ≤ later.start
  extended : ∀ placed ∈ lexemes, placed.start ≤ placed.stop

namespace Cursor

/-- The tape with the lexemes of a markup. -/
def tapeOf (source : String) (lexemes : List PlacedLexeme) : Tape :=
  ⟨source, lexemes.map (PlacedLexeme.relocated (Lexeme.bytesBefore source))⟩

/-- The cursor behind some of the lexemes of a markup. -/
def behindFirst (source : String) (lexemes : List PlacedLexeme) (place : Nat) : Cursor :=
  ⟨source, (lexemes.take place).getLast?, lexemes.drop place⟩

/-- A cursor stands where a place on the tape is, not in front of a given one. -/
structure StandsAt (source : String) (lexemes : List PlacedLexeme) (least place : Nat) (cursor : Cursor) : Prop where
  least_le : least ≤ place
  le_length : place ≤ lexemes.length
  eq_behindFirst : cursor = behindFirst source lexemes place

/-- The same was read, and what is read next stands at the same place, not in front of a given one. -/
def ReadsTo {α : Type} (source : String) (lexemes : List PlacedLexeme) (least : Nat) (result : α × Nat) (other : α × Cursor) :
    Prop :=
  result.1 = other.1 ∧ StandsAt source lexemes least result.2 other.2

variable {source : String} {lexemes : List PlacedLexeme} {least place : Nat} {cursor : Cursor}

namespace StandsAt

theorem mono {less : Nat} (h : StandsAt source lexemes least place cursor) (hless : less ≤ least) :
    StandsAt source lexemes less place cursor := ⟨hless.trans h.least_le, h.le_length, h.eq_behindFirst⟩

theorem self (h : StandsAt source lexemes least place cursor) : StandsAt source lexemes place place cursor :=
  ⟨Nat.le_refl _, h.le_length, h.eq_behindFirst⟩

theorem lexeme?_eq (h : StandsAt source lexemes least place cursor) :
    (tapeOf source lexemes).lexeme? place = cursor.lexeme? := by
  rw [h.eq_behindFirst, Tape.lexeme?, lexeme?, tapeOf, behindFirst, List.getElem?_map, List.head?_drop, Option.map_map]
  rfl

theorem second?_eq (h : StandsAt source lexemes least place cursor) :
    (tapeOf source lexemes).lexeme? (place + 1) = cursor.second? := by
  rw [h.eq_behindFirst, Tape.lexeme?, second?, tapeOf, behindFirst, List.getElem?_map, List.tail_drop, List.head?_drop,
    Option.map_map]
  rfl

theorem atEnd_eq (h : StandsAt source lexemes least place cursor) : (tapeOf source lexemes).atEnd place = cursor.atEnd := by
  rw [h.eq_behindFirst, Tape.atEnd, atEnd, tapeOf, behindFirst, List.length_map, Bool.eq_iff_iff, decide_eq_true_eq,
    List.isEmpty_iff, List.drop_eq_nil_iff]

theorem fuel_eq (h : StandsAt source lexemes least place cursor) : (tapeOf source lexemes).fuel place = cursor.fuel := by
  rw [h.eq_behindFirst, Tape.fuel, fuel, tapeOf, behindFirst, List.length_map, List.length_drop]

theorem quotedSource_eq (h : StandsAt source lexemes least place cursor) :
    (tapeOf source lexemes).quotedSource = cursor.quotedSource := by
  rw [h.eq_behindFirst]
  rfl

theorem unexpected_eq (h : StandsAt source lexemes least place cursor) :
    (tapeOf source lexemes).unexpected place = cursor.unexpected := by
  rw [Tape.unexpected, h.lexeme?_eq, h.quotedSource_eq]
  rfl

theorem continuesPath_eq (h : StandsAt source lexemes least place cursor) :
    (tapeOf source lexemes).continuesPath place = cursor.continuesPath := by
  rw [Tape.continuesPath, h.lexeme?_eq]
  rfl

theorem skipsFilter_eq (h : StandsAt source lexemes least place cursor) :
    (tapeOf source lexemes).skipsFilter place = cursor.skipsFilter := by
  rw [Tape.skipsFilter, h.lexeme?_eq]
  rfl

theorem atKeyword_eq (h : StandsAt source lexemes least place cursor) (keyword : String) :
    (tapeOf source lexemes).atKeyword place keyword = cursor.atKeyword keyword := by
  rw [Tape.atKeyword, h.lexeme?_eq]
  rfl

/-! ## Moving -/

theorem last_of_lt (h : place < lexemes.length) : (lexemes.take (place + 1)).getLast? = some lexemes[place] := by
  rw [List.getLast?_take, if_neg (Nat.succ_ne_zero _), Nat.add_sub_cancel, List.getElem?_eq_getElem h, Option.some_or]

theorem exists_lexeme (h : StandsAt source lexemes least place cursor) {lexeme : Lexeme}
    (hlexeme : cursor.lexeme? = some lexeme) : place < lexemes.length := by
  rw [h.eq_behindFirst, lexeme?, behindFirst, List.head?_drop, Option.map_eq_some_iff] at hlexeme
  obtain ⟨placed, hplaced, -⟩ := hlexeme
  exact (List.getElem?_eq_some_iff.1 hplaced).1

/-- The cursor behind the next lexeme stands at the next place. -/
theorem advance (h : StandsAt source lexemes least place cursor) {lexeme : Lexeme} (hlexeme : cursor.lexeme? = some lexeme) :
    StandsAt source lexemes (least + 1) (place + 1) cursor.advance := by
  have hlt := h.exists_lexeme hlexeme
  refine ⟨Nat.succ_le_succ h.least_le, hlt, ?_⟩
  rw [h.eq_behindFirst, behindFirst, behindFirst, List.drop_eq_getElem_cons hlt, last_of_lt hlt]
  rfl

theorem moveTo_eq (h : StandsAt source lexemes least place cursor) : (tapeOf source lexemes).moveTo place = pure place := by
  rw [Tape.moveTo, tapeOf, List.length_map, if_pos h.le_length]

/-- A lexeme is passed by moving to the next place. -/
theorem pass_eq (h : StandsAt source lexemes least place cursor) {lexeme : Lexeme} (hlexeme : cursor.lexeme? = some lexeme) :
    (tapeOf source lexemes).pass place = pure (place + 1) := by
  rw [Tape.pass, h.lexeme?_eq, hlexeme, Option.isSome_some, if_pos rfl, (h.advance hlexeme).moveTo_eq]

theorem pass_of_none (h : StandsAt source lexemes least place cursor) (hlexeme : cursor.lexeme? = none) :
    (tapeOf source lexemes).pass place = pure place := by
  rw [Tape.pass, h.lexeme?_eq, hlexeme, Option.isSome_none, if_neg Bool.false_ne_true]

theorem pass {α β : Type} {related : α → β → Prop} {next : Nat → Checked α} {expected : Except Fault β}
    (h : StandsAt source lexemes least place cursor) {lexeme : Lexeme} (hlexeme : cursor.lexeme? = some lexeme)
    (hnext : StandsAt source lexemes (least + 1) (place + 1) cursor.advance → Follows related (next (place + 1)) expected) :
    Follows related ((tapeOf source lexemes).pass place >>= next) expected := by
  rw [h.pass_eq hlexeme, pure_bind]
  exact hnext (h.advance hlexeme)

theorem passed (h : StandsAt source lexemes least place cursor) {lexeme : Lexeme} (hlexeme : cursor.lexeme? = some lexeme) :
    Follows (StandsAt source lexemes (least + 1)) ((tapeOf source lexemes).pass place) (.ok cursor.advance) := by
  rw [h.pass_eq hlexeme]
  exact .ok (h.advance hlexeme)

/-- At the end the lexeme that was passed last is at fault. -/
theorem noOperand_of_none (h : StandsAt source lexemes least place cursor) (hlexeme : cursor.lexeme? = none) :
    cursor.noOperand = (behindFirst source lexemes (place - 1)).unexpected := by
  have hend : lexemes.length ≤ place := by
    rw [h.eq_behindFirst, lexeme?, behindFirst, List.head?_drop, Option.map_eq_none_iff, List.getElem?_eq_none_iff] at hlexeme
    exact hlexeme
  have hlast : cursor.last.map PlacedLexeme.lexeme = (behindFirst source lexemes (place - 1)).lexeme? := by
    rw [h.eq_behindFirst, lexeme?, behindFirst, behindFirst, List.head?_drop]
    cases place with
    | zero =>
      rw [List.length_eq_zero_iff.1 (Nat.le_zero.1 hend)]
      rfl
    | succ place => rw [last_of_lt h.le_length, Nat.add_sub_cancel, List.getElem?_eq_getElem h.le_length]
  rw [noOperand, unexpected, hlexeme, hlast, h.eq_behindFirst]
  rfl

/-- Stepping back over what was passed leads to the lexeme that is at fault. -/
theorem refuse {α β : Type} {related : α → β → Prop} (h : StandsAt source lexemes least place cursor) :
    Follows related (do (tapeOf source lexemes).refuse (← (tapeOf source lexemes).pass place)) (.error cursor.noOperand) := by
  cases hlexeme : cursor.lexeme? with
  | some lexeme =>
    have hfault : cursor.noOperand = cursor.unexpected := by
      rw [noOperand, unexpected, hlexeme]
      rfl
    rw [h.pass_eq hlexeme, pure_bind, Tape.refuse, Nat.add_sub_cancel, h.moveTo_eq, pure_bind, h.unexpected_eq, hfault]
    exact .error _
  | none =>
    have hback : StandsAt source lexemes 0 (place - 1) (behindFirst source lexemes (place - 1)) :=
      ⟨Nat.zero_le _, (Nat.sub_le _ _).trans h.le_length, rfl⟩
    rw [h.pass_of_none hlexeme, pure_bind, Tape.refuse, hback.moveTo_eq, pure_bind, hback.unexpected_eq,
      h.noOperand_of_none hlexeme]
    exact .error _

theorem ident (h : StandsAt source lexemes least place cursor) :
    Follows (ReadsTo source lexemes (least + 1)) ((tapeOf source lexemes).ident place) cursor.ident := by
  rw [Tape.ident, Cursor.ident, h.lexeme?_eq, h.unexpected_eq]
  cases hlexeme : cursor.lexeme? with
  | none => exact .error _
  | some lexeme =>
    cases lexeme with
    | ident name => exact h.pass hlexeme fun hafter ↦ .ok ⟨rfl, hafter⟩
    | _ => exact .error _

theorem colon (h : StandsAt source lexemes least place cursor) :
    Follows (StandsAt source lexemes (least + 1)) ((tapeOf source lexemes).colon place) cursor.colon := by
  rw [Tape.colon, Cursor.colon, h.lexeme?_eq, h.unexpected_eq]
  cases hlexeme : cursor.lexeme? with
  | none => exact .error _
  | some lexeme =>
    cases lexeme with
    | colon => exact h.passed hlexeme
    | _ => exact .error _

theorem closeBracket (h : StandsAt source lexemes least place cursor) :
    Follows (StandsAt source lexemes (least + 1)) ((tapeOf source lexemes).closeBracket place) cursor.closeBracket := by
  rw [Tape.closeBracket, Cursor.closeBracket, h.lexeme?_eq, h.unexpected_eq]
  cases hlexeme : cursor.lexeme? with
  | none => exact .error _
  | some lexeme =>
    cases lexeme with
    | closeBracket => exact h.passed hlexeme
    | _ => exact .error _

theorem closeParen (h : StandsAt source lexemes least place cursor) :
    Follows (StandsAt source lexemes (least + 1)) ((tapeOf source lexemes).closeParen place) cursor.closeParen := by
  rw [Tape.closeParen, Cursor.closeParen, h.lexeme?_eq, h.unexpected_eq]
  cases hlexeme : cursor.lexeme? with
  | none => exact .error _
  | some lexeme =>
    cases lexeme with
    | closeParen => exact h.passed hlexeme
    | _ => exact .error _

theorem finish (h : StandsAt source lexemes least place cursor) :
    Follows Eq ((tapeOf source lexemes).finish place) cursor.finish := by
  rw [Tape.finish, Cursor.finish, h.atEnd_eq, h.unexpected_eq]
  exact .ite (.ok rfl) (.error _)

/-! ## Cutting texts -/

theorem between?_bytesBefore {start stop : Nat} (h : start ≤ stop) (source : String) :
    between? (Lexeme.bytesBefore source start) (Lexeme.bytesBefore source stop) source.toList =
      some ((source.toList.take stop).drop start) := by
  have htaken : (source.toList.take stop).take start = source.toList.take start := by rw [List.take_take, Nat.min_eq_left h]
  have hstop : source.toList.take stop = source.toList.take start ++ (source.toList.take stop).drop start := by
    rw [← htaken, List.take_append_drop]
  have hwhole := between?_size (source.toList.take start) ((source.toList.take stop).drop start) (source.toList.drop stop)
  rw [← size_append, ← hstop, List.take_append_drop] at hwhole
  exact hwhole

/-- The lexemes of a markup that stand in order begin in front of the place where the later ones end. -/
theorem start_le_stop (hordered : InOrder lexemes) {first final : Nat} (hle : first ≤ final)
    (hfirst : first < lexemes.length) (hfinal : final < lexemes.length) :
    lexemes[first].start ≤ lexemes[final].stop := by
  have hfinals := hordered.extended _ (List.getElem_mem hfinal)
  obtain rfl | hlt := Nat.eq_or_lt_of_le hle
  · exact hfinals
  · have hfirsts := hordered.extended _ (List.getElem_mem hfirst)
    have hbetween := List.pairwise_iff_getElem.1 hordered.ascending first final hfirst hfinal hlt
    omega

/-- The text of what was read is cut from the source at two places in their order. -/
theorem textFrom_eq (hordered : InOrder lexemes) {origin : Nat} {before : Cursor}
    (hbefore : StandsAt source lexemes least origin before) (h : StandsAt source lexemes (origin + 1) place cursor) :
    (tapeOf source lexemes).textFrom ((tapeOf source lexemes).offset origin) place =
      pure (cursor.textFrom before.offset) := by
  obtain ⟨final, rfl⟩ := Nat.exists_eq_add_of_lt h.least_le
  have hfinal : origin + final < lexemes.length := h.le_length
  have horigin : origin < lexemes.length := by omega
  have hstart : (tapeOf source lexemes).offset origin = Lexeme.bytesBefore source lexemes[origin].start := by
    rw [Tape.offset, tapeOf, List.getElem?_map, List.getElem?_eq_getElem horigin]
    rfl
  have hstop : (tapeOf source lexemes).stop (origin + final + 1) = Lexeme.bytesBefore source lexemes[origin + final].stop := by
    rw [Tape.stop, tapeOf, List.getElem?_map, List.getElem?_eq_getElem hfinal]
    rfl
  have hoffset : before.offset = lexemes[origin].start := by
    rw [hbefore.eq_behindFirst, offset, behindFirst, List.drop_eq_getElem_cons horigin]
  have hlast : cursor.stop = lexemes[origin + final].stop := by
    rw [h.eq_behindFirst, stop, behindFirst, last_of_lt hfinal]
    rfl
  have hle := start_le_stop hordered (Nat.le_add_right origin final) horigin hfinal
  rw [Tape.textFrom, hstart, hstop, textFrom, hoffset, hlast, h.eq_behindFirst]
  change (do let text ← between? _ _ source.toList; pure (String.ofList text) : Checked String) = _
  rw [between?_bytesBefore hle]
  rfl

end StandsAt

/-! ## Reading -/

/-- With some fuel, what is read from the tape is what the cursor reads. An expression takes a lexeme at least. -/
structure ReadsAlong (source : String) (lexemes : List PlacedLexeme) (fuel : Nat) : Prop where
  expr : ∀ {least place : Nat} {cursor : Cursor}, StandsAt source lexemes least place cursor →
    Follows (ReadsTo source lexemes (least + 1)) ((tapeOf source lexemes).exprWith fuel place) (exprWith fuel cursor)
  path : ∀ {segments : List Segment} {least place : Nat} {cursor : Cursor}, StandsAt source lexemes least place cursor →
    Follows (ReadsTo source lexemes least) ((tapeOf source lexemes).pathWith fuel segments place)
      (pathWith fuel segments cursor)
  filters : ∀ {least place : Nat} {cursor : Cursor}, StandsAt source lexemes least place cursor →
    Follows (ReadsTo source lexemes least) ((tapeOf source lexemes).filtersWith fuel place) (filtersWith fuel cursor)
  arguments : ∀ {least place : Nat} {cursor : Cursor}, StandsAt source lexemes least place cursor →
    Follows (ReadsTo source lexemes least) ((tapeOf source lexemes).argumentsWith fuel place) (argumentsWith fuel cursor)

namespace ReadsAlong

variable {fuel : Nat}

theorem expr_enclosed (hordered : InOrder lexemes) (hreads : ReadsAlong source lexemes fuel) {after origin : Nat}
    {opened : Cursor} (hopened : StandsAt source lexemes least origin opened)
    (h : StandsAt source lexemes (origin + 1) after cursor) (first : Expr) :
    Follows (ReadsTo source lexemes least)
      (match (tapeOf source lexemes).lexeme? after with
        | some .dots => do
          let place ← (tapeOf source lexemes).pass after
          let (last, place) ← (tapeOf source lexemes).exprWith fuel place
          let place ← (tapeOf source lexemes).closeParen place
          return (.range first last, place)
        | _ => do
          let name ← (tapeOf source lexemes).textFrom ((tapeOf source lexemes).offset origin) after
          let (filters, place) ← (tapeOf source lexemes).filtersWith fuel after
          let place ← (tapeOf source lexemes).closeParen place
          return (if filters.isEmpty then first else .filtered name first filters, place))
      (match cursor.lexeme? with
        | some .dots => do
          let (last, cursor) ← exprWith fuel cursor.advance
          let cursor ← cursor.closeParen
          return (.range first last, cursor)
        | _ => do
          let name := cursor.textFrom opened.offset
          let (filters, cursor) ← filtersWith fuel cursor
          let cursor ← cursor.closeParen
          return (if filters.isEmpty then first else .filtered name first filters, cursor)) := by
  have hle := hopened.least_le
  -- Whatever does not continue as a range is a pipeline.
  have hpipeline : Follows (ReadsTo source lexemes least)
      (do
        let name ← (tapeOf source lexemes).textFrom ((tapeOf source lexemes).offset origin) after
        let (filters, place) ← (tapeOf source lexemes).filtersWith fuel after
        let place ← (tapeOf source lexemes).closeParen place
        return (if filters.isEmpty then first else .filtered name first filters, place))
      (do
        let (filters, closing) ← filtersWith fuel cursor
        let closing ← closing.closeParen
        return (if filters.isEmpty then first else .filtered (cursor.textFrom opened.offset) first filters, closing)) := by
    rw [StandsAt.textFrom_eq hordered hopened h, pure_bind]
    refine (hreads.filters h).bind ?_
    rintro ⟨filters, place⟩ ⟨_, cursor⟩ ⟨rfl, hfilters⟩
    exact hfilters.closeParen.bind fun place cursor hclosed ↦ .ok ⟨rfl, hclosed.mono (by omega)⟩
  rw [h.lexeme?_eq]
  cases hlexeme : cursor.lexeme? with
  | none => exact hpipeline
  | some lexeme =>
    cases lexeme with
    | dots =>
      refine h.pass hlexeme fun hafter ↦ (hreads.expr hafter).bind ?_
      rintro ⟨last, place⟩ ⟨_, cursor⟩ ⟨rfl, hlast⟩
      exact hlast.closeParen.bind fun place cursor hclosed ↦ .ok ⟨rfl, hclosed.mono (by omega)⟩
    | _ => exact hpipeline

theorem expr_succ (hordered : InOrder lexemes) (hreads : ReadsAlong source lexemes fuel)
    (h : StandsAt source lexemes least place cursor) :
    Follows (ReadsTo source lexemes (least + 1)) ((tapeOf source lexemes).exprWith (fuel + 1) place)
      (exprWith (fuel + 1) cursor) := by
  rw [Tape.exprWith, exprWith, h.lexeme?_eq]
  cases hlexeme : cursor.lexeme? with
  | none => exact h.refuse
  | some lexeme =>
    cases lexeme with
    | text | int | float => exact h.pass hlexeme fun hafter ↦ .ok ⟨rfl, hafter⟩
    | ident name =>
      refine h.pass hlexeme fun hafter ↦ ?_
      dsimp only
      rw [hafter.continuesPath_eq]
      cases if cursor.advance.continuesPath then none else keyword? name with
      | some value => exact .ok ⟨rfl, hafter⟩
      | none => exact hreads.path hafter
    | openBracket =>
      refine h.pass hlexeme fun hafter ↦ (hreads.expr hafter).bind ?_
      rintro ⟨key, place⟩ ⟨_, cursor⟩ ⟨rfl, hkey⟩
      exact hkey.closeBracket.bind fun place cursor hclosed ↦ hreads.path (hclosed.mono (by omega))
    | openParen =>
      refine h.pass hlexeme fun hafter ↦ (hreads.expr hafter.self).bind ?_
      rintro ⟨first, after⟩ ⟨_, cursor⟩ ⟨rfl, hfirst⟩
      exact hreads.expr_enclosed hordered hafter hfirst first
    | _ => exact h.refuse

theorem path_succ (hreads : ReadsAlong source lexemes fuel) (h : StandsAt source lexemes least place cursor)
    (segments : List Segment) :
    Follows (ReadsTo source lexemes least) ((tapeOf source lexemes).pathWith (fuel + 1) segments place)
      (pathWith (fuel + 1) segments cursor) := by
  rw [Tape.pathWith, pathWith, h.lexeme?_eq]
  cases hlexeme : cursor.lexeme? with
  | none => exact .ok ⟨rfl, h⟩
  | some lexeme =>
    cases lexeme with
    | dot =>
      refine h.pass hlexeme fun hafter ↦ ?_
      dsimp only
      rw [hafter.lexeme?_eq]
      cases hsecond : cursor.advance.lexeme? with
      | none => exact hafter.refuse
      | some lexeme =>
        cases lexeme with
        | ident | int => exact hafter.pass hsecond fun hbehind ↦ hreads.path (hbehind.mono (by omega))
        | _ => exact hafter.refuse
    | openBracket =>
      refine h.pass hlexeme fun hafter ↦ (hreads.expr hafter).bind ?_
      rintro ⟨key, place⟩ ⟨_, cursor⟩ ⟨rfl, hkey⟩
      exact hkey.closeBracket.bind fun place cursor hclosed ↦ hreads.path (hclosed.mono (by omega))
    | _ => exact .ok ⟨rfl, h⟩

theorem filters_succ (hreads : ReadsAlong source lexemes fuel) (h : StandsAt source lexemes least place cursor) :
    Follows (ReadsTo source lexemes least) ((tapeOf source lexemes).filtersWith (fuel + 1) place)
      (filtersWith (fuel + 1) cursor) := by
  rw [Tape.filtersWith, filtersWith, h.lexeme?_eq]
  cases hlexeme : cursor.lexeme? with
  | none => exact .ok ⟨rfl, h⟩
  | some lexeme =>
    cases lexeme with
    | pipe =>
      refine h.pass hlexeme fun hafter ↦ ?_
      dsimp only
      rw [hafter.skipsFilter_eq]
      refine .ite (hreads.filters (hafter.mono (by omega))) (hafter.ident.bind ?_)
      rintro ⟨name, named⟩ ⟨_, cursor⟩ ⟨rfl, hname⟩
      -- the filters behind the arguments, if there are any
      have hothers (arguments : List (String × Expr)) {place : Nat} {cursor : Cursor}
          (h : StandsAt source lexemes least place cursor) :
          Follows (ReadsTo source lexemes least)
            (do
              let (others, place) ← (tapeOf source lexemes).filtersWith fuel place
              return (.mk name (arguments.map Prod.fst) (arguments.map Prod.snd) :: others, place))
            (do
              let (others, cursor) ← filtersWith fuel cursor
              return (.mk name (arguments.map Prod.fst) (arguments.map Prod.snd) :: others, cursor)) := by
        refine (hreads.filters h).bind ?_
        rintro ⟨others, place⟩ ⟨_, cursor⟩ ⟨rfl, hothers⟩
        exact .ok ⟨rfl, hothers⟩
      dsimp only
      rw [hname.lexeme?_eq]
      cases hcolon : cursor.lexeme? with
      | none => exact hothers [] (hname.mono (by omega))
      | some lexeme =>
        cases lexeme with
        | colon =>
          refine hname.pass hcolon fun hbehind ↦ ?_
          have hmoved : StandsAt source lexemes least _ _ := hbehind.mono (by omega)
          refine (hreads.arguments hmoved).bind ?_
          rintro ⟨arguments, place⟩ ⟨_, cursor⟩ ⟨rfl, harguments⟩
          exact hothers arguments harguments
        | _ => exact hothers [] (hname.mono (by omega))
    | _ => exact .ok ⟨rfl, h⟩

/-- An argument is read with those behind it. -/
theorem argument (hordered : InOrder lexemes) (hreads : ReadsAlong source lexemes fuel)
    (h : StandsAt source lexemes least place cursor) :
    Follows (ReadsTo source lexemes least)
      (do
        let start := (tapeOf source lexemes).offset place
        let (argument, place) ← (tapeOf source lexemes).exprWith fuel place
        let text ← (tapeOf source lexemes).textFrom start place
        match (tapeOf source lexemes).lexeme? place with
        | some .comma =>
          let place ← (tapeOf source lexemes).pass place
          let (others, place) ← (tapeOf source lexemes).argumentsWith fuel place
          return ((text, argument) :: others, place)
        | _ => return ([(text, argument)], place))
      (do
        let start := cursor.offset
        let (argument, cursor) ← exprWith fuel cursor
        let text := cursor.textFrom start
        match cursor.lexeme? with
        | some .comma =>
          let (others, cursor) ← argumentsWith fuel cursor.advance
          return ((text, argument) :: others, cursor)
        | _ => return ([(text, argument)], cursor)) := by
  have hle := h.least_le
  refine (hreads.expr h.self).bind ?_
  rintro ⟨argument, after⟩ ⟨_, behind⟩ ⟨rfl, hafter⟩
  dsimp only
  rw [StandsAt.textFrom_eq hordered h hafter, pure_bind, hafter.lexeme?_eq]
  cases hcomma : behind.lexeme? with
  | none => exact .ok ⟨rfl, hafter.mono (by omega)⟩
  | some lexeme =>
    cases lexeme with
    | comma =>
      refine hafter.pass hcomma fun hbehind ↦ ?_
      have hmoved : StandsAt source lexemes least _ _ := hbehind.mono (by omega)
      refine (hreads.arguments hmoved).bind ?_
      rintro ⟨others, place⟩ ⟨_, cursor⟩ ⟨rfl, hothers⟩
      exact .ok ⟨rfl, hothers⟩
    | _ => exact .ok ⟨rfl, hafter.mono (by omega)⟩

theorem arguments_succ (hordered : InOrder lexemes) (hreads : ReadsAlong source lexemes fuel)
    (h : StandsAt source lexemes least place cursor) :
    Follows (ReadsTo source lexemes least) ((tapeOf source lexemes).argumentsWith (fuel + 1) place)
      (argumentsWith (fuel + 1) cursor) := by
  rw [Tape.argumentsWith, argumentsWith, h.second?_eq, h.quotedSource_eq]
  cases cursor.second? with
  | none => exact argument hordered hreads h
  | some lexeme =>
    cases lexeme with
    | colon => exact .error _
    | _ => exact argument hordered hreads h

end ReadsAlong

/-- What is read from the tape is what the cursor reads. -/
theorem readsAlong (hordered : InOrder lexemes) (fuel : Nat) : ReadsAlong source lexemes fuel := by
  induction fuel with
  | zero =>
    refine ⟨fun h ↦ ?_, fun h ↦ ?_, fun h ↦ ?_, fun h ↦ ?_⟩
    · rw [Tape.exprWith, exprWith]
      exact h.refuse
    · rw [Tape.pathWith, pathWith]
      exact h.refuse
    · rw [Tape.filtersWith, filtersWith]
      exact h.refuse
    · rw [Tape.argumentsWith, argumentsWith]
      exact h.refuse
  | succ fuel ih =>
    exact ⟨ih.expr_succ hordered, fun h ↦ ih.path_succ h _, ih.filters_succ, ih.arguments_succ hordered⟩

theorem skipPipes_of_pipe (h : cursor.lexeme? = some .pipe) : cursor.skipPipes = cursor.advance.skipPipes := by
  obtain ⟨source, last, rest⟩ := cursor
  cases rest with
  | nil => cases h
  | cons placed rest =>
    obtain ⟨lexeme, start, stop⟩ := placed
    obtain rfl : lexeme = .pipe := Option.some.inj h
    rfl

theorem skipPipes_of_ne (h : cursor.lexeme? ≠ some .pipe) : cursor.skipPipes = cursor := by
  obtain ⟨source, last, rest⟩ := cursor
  cases rest with
  | nil => rfl
  | cons placed rest =>
    obtain ⟨lexeme, start, stop⟩ := placed
    cases lexeme with
    | pipe => exact (h rfl).elim
    | _ => rfl

namespace StandsAt

theorem skipPipes {fuel : Nat} (h : StandsAt source lexemes least place cursor) (hfuel : lexemes.length - place < fuel) :
    Follows (StandsAt source lexemes least) ((tapeOf source lexemes).skipPipes fuel place) (.ok cursor.skipPipes) := by
  induction fuel generalizing least place cursor with
  | zero => exact absurd hfuel (Nat.not_lt_zero _)
  | succ fuel ih =>
    rw [Tape.skipPipes, h.lexeme?_eq]
    cases hlexeme : cursor.lexeme? with
    | none =>
      rw [skipPipes_of_ne (by rw [hlexeme]; exact nofun)]
      exact .ok h
    | some lexeme =>
      cases lexeme with
      | pipe =>
        have hlt := h.exists_lexeme hlexeme
        rw [skipPipes_of_pipe hlexeme]
        exact h.pass hlexeme fun hafter ↦ ih (hafter.mono (by omega)) (by omega)
      | _ =>
        rw [skipPipes_of_ne (by rw [hlexeme]; exact nofun)]
        exact .ok h

theorem expr (hordered : InOrder lexemes) (h : StandsAt source lexemes least place cursor) :
    Follows (ReadsTo source lexemes (least + 1)) ((tapeOf source lexemes).expr place) cursor.expr := by
  rw [Tape.expr, Cursor.expr, h.fuel_eq]
  exact (readsAlong hordered _).expr h

theorem filters (hordered : InOrder lexemes) (h : StandsAt source lexemes least place cursor) :
    Follows (ReadsTo source lexemes least) ((tapeOf source lexemes).filters place) cursor.filters := by
  rw [Tape.filters, Cursor.filters, h.fuel_eq]
  exact (readsAlong hordered _).filters h

theorem markup (hordered : InOrder lexemes) (h : StandsAt source lexemes least place cursor) :
    Follows (ReadsTo source lexemes least) ((tapeOf source lexemes).markup place) cursor.markup := by
  have hfuel : lexemes.length - place < cursor.fuel := by
    rw [← h.fuel_eq, Tape.fuel, tapeOf, List.length_map]
    exact Nat.lt_succ_self _
  obtain ⟨skipped, hpipes, hskipped⟩ := (h.skipPipes hfuel).exists_pure
  have hle := hskipped.least_le
  rw [Tape.markup, Cursor.markup, h.fuel_eq, hpipes, pure_bind, hskipped.atEnd_eq]
  refine .ite (.ok ⟨rfl, hskipped⟩) ((hskipped.self.expr hordered).bind ?_)
  rintro ⟨primary, after⟩ ⟨_, cursor⟩ ⟨rfl, hafter⟩
  dsimp only
  rw [textFrom_eq hordered hskipped hafter, pure_bind]
  refine (hafter.filters hordered).bind ?_
  rintro ⟨filters, place⟩ ⟨_, cursor⟩ ⟨rfl, hfilters⟩
  exact .ok ⟨rfl, hfilters.mono (by omega)⟩

theorem term (hordered : InOrder lexemes) (h : StandsAt source lexemes least place cursor) :
    Follows (ReadsTo source lexemes least) ((tapeOf source lexemes).term place) cursor.term := by
  rw [Tape.term, Cursor.term]
  refine (h.expr hordered).bind ?_
  rintro ⟨left, after⟩ ⟨_, behind⟩ ⟨rfl, hafter⟩
  have htest : Follows (ReadsTo source lexemes least) (pure (Condition.truthy left, after))
      (.ok (Condition.truthy left, behind)) :=
    .ok ⟨rfl, hafter.mono (Nat.le_succ _)⟩
  have hcompare {lexeme : Lexeme} (hlexeme : behind.lexeme? = some lexeme) (operator : String) :
      Follows (ReadsTo source lexemes least)
        (do
          let place ← (tapeOf source lexemes).moveTo (after + 1)
          let (right, place) ← (tapeOf source lexemes).expr place
          return (Condition.compare left operator right, place))
        (do
          let (right, cursor) ← behind.advance.expr
          return (Condition.compare left operator right, cursor)) := by
    have hmoved := hafter.advance hlexeme
    rw [hmoved.moveTo_eq, pure_bind]
    refine (hmoved.expr hordered).bind ?_
    rintro ⟨right, place⟩ ⟨_, cursor⟩ ⟨rfl, hright⟩
    exact .ok ⟨rfl, hright.mono (by omega)⟩
  dsimp only
  rw [hafter.lexeme?_eq]
  cases hlexeme : behind.lexeme? with
  | none => exact htest
  | some lexeme =>
    cases lexeme with
    | sign marks => exact hcompare hlexeme marks
    | ident name =>
      dsimp only
      by_cases hjoins : (name == "and" || name == "or") = true
      · rw [if_pos hjoins]
        exact htest
      · rw [if_neg hjoins]
        exact hcompare hlexeme name
    | _ => exact htest

theorem exists_ident (keyword : String) (h : cursor.atKeyword keyword = true) :
    ∃ name, cursor.lexeme? = some (.ident name) := by
  unfold atKeyword at h
  split at h
  · next name hlexeme => exact ⟨name, hlexeme⟩
  · cases h

theorem conditionWith (hordered : InOrder lexemes) (tag : String) (limit : Nat) {fuel before : Nat}
    (h : StandsAt source lexemes least place cursor) :
    Follows (ReadsTo source lexemes least) ((tapeOf source lexemes).conditionWith tag limit fuel before place)
      (Cursor.conditionWith tag limit fuel before cursor) := by
  induction fuel generalizing before least place cursor with
  | zero =>
    rw [Tape.conditionWith, Cursor.conditionWith]
    exact h.refuse
  | succ fuel ih =>
    rw [Tape.conditionWith, Cursor.conditionWith]
    refine (h.term hordered).bind ?_
    rintro ⟨left, after⟩ ⟨_, behind⟩ ⟨rfl, hafter⟩
    dsimp only
    rw [hafter.atKeyword_eq, hafter.atKeyword_eq]
    by_cases hjoined : (behind.atKeyword "and" || behind.atKeyword "or") = true
    · obtain ⟨name, hlexeme⟩ : ∃ name, behind.lexeme? = some (.ident name) := by
        obtain hand | hor := Bool.or_eq_true _ _ ▸ hjoined
        · exact exists_ident _ hand
        · exact exists_ident _ hor
      rw [if_pos hjoined, if_pos hjoined]
      refine Follows.ite (.error _) (hafter.pass hlexeme fun hmoved ↦ ?_)
      have hjoining : StandsAt source lexemes least _ _ := hmoved.mono (Nat.le_succ _)
      refine (ih hjoining).bind ?_
      rintro ⟨⟨right, count⟩, place⟩ ⟨_, cursor⟩ ⟨rfl, hright⟩
      exact .ok ⟨rfl, hright⟩
    · rw [if_neg hjoined, if_neg hjoined]
      exact .ok ⟨rfl, hafter⟩

end StandsAt

end Cursor

/-! ## Removing a parenthesis -/

namespace Tape

/-- Counted from the end, a lexeme is the one that is found in the reversed lexemes. -/
theorem eraseIdx_reverse {α : Type} {items : List α} {i : Nat} (h : i < items.length) :
    (items.reverse.eraseIdx i).reverse = items.eraseIdx (items.length - 1 - i) := by
  rw [List.eraseIdx_eq_take_drop_succ, List.eraseIdx_eq_take_drop_succ, List.reverse_append, List.drop_reverse,
    List.take_reverse, List.reverse_reverse, List.reverse_reverse, show items.length - (i + 1) = items.length - 1 - i by omega,
    show items.length - i = items.length - 1 - i + 1 by omega]

/-- The lexeme that is removed is one of the tape. -/
theorem dropLoneParen_eq (tape : Tape) :
    tape.dropLoneParen = pure { tape with lexemes := Liquid.dropLoneParen tape.lexemes } := by
  rw [dropLoneParen, Liquid.dropLoneParen]
  split
  · rw [List.eraseP_eq_eraseIdx]
    cases hfound : tape.lexemes.findIdx? PlacedLexeme.opens with
    | none => rfl
    | some place =>
      obtain ⟨hlt, -⟩ := List.findIdx?_eq_some_iff_getElem.1 hfound
      dsimp only
      rw [remove, if_pos hlt]
  · split
    · rw [List.eraseP_eq_eraseIdx]
      cases hfound : tape.lexemes.reverse.findIdx? PlacedLexeme.closes with
      | none =>
        dsimp only
        rw [List.reverse_reverse]
      | some behind =>
        obtain ⟨hlt, -⟩ := List.findIdx?_eq_some_iff_getElem.1 hfound
        rw [List.length_reverse] at hlt
        dsimp only
        rw [remove, if_pos (by omega), eraseIdx_reverse hlt]
    · rfl

end Tape

/-! ## Whole markups -/

/-- The lexemes of a markup stand in order, -/
theorem inOrder_of_scanFrom {source : String} {place : Nat} {text : List Char} {lexemes : List PlacedLexeme}
    (h : Lexeme.scanFrom source place text = .ok lexemes) : InOrder lexemes := by
  induction lexemes generalizing place text with
  | nil => exact ⟨.nil, nofun⟩
  | cons placed others ih =>
    obtain ⟨blanks, opening, inside, later, -, -, -, -, -, hstop, hlater⟩ := Lexeme.scanFrom_eq_ok_cons.1 h
    obtain ⟨hascending, hextended⟩ := ih hlater
    refine ⟨.cons (fun other hother ↦ (Lexeme.scanFrom_bounds hlater other hother).1) hascending,
      List.forall_mem_cons.2 ⟨by omega, hextended⟩⟩

/-- and so do those that are left. -/
theorem InOrder.sublist {lexemes kept : List PlacedLexeme} (h : InOrder lexemes) (hkept : kept.Sublist lexemes) :
    InOrder kept :=
  ⟨h.ascending.sublist hkept, fun placed hplaced ↦ h.extended placed (hkept.subset hplaced)⟩

/-- The tape of a markup has its lexemes in their order. -/
theorem Tape.ofSource_follows (source : String) :
    Follows (fun tape lexemes ↦ tape = Cursor.tapeOf source lexemes ∧ InOrder lexemes) (Tape.ofSource source)
      (Lexeme.scan source) := by
  rw [Tape.ofSource, Lexeme.scan?_eq]
  cases hscan : Lexeme.scan source with
  | error fault => exact .error fault
  | ok lexemes => exact .ok ⟨rfl, inOrder_of_scanFrom hscan⟩

theorem Cursor.standsAt_start (source : String) (lexemes : List PlacedLexeme) :
    StandsAt source lexemes 0 0 ⟨source, none, lexemes⟩ := ⟨Nat.le_refl _, Nat.zero_le _, rfl⟩

/-- Reading a markup from a tape is never given up. -/
theorem Markup.parse?_follows (source : String) : Follows Eq (Markup.parse? source) (Markup.parse source) := by
  rw [Markup.parse?, Markup.parse]
  refine (Tape.ofSource_follows source).bind ?_
  rintro _ lexemes ⟨rfl, hordered⟩
  have hkept := hordered.sublist (dropLoneParen_sublist lexemes)
  have htape : { Cursor.tapeOf source lexemes with lexemes := dropLoneParen (Cursor.tapeOf source lexemes).lexemes } =
      Cursor.tapeOf source (dropLoneParen lexemes) := congrArg (Tape.mk source) (dropLoneParen_map_relocated _ lexemes)
  rw [Tape.dropLoneParen_eq, pure_bind, Markup.ofLexemes, htape]
  refine ((Cursor.standsAt_start source (dropLoneParen lexemes)).markup hkept).bind ?_
  rintro ⟨markup, place⟩ ⟨_, cursor⟩ ⟨rfl, hend⟩
  exact hend.finish.bind fun _ _ _ ↦ .ok rfl

/-- Reading a condition from a tape is never given up. -/
theorem Condition.parse?_follows (source tag : String) (limit : Nat) :
    Follows Eq (Condition.parse? source tag limit) (Condition.parse source tag limit) := by
  rw [Condition.parse?, Condition.parse]
  refine (Tape.ofSource_follows source).bind ?_
  rintro _ lexemes ⟨rfl, hordered⟩
  have hstart := Cursor.standsAt_start source lexemes
  rw [Condition.ofLexemes, hstart.atEnd_eq]
  refine Follows.ite (.error _) ?_
  have hlength : (Cursor.tapeOf source lexemes).lexemes.length = lexemes.length := List.length_map _
  rw [hlength]
  refine (hstart.conditionWith hordered tag limit).bind ?_
  rintro ⟨⟨condition, count⟩, place⟩ ⟨_, cursor⟩ ⟨rfl, hend⟩
  exact hend.finish.bind fun _ _ _ ↦ .ok rfl

end Liquid
