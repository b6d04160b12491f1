import Liquid.Output
import Mathlib.Data.List.Induction
import Mathlib.Data.List.Range

/-!
# Captures hold what is written into them

Captures nest like brackets: the end of a capture is the first one behind its beginning in front of which as many captures have
ended as have begun inside. So every piece of text that is written has one home, the end of the innermost capture that is open
then, or the page if that capture is never ended or none is open. Whatever is done to a new output, in whatever order, each end
of a capture gives the pieces that have their home there, in the order in which they were written, and the rest is on the page.
-/

namespace Liquid.Output

/-! ## Steps -/

/-- What is done to an output. -/
inductive Step where
  | write (text : String)
  | writeChar (c : Char)
  | beginCapture
  | endCapture
deriving Repr, DecidableEq

namespace Step

/-- The text that a step writes. -/
def piece? : Step → Option String
  | write text => some text
  | writeChar c => some (String.singleton c)
  | _ => none

/-- Does a step, which gives a text if it ends a capture. -/
def perform (output : Output) : Step → Option String × Output
  | write text => (none, output.write text)
  | writeChar c => (none, output.writeChar c)
  | beginCapture => (none, output.beginCapture)
  | endCapture => (some output.endCapture.1, output.endCapture.2)

/-- How many captures are open inside of a capture behind a step; there is no number if the step ends the capture itself. -/
def nest? (nested : Nat) : Step → Option Nat
  | beginCapture => some (nested + 1)
  | endCapture => if nested = 0 then none else some (nested - 1)
  | _ => some nested

end Step

/-- The output behind steps on a new one. -/
def after (steps : List Step) : Output := steps.foldl (fun output step ↦ (step.perform output).2) empty

/-- The text that the step at a place gives. -/
def result? (steps : List Step) (place : Nat) : Option String :=
  steps[place]?.bind fun step ↦ (step.perform (after (steps.take place))).1

/-! ## The brackets -/

/-- How many captures are open inside of a capture behind steps that do not end it. -/
def nesting? (steps : List Step) : Option Nat := steps.foldlM Step.nest? 0

/-- The end of a capture: in between, as many captures have ended as have begun. -/
def Closes (steps : List Step) (begun place : Nat) : Prop :=
  begun < place ∧ steps[place]? = some .endCapture ∧ nesting? ((steps.take place).drop (begun + 1)) = some 0

instance (steps : List Step) (begun place : Nat) : Decidable (Closes steps begun place) :=
  inferInstanceAs (Decidable (_ ∧ _ ∧ _))

/-- The place at which a capture is ended. -/
def closing? (steps : List Step) (begun : Nat) : Option Nat :=
  (List.range steps.length).find? fun place ↦ Closes steps begun place

/-- The places of the captures that have begun and are not ended, the last one first. -/
def opened (steps : List Step) : List Nat :=
  (List.range steps.length).reverse.filter fun begun ↦
    steps[begun]? = some .beginCapture ∧ closing? steps begun = none

/-- The innermost capture that is open at a place. -/
def innermost? (steps : List Step) (place : Nat) : Option Nat := (opened (steps.take place)).head?

/-- The end of the innermost capture that is open at a place; there is none if it is never ended or no capture is open. -/
def home? (steps : List Step) (place : Nat) : Option Nat := (innermost? steps place).bind (closing? steps)

/-- The pieces that are written at some places, in their order. -/
def piecesAt (steps : List Step) (holds : Nat → Bool) : List String :=
  ((List.range steps.length).filter holds).filterMap fun place ↦ steps[place]?.bind Step.piece?

variable {steps : List Step} {step : Step} {begun place : Nat}

theorem after_append_singleton (steps : List Step) (step : Step) :
    after (steps ++ [step]) = (step.perform (after steps)).2 := by
  rw [after, List.foldl_append]
  rfl

theorem nesting?_append_singleton (steps : List Step) (step : Step) :
    nesting? (steps ++ [step]) = (nesting? steps).bind step.nest? := by
  rw [nesting?, List.foldlM_append]
  exact bind_congr fun nested ↦ bind_pure _

/-- What closes a capture does not depend on what follows. -/
theorem closes_take {bound : Nat} (h : place < bound) :
    Closes (steps.take bound) begun place ↔ Closes steps begun place := by
  rw [Closes, Closes, List.getElem?_take_of_lt h, List.take_take, Nat.min_eq_left h.le]

theorem closes_append_singleton (h : place < steps.length) (step : Step) :
    Closes (steps ++ [step]) begun place ↔ Closes steps begun place := by
  rw [← closes_take h, List.take_left]

theorem closing?_eq_some_iff :
    closing? steps begun = some place ↔
      Closes steps begun place ∧ place < steps.length ∧ ∀ earlier < place, ¬Closes steps begun earlier := by
  rw [closing?, List.find?_range_eq_some, List.mem_range, decide_eq_true_iff]
  simp

theorem closing?_eq_none_iff : closing? steps begun = none ↔ ∀ place < steps.length, ¬Closes steps begun place := by
  simp [closing?]

theorem mem_opened :
    begun ∈ opened steps ↔ begun < steps.length ∧ steps[begun]? = some .beginCapture ∧ closing? steps begun = none := by
  simp [opened]

theorem opened_pairwise (steps : List Step) : (opened steps).Pairwise fun inner outer ↦ outer < inner :=
  (List.pairwise_reverse.2 List.pairwise_lt_range).filter _

/-- One more step closes a capture that is open exactly if it ends a capture in which no other one is open. -/
theorem closing?_append_singleton_eq_none_iff (hbegun : begun < steps.length) :
    closing? (steps ++ [step]) begun = none ↔
      closing? steps begun = none ∧ ¬(step = .endCapture ∧ nesting? (steps.drop (begun + 1)) = some 0) := by
  have hlast : Closes (steps ++ [step]) begun steps.length ↔
      step = .endCapture ∧ nesting? (steps.drop (begun + 1)) = some 0 := by
    rw [Closes, List.getElem?_concat_length, List.take_left, Option.some_inj]
    exact and_iff_right hbegun
  have hearlier : ∀ place < steps.length, (Closes (steps ++ [step]) begun place ↔ Closes steps begun place) :=
    fun place hplace ↦ closes_append_singleton hplace step
  rw [closing?_eq_none_iff, closing?_eq_none_iff, ← hlast, List.length_append, List.length_singleton]
  constructor
  · intro h
    exact ⟨fun place hplace ↦ (hearlier place hplace).not.1 (h place (by omega)), h steps.length (by omega)⟩
  · rintro ⟨hsteps, hend⟩ place hplace
    obtain hlt | rfl := Nat.lt_succ_iff_lt_or_eq.1 hplace
    · exact (hearlier place hlt).not.2 (hsteps place hlt)
    · exact hend

theorem opened_append_singleton (steps : List Step) (step : Step) :
    opened (steps ++ [step]) = (if step = .beginCapture then [steps.length] else []) ++
      (opened steps).filter fun begun ↦ ¬(step = .endCapture ∧ nesting? (steps.drop (begun + 1)) = some 0) := by
  have hnone : closing? (steps ++ [step]) steps.length = none := by
    refine List.find?_eq_none.2 fun place hplace ↦ ?_
    rw [List.mem_range, List.length_append, List.length_singleton] at hplace
    rw [decide_eq_true_iff]
    exact fun h ↦ absurd h.1 (by omega)
  rw [opened, opened, List.length_append, List.length_singleton, List.range_succ, List.reverse_append, List.reverse_singleton,
    List.filter_append, List.filter_filter]
  congr 1
  · simp [List.filter_cons, hnone]
  · refine List.filter_congr fun begun hbegun ↦ ?_
    have hlt : begun < steps.length := List.mem_range.1 (List.mem_reverse.1 hbegun)
    rw [Bool.eq_iff_iff, Bool.and_eq_true, decide_eq_true_iff, decide_eq_true_iff, decide_eq_true_iff,
      List.getElem?_append_left hlt, closing?_append_singleton_eq_none_iff hlt]
    exact ⟨fun ⟨hbegin, hopen, hstays⟩ ↦ ⟨hstays, hbegin, hopen⟩, fun ⟨hstays, hbegin, hopen⟩ ↦ ⟨hbegin, hopen, hstays⟩⟩

theorem opened_of_piece {text : String} (h : step.piece? = some text) : opened (steps ++ [step]) = opened steps := by
  rw [opened_append_singleton]
  cases step with
  | write | writeChar => simp
  | beginCapture | endCapture => cases h

theorem opened_beginCapture (steps : List Step) :
    opened (steps ++ [.beginCapture]) = steps.length :: opened steps := by
  rw [opened_append_singleton]
  simp

/-- In each open capture as many others are open as have begun behind it and not ended. -/
def IsNested (steps : List Step) : Prop :=
  ∀ level begun, (opened steps)[level]? = some begun → nesting? (steps.drop (begun + 1)) = some level

/-- Ending a capture leaves all that are open but the innermost one. -/
theorem IsNested.opened_endCapture (h : IsNested steps) : opened (steps ++ [.endCapture]) = (opened steps).tail := by
  rw [opened_append_singleton, if_neg nofun, List.nil_append]
  cases hopened : opened steps with
  | nil => rfl
  | cons inner outer =>
    have hinner : nesting? (steps.drop (inner + 1)) = some 0 := h 0 inner (by rw [hopened]; rfl)
    have houter : ∀ begun ∈ outer, nesting? (steps.drop (begun + 1)) ≠ some 0 := by
      intro begun hbegun hzero
      obtain ⟨level, hlevel⟩ := List.mem_iff_getElem?.1 hbegun
      have hsucc := h (level + 1) begun (by rw [hopened, List.getElem?_cons_succ, hlevel])
      cases hzero.symm.trans hsucc
    rw [List.filter_cons_of_neg (by simp [hinner]), List.tail_cons, List.filter_eq_self]
    intro begun hbegun
    simpa using houter begun hbegun

theorem lt_of_mem_opened (h : begun ∈ opened steps) : begun < steps.length := (mem_opened.1 h).1

theorem nesting?_drop_append_singleton (h : begun < steps.length) (step : Step) :
    nesting? ((steps ++ [step]).drop (begun + 1)) = (nesting? (steps.drop (begun + 1))).bind step.nest? := by
  rw [List.drop_append_of_le_length h, nesting?_append_singleton]

theorem isNested (steps : List Step) : IsNested steps := by
  induction steps using List.reverseRecOn with
  | nil =>
    intro level begun h
    cases h
  | append_singleton steps step ih =>
    intro level begun h
    have hbefore {level : Nat} (hlevel : (opened steps)[level]? = some begun) :
        nesting? ((steps ++ [step]).drop (begun + 1)) = step.nest? level := by
      rw [nesting?_drop_append_singleton (lt_of_mem_opened (List.mem_of_getElem? hlevel)), ih level begun hlevel,
        Option.bind_some]
    cases step with
    | write text =>
      rw [opened_of_piece rfl] at h
      exact hbefore h
    | writeChar c =>
      rw [opened_of_piece rfl] at h
      exact hbefore h
    | beginCapture =>
      rw [opened_beginCapture] at h
      cases level with
      | zero =>
        obtain rfl := Option.some.inj h
        rw [List.drop_eq_nil_of_le (by simp)]
        rfl
      | succ level => exact hbefore h
    | endCapture =>
      rw [ih.opened_endCapture, List.getElem?_tail] at h
      exact hbefore h

/-! ## Homes -/

theorem innermost?_take {bound : Nat} (h : place ≤ bound) : innermost? (steps.take bound) place = innermost? steps place := by
  rw [innermost?, List.take_take, Nat.min_eq_left h, innermost?]

theorem innermost?_append_singleton (h : place ≤ steps.length) (step : Step) :
    innermost? (steps ++ [step]) place = innermost? steps place := by
  rw [← innermost?_take h, List.take_left]

/-- What is open at a place has begun in front of it. -/
theorem of_innermost? (h : innermost? steps place = some begun) :
    begun < place ∧ steps[begun]? = some .beginCapture ∧ begun ∈ opened (steps.take place) := by
  have hmem : begun ∈ opened (steps.take place) := List.mem_of_head? h
  obtain ⟨hlt, hbegin, -⟩ := mem_opened.1 hmem
  rw [List.length_take] at hlt
  have hplace : begun < place := by omega
  rw [List.getElem?_take_of_lt hplace] at hbegin
  exact ⟨hplace, hbegin, hmem⟩

/-- A capture that is not ended up to a place is open there. -/
theorem mem_opened_take (hbegin : steps[begun]? = some .beginCapture) (hplace : begun < place)
    (hopen : ∀ finish < place, ¬Closes steps begun finish) : begun ∈ opened (steps.take place) := by
  have hlength : begun < steps.length := (List.getElem?_eq_some_iff.1 hbegin).1
  refine mem_opened.2 ⟨?_, by rwa [List.getElem?_take_of_lt hplace], closing?_eq_none_iff.2 fun finish hfinish ↦ ?_⟩
  · rw [List.length_take]
    omega
  · have hlt : finish < place := hfinish.trans_le (List.length_take_le _ _)
    rw [closes_take hlt]
    exact hopen finish hlt

/-- A capture is open up to its end only. -/
theorem not_closes_of_mem_opened_take (h : begun ∈ opened (steps.take place)) {finish : Nat} (hfinish : finish < place) :
    ¬Closes steps begun finish := by
  intro hcloses
  have hlength : finish < steps.length := (List.getElem?_eq_some_iff.1 hcloses.2.1).1
  refine closing?_eq_none_iff.1 (mem_opened.1 h).2.2 finish ?_ ((closes_take hfinish).2 hcloses)
  rw [List.length_take]
  omega

/-- The innermost capture has begun last. -/
theorem exists_innermost? (h : begun ∈ opened (steps.take place)) :
    ∃ inner, innermost? steps place = some inner ∧ begun ≤ inner := by
  have hpairwise := opened_pairwise (steps.take place)
  rw [innermost?]
  cases hopened : opened (steps.take place) with
  | nil => cases hopened ▸ h
  | cons inner outer =>
    rw [hopened] at h hpairwise
    refine ⟨inner, rfl, ?_⟩
    obtain rfl | houter := List.mem_cons.1 h
    · exact le_rfl
    · exact ((List.pairwise_cons.1 hpairwise).1 begun houter).le

/-- The end of a capture is where it is the innermost one. -/
theorem closing?_eq_some_iff_innermost? (hbegin : steps[begun]? = some .beginCapture)
    (hend : steps[place]? = some .endCapture) :
    closing? steps begun = some place ↔ innermost? steps place = some begun := by
  have hlength : place < steps.length := (List.getElem?_eq_some_iff.1 hend).1
  constructor
  · intro h
    obtain ⟨⟨hlt, -, hnesting⟩, -, hfirst⟩ := closing?_eq_some_iff.1 h
    obtain ⟨level, hlevel⟩ := List.mem_iff_getElem?.1 (mem_opened_take hbegin hlt hfirst)
    obtain rfl : level = 0 := Option.some.inj ((isNested _ level begun hlevel).symm.trans hnesting)
    rw [innermost?, List.head?_eq_getElem?, hlevel]
  · intro h
    obtain ⟨hlt, -, hmem⟩ := of_innermost? h
    have hzero : (opened (steps.take place))[0]? = some begun := by rw [← List.head?_eq_getElem?, ← innermost?, h]
    exact closing?_eq_some_iff.2 ⟨⟨hlt, hend, isNested _ 0 begun hzero⟩, hlength, fun earlier hearlier ↦
      not_closes_of_mem_opened_take hmem hearlier⟩

/-- Pieces whose home is a given end are written where the capture that it closes is the innermost one. -/
theorem home?_eq_some_iff {finish : Nat} (hend : steps[finish]? = some .endCapture) :
    home? steps place = some finish ↔ ∃ begun, innermost? steps place = some begun ∧ innermost? steps finish = some begun := by
  rw [home?, Option.bind_eq_some_iff]
  refine exists_congr fun begun ↦ and_congr_right fun hinnermost ↦ ?_
  exact closing?_eq_some_iff_innermost? (of_innermost? hinnermost).2.1 hend

/-- What is written behind the end of a capture is not written into it. -/
theorem le_of_home? {finish : Nat} (h : home? steps place = some finish) : place ≤ finish := by
  obtain ⟨begun, hinnermost, hclosing⟩ := Option.bind_eq_some_iff.1 h
  refine Nat.le_of_not_lt fun hlt ↦ ?_
  exact not_closes_of_mem_opened_take (of_innermost? hinnermost).2.2 hlt (closing?_eq_some_iff.1 hclosing).1

/-- The end at which a piece has its home closes the innermost capture that is open when the piece is written. -/
theorem closes_of_home? {finish : Nat} (hpiece : steps[place]?.bind Step.piece? ≠ none) (h : home? steps place = some finish) :
    place < finish ∧ ∃ begun, innermost? steps place = some begun ∧ Closes steps begun finish := by
  obtain ⟨begun, hinnermost, hclosing⟩ := Option.bind_eq_some_iff.1 h
  have hcloses := (closing?_eq_some_iff.1 hclosing).1
  refine ⟨Nat.lt_of_le_of_ne (le_of_home? h) ?_, begun, hinnermost, hcloses⟩
  rintro rfl
  rw [hcloses.2.1] at hpiece
  exact hpiece rfl

/-- Pieces without a home are written where no capture is open or one that is never ended is the innermost one. -/
theorem home?_eq_none_iff : home? steps place = none ↔ innermost? steps place ∈ none :: (opened steps).map some := by
  rw [home?]
  cases hinnermost : innermost? steps place with
  | none => simp
  | some begun =>
    obtain ⟨-, hbegin, -⟩ := of_innermost? hinnermost
    have hlt : begun < steps.length := (List.getElem?_eq_some_iff.1 hbegin).1
    simp only [Option.bind_some, List.mem_cons, reduceCtorEq, false_or, List.mem_map, Option.some.injEq, exists_eq_right,
      mem_opened, hlt, hbegin, true_and]

/-! ## Buffers -/

theorem piecesAt_append_singleton (steps : List Step) (step : Step) (holds : Nat → Bool) :
    piecesAt (steps ++ [step]) holds =
      piecesAt steps holds ++ if holds steps.length then step.piece?.toList else [] := by
  have hlast : (if holds steps.length then step.piece?.toList else []) =
      ([steps.length].filter holds).filterMap fun place ↦ (steps ++ [step])[place]?.bind Step.piece? := by
    cases hholds : holds steps.length with
    | false => simp [hholds]
    | true => cases hpiece : step.piece? <;> simp [hholds, hpiece]
  rw [hlast, piecesAt, piecesAt, List.length_append, List.length_singleton, List.range_succ, List.filter_append,
    List.filterMap_append]
  congr 1
  refine List.filterMap_congr fun place hplace ↦ ?_
  rw [List.getElem?_append_left (List.mem_range.1 (List.mem_filter.1 hplace).1)]

theorem piecesAt_congr {holds other : Nat → Bool} (h : ∀ place < steps.length, holds place = other place) :
    piecesAt steps holds = piecesAt steps other := by
  rw [piecesAt, piecesAt, List.filter_congr fun place hplace ↦ h place (List.mem_range.1 hplace)]

theorem piecesAt_eq_nil {holds : Nat → Bool} (h : ∀ place < steps.length, holds place = false) :
    piecesAt steps holds = [] := by
  rw [piecesAt_congr h, piecesAt, List.filter_false, List.filterMap_nil]

/-- The text that is written into a capture, or onto the page. -/
def contents (steps : List Step) (capture? : Option Nat) : String :=
  String.join (piecesAt steps fun place ↦ innermost? steps place = capture?)

/-- What is written next goes into the innermost capture. -/
theorem contents_append_singleton (steps : List Step) (step : Step) (capture? : Option Nat) :
    contents (steps ++ [step]) capture? =
      contents steps capture? ++ if (opened steps).head? = capture? then step.piece?.getD "" else "" := by
  have hbefore : piecesAt steps (fun place ↦ innermost? (steps ++ [step]) place = capture?) =
      piecesAt steps fun place ↦ innermost? steps place = capture? :=
    piecesAt_congr fun place hplace ↦ by rw [innermost?_append_singleton hplace.le]
  have hhere : innermost? (steps ++ [step]) steps.length = (opened steps).head? := by rw [innermost?, List.take_left]
  rw [contents, piecesAt_append_singleton, String.join_append, hbefore, hhere, contents]
  congr 1
  by_cases hcapture : (opened steps).head? = capture?
  · cases step.piece? <;> simp [hcapture]
  · simp [hcapture]

theorem contents_of_not_piece (h : step.piece? = none) (capture? : Option Nat) :
    contents (steps ++ [step]) capture? = contents steps capture? := by
  rw [contents_append_singleton, h, Option.getD_none, ite_self, String.append_empty]

/-- Nothing is written into a capture before it begins. -/
theorem contents_eq_empty (h : steps.length ≤ begun) : contents steps (some begun) = "" := by
  have hnone (place : Nat) (hplace : place < steps.length) : decide (innermost? steps place = some begun) = false := by
    rw [decide_eq_false_iff_not]
    intro hinnermost
    have hlt := (of_innermost? hinnermost).1
    omega
  rw [contents, piecesAt_eq_nil hnone, String.join_nil]

/-- The texts of an output, the innermost one first. -/
def buffers (output : Output) : List String := output.top :: output.below

theorem perform_of_piece {text : String} (h : step.piece? = some text) (output : Output) :
    step.perform output = (none, output.write text) := by
  cases step with
  | write =>
    obtain rfl := Option.some.inj h
    rfl
  | writeChar c =>
    obtain rfl := Option.some.inj h
    rw [Step.perform, writeChar_eq]
  | beginCapture | endCapture => cases h

/-- The end of a capture takes the innermost text away, -/
theorem endCapture_of_buffers {output : Output} {text : String} {texts : List String} (h : output.buffers = text :: texts)
    (hne : texts ≠ []) : output.endCapture.1 = text ∧ output.endCapture.2.buffers = texts := by
  obtain ⟨top, below⟩ := output
  obtain ⟨rfl, rfl⟩ := List.cons.inj h
  obtain ⟨next, rest, rfl⟩ := List.exists_cons_of_ne_nil hne
  exact ⟨rfl, rfl⟩

/-- but it leaves the page. -/
theorem endCapture_of_page {output : Output} {page : String} (h : output.buffers = [page]) :
    output.endCapture = ("", output) := by
  have hbelow : output.below = [] := (List.cons.inj h).2
  rw [endCapture, hbelow]

/-- The captures that are open, the innermost one first, and the page behind them. -/
def targets (steps : List Step) : List (Option Nat) := (opened steps).map some ++ [none]

/-- The first target is the innermost capture, and it is no other one. -/
theorem exists_targets (steps : List Step) :
    ∃ outer, targets steps = (opened steps).head? :: outer ∧ (opened steps).head? ∉ outer := by
  have hpairwise := opened_pairwise steps
  rw [targets]
  cases hopened : opened steps with
  | nil => exact ⟨[], rfl, List.not_mem_nil⟩
  | cons inner outer =>
    rw [hopened, List.pairwise_cons] at hpairwise
    refine ⟨outer.map some ++ [none], rfl, fun hmem ↦ ?_⟩
    obtain ⟨other, hother, hsame⟩ : ∃ other ∈ outer, other = inner := by simpa using hmem
    exact absurd hsame (hpairwise.1 other hother).ne

/-- The texts of an output are those of the captures that are open, and that of the page. -/
theorem buffers_after (steps : List Step) : (after steps).buffers = (targets steps).map (contents steps) := by
  induction steps using List.reverseRecOn with
  | nil => rfl
  | append_singleton steps step ih =>
    rw [after_append_singleton]
    cases hpiece : step.piece? with
    | some text =>
      obtain ⟨outer, htargets, hinner⟩ := exists_targets steps
      have hsame : targets (steps ++ [step]) = targets steps := by rw [targets, opened_of_piece hpiece, targets]
      rw [htargets, List.map_cons] at ih
      obtain ⟨htop, hbelow⟩ := List.cons.inj ih
      rw [perform_of_piece hpiece, hsame, htargets, List.map_cons, contents_append_singleton, if_pos rfl, hpiece, ← htop]
      refine congrArg _ (hbelow.trans (List.map_congr_left fun target htarget ↦ ?_))
      have hne : (opened steps).head? ≠ target := fun h ↦ hinner (h ▸ htarget)
      rw [contents_append_singleton, if_neg hne, String.append_empty]
    | none =>
      have hcontents : contents (steps ++ [step]) = contents steps := funext (contents_of_not_piece hpiece)
      rw [hcontents]
      cases step with
      | write | writeChar => cases hpiece
      | beginCapture =>
        have htargets : targets (steps ++ [.beginCapture]) = some steps.length :: targets steps := by
          rw [targets, opened_beginCapture]
          rfl
        rw [htargets, List.map_cons, contents_eq_empty le_rfl, ← ih]
        rfl
      | endCapture =>
        rw [targets, (isNested steps).opened_endCapture]
        rw [targets] at ih
        cases hopened : opened steps with
        | nil =>
          rw [hopened] at ih
          rw [Step.perform, endCapture_of_page ih]
          exact ih
        | cons inner outer =>
          rw [hopened] at ih
          exact (endCapture_of_buffers ih (by simp)).2

/-- The end of a capture gives what has been written into the innermost one, -/
theorem endCapture_after {inner : Nat} {outer : List Nat} (h : opened steps = inner :: outer) :
    (after steps).endCapture.1 = contents steps (some inner) := by
  have hbuffers := buffers_after steps
  rw [targets, h] at hbuffers
  exact (endCapture_of_buffers hbuffers (by simp)).1

/-- and it does nothing where no capture is open. -/
theorem endCapture_after_of_opened_eq_nil (h : opened steps = []) : (after steps).endCapture = ("", after steps) := by
  have hbuffers := buffers_after steps
  rw [targets, h] at hbuffers
  exact endCapture_of_page hbuffers

/-! ## Every piece is at its home -/

theorem depth_after (steps : List Step) : (after steps).depth = (opened steps).length := by
  have hlength := congrArg List.length (buffers_after steps)
  rw [buffers, targets, List.length_cons, List.length_map, List.length_append, List.length_map] at hlength
  exact Nat.succ.inj hlength

/-- Places behind the last one that counts make no difference, nor does the end of a capture. -/
theorem piecesAt_append {holds : Nat → Bool} (h : ∀ place, steps.length < place → holds place = false) (more : List Step) :
    piecesAt (steps ++ .endCapture :: more) holds = piecesAt steps holds := by
  induction more using List.reverseRecOn with
  | nil =>
    have hpiece : Step.piece? .endCapture = none := rfl
    rw [piecesAt_append_singleton, hpiece, Option.toList_none, ite_self, List.append_nil]
  | append_singleton more step ih =>
    rw [← List.cons_append, ← List.append_assoc, piecesAt_append_singleton, ih, h, if_neg Bool.false_ne_true,
      List.append_nil]
    rw [List.length_append, List.length_cons]
    omega

/-- The end of a capture gives the pieces that have their home there. -/
theorem result?_endCapture {finish : Nat} (hend : steps[finish]? = some .endCapture) :
    result? steps finish = some (String.join (piecesAt steps fun place ↦ home? steps place = some finish)) := by
  have hlength : finish < steps.length := (List.getElem?_eq_some_iff.1 hend).1
  have hresult : result? steps finish = some (after (steps.take finish)).endCapture.1 := by
    rw [result?, hend]
    rfl
  have hsplit : steps = steps.take finish ++ .endCapture :: steps.drop (finish + 1) := by
    rw [← (List.getElem?_eq_some_iff.1 hend).2, ← List.drop_eq_getElem_cons hlength, List.take_append_drop]
  rw [hresult]
  refine congrArg some ?_
  cases hopened : opened (steps.take finish) with
  | nil =>
    have hnone (place : Nat) (_ : place < steps.length) : decide (home? steps place = some finish) = false := by
      rw [decide_eq_false_iff_not, home?_eq_some_iff hend]
      rintro ⟨begun, -, hinnermost⟩
      rw [innermost?, hopened] at hinnermost
      cases hinnermost
    rw [endCapture_after_of_opened_eq_nil hopened, piecesAt_eq_nil hnone, String.join_nil]
  | cons inner outer =>
    have hinnermost : innermost? steps finish = some inner := by rw [innermost?, hopened]; rfl
    have hhome (place : Nat) : home? steps place = some finish ↔ innermost? steps place = some inner := by
      rw [home?_eq_some_iff hend, hinnermost]
      simp
    have hlater (place : Nat) (hplace : (steps.take finish).length < place) :
        decide (home? steps place = some finish) = false := by
      rw [List.length_take, Nat.min_eq_left hlength.le] at hplace
      rw [decide_eq_false_iff_not]
      exact fun h ↦ absurd (le_of_home? h) (Nat.not_le.2 hplace)
    have hpieces : piecesAt steps (fun place ↦ home? steps place = some finish) =
        piecesAt (steps.take finish) fun place ↦ home? steps place = some finish :=
      (congrArg (piecesAt · _) hsplit).trans (piecesAt_append hlater _)
    rw [endCapture_after hopened, contents, hpieces]
    refine congrArg String.join (piecesAt_congr fun place hplace ↦ ?_)
    rw [innermost?_take (hplace.le.trans (List.length_take_le _ _))]
    simp only [hhome]

/-- The pieces of two disjoint groups of places stand one behind the other if the places do. -/
theorem piecesAt_or {before behind : Nat → Bool} {bound : Nat} (hbefore : ∀ place, bound < place → before place = false)
    (hbehind : ∀ place ≤ bound, behind place = false) (steps : List Step) :
    piecesAt steps (fun place ↦ before place || behind place) = piecesAt steps before ++ piecesAt steps behind := by
  induction steps using List.reverseRecOn with
  | nil => rfl
  | append_singleton steps step ih =>
    rw [piecesAt_append_singleton, piecesAt_append_singleton, piecesAt_append_singleton, ih]
    obtain hlt | hle := Nat.lt_or_ge bound steps.length
    · rw [hbefore _ hlt]
      simp
    · rw [hbehind _ hle, piecesAt_eq_nil fun place hplace ↦ hbehind place (hplace.le.trans hle)]
      simp

/-- The page, and captures that are open, hold their pieces one behind the other. -/
theorem join_contents {captures : List Nat} (hopen : ∀ capture ∈ captures, capture ∈ opened steps)
    (horder : captures.Pairwise fun inner outer ↦ outer < inner) :
    String.join (((captures.map some ++ [none]).map (contents steps)).reverse) =
      String.join (piecesAt steps fun place ↦ innermost? steps place ∈ none :: captures.map some) := by
  induction captures with
  | nil =>
    rw [List.map_nil, List.nil_append, List.map_singleton, List.reverse_singleton, String.join_cons, String.join_nil,
      String.append_empty, contents]
    exact congrArg _ (piecesAt_congr fun place _ ↦ by simp only [List.mem_singleton])
  | cons inner outer ih =>
    obtain ⟨hinner, houter⟩ := List.forall_mem_cons.1 hopen
    obtain ⟨hfirst, hrest⟩ := List.pairwise_cons.1 horder
    obtain ⟨-, hbegin, hclosing⟩ := mem_opened.1 hinner
    -- Behind the beginning of a capture that is never ended, nothing is written into those around it.
    have hbefore (place : Nat) (hplace : inner < place) :
        decide (innermost? steps place ∈ none :: outer.map some) = false := by
      have hnever (finish : Nat) (_ : finish < place) : ¬Closes steps inner finish := fun hcloses ↦
        closing?_eq_none_iff.1 hclosing finish (List.getElem?_eq_some_iff.1 hcloses.2.1).1 hcloses
      obtain ⟨latest, hlatest, hle⟩ := exists_innermost? (mem_opened_take hbegin hplace hnever)
      rw [decide_eq_false_iff_not, hlatest]
      intro hmem
      obtain ⟨other, hother, rfl⟩ : ∃ other ∈ outer, other = latest := by simpa using hmem
      exact absurd (hfirst other hother) (Nat.not_lt.2 hle)
    -- In front of it, nothing is written into the capture itself.
    have hbehind (place : Nat) (hplace : place ≤ inner) : decide (innermost? steps place = some inner) = false := by
      rw [decide_eq_false_iff_not]
      exact fun hinnermost ↦ absurd (of_innermost? hinnermost).1 (Nat.not_lt.2 hplace)
    rw [List.map_cons, List.cons_append, List.map_cons, List.reverse_cons, String.join_append, ih houter hrest,
      String.join_cons, String.join_nil, String.append_empty, contents, ← String.join_append,
      ← piecesAt_or hbefore hbehind]
    refine congrArg String.join (piecesAt_congr fun place _ ↦ ?_)
    simp only [List.mem_cons, Bool.decide_or, Bool.or_assoc,
      Bool.or_comm (decide (innermost? steps place = some inner))]

theorem text_after (steps : List Step) :
    (after steps).text = String.join (piecesAt steps fun place ↦ home? steps place = none) := by
  have htext : (after steps).text = String.join (after steps).buffers.reverse := by
    rw [text, buffers, List.reverse_cons, String.join_append, String.join_cons, String.join_nil, String.append_empty]
  rw [htext, buffers_after, targets, join_contents (fun _ h ↦ h) (opened_pairwise steps)]
  congr 1
  exact piecesAt_congr fun place _ ↦ by simp only [home?_eq_none_iff]

/-- The end of a capture does nothing where no capture is open. -/
theorem of_opened_eq_nil {finish : Nat} (hend : steps[finish]? = some .endCapture) (h : opened (steps.take finish) = []) :
    result? steps finish = some "" ∧ after (steps.take (finish + 1)) = after (steps.take finish) := by
  rw [List.take_add_one, hend, Option.toList_some, after_append_singleton, result?, hend, Option.bind_some, Step.perform,
    endCapture_after_of_opened_eq_nil h]
  exact ⟨rfl, rfl⟩

/-- Whatever is done to a new output, in whatever order: the end of a capture gives the pieces that are written while the capture
is the innermost one, each once and in their order, and the page has all others. An end without an open capture gives nothing
and changes nothing, and the depth is the number of captures that have begun and are not ended. -/
theorem pieces_at_home (steps : List Step) :
    (after steps).text = String.join (piecesAt steps fun place ↦ home? steps place = none) ∧
    (∀ finish, steps[finish]? = some .endCapture →
      result? steps finish = some (String.join (piecesAt steps fun place ↦ home? steps place = some finish)) ∧
      (opened (steps.take finish) = [] →
        result? steps finish = some "" ∧ after (steps.take (finish + 1)) = after (steps.take finish))) ∧
    (∀ place finish, steps[place]?.bind Step.piece? ≠ none → home? steps place = some finish →
      place < finish ∧ ∃ begun, innermost? steps place = some begun ∧ Closes steps begun finish) ∧
    (after steps).depth = (opened steps).length :=
  ⟨text_after steps, fun _ hend ↦ ⟨result?_endCapture hend, of_opened_eq_nil hend⟩, fun _ _ ↦ closes_of_home?,
    depth_after steps⟩

/-- A capture inside of another one, an end too many, and a capture that is never ended. -/
theorem pieces_at_home_nested :
    let steps : List Step := [.write "a", .beginCapture, .write "b", .beginCapture, .writeChar 'c', .endCapture, .write "d",
      .endCapture, .endCapture, .beginCapture, .write "e"]
    (steps[7]? = some .endCapture ∧ result? steps 7 = some "bd") ∧
      (steps[8]? = some .endCapture ∧ opened (steps.take 8) = [] ∧ result? steps 8 = some "") ∧
      (steps[4]?.bind Step.piece? ≠ none ∧ home? steps 4 = some 5 ∧ Closes steps 3 5) ∧
      (after steps).text = "ae" ∧ (after steps).depth = 1 := by
  intro steps
  have hend : steps[7]? = some .endCapture := rfl
  have hstray : steps[8]? = some .endCapture := rfl
  have hnone : opened (steps.take 8) = [] := by decide
  have hpiece : steps[4]?.bind Step.piece? ≠ none := nofun
  have hhome : home? steps 4 = some 5 := by decide
  obtain ⟨htext, hends, hhomes, hdepth⟩ := pieces_at_home steps
  have hinner : piecesAt steps (fun place ↦ home? steps place = some 7) = ["b", "d"] := by decide
  have hpage : piecesAt steps (fun place ↦ home? steps place = none) = ["a", "e"] := by decide
  have hopened : opened steps = [9] := by decide
  have hthird : innermost? steps 4 = some 3 := by decide
  obtain ⟨-, begun, hinnermost, hcloses⟩ := hhomes 4 5 hpiece hhome
  obtain rfl := Option.some.inj (hthird.symm.trans hinnermost)
  refine ⟨⟨hend, ?_⟩, ⟨hstray, hnone, ((hends 8 hstray).2 hnone).1⟩, ⟨hpiece, hhome, hcloses⟩, ?_, ?_⟩
  · rw [(hends 7 hend).1, hinner]
    rfl
  · rw [htext, hpage]
    rfl
  · rw [hdepth, hopened]
    rfl

end Liquid.Output
