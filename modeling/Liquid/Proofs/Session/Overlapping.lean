import Liquid.Host.Filters
import Liquid.Proofs.Session.History
import Mathlib.Logic.Function.Basic
import Mathlib.Logic.Relation

/-!
# Renders of one template that overlap

A render takes the variables that its template keeps when it begins, and if it succeeds it leaves the template with those that
it ends with. In between it may wait, and another render of the template may begin, go on and end. What the template keeps in
the end is what the one that ended last leaves: a variable that only the other one changed is lost unless the last one had
begun when the other had already ended.
-/

namespace Liquid

/-- One of two renders. -/
inductive Side where
  | first
  | second
deriving DecidableEq

namespace Side

/-- The other render. -/
def other : Side → Side
  | first => second
  | second => first

@[simp] theorem other_other (side : Side) : side.other.other = side := by cases side <;> rfl

theorem other_ne (side : Side) : side.other ≠ side := by cases side <;> exact nofun

theorem eq_other_of_ne {side acting : Side} (h : acting ≠ side) : acting = side.other := by
  cases side <;> cases acting <;> first | rfl | exact (h rfl).elim

end Side

namespace Session

open Render

/-- How far a render is. -/
inductive Stage where
  | due
  /-- It has begun with the template as it was then. What is noted is whether the other render had succeeded before, the state
  in which this one began and the state in which it is. -/
  | running (rendered : Template) (follows : Bool) (start now : RenderState)
  | failed
  | succeeded (follows : Bool) (start final : RenderState)

/-- Whether a render has succeeded. -/
def Stage.hasSucceeded : Stage → Bool
  | .succeeded _ _ _ => true
  | _ => false

/-- A session with two renders of one of its templates. -/
structure Overlap where
  session : Session
  stage : Side → Stage

/-- The stage in which a render is when its run has ended. -/
def Stage.ended (follows : Bool) (start : RenderState) : Except Failure Flow × RenderState → Stage
  | (.ok _, final) => .succeeded follows start final
  | (.error _, _) => .failed

theorem Stage.ended_of_ok {run : Except Failure Flow × RenderState} {flow : Flow} (h : run.1 = .ok flow) (follows : Bool)
    (start : RenderState) : Stage.ended follows start run = .succeeded follows start run.2 := by
  obtain ⟨ended, final⟩ := run
  obtain rfl : ended = .ok flow := h
  rfl

namespace Overlap

/-- Both renders are still to come. -/
def start (session : Session) : Overlap := ⟨session, fun _ ↦ .due⟩

/-- One of the renders has come to a stage and the session to a state. -/
def move (overlap : Overlap) (side : Side) (session : Session) (stage : Stage) : Overlap :=
  ⟨session, Function.update overlap.stage side stage⟩

/-- One of the renders begins with the given template. -/
def begun (overlap : Overlap) (side : Side) (template : Template) (inputs : Value) (options : RenderOptions) : Overlap :=
  overlap.move side overlap.session
    (.running template (overlap.stage side.other).hasSucceeded (overlap.session.renderState template inputs options)
      (overlap.session.renderState template inputs options))

/-- The run of one of the renders has ended. -/
def concluded (overlap : Overlap) (number : Nat) (side : Side) (rendered : Template) (follows : Bool) (start : RenderState)
    (run : Except Failure Flow × RenderState) : Overlap :=
  overlap.move side (overlap.session.conclude number rendered run).2 (.ended follows start run)

variable {overlap : Overlap} {side acting : Side} {session : Session} {stage : Stage}

@[simp] theorem move_stage_self : (overlap.move side session stage).stage side = stage := Function.update_self ..

theorem move_stage_of_ne (h : acting ≠ side) : (overlap.move side session stage).stage acting = overlap.stage acting :=
  Function.update_of_ne h ..

theorem move_move (later : Session) (next : Stage) :
    (overlap.move side session stage).move side later next = overlap.move side later next := by
  unfold move
  rw [Function.update_idem]

/-- One of the renders of the template of a number goes on. While it runs it may do anything to its own state, and the session
takes over what renders share: that the template keeps variables matters to it only when it begins and when it ends. -/
inductive Step (number : Nat) : Overlap → Overlap → Prop
  | begin {overlap : Overlap} (side : Side) (inputs : Value) (options : RenderOptions) {template : Template}
      (hdue : overlap.stage side = .due) (htemplate : overlap.session.template? number = some template) :
      Step number overlap (overlap.begun side template inputs options)
  | work {overlap : Overlap} (side : Side) (next : RenderState) {rendered : Template} {follows : Bool}
      {start now : RenderState} (hrunning : overlap.stage side = .running rendered follows start now) :
      Step number overlap (overlap.move side (overlap.session.afterRender next) (.running rendered follows start next))
  | finish {overlap : Overlap} (side : Side) (ended : Except Failure Flow) {rendered : Template} {follows : Bool}
      {start now : RenderState} (hrunning : overlap.stage side = .running rendered follows start now) :
      Step number overlap (overlap.concluded number side rendered follows start (ended, now))

/-- What two renders lead to whose steps alternate in any way. -/
abbrev Reaches (number : Nat) : Overlap → Overlap → Prop := Relation.ReflTransGen (Step number)

variable {number : Nat} {template rendered : Template} {follows : Bool} {start now : RenderState}

/-- What a session takes over from a render that it has taken over already. -/
theorem conclude_afterRender (session : Session) (number : Nat) (rendered : Template)
    (run : Except Failure Flow × RenderState) :
    ((session.afterRender run.2).conclude number rendered run).2 = (session.conclude number rendered run).2 := by
  rcases run with ⟨failure | flow, state⟩
  · rfl
  · rw [conclude, conclude]
    cases rendered.isThreadSafe <;> rfl

/-- A render that succeeds leaves its variables to a template that was not thread safe when it began. -/
theorem conclude_template?_of_ok {kept : Template} (hkept : session.template? number = some kept)
    (hshared : rendered.isThreadSafe = false) {run : Except Failure Flow × RenderState} {flow : Flow}
    (hrun : run.1 = .ok flow) :
    (session.conclude number rendered run).2.template? number =
      some { kept with assigned := run.2.context.assigned } := by
  obtain ⟨ended, final⟩ := run
  obtain rfl : ended = .ok flow := hrun
  rw [conclude_template? hkept]
  exact congrArg some (if_pos ⟨hshared, rfl⟩)

/-- A render that has begun can run to its end with nothing in between. -/
theorem reaches_concluded (side : Side) (hrunning : overlap.stage side = .running rendered follows start now)
    (run : Except Failure Flow × RenderState) :
    Reaches number overlap (overlap.concluded number side rendered follows start run) := by
  have hworked : Step number overlap (overlap.move side (overlap.session.afterRender run.2)
    (.running rendered follows start run.2)) := .work side run.2 hrunning
  have hfinished : Step number (overlap.move side (overlap.session.afterRender run.2)
    (.running rendered follows start run.2)) _ := .finish side run.1 move_stage_self
  have hsession : ((overlap.session.afterRender run.2).conclude number rendered run).2 =
      (overlap.session.conclude number rendered run).2 := conclude_afterRender overlap.session number rendered run
  unfold concluded at hfinished ⊢
  rw [move_move] at hfinished
  rw [← hsession]
  exact .tail (.single hworked) hfinished

/-- A render in a session is one that begins, works and ends with nothing in between. -/
theorem reaches_render (hdue : overlap.stage side = .due)
    (htemplate : overlap.session.template? number = some template) (drive : Drive) (inputs : Value)
    (options : RenderOptions) :
    Reaches number overlap (overlap.move side (render drive number inputs options overlap.session).2
      (.ended (overlap.stage side.other).hasSucceeded (overlap.session.renderState template inputs options)
        (overlap.session.rendering template drive inputs options))) := by
  have hended : Reaches number (overlap.begun side template inputs options) _ :=
    reaches_concluded side move_stage_self (overlap.session.rendering template drive inputs options)
  unfold begun concluded at hended
  rw [move_move] at hended
  rw [render_eq_conclude htemplate]
  exact .head (.begin side inputs options hdue htemplate) hended

/-- Two renders can overlap so that both begin before one of them ends. -/
theorem reaches_overlapping (htemplate : session.template? number = some template) (drive : Drive)
    (inputs : Side → Value) (options : Side → RenderOptions) :
    let state (side : Side) := session.renderState template (inputs side) (options side)
    let run (side : Side) := session.rendering template drive (inputs side) (options side)
    ∃ final, Reaches number (.start session) final ∧ (∀ side, final.stage side = .ended false (state side) (run side)) ∧
      final.session =
        ((session.conclude number template (run .first)).2.conclude number template (run .second)).2 := by
  intro state run
  have hfirst : Reaches number (start session) ((start session).begun .first template (inputs .first) (options .first)) :=
    .single (.begin .first _ _ rfl htemplate)
  have hsecond := hfirst.tail (.begin .second (inputs .second) (options .second) rfl htemplate)
  have hended := hsecond.trans (reaches_concluded .first rfl (run .first))
  refine ⟨_, hended.trans (reaches_concluded .second rfl (run .second)), fun side ↦ ?_, rfl⟩
  cases side <;> rfl

/-! ## What the template keeps at each point -/

/-- A render that has not succeeded has failed, or began with the variables from before both renders, or with those that the
other one stored. -/
inductive IsOpen (initial : Entries String Value) (stored : Option (Entries String Value)) : Stage → Prop
  | due : IsOpen initial stored .due
  | failed : IsOpen initial stored .failed
  | ahead {rendered : Template} {start now : RenderState} (hshared : rendered.isThreadSafe = false)
      (hstart : start.context.assigned = initial) : IsOpen initial stored (.running rendered false start now)
  | behind {rendered : Template} {start now : RenderState} (hshared : rendered.isThreadSafe = false)
      (hstart : stored = some start.context.assigned) : IsOpen initial stored (.running rendered true start now)

variable {initial : Entries String Value} {stored : Option (Entries String Value)}

theorem IsOpen.hasSucceeded {stage : Stage} (h : IsOpen initial stored stage) : stage.hasSucceeded = false := by
  cases h <;> rfl

theorem IsOpen.of_none {stage : Stage} (h : IsOpen initial none stage) : IsOpen initial stored stage := by
  cases h with
  | due => exact .due
  | failed => exact .failed
  | ahead hshared hstart => exact .ahead hshared hstart
  | behind hshared hstart => cases hstart

/-- Behind a render that has succeeded only the other one can go on. -/
theorem eq_other_of_hasSucceeded (hside : (overlap.stage side).hasSucceeded = true)
    (hacting : (overlap.stage acting).hasSucceeded = false) : acting = side.other := by
  refine Side.eq_other_of_ne ?_
  rintro rfl
  exact Bool.noConfusion (hside.symm.trans hacting)

/-- Where two renders of a template can be. -/
inductive Reached (number : Nat) (template : Template) (overlap : Overlap) : Prop
  | neither (hkept : overlap.session.template? number = some template)
      (hopen : ∀ side, IsOpen template.assigned none (overlap.stage side)) : Reached number template overlap
  | one (side : Side) {start final : RenderState} (hside : overlap.stage side = .succeeded false start final)
      (hstart : start.context.assigned = template.assigned)
      (hopen : IsOpen template.assigned (some final.context.assigned) (overlap.stage side.other))
      (hkept : overlap.session.template? number = some { template with assigned := final.context.assigned }) :
      Reached number template overlap
  | both (last : Side) {follows : Bool} {start final earlierStart earlierFinal : RenderState}
      (hlast : overlap.stage last = .succeeded follows start final)
      (hother : overlap.stage last.other = .succeeded false earlierStart earlierFinal)
      (hearlier : earlierStart.context.assigned = template.assigned)
      (hstart : start.context.assigned = if follows then earlierFinal.context.assigned else template.assigned)
      (hkept : overlap.session.template? number = some { template with assigned := final.context.assigned }) :
      Reached number template overlap

/-- A render that has not succeeded goes on to a stage in which it has not either. -/
theorem Reached.move_open (h : Reached number template overlap)
    (hacting : (overlap.stage acting).hasSucceeded = false)
    (hsession : session.template? number = overlap.session.template? number)
    (hstage : ∀ stored,
      overlap.session.template? number = some { template with assigned := stored.getD template.assigned } →
      (overlap.stage acting.other).hasSucceeded = stored.isSome →
      IsOpen template.assigned stored (overlap.stage acting) → IsOpen template.assigned stored stage) :
    Reached number template (overlap.move acting session stage) := by
  cases h with
  | neither hkept hopen =>
    refine .neither (hsession.trans hkept) fun side ↦ ?_
    by_cases hside : side = acting
    · subst hside
      rw [move_stage_self]
      exact hstage none hkept (hopen _).hasSucceeded (hopen _)
    · rw [move_stage_of_ne hside]
      exact hopen side
  | one side hside hstart hopen hkept =>
    obtain rfl := eq_other_of_hasSucceeded (by rw [hside]; rfl) hacting
    refine .one side (by rw [move_stage_of_ne (Side.other_ne side).symm, hside]) hstart ?_ (hsession.trans hkept)
    rw [move_stage_self]
    exact hstage _ hkept (by rw [Side.other_other, hside]; rfl) hopen
  | both last hlast hother hearlier hstart hkept =>
    obtain rfl := eq_other_of_hasSucceeded (by rw [hlast]; rfl) hacting
    rw [hother] at hacting
    cases hacting

/-- A render that succeeds leaves its variables to the template. -/
theorem Reached.succeed (h : Reached number template overlap)
    (hrunning : overlap.stage acting = .running rendered follows start now) (flow : Flow) :
    Reached number template (overlap.move acting (overlap.session.conclude number rendered (.ok flow, now)).2
      (.succeeded follows start now)) := by
  have hacting : (overlap.stage acting).hasSucceeded = false := by rw [hrunning]; rfl
  have hrun : ((.ok flow, now) : Except Failure Flow × RenderState).1 = .ok flow := rfl
  cases h with
  | neither hkept hopen =>
    have hrunner := hopen acting
    rw [hrunning] at hrunner
    cases hrunner with
    | ahead hshared hstart =>
      refine .one acting move_stage_self hstart ?_ (conclude_template?_of_ok hkept hshared hrun)
      rw [move_stage_of_ne (Side.other_ne acting)]
      exact (hopen acting.other).of_none
    | behind hshared hstart => cases hstart
  | one side hside hearlier hopen hkept =>
    obtain rfl := eq_other_of_hasSucceeded (by rw [hside]; rfl) hacting
    have hother : (overlap.move side.other (overlap.session.conclude number rendered (.ok flow, now)).2
        (.succeeded follows start now)).stage side.other.other = overlap.stage side := by
      rw [Side.other_other, move_stage_of_ne (Side.other_ne side).symm]
    rw [hrunning] at hopen
    cases hopen with
    | ahead hshared hstart =>
      exact .both side.other move_stage_self (hother.trans hside) hearlier hstart
        (conclude_template?_of_ok hkept hshared hrun)
    | behind hshared hstart =>
      exact .both side.other move_stage_self (hother.trans hside) hearlier (Option.some.inj hstart).symm
        (conclude_template?_of_ok hkept hshared hrun)
  | both last hlast hother hearlier hstart hkept =>
    obtain rfl := eq_other_of_hasSucceeded (by rw [hlast]; rfl) hacting
    rw [hother] at hacting
    cases hacting

/-- One more step leads from where two renders can be to where they can be. -/
theorem Reached.step (hshared : template.isThreadSafe = false) {next : Overlap} (h : Reached number template overlap)
    (hstep : Step number overlap next) : Reached number template next := by
  cases hstep with
  | begin side inputs options hdue htemplate =>
    refine h.move_open (by rw [hdue]; rfl) rfl fun stored hkept hother _ ↦ ?_
    obtain rfl := Option.some.inj (htemplate.symm.trans hkept)
    have hstart : (overlap.session.renderState { template with assigned := stored.getD template.assigned } inputs
        options).context.assigned = stored.getD template.assigned :=
      if_neg fun hsafe ↦ Bool.noConfusion (hshared.symm.trans hsafe)
    rw [hother]
    cases stored with
    | none => exact .ahead hshared hstart
    | some assigned => exact .behind hshared (congrArg some hstart.symm)
  | work side state hrunning =>
    refine h.move_open (by rw [hrunning]; rfl) rfl fun stored _ _ hopen ↦ ?_
    rw [hrunning] at hopen
    cases hopen with
    | ahead hshared hstart => exact .ahead hshared hstart
    | behind hshared hstart => exact .behind hshared hstart
  | finish side ended hrunning =>
    cases ended with
    | ok flow => exact h.succeed hrunning flow
    | error failure => exact h.move_open (by rw [hrunning]; rfl) rfl fun _ _ _ _ ↦ .failed

theorem reached_of_reaches (htemplate : session.template? number = some template) (hshared : template.isThreadSafe = false)
    {final : Overlap} (h : Reaches number (.start session) final) : Reached number template final := by
  induction h with
  | refl => exact .neither htemplate fun _ ↦ .due
  | tail _ hstep ih => exact ih.step hshared hstep

end Overlap

/-- A render changes a variable. -/
def Changes (name : String) (start final : RenderState) : Prop :=
  final.context.assigned.find? name ≠ start.context.assigned.find? name

/-- However the steps of two renders of a template that is not thread safe alternate: if both succeed, the template keeps the
variables with which the one that ended last ended. A variable that one of them leaves alone is kept as the other one leaves
it if that one ended last, if the last one only began when the other one had succeeded, or if the other one does not change
it either, and in no other case. -/
theorem overlap_assigned (session : Session) (number : Nat) (template : Template)
    (htemplate : session.template? number = some template) (hshared : template.isThreadSafe = false) (final : Overlap)
    (hreaches : Overlap.Reaches number (.start session) final) (follows : Side → Bool) (start ended : Side → RenderState)
    (hsucceeded : ∀ side, final.stage side = .succeeded (follows side) (start side) (ended side)) :
    ∃ last assigned,
      final.session.template? number = some { template with assigned := assigned } ∧
      assigned = (ended last).context.assigned ∧ follows last.other = false ∧
      ∀ side name, ¬Changes name (start side.other) (ended side.other) →
        (assigned.find? name = (ended side).context.assigned.find? name ↔
          side = last ∨ follows last = true ∨ ¬Changes name (start side) (ended side)) := by
  cases Overlap.reached_of_reaches htemplate hshared hreaches with
  | neither hkept hopen =>
    have hfirst := (hopen .first).hasSucceeded
    rw [hsucceeded] at hfirst
    cases hfirst
  | one side hside hstart hopen hkept =>
    have hother := hopen.hasSucceeded
    rw [hsucceeded] at hother
    cases hother
  | both last hlast hother hearlier hstart hkept =>
    rw [hsucceeded] at hlast hother
    cases hlast
    injection hother with hfollows hearlierStart hearlierEnded
    subst hearlierStart hearlierEnded
    refine ⟨last, _, hkept, rfl, hfollows, fun side name hleft ↦ ?_⟩
    by_cases hside : side = last
    · subst hside
      exact ⟨fun _ ↦ .inl rfl, fun _ ↦ rfl⟩
    · obtain rfl := Side.eq_other_of_ne hside
      rw [Side.other_other] at hleft
      rw [not_not.1 hleft, hstart]
      cases follows last with
      | true => exact ⟨fun _ ↦ .inr (.inl rfl), fun _ ↦ rfl⟩
      | false =>
        change template.assigned.find? name = _ ↔ _
        rw [← hearlier]
        refine ⟨fun hsame ↦ .inr (.inr (not_not.2 hsame.symm)), fun hcases ↦ ?_⟩
        obtain hother | hfollows | hsame := hcases
        · exact (Side.other_ne last hother).elim
        · cases hfollows
        · exact (not_not.1 hsame).symm

/-- An environment with a filter that waits. -/
def waitingEnvironment : Environment :=
  { Environment.standard with
    filters := FilterSet.ofList (Host.filters.filter fun entry ↦ entry.1 = "slow_upcase") }

/-- A text that assigns one variable or another one. -/
def forkedSource : String :=
  "\x7b% if p %\x7d\x7b% assign x = 'a' | slow_upcase %\x7d" ++
    "\x7b% else %\x7d\x7b% assign y = 'b' | slow_upcase %\x7d\x7b% endif %\x7d"

/-- A page with the text. -/
def forked : Template where
  name := "<string>"
  source := forkedSource
  root := (waitingEnvironment.parse "<string>" forkedSource).toOption.getD []
  assigned := []
  isThreadSafe := false

/-- A session with the page. -/
def forkedSession : Session := { start waitingEnvironment 0 with templates := [forked] }

/-- The first render assigns `x`, the second one `y`. -/
def forkedInputs : Side → Value
  | .first => .map [("p", .bool true)]
  | .second => .map []

/-- How a render of the page ends that begins with no variables. -/
def forkedRun (side : Side) : Except Failure Flow × RenderState :=
  forkedSession.rendering forked .cooperative (forkedInputs side) .none

/-- Only the first render assigns `x`. -/
theorem forkedRun_completed (side : Side) :
    (forkedRun side).1.toOption = some .completed ∧
      ((forkedRun side).2.context.assigned.find? "x").isSome = decide (side = .first) := by
  cases side <;> decide +kernel

theorem forkedRun_succeeds (side : Side) : ∃ flow, (forkedRun side).1 = .ok flow := by
  obtain ⟨hcompleted, -⟩ := forkedRun_completed side
  cases hended : (forkedRun side).1 with
  | ok flow => exact ⟨flow, rfl⟩
  | error failure =>
    rw [hended] at hcompleted
    cases hcompleted

theorem forkedRun_first : ((forkedRun .first).2.context.assigned.find? "x").isSome = true :=
  (forkedRun_completed .first).2

theorem forkedRun_second : (forkedRun .second).2.context.assigned.find? "x" = none :=
  Option.not_isSome_iff_eq_none.1 (by rw [(forkedRun_completed .second).2]; decide)

/-- Both renders of the page can begin before the first one ends. -/
theorem forked_reaches :
    ∃ final, Overlap.Reaches 0 (.start forkedSession) final ∧
      (∀ side, final.stage side = .succeeded false
        (forkedSession.renderState forked (forkedInputs side) .none) (forkedRun side).2) ∧
      final.session.template? 0 = some { forked with assigned := (forkedRun .second).2.context.assigned } := by
  have htemplate : forkedSession.template? 0 = some forked := rfl
  have hshared : forked.isThreadSafe = false := rfl
  obtain ⟨final, hreaches, hstages, hsession⟩ :=
    Overlap.reaches_overlapping htemplate .cooperative forkedInputs fun _ ↦ .none
  obtain ⟨first, hfirst⟩ := forkedRun_succeeds .first
  obtain ⟨second, hsecond⟩ := forkedRun_succeeds .second
  refine ⟨final, hreaches, fun side ↦ ?_, ?_⟩
  · obtain ⟨flow, hflow⟩ := forkedRun_succeeds side
    rw [hstages]
    exact Stage.ended_of_ok hflow _ _
  · rw [hsession]
    exact Overlap.conclude_template?_of_ok (Overlap.conclude_template?_of_ok htemplate hshared hfirst) hshared hsecond

/-- As neither render begins behind the other one, the page keeps only what the one that ended last assigned. -/
theorem overlap_assigned_forked :
    ∃ final kept last, Overlap.Reaches 0 (.start forkedSession) final ∧ final.session.template? 0 = some kept ∧
      kept.assigned = (forkedRun last).2.context.assigned ∧
      (kept.assigned.find? "x" = (forkedRun .first).2.context.assigned.find? "x" → last = Side.first) := by
  obtain ⟨final, hreaches, hstages, -⟩ := forked_reaches
  obtain ⟨last, assigned, hkept, hlast, -, hsurvives⟩ :=
    overlap_assigned forkedSession 0 forked rfl rfl final hreaches (fun _ ↦ false) _ _ hstages
  refine ⟨final, _, last, hreaches, hkept, hlast, fun hsame ↦ ?_⟩
  obtain hfirst | hfollows | hunchanged := (hsurvives .first "x" (not_not.2 forkedRun_second)).1 hsame
  · exact hfirst.symm
  · cases hfollows
  · have hassigned := forkedRun_first
    rw [not_not.1 hunchanged] at hassigned
    cases hassigned

/-- What the first render assigned is lost, although the second one did not assign it. -/
theorem overlap_loses_forked :
    ∃ final kept, Overlap.Reaches 0 (.start forkedSession) final ∧
      (∀ side, final.stage side = .succeeded false
        (forkedSession.renderState forked (forkedInputs side) .none) (forkedRun side).2) ∧
      final.session.template? 0 = some kept ∧ kept.isThreadSafe = false ∧
      ((forkedRun .first).2.context.assigned.find? "x").isSome = true ∧
      (forkedRun .second).2.context.assigned.find? "x" = none ∧ kept.assigned.find? "x" = none := by
  obtain ⟨final, hreaches, hstages, hkept⟩ := forked_reaches
  exact ⟨final, _, hreaches, hstages, hkept, rfl, forkedRun_first, forkedRun_second, forkedRun_second⟩

end Session

end Liquid
