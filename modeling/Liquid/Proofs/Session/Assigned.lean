import Mathlib.Data.List.Induction
import Liquid.Proofs.Session.History
import Liquid.Proofs.Session.Waiting

/-!
# The variables that a template keeps

A template keeps the variables that its last successful render assigned, and the next render starts with them. A render that
fails, for whatever reason, does not change them. Once the template has been made thread safe they never change again, and
its renders neither start with them nor depend on what it rendered before, but for what all renders in the environment share.
-/

namespace Liquid.Session

open Render

variable {initial session : Session} {number : Nat} {template : Template}

/-- None of the operations that follow on a session renders the template of a number successfully. -/
def NoneSucceeds (number : Nat) : List Operation → Session → Prop
  | [], _ => True
  | operation :: rest, session =>
    finalAssigned? number session operation = none ∧ NoneSucceeds number rest (operation.perform session)

theorem NoneSucceeds.concat {later : List Operation} (h : NoneSucceeds number later session) {operation : Operation}
    (hlast : finalAssigned? number (after later session) operation = none) :
    NoneSucceeds number (later ++ [operation]) session := by
  induction later generalizing session with
  | nil => exact ⟨hlast, trivial⟩
  | cons first rest ih => exact ⟨h.1, ih h.2 hlast⟩

/-- The variables with which the last successful render of the template of a number ended, or none if no render of it has
succeeded yet. -/
inductive LastAssigned (initial : Session) (number : Nat) : List Operation → Entries String Value → Prop
  | never {history : List Operation} (fails : NoneSucceeds number history initial) : LastAssigned initial number history []
  | last (earlier : List Operation) {operation : Operation} {later : List Operation} {assigned : Entries String Value}
      (succeeds : finalAssigned? number (after earlier initial) operation = some assigned)
      (fails : NoneSucceeds number later (after (earlier ++ [operation]) initial)) :
      LastAssigned initial number (earlier ++ operation :: later) assigned

/-- One more operation replaces the last variables if it is a successful render. -/
theorem LastAssigned.concat {history : List Operation} {assigned : Entries String Value}
    (h : LastAssigned initial number history assigned) (operation : Operation) :
    LastAssigned initial number (history ++ [operation])
      ((finalAssigned? number (after history initial) operation).getD assigned) := by
  cases hfinal : finalAssigned? number (after history initial) operation with
  | some final => exact .last history hfinal trivial
  | none =>
    cases h with
    | never hfails => exact .never (hfails.concat hfinal)
    | @last earlier last later _ hsucceeds hfails =>
      rw [List.append_assoc, List.cons_append]
      refine .last earlier hsucceeds (hfails.concat ?_)
      rwa [← after_append, List.append_assoc, List.singleton_append]

/-- As long as a template is not thread safe, it keeps what its last successful render assigned. -/
theorem after_lastAssigned (htemplate : initial.template? number = some template) (hassigned : template.assigned = [])
    (hshared : template.isThreadSafe = false) {history : List Operation} (hhistory : .makeThreadSafe number ∉ history) :
    ∃ assigned, LastAssigned initial number history assigned ∧
      (after history initial).template? number = some { template with assigned := assigned } := by
  induction history using List.reverseRecOn with
  | nil =>
    refine ⟨[], .never trivial, ?_⟩
    rw [after_nil, htemplate, ← hassigned]
  | append_singleton history operation ih =>
    rw [List.mem_append, List.mem_singleton, not_or] at hhistory
    obtain ⟨assigned, hlast, hkept⟩ := ih hhistory.1
    refine ⟨_, hlast.concat operation, ?_⟩
    have hkeeping : ({ template with assigned := assigned } : Template).isThreadSafe = false := hshared
    rw [after_concat, perform_template? hkept, renew_of_not_isThreadSafe hkeeping (Ne.symm hhistory.2)]

/-- A template that is there stays there. -/
theorem after_template? (htemplate : session.template? number = some template) (history : List Operation) :
    ∃ later, (after history session).template? number = some later := by
  induction history generalizing session template with
  | nil => exact ⟨template, htemplate⟩
  | cons operation rest ih => exact ih (perform_template? htemplate operation)

/-- A thread-safe template stays as it is. -/
theorem after_template?_of_isThreadSafe (htemplate : session.template? number = some template)
    (hsafe : template.isThreadSafe = true) (history : List Operation) :
    (after history session).template? number = some template := by
  induction history generalizing session with
  | nil => exact htemplate
  | cons operation rest ih =>
    refine ih ?_
    rw [perform_template? htemplate, renew_of_isThreadSafe hsafe]

/-- From when a template is made thread safe on, it stays as it was then. -/
theorem after_makeThreadSafe (htemplate : initial.template? number = some template) (earlier later : List Operation) :
    ∃ before, (after earlier initial).template? number = some before ∧
      (after (earlier ++ .makeThreadSafe number :: later) initial).template? number =
        some { before with isThreadSafe := true } := by
  obtain ⟨before, hbefore⟩ := after_template? htemplate earlier
  refine ⟨before, hbefore, ?_⟩
  rw [after_append, after_cons]
  refine after_template?_of_isThreadSafe ?_ rfl later
  rw [perform_template? hbefore]
  exact congrArg some (if_pos rfl)

/-- A render of a template that is not thread safe leaves it with the variables that it assigned if it succeeds, and it
leaves all templates alone if it fails. -/
theorem render_templates (htemplate : session.template? number = some template) (hshared : template.isThreadSafe = false)
    (drive : Drive) (inputs : Value) (options : RenderOptions) :
    (∀ rendered, (render drive number inputs options session).1 = .ok rendered →
      (render drive number inputs options session).2.template? number =
        some { template with assigned := (session.rendering template drive inputs options).2.context.assigned }) ∧
    (∀ error, (render drive number inputs options session).1 = .error error →
      (render drive number inputs options session).2.templates = session.templates) := by
  rw [render_eq_conclude htemplate]
  rcases session.rendering template drive inputs options with ⟨(error | _) | flow, state⟩
  · exact ⟨nofun, fun _ _ ↦ conclude_templates_of_error rfl⟩
  · exact ⟨nofun, fun _ _ ↦ conclude_templates_of_error rfl⟩
  · refine ⟨fun _ _ ↦ ?_, nofun⟩
    rw [conclude_template? htemplate]
    exact congrArg some (if_pos ⟨hshared, rfl⟩)

/-- A session of the same environment and with all that renders share, in which a template with the same tree has not been
rendered yet. -/
def renewed (session : Session) (template : Template) : Session :=
  { start session.environment session.nextObject with
    templates := [{ template with assigned := [] }]
    includes := session.includes
    tallies := session.tallies
    reads := session.reads }

/-- What a thread-safe template rendered before does not matter. -/
theorem render_renewed (htemplate : session.template? number = some template) (hsafe : template.isThreadSafe = true)
    (drive : Drive) (inputs : Value) (options : RenderOptions) :
    (render drive number inputs options session).1 = (render drive 0 inputs options (session.renewed template)).1 := by
  have hfresh : (session.renewed template).template? 0 = some { template with assigned := [] } := rfl
  have hstart : (session.renewed template).renderState { template with assigned := [] } inputs options =
      session.renderState template inputs options := by
    unfold renderState
    rw [hsafe]
    rfl
  have hrendering : (session.renewed template).rendering { template with assigned := [] } drive inputs options =
      session.rendering template drive inputs options := by
    unfold rendering
    rw [hstart]
    rfl
  rw [render_eq_outcome htemplate, render_eq_outcome hfresh, hrendering]

/-- As long as a template is not thread safe, a render of it starts with the variables that its last successful render
assigned; if it succeeds the template keeps those that it assigned, and if it fails nothing that any template keeps changes.
From when it is made thread safe on, the template keeps the variables that it has, its renders start without any, and they
answer as those of a template that has never been rendered, in the same environment and with the same included trees and
counts. -/
theorem render_assigned (initial : Session) (number : Nat) (template : Template)
    (htemplate : initial.template? number = some template) (hassigned : template.assigned = [])
    (hshared : template.isThreadSafe = false) (history : List Operation) :
    let session := after history initial
    (.makeThreadSafe number ∉ history →
      ∃ assigned, LastAssigned initial number history assigned ∧
        session.template? number = some { template with assigned := assigned } ∧
        ∀ drive inputs options,
          let run := session.rendering { template with assigned := assigned } drive inputs options
          let ended := render drive number inputs options session
          (session.renderState { template with assigned := assigned } inputs options).context.assigned = assigned ∧
          (∀ rendered, ended.1 = .ok rendered →
            ended.2.template? number = some { template with assigned := run.2.context.assigned }) ∧
          (∀ error, ended.1 = .error error → ended.2.templates = session.templates)) ∧
    (∀ earlier later, history = earlier ++ .makeThreadSafe number :: later →
      ∃ kept, session.template? number = some kept ∧
        ((after earlier initial).template? number).map Template.assigned = some kept.assigned ∧
        ∀ drive inputs options,
          (session.renderState kept inputs options).context.assigned = [] ∧
          (render drive number inputs options session).1 = (render drive 0 inputs options (session.renewed kept)).1 ∧
          (render drive number inputs options session).2.template? number = some kept) := by
  intro session
  refine ⟨fun hhistory ↦ ?_, fun earlier later hsplit ↦ ?_⟩
  · obtain ⟨assigned, hlast, hkept⟩ := after_lastAssigned htemplate hassigned hshared hhistory
    have hstart : ¬({ template with assigned := assigned } : Template).isThreadSafe = true :=
      fun hsafe ↦ Bool.noConfusion (hshared.symm.trans hsafe)
    exact ⟨assigned, hlast, hkept, fun drive inputs options ↦
      ⟨if_neg hstart, render_templates hkept hshared drive inputs options⟩⟩
  · subst hsplit
    obtain ⟨before, hbefore, hsafe⟩ := after_makeThreadSafe htemplate earlier later
    refine ⟨_, hsafe, congrArg (Option.map Template.assigned) hbefore, fun drive inputs options ↦
      ⟨rfl, render_renewed hsafe rfl drive inputs options, ?_⟩⟩
    have hrendered := perform_template? hsafe (.render drive ⟨number, inputs, options⟩)
    rwa [renew_of_isThreadSafe rfl] at hrendered

/-- A page that prints a variable and then assigns it. -/
def assigningPage : Template where
  name := "page"
  source := "\x7b\x7b n \x7d\x7d\x7b% assign n = 5 %\x7d"
  root := [.output ⟨"n", .path [.member "n"], []⟩ ⟨.first, .first⟩,
    .tag "assign" "n = 5" ⟨.first, .first⟩ (.assign "n" ⟨"5", .literal (.int 5), []⟩)]
  assigned := []
  isThreadSafe := false

/-- A session with the page. -/
def assigning : Session := { start Environment.standard 0 with templates := [assigningPage] }

theorem render_assigned_assigning :
    (∃ assigned, LastAssigned assigning 0 [.render .blocking pageRequest] assigned ∧
      (after [.render .blocking pageRequest] assigning).template? 0 = some { assigningPage with assigned := assigned }) ∧
      outputs [(render .blocking 0 .nil .none (after [.render .blocking pageRequest] assigning)).1] = [some "5"] ∧
      (∃ kept, (after [.render .blocking pageRequest, .makeThreadSafe 0] assigning).template? 0 = some kept ∧
        some kept.assigned = ((after [.render .blocking pageRequest] assigning).template? 0).map Template.assigned) ∧
      outputs [(render .blocking 0 .nil .none (after [.render .blocking pageRequest, .makeThreadSafe 0] assigning)).1] =
        [some ""] := by
  obtain ⟨hshared, -⟩ := render_assigned assigning 0 assigningPage rfl rfl rfl [.render .blocking pageRequest]
  obtain ⟨-, hsafe⟩ :=
    render_assigned assigning 0 assigningPage rfl rfl rfl [.render .blocking pageRequest, .makeThreadSafe 0]
  obtain ⟨assigned, hlast, htemplate, -⟩ := hshared fun hmember ↦ nomatch List.mem_singleton.1 hmember
  obtain ⟨kept, hkept, hassigned, -⟩ := hsafe [.render .blocking pageRequest] [] rfl
  exact ⟨⟨assigned, hlast, htemplate⟩, by decide +kernel, ⟨kept, hkept, hassigned.symm⟩, by decide +kernel⟩

/-- The renders of a thread-safe template share the trees of their includes: after one that may wait, another one succeeds
that must not. -/
theorem render_after_render_ne :
    let history : List Operation := [.makeThreadSafe 0]
    outputs [(render .blocking 0 .nil .none (after history (including slowSource))).1] = [none] ∧
      outputs [(render .blocking 0 .nil .none
        (after (history ++ [.render .cooperative pageRequest]) (including slowSource))).1] = [some "ax"] :=
  ⟨by decide +kernel, by decide +kernel⟩

end Liquid.Session
