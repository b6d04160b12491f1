import Liquid.Host.Tags
import Liquid.Proofs.Render.Caching
import Liquid.Proofs.Session.ErrorModes

/-!
# What is kept never shows

A session keeps the trees of included templates from one render to the next. If the text of a path never changes, its answers
are those of a session that forgets these trees before each include, also after renders that failed. Only who renders the
body of a tag at once can tell: where the source would make that wait, a tree that is kept lets it succeed.
-/

namespace Liquid

open Render

namespace Session

/-- A render that a session is asked for. -/
structure Request where
  /-- The number of the template. -/
  number : Nat
  inputs : Value
  options : RenderOptions

/-- What a session answers to requests, one after the other; one that fails does not keep the next ones from being served. -/
def answers (serve : Request → SessionM Rendered) : List Request → Session → List (Except Error Rendered)
  | [], _ => []
  | request :: rest, session => (serve request session).1 :: answers serve rest (serve request session).2

/-- What a session answers when a render of the template of a number has ended, and what it takes over from the render. -/
def conclude (session : Session) (number : Nat) (template : Template) (run : Except Failure Flow × RenderState) :
    Except Error Rendered × Session :=
  (outcome run,
    match run.1 with
    | .ok _ =>
      if template.isThreadSafe then session.afterRender run.2
      else (session.afterRender run.2).modifyTemplate number fun template ↦
        { template with assigned := run.2.context.assigned }
    | .error _ => session.afterRender run.2)

/-- Serves a request by rendering in the given way to the end, waiting as often as it takes. -/
def serveBy (renderer : Engine → Block → Render Flow) (request : Request) : SessionM Rendered := fun session ↦
  match session.template? request.number with
  | none => (.error (.of (.templateNotFound "")), session)
  | some template =>
    session.conclude request.number template
      (renderer (session.environment.engine request.options.filters) template.root .cooperative
        (session.renderState template request.inputs request.options))

/-- A render ends as its run says. -/
theorem render_eq_conclude {session : Session} {number : Nat} {template : Template}
    (h : session.template? number = some template) (drive : Drive) (inputs : Value) (options : RenderOptions) :
    Session.render drive number inputs options session =
      session.conclude number template (session.rendering template drive inputs options) := by
  unfold Session.render
  rw [run_get_bind, h]
  dsimp only
  rcases session.rendering template drive inputs options with ⟨(error | _) | flow, state⟩
  · rfl
  · rfl
  · rw [conclude]
    cases template.isThreadSafe <;> rfl

/-- A template that is not there cannot be rendered. -/
theorem render_of_template?_eq_none {session : Session} {number : Nat} (h : session.template? number = none)
    (drive : Drive) (inputs : Value) (options : RenderOptions) :
    Session.render drive number inputs options session = (.error (.of (.templateNotFound "")), session) := by
  unfold Session.render
  rw [run_get_bind, h]
  rfl

/-- A session but for the trees that it keeps and for what its source was asked for. -/
def forgotten (session : Session) : Session := { session with includes := [], reads := [] }

/-- Whether every tree that a session keeps is the one of a text of its path. -/
def IsCurrent (session : Session) : Prop := Current (session.environment.engine Registry.empty) session.includes

/-- Two sessions in an environment that only keep different trees, all of them current. -/
structure Matched (environment : Environment) (left right : Session) : Prop where
  environment : left.environment = environment
  forgotten : right.forgotten = left.forgotten
  first : left.IsCurrent
  second : right.IsCurrent

variable {environment : Environment} {left right : Session}

theorem conclude_environment (session : Session) (number : Nat) (template : Template)
    (run : Except Failure Flow × RenderState) :
    (session.conclude number template run).2.environment = session.environment := by
  rcases run with ⟨failure | flow, state⟩
  · rfl
  · rw [conclude]
    cases template.isThreadSafe <;> rfl

/-- A render that fails does not change what the templates keep. -/
theorem conclude_templates_of_error {session : Session} {number : Nat} {template : Template}
    {run : Except Failure Flow × RenderState} {failure : Failure} (h : run.1 = .error failure) :
    (session.conclude number template run).2.templates = session.templates := by
  rw [conclude, h]
  rfl

theorem conclude_includes (session : Session) (number : Nat) (template : Template)
    (run : Except Failure Flow × RenderState) :
    (session.conclude number template run).2.includes = run.2.includes := by
  rcases run with ⟨failure | flow, state⟩
  · rfl
  · rw [conclude]
    cases template.isThreadSafe <;> rfl

theorem conclude_kept (session : Session) (number : Nat) (template : Template)
    (run : Except Failure Flow × RenderState) : (session.conclude number template run).2.kept = session.kept := by
  rcases run with ⟨failure | flow, state⟩
  · rfl
  · rw [conclude]
    cases template.isThreadSafe <;> rfl

/-- What a session takes over from a render does not depend on what is kept. -/
theorem conclude_forgotten {left right : Session} (hforgotten : right.forgotten = left.forgotten) {level : Nat}
    {engine : Engine} {run run' : Except Failure Flow × RenderState} (hended : run'.1 = run.1)
    (hcoupled : Coupled (remembering engine) level run.2 run'.2) (number : Nat) (template : Template) :
    (right.conclude number template run').2.forgotten = (left.conclude number template run).2.forgotten := by
  have hcontext : run'.2.context = run.2.context := hcoupled.alike
  have hafter : (right.afterRender run'.2).forgotten = (left.afterRender run.2).forgotten := by
    have hchanged := congrArg (fun session : Session ↦
      { session with tallies := run.2.shared.counts.tallies, nextObject := run.2.shared.nextObject }) hforgotten
    unfold afterRender
    rw [hcoupled.shared.counts, hcoupled.shared.nextObject]
    exact hchanged
  unfold conclude
  rw [hended, hcontext]
  cases run.1 with
  | error failure => exact hafter
  | ok flow =>
    dsimp only
    split
    · exact hafter
    · have hkept := congrArg (fun session ↦ session.modifyTemplate number fun template ↦
        { template with assigned := run.2.context.assigned }) hafter
      exact hkept

/-- What matched sessions take over from renders that went side by side leaves them matched, and they give the same answer. -/
theorem Matched.conclude {filters : FilterSet} {level : Nat} {run run' : Except Failure Flow × RenderState}
    (h : Matched environment left right) (hmet : Met (remembering (environment.engine filters)) level Eq run run')
    (number : Nat) (template : Template) :
    (right.conclude number template run').1 = (left.conclude number template run).1 ∧
      Matched environment (left.conclude number template run).2 (right.conclude number template run').2 := by
  obtain ⟨hended, inner, hcoupled⟩ := hmet.ended
  have hcontext : run'.2.context = run.2.context := hcoupled.alike
  have hright : right.environment = environment := by
    have hsame := congrArg Session.environment h.forgotten
    exact hsame.trans h.environment
  refine ⟨outcome_eq_of_eq hended hcoupled.output (congrArg Context.recorded hcontext), ?_, ?_, ?_, ?_⟩
  · rw [conclude_environment, h.environment]
  · exact conclude_forgotten h.forgotten hended hcoupled number template
  · rw [IsCurrent, conclude_environment, conclude_includes, h.environment]
    exact hcoupled.marks.first
  · rw [IsCurrent, conclude_environment, conclude_includes, hright]
    exact hcoupled.marks.second

/-- Whatever they keep, matched sessions serve a request alike. -/
theorem Matched.serve (h : Matched environment left right)
    (hstable : ∀ source, environment.source = some source → source.IsStable)
    (htags : (∀ source, environment.source = some source → source.IsPrompt) ∨
      ∀ tag ∈ environment.registered, ∀ name markup, (tag.script name markup).IsPatient) (request : Request) :
    (serveBy forgetful request right).1 = (serveBy Render.block request left).1 ∧
      Matched environment (serveBy Render.block request left).2 (serveBy forgetful request right).2 := by
  have hsame : right.forgotten = left.forgotten := h.forgotten
  have hright : right.environment = left.environment := by
    have henvironment := congrArg Session.environment hsame
    exact henvironment
  have htemplate : right.template? request.number = left.template? request.number := by
    have hfound := congrArg (fun session ↦ session.template? request.number) hsame
    exact hfound
  unfold serveBy
  rw [htemplate]
  cases left.template? request.number with
  | none => exact ⟨rfl, h⟩
  | some template =>
    have hscripts : ∀ registration name markup tag, environment.tag? registration = some tag →
        (tag.script name markup).IsPatient ∨ ∀ source, environment.source = some source → source.IsPrompt := by
      intro registration name markup tag htag
      exact htags.symm.imp_left fun hpatient ↦ hpatient tag (List.mem_of_getElem? htag) name markup
    have hpaired : Paired (remembering (environment.engine request.options.filters)) 0 Eq
        (Render.block (environment.engine request.options.filters) template.root)
        (forgetful (environment.engine request.options.filters) template.root) :=
      .block_forgetful hstable hscripts template.root
    have hessence : essence (right.renderState template request.inputs request.options) =
        essence (left.renderState template request.inputs request.options) := by
      have hstarts := congrArg (fun session ↦ essence (session.renderState template request.inputs request.options)) hsame
      exact hstarts
    have hstart : Coupled (remembering (environment.engine request.options.filters)) 0
        (left.renderState template request.inputs request.options)
        (right.renderState template request.inputs request.options) := by
      have hfirst := h.first
      have hsecond := h.second
      rw [IsCurrent, h.environment] at hfirst
      rw [IsCurrent, hright, h.environment] at hsecond
      exact coupled_remembering hessence hfirst hsecond
    dsimp only
    rw [hright, h.environment]
    exact h.conclude (hpaired .cooperative _ _ (.inl rfl) hstart) request.number template

/-- A source that has one path and one text for all names and lets its readers wait. -/
def slowSource : Source where
  resolve _ := .ok "part"
  read _ := .ok "x"
  fetch _ := .ok "x"
  waits _ := 1
  isLogged := true

/-- A request for the page. -/
def pageRequest : Request := ⟨0, .nil, .none⟩

/-- The outputs of the answers that are no errors. -/
def outputs (answers : List (Except Error Rendered)) : List (Option String) :=
  answers.map fun answer ↦ answer.toOption.map Rendered.output

end Session

end Liquid
