import Liquid.Proofs.Render.Locating
import Liquid.Proofs.Session.ErrorModes
import Liquid.Proofs.Template.Failure

/-!
# Every diagnostic says where it happened

A render gives its errors their places on the way out of the nodes, but they are the places of the innermost nodes in which
the errors arose. What is recorded has a place, and so has what a render fails with, unless it has been cancelled between two
nodes of its template or would have had to wait.
-/

namespace Liquid

open Render Template

namespace Render

variable {engine : Engine} {inclusions : Inclusion → Render Flow}

theorem relay_none {α : Type} (run : Except Failure α × RenderState) : relay none id run = run := by
  rcases run with ⟨(⟨fault, location, cause⟩ | _) | result, after⟩
  · cases location <;> rfl
  · rfl
  · rfl

/-- The error of an action has a place, unless it says that the render has been cancelled. -/
def PlacedOrCancelled {α : Type} (action : Render α) : Prop :=
  ∀ drive state error, (action drive state).1 = .error (.error error) → error.location.isSome ∨ error = .of .cancelled

namespace PlacedOrCancelled

variable {α β : Type}

theorem of_ok {action : Render α} (h : ∀ drive state, ∃ value, (action drive state).1 = .ok value) :
    PlacedOrCancelled action := by
  intro drive state error hfailed
  obtain ⟨value, hvalue⟩ := h drive state
  rw [hvalue] at hfailed
  cases hfailed

theorem bind {action : Render α} {next : α → Render β} (h : PlacedOrCancelled action)
    (hnext : ∀ value, PlacedOrCancelled (next value)) : PlacedOrCancelled (action >>= next) := by
  intro drive state error hfailed
  have hfirst := h drive state error
  rw [run_bind] at hfailed
  rcases hrun : action drive state with ⟨failure | value, after⟩
  · rw [hrun] at hfailed hfirst
    cases hfailed
    exact hfirst rfl
  · rw [hrun] at hfailed
    exact hnext value drive after error hfailed

theorem guarded (span : Span) (action : Render Flow) : PlacedOrCancelled (Render.guarded span action) :=
  fun _ _ _ hfailed ↦ .inl (Blames.isSome_of_guarded hfailed)

theorem checkCancelled : PlacedOrCancelled Render.checkCancelled := by
  intro drive state error hfailed
  rw [run_checkCancelled] at hfailed
  split at hfailed
  · cases hfailed
    exact .inr rfl
  · cases hfailed

theorem node (node : Node) : PlacedOrCancelled (Render.node engine inclusions node) := by
  cases node with
  | text content =>
    rw [Render.node]
    exact of_ok fun _ _ ↦ ⟨_, rfl⟩
  | output markup span =>
    rw [Render.node]
    exact guarded span _
  | tag name markup span action =>
    rw [Render.node]
    refine bind (of_ok fun _ _ ↦ ⟨_, rfl⟩) fun context ↦ ?_
    split
    · exact guarded span _
    · exact guarded span _

theorem nodes (body : Block) : PlacedOrCancelled (Render.nodes engine inclusions body) := by
  induction body with
  | nil =>
    rw [Render.nodes]
    exact of_ok fun _ _ ↦ ⟨_, rfl⟩
  | cons first rest ih =>
    rw [Render.nodes]
    refine bind checkCancelled fun _ ↦ bind (node first) fun flow ↦ ?_
    cases flow with
    | completed => exact ih
    | breakLoop => exact of_ok fun _ _ ↦ ⟨_, rfl⟩
    | continueLoop => exact of_ok fun _ _ ↦ ⟨_, rfl⟩

/-- Only between the nodes of a block errors arise without a place. -/
theorem block (body : Block) : PlacedOrCancelled (Render.block engine body) := by
  unfold Render.block
  refine bind (of_ok fun _ _ ↦ ⟨_, rfl⟩) fun context ↦ ?_
  rw [blockWithin_eq_nodes]
  exact nodes body

end PlacedOrCancelled

/-- An include ends as the tree of its template does. -/
theorem inInclude_ended {holds : Tag → Prop} {body : Render Flow}
    (hbody : Keeps (IncludesOnly engine holds) RestoredAround body) (name : String)
    (frame : Entries String Value) (drive : Drive) {state : RenderState}
    (hincludes : IncludesOnly engine holds state) (hroom : state.context.depth < state.context.maxDepth) :
    (inInclude name frame body drive state).1 = (body drive (Blames.entered name frame state)).1 := by
  have hkept := hbody drive (Blames.entered name frame state) hincludes
  have hleft (ended : Except Error Flow) (after : RenderState)
      (haround : RestoredAround (Blames.entered name frame state) after) :
      (leaveInclude state.context.name ended drive after).1 = ended.mapError Failure.error := by
    rw [run_leaveInclude (haround.scopes_eq_push rfl)]
  rw [Blames.run_inInclude_entered, if_neg (Nat.not_le.2 hroom), run_attempt_bind]
  rcases hrun : body drive (Blames.entered name frame state) with ⟨(error | _) | flow, after⟩ <;> rw [hrun] at hkept
  · exact hleft _ after (hkept.related (.error error))
  · exact hleft _ after (hkept.related (.value flow))

/-- A node hands on an error that has a place as it is. -/
theorem run_guarded_of_placed {action : Render Flow} {drive : Drive} {before after : RenderState} {error : Error}
    (h : action drive before = (.error (.error error), after)) (hplaced : error.location.isSome) (span : Span) :
    guarded span action drive before = (report error >>= fun _ ↦ return .completed) drive after := by
  unfold guarded
  rw [run_attempt_bind, h]
  dsimp only
  rw [run_bind_ok (run_located error span drive after), Error.locate_of_isSome hplaced]

end Render

namespace Session

/-- A render of built-in tags does what it does when every error gets, where it arises, the place of the innermost node that
is being rendered: the name under which its template is rendered or included and the line in which the node starts. So no
node changes the place of an error that comes out of another one, and neither does an include. What cannot be parsed has its
place in its text and the name of that text. Every diagnostic has a place, and so has the error of a failed render, unless
the render has been cancelled between two nodes of its template or would have had to wait. -/
theorem rendering_locates (session : Session) (number : Nat) (template : Template) (drive : Drive) (inputs : Value)
    (options : RenderOptions) (htemplate : session.template? number = some template)
    (hroot : AllTags Tag.IsBuiltin template.root)
    (hincludes : IncludesOnly (session.environment.engine options.filters) Tag.IsBuiltin
      (session.renderState template inputs options)) :
    let engine := session.environment.engine options.filters
    let start := session.renderState template inputs options
    let run := session.rendering template drive inputs options
    run = Blaming.block engine template.name template.root none drive start ∧
    (∀ error ∈ run.2.context.diagnostics, error.location.isSome) ∧
    (∀ rendered, (render drive number inputs options session).1 = .ok rendered →
      ∀ error ∈ rendered.diagnostics, error.location.isSome) ∧
    (∀ error, (render drive number inputs options session).1 = .error error →
      error.location.isSome ∨ error = .of .cancelled ∨ error = .of .suspended) ∧
    (∀ name text error, Template.parse engine.grammar name text = .error error →
      ∃ line, error.location = some ⟨name, line⟩ ∧ FailsIn engine.grammar text error.fault line ∧
        1 ≤ line ∧ line ≤ Position.lineCount text.toList) ∧
    (∀ span action drive before after error, action drive before = (.error (.error error), after) →
      error.location.isSome →
      guarded span action drive before = (report error >>= fun _ ↦ return .completed) drive after) ∧
    (∀ binding variableName value levels block name frame drive state, AllTags Tag.IsBuiltin block →
      IncludesOnly engine Tag.IsBuiltin state → state.context.depth < state.context.maxDepth →
      let body := bound binding variableName value (blockWithin engine levels block)
      (inInclude name frame body drive state).1 = (body drive (Blames.entered name frame state)).1) := by
  intro engine start run
  have hblames : Blames engine Tag.IsBuiltin none template.name id (Blaming.block engine template.name template.root)
      (block engine template.root) := .block (fun _ h ↦ h) hroot
  have hrecords : RecordsPlaced run.2 := hblames.records drive start hincludes rfl fun error herror ↦ by cases herror
  have hdiagnostics : ∀ error ∈ run.2.context.diagnostics, error.location.isSome :=
    fun error herror ↦ hrecords error (List.mem_reverse.1 herror)
  have houtcome := render_eq_outcome htemplate drive inputs options
  refine ⟨?_, hdiagnostics, fun rendered hrendered ↦ ?_, fun error hfailed ↦ ?_, fun name text error ↦ parse_eq_error,
    fun span action drive before after error hfailed hplaced ↦ run_guarded_of_placed hfailed hplaced span, ?_⟩
  · exact (relay_none run).symm.trans (hblames.run drive start hincludes rfl).symm
  · rw [houtcome] at hrendered
    change outcome run = _ at hrendered
    rcases hrun : run with ⟨(_ | _) | flow, after⟩ <;> rw [hrun] at hrendered hdiagnostics <;> cases hrendered
    exact hdiagnostics
  · rw [houtcome] at hfailed
    obtain hraised | rfl := of_outcome_eq_error hfailed
    · obtain hplaced | rfl := PlacedOrCancelled.block template.root drive start error hraised
      · exact .inl hplaced
      · exact .inr (.inl rfl)
    · exact .inr (.inr rfl)
  · intro binding variableName value levels block name frame drive state hblock hinv hroom
    exact inInclude_ended (.bound _ _ _ (.blockWithin (fun _ h ↦ h) levels block hblock)) name frame drive hinv hroom

/-- A template that includes another one. -/
def caller : Template where
  name := "page"
  source := "a\x7b% include 'part' %\x7d"
  root := [.text "a", .tag "include" "'part'" ⟨.first, .first⟩ (.include ⟨.literal (.string "part"), none, []⟩)]
  assigned := []
  isThreadSafe := false

/-- The tree of the included template; its second line is an output of a variable. -/
def calledPart : Block :=
  [.text "b\n", .output ⟨"x", .path [.member "x"], []⟩ ⟨⟨2, 0, 2⟩, ⟨2, 7, 9⟩⟩]

/-- A session that keeps the tree, refuses undefined variables and suppresses errors. -/
def callingSession : Session :=
  { start { Environment.standard with source := some (.ofTexts []), errorMode := .suppress, strict := true } 0 with
    templates := [caller], includes := [("part", calledPart)] }

theorem rendering_locates_caller :
    let run := callingSession.rendering caller .blocking .nil .none
    run = Blaming.block (callingSession.environment.engine Registry.empty) "page" caller.root none .blocking
        (callingSession.renderState caller .nil .none) ∧
      run.2.context.diagnostics.map Error.location = [some ⟨"part", 2⟩] ∧
      ∀ error ∈ run.2.context.diagnostics, error.location.isSome := by
  have hroot : AllTags Tag.IsBuiltin caller.root := ⟨trivial, trivial, trivial⟩
  have hincludes : IncludesOnly (callingSession.environment.engine Registry.empty) Tag.IsBuiltin
      (callingSession.renderState caller .nil .none) := by
    constructor
    · intro path block hkept
      change (if _ then _ else _) = some block at hkept
      split at hkept
      · obtain rfl := Option.some.inj hkept
        exact ⟨trivial, trivial, trivial⟩
      · cases hkept
    · intro source hsource name text block hfetched
      obtain hregister | hown := hsource
      · cases hregister
      · obtain rfl := Option.some.inj hown
        cases hfetched
  obtain ⟨hrun, hdiagnostics, -⟩ := rendering_locates callingSession 0 caller .blocking .nil .none rfl hroot hincludes
  exact ⟨hrun, by decide +kernel, hdiagnostics⟩

end Session

end Liquid
