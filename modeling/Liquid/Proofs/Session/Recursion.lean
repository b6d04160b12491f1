import Liquid.Proofs.Render.Abortion
import Liquid.Proofs.Render.Unrolling
import Liquid.Proofs.Template.Builtin
import Liquid.Session

/-!
# Includes nest only so deep

A source may give any text for any name, and templates may include themselves or each other. A render ends all the same:
no more includes are ever active than the environment allows, entering a further one is refused, and that ends the render
in every error mode.
-/

namespace Liquid

open Render Template

namespace Session

/-- If the host has no tags, includes lead to built-in tags only, whatever the source gives. -/
theorem includesOnly_of_no_tags {session : Session} (htags : session.environment.tags = [])
    (hkept : ∀ path block, session.includes.find? path = some block → AllTags Tag.IsBuiltin block) (template : Template)
    (inputs : Value) (options : RenderOptions) :
    IncludesOnly (session.environment.engine options.filters) Tag.IsBuiltin
      (session.renderState template inputs options) := by
  refine ⟨hkept, fun source _ name text block _ hparsed ↦ parse_allTags (fun name ↦ ?_) hparsed⟩
  have hnone : Entries.find? name session.environment.tags = none := by rw [htags, Entries.find?_nil]
  change (do
    let registration ← Entries.find? name session.environment.tags
    let tag ← session.environment.tag? registration
    return (⟨registration, tag.check, tag.ending⟩ : TagForm)) = none
  rw [hnone]
  rfl

/-- A render of built-in tags ends, however includes lead to each other. What stands for includes beyond the limit does not
matter, and neither does what stands for the trees of includes where more of them would be active than the environment
allows. Entering an include at the limit is refused and changes nothing. An include that is refused leaves its tag and ends
the render with its error in every error mode, and if the render returns, no include is active any more. -/
theorem rendering_ends (session : Session) (template : Template) (drive : Drive) (inputs : Value)
    (options : RenderOptions) (hroot : AllTags Tag.IsBuiltin template.root)
    (hincludes : IncludesOnly (session.environment.engine options.filters) Tag.IsBuiltin
      (session.renderState template inputs options)) :
    let engine := session.environment.engine options.filters
    let start := session.renderState template inputs options
    let run := session.rendering template drive inputs options
    (∀ beyond levels, session.environment.maxDepth < levels →
      run = unrolled engine beyond levels template.root drive start) ∧
    (∀ deeper : Block → Render Flow,
      (∀ block drive state, state.context.depth ≤ state.context.maxDepth →
        deeper block drive state = Render.block engine block drive state) →
      run = nodes engine (included engine deeper) template.root drive start) ∧
    (∀ name frame body drive state, state.context.maxDepth ≤ state.context.depth →
      ∃ error : Error, error.kind = .recursionLimit ∧
        inInclude name frame body drive state = (.error (.error error), state)) ∧
    (∀ span action drive before after error, action drive before = (.error (.error error), after) →
      error.kind = .recursionLimit →
      let placed := error.locate ⟨after.context.name, span.start.line⟩
      guarded span action drive before =
        (.error (.error placed), { after with context := after.context.noteReported placed })) ∧
    (∀ error ∈ run.2.context.reported, error.kind = .recursionLimit → run.1 = .error (.error error)) ∧
    (Returned run.1 → run.2.context.depth = 0) := by
  intro engine start run
  have hcalm : Calm start := fun error herror ↦ by cases herror
  refine ⟨fun beyond levels hlevels ↦ ?_, fun deeper hdeeper ↦ ?_, fun name frame body drive state hdeep ↦ ?_,
    fun span action drive before after error hfailed hkind ↦ ?_, fun error hreported hkind ↦ ?_, fun hreturned ↦ ?_⟩
  · exact block_eq_unrolled hroot hincludes hlevels beyond drive
  · exact block_eq_nodes hdeeper hroot hincludes drive
  · refine ⟨.of (.tooDeep state.context.maxDepth), rfl, ?_⟩
    rw [run_inInclude, if_pos hdeep]
  · have hfatal : (error.locate ⟨after.context.name, span.start.line⟩).kind.isFatal = true := by
      rw [Error.kind_locate, hkind]
      rfl
    unfold guarded
    rw [run_attempt_bind, hfailed]
    dsimp only
    rw [run_bind_ok (run_located error span drive after), run_bind, run_report]
    dsimp only
    rw [if_pos hfatal]
  · have haborted := (Aborts.block (fun _ h ↦ h) hroot).aborts drive start hincludes hcalm
    have hfatal : error.kind.isFatal = true := by
      rw [hkind]
      rfl
    exact (haborted error hreported hfatal).1
  · exact ((Keeps.block (fun _ h ↦ h) hroot drive start hincludes).related hreturned).depth

/-- A template that includes itself. -/
def spiral : Template where
  name := "spiral"
  source := "a\x7b% include 'spiral' %\x7d"
  root := [.text "a", .tag "include" "'spiral'" ⟨.first, .first⟩ (.include ⟨.literal (.string "spiral"), none, []⟩)]
  assigned := []
  isThreadSafe := false

/-- A session that keeps the template and allows two active includes. -/
def spiralSession : Session :=
  { start { Environment.standard with source := some (.ofTexts [("spiral", spiral.source)]), maxDepth := 2 } 0 with
    templates := [spiral], includes := [("spiral", spiral.root)] }

theorem rendering_ends_spiral :
    let run := spiralSession.rendering spiral .blocking .nil .none
    run = unrolled (spiralSession.environment.engine Registry.empty) (fun _ ↦ return .breakLoop) 3 spiral.root .blocking
        (spiralSession.renderState spiral .nil .none) ∧
      run.2.output.text = "aaa" ∧ run.2.context.reported ≠ [] ∧
      ∀ error ∈ run.2.context.reported, error.kind = .recursionLimit → run.1 = .error (.error error) := by
  have hroot : AllTags Tag.IsBuiltin spiral.root := ⟨trivial, trivial, trivial⟩
  have hincludes : IncludesOnly (spiralSession.environment.engine Registry.empty) Tag.IsBuiltin
      (spiralSession.renderState spiral .nil .none) := by
    refine includesOnly_of_no_tags rfl (fun path block hkept ↦ ?_) spiral .nil .none
    rw [spiralSession, Entries.find?] at hkept
    split at hkept
    · obtain rfl := Option.some.inj hkept
      exact hroot
    · cases hkept
  obtain ⟨hunrolled, -, -, -, haborts, -⟩ := rendering_ends spiralSession spiral .blocking .nil .none hroot hincludes
  exact ⟨hunrolled _ 3 (by decide), by decide +kernel, by decide +kernel, haborts⟩

end Session

end Liquid
