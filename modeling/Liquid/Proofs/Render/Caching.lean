import Liquid.Proofs.Render.Lockstep

/-!
# Kept trees

The trees of included templates are kept by path, and what is kept outlives the render that loaded it. As long as the text
of a path does not change, every tree that is kept is the one of its path's text, whichever name that was first asked for
under. So a render that forgets everything that is kept before each include goes side by side with one that forgets
nothing: they only differ in how often they had to wait and in what they asked their source for.
-/

namespace Liquid

open Template

/-- Whether the text that a source gives depends on the path alone. -/
def Source.IsStable (source : Source) : Prop :=
  ∀ name other path text, source.resolve name = .ok path → source.resolve other = .ok path →
    source.fetch name = .ok text → source.fetch other = .ok text

/-- Whether a source never lets a reader wait. -/
def Source.IsPrompt (source : Source) : Prop := ∀ name, source.waits name = 0

/-- The name of a template only shows in the errors of its parse. -/
theorem Template.parse_rename {grammar : Grammar} {name source : String} {block : Block}
    (h : parse grammar name source = .ok block) (other : String) : parse grammar other source = .ok block := by
  unfold parse at h ⊢
  cases htree : ofTokens grammar (.ofSource source) with
  | error failure =>
    rw [htree] at h
    cases h
  | ok root =>
    rw [htree] at h
    exact h

/-- Whether a script never renders its body at once. -/
def Script.IsPatient : Script → Prop
  | .done | .raise _ => True
  | .act _ next => next.IsPatient
  | .wait next => next.IsPatient
  | .body isAtOnce next => isAtOnce = false ∧ ∀ ended, (next ended).IsPatient

namespace Render

/-- Rendering an include after everything that is kept has been forgotten. -/
def forgetting (engine : Engine) (deeper : Block → Render Flow) (inclusion : Inclusion) : Render Flow := do
  modify fun state ↦ { state with includes := [] }
  included engine deeper inclusion

/-- Renders a block in which includes may nest the given number of times, forgetting what is kept before each. -/
def forgetfulWithin (engine : Engine) : (remaining : Nat) → Block → Render Flow
  | 0, body => nodes engine (forgetting engine fun _ ↦ do fail (.tooDeep (← context).maxDepth)) body
  | remaining + 1, body => nodes engine (forgetting engine fun block ↦ forgetfulWithin engine remaining block) body

/-- Renders a block, forgetting what is kept before each include. -/
def forgetful (engine : Engine) (body : Block) : Render Flow := do
  let context ← context
  forgetfulWithin engine (context.maxDepth - context.depth) body

/-- Changes the context and the output as a script does. -/
def changed (change : Context → Output → Except Fault (Context × Output)) : Render Unit := do
  let state ← get
  let (context, output) ← ofExcept (change state.context state.output)
  set { state with context := context, output := output }

theorem run_act (body : Render Unit) (change : Context → Output → Except Fault (Context × Output)) (next : Script) :
    (Script.act change next).run body = changed change >>= fun _ ↦ next.run body := by
  simp only [Script.run, changed, bind_assoc]

/-! ## What is kept -/

/-- Whether every tree that is kept is the one of a text of its path. -/
def Current (engine : Engine) (includes : Entries String Block) : Prop :=
  ∀ source path block, engine.source = some source → includes.find? path = some block →
    ∃ name text, source.resolve name = .ok path ∧ source.fetch name = .ok text ∧
      Template.parse engine.grammar name text = .ok block

/-- What the name of a template gives when nothing is kept. -/
def freshTree (engine : Engine) (source : Source) (name : String) : Except Error Block := do
  let _ ← (source.resolve name).mapError Error.of
  let text ← (source.fetch name).mapError Error.of
  Template.parse engine.grammar name text

variable {engine : Engine} {source : Source}

theorem current_nil : Current engine [] := fun _ _ _ _ hkept ↦ by cases hkept

/-- A tree that has just been parsed may be kept. -/
theorem Current.put {includes : Entries String Block} (h : Current engine includes) (hsource : engine.source = some source)
    {name path text : String} {block : Block} (hpath : source.resolve name = .ok path)
    (htext : source.fetch name = .ok text) (hblock : Template.parse engine.grammar name text = .ok block) :
    Current engine (includes.put path block) := by
  intro other asked kept hother hkept
  rw [Entries.find?_put] at hkept
  split at hkept
  · next hsame =>
    obtain rfl := Option.some.inj hkept
    obtain rfl := Option.some.inj (hsource.symm.trans hother)
    exact ⟨name, text, hsame ▸ hpath, htext, hblock⟩
  · exact h other asked kept hother hkept

/-- A tree that is kept is what each name of its path gives. -/
theorem Current.freshTree_eq {includes : Entries String Block} (h : Current engine includes)
    (hsource : engine.source = some source) (hstable : source.IsStable) {name path : String} {block : Block}
    (hpath : source.resolve name = .ok path) (hkept : includes.find? path = some block) :
    freshTree engine source name = .ok block := by
  obtain ⟨other, text, hother, htext, hblock⟩ := h source path block hsource hkept
  have hfetched : source.fetch name = .ok text := hstable other name path text hother hpath htext
  unfold freshTree
  rw [hpath, hfetched]
  exact Template.parse_rename hblock name

/-- Waiting fails only if it must not. -/
theorem run_wait {times : Nat} {drive : Drive} (h : drive = .cooperative ∨ times = 0) (state : RenderState) :
    evaluate (Eval.wait times) drive state =
      (.ok (), { state with shared.suspensions := state.shared.suspensions + times }) := by
  rw [run_evaluate]
  cases times with
  | zero => rfl
  | succ times =>
    obtain rfl : drive = .cooperative := h.resolve_right (Nat.succ_ne_zero times)
    rfl

/-- A state without what is kept, what the source was asked for and how often the render had to wait. -/
def essence (state : RenderState) : Context × Output × Counts × Nat :=
  (state.context, state.output, state.shared.counts, state.shared.nextObject)

/-- Whatever is kept, loading gives what is fresh and changes nothing else, and what is kept stays current. -/
theorem Current.run_loadCached {state : RenderState} (h : Current engine state.includes)
    (hsource : engine.source = some source) (hstable : source.IsStable) {drive : Drive}
    (hdrive : drive = .cooperative ∨ source.IsPrompt) (name : String) :
    let run := loadCached engine source name drive state
    run.1 = (freshTree engine source name).mapError .error ∧ essence run.2 = essence state ∧
      Current engine run.2.includes := by
  unfold loadCached
  rw [run_bind, run_ofExcept]
  cases hpath : source.resolve name with
  | error fault =>
    refine ⟨?_, rfl, h⟩
    rw [freshTree, hpath]
    rfl
  | ok path =>
    dsimp only [Except.mapError]
    rw [run_bind_ok (run_get drive state)]
    cases hkept : state.includes.find? path with
    | some block =>
      refine ⟨?_, rfl, h⟩
      rw [h.freshTree_eq hsource hstable hpath hkept]
      rfl
    | none =>
      have hwaits : drive = .cooperative ∨ source.waits name = 0 := hdrive.imp_right fun hprompt ↦ hprompt name
      dsimp only
      rw [run_bind, run_fetch, run_bind_ok (run_wait hwaits _), run_ofExcept]
      cases htext : source.fetch name with
      | error fault =>
        refine ⟨?_, rfl, h⟩
        rw [freshTree, hpath, htext]
        rfl
      | ok text =>
        have hfresh : freshTree engine source name = Template.parse engine.grammar name text := by
          rw [freshTree, hpath, htext]
          rfl
        dsimp only [Except.mapError]
        rw [run_bind, parse, run_settle, hfresh]
        cases hblock : Template.parse engine.grammar name text with
        | error error => exact ⟨rfl, rfl, h⟩
        | ok block => exact ⟨rfl, rfl, h.put hsource hpath htext hblock⟩

/-! ## Side by side -/

/-- Whether includes from the environment's source never make a render wait. -/
def NeverWaits (engine : Engine) : Prop := ∀ source, engine.source = some source → source.IsPrompt

/-- How the marks of two renders are related that only differ in what they keep. -/
structure Remembered (engine : Engine) (left right : Marks) : Prop where
  disabled : right.disabled = left.disabled
  first : Current engine left.includes
  second : Current engine right.includes

/-- Two renders that keep different trees, all of them current. They may only be driven without waiting if the source never
lets them wait. -/
def remembering (engine : Engine) : Coupling where
  toViewpoint := .same
  rel _ := Remembered engine
  drives drive := drive = .cooperative ∨ NeverWaits engine
  removed := []
  unmarked_eq h := congrArg Context.unmarked h
  alike_change change _ _ _ h := congrArg change h
  rel_wait h _ := ⟨h.disabled, h.first, h.second⟩
  rel_report h _ _ := ⟨h.disabled, h.first, h.second⟩
  rel_record h _ _ := ⟨h.disabled, h.first, h.second⟩
  rel_enter h _ := ⟨h.disabled, h.first, h.second⟩
  rel_leave h := ⟨h.disabled, h.first, h.second⟩
  refuses h name _ := ⟨by rw [h.disabled], fun _ ↦ trivial⟩
  loses _ name hname := by cases hname
  alike_lose := Viewpoint.alike_lose_nil
  uncancelled := Viewpoint.uncancelled_nil

variable {level : Nat} {left right : RenderState}

/-- Renders that only keep different trees go side by side. -/
theorem coupled_remembering (hessence : essence right = essence left) (hleft : Current engine left.includes)
    (hright : Current engine right.includes) : Coupled (remembering engine) level left right := by
  obtain ⟨hcontext, houtput, hcounts, hnext⟩ : right.context = left.context ∧ right.output = left.output ∧
      right.shared.counts = left.shared.counts ∧ right.shared.nextObject = left.shared.nextObject := by
    simpa [essence] using hessence
  exact ⟨hcontext, houtput, ⟨hcounts, trivial, hnext⟩, congrArg Context.disabled hcontext, hleft, hright⟩

theorem Coupled.essence_eq (h : Coupled (remembering engine) level left right) : essence right = essence left := by
  have hcontext : right.context = left.context := h.alike
  rw [essence, essence, hcontext, h.output, h.shared.counts, h.shared.nextObject]

/-- Renders that ended in the same way, side by side, met. -/
theorem Coupled.met_remembering {α : Type} {ended ended' : Except Failure α}
    (h : Coupled (remembering engine) level left right) (hended : ended' = ended) :
    Met (remembering engine) level Eq (ended, left) (ended', right) := by
  rw [hended]
  rcases ended with (error | _) | value
  · exact .error trivial h
  · exact .suspended h
  · exact .value rfl h

namespace Paired

theorem fetch_remembering (source : Source) (name : String) :
    Paired (remembering engine) level Eq (Render.fetch source name) (Render.fetch source name) := by
  intro drive left right hdrive hcoupled
  have hasked : Coupled (remembering engine) level
      { left with reads := if source.isLogged then name :: left.reads else left.reads }
      { right with reads := if source.isLogged then name :: right.reads else right.reads } :=
    coupled_remembering hcoupled.essence_eq hcoupled.marks.first hcoupled.marks.second
  rw [run_fetch, run_fetch]
  refine bind_eq (.evaluate (.wait _)) (fun _ ↦ ?_) drive _ _ hdrive hasked
  cases source.fetch name with
  | ok text => exact .same text
  | error fault => exact .raise trivial

theorem parse_remembering (name text : String) :
    Paired (remembering engine) level Eq (Render.parse engine name text) (Render.parse engine name text) :=
  .settle fun _ _ ↦ trivial

/-- Whatever the two renders keep, they load the same tree. -/
theorem load_remembering (hstable : ∀ source, engine.source = some source → source.IsStable) (name : String) :
    Paired (remembering engine) level Eq (load engine name) (load engine name) := by
  intro drive left right hdrive hcoupled
  have hcontext : right.context = left.context := hcoupled.alike
  unfold load
  rw [run_bind_ok (run_context drive left), run_bind_ok (run_context drive right), hcontext]
  cases left.context.registers.source? Registers.sourceKey with
  | some source =>
    exact bind_eq (fetch_remembering source name) (parse_remembering name) drive left right hdrive hcoupled
  | none =>
    cases hsource : engine.source with
    | none => exact fail (fun hkind ↦ by cases hkind) drive left right hdrive hcoupled
    | some source =>
      have hprompt : drive = .cooperative ∨ source.IsPrompt := hdrive.imp_right fun h ↦ h source hsource
      have hstable : source.IsStable := hstable source hsource
      obtain ⟨hended, hessence, hcurrent⟩ := hcoupled.marks.first.run_loadCached hsource hstable hprompt name
      obtain ⟨hended', hessence', hcurrent'⟩ := hcoupled.marks.second.run_loadCached hsource hstable hprompt name
      have hafter : Coupled (remembering engine) level (loadCached engine source name drive left).2
          (loadCached engine source name drive right).2 := by
        refine coupled_remembering ?_ hcurrent hcurrent'
        rw [hessence, hessence', hcoupled.essence_eq]
      exact hafter.met_remembering (hended'.trans hended.symm)

/-- An include goes side by side with one that forgets what is kept. -/
theorem forgetting (hstable : ∀ source, engine.source = some source → source.IsStable) {deeper deeper' : Block → Render Flow}
    (hdeeper : ∀ block, Paired (remembering engine) (level + 1) Eq (deeper block) (deeper' block)) (inclusion : Inclusion) :
    Paired (remembering engine) level Eq (Render.included engine deeper inclusion)
      (Render.forgetting engine deeper' inclusion) := by
  intro drive left right hdrive hcoupled
  have hforgot : Coupled (remembering engine) level left { right with includes := [] } :=
    coupled_remembering hcoupled.essence_eq hcoupled.marks.first current_nil
  have hincluded : Paired (remembering engine) level Eq (Render.included engine deeper inclusion)
      (Render.included engine deeper' inclusion) := by
    refine .included rfl (Toolbox.agrees_same _) (load_remembering hstable) (fun block block' htrees _ _ _ _ ↦ ?_) inclusion
    rw [← htrees]
    exact hdeeper block
  unfold Render.forgetting
  rw [run_bind_ok (run_modify _ drive right)]
  exact hincluded drive left _ hdrive hforgot

/-! ## Scripts -/

/-- Where the source never lets a render wait, something may be rendered at once. -/
theorem atOnce (hprompt : NeverWaits engine) {α : Type} {action action' : Render α}
    (h : Paired (remembering engine) level Eq action action') :
    Paired (remembering engine) level Eq (Render.atOnce action) (Render.atOnce action') := by
  intro drive left right _ hcoupled
  have hmet := h .blocking left right (.inr hprompt) hcoupled
  unfold Render.atOnce
  rcases hleft : action .blocking left with ⟨leftEnd, leftAfter⟩
  rcases hright : action' .blocking right with ⟨rightEnd, rightAfter⟩
  rw [hleft, hright] at hmet
  cases hmet with
  | value hgiven hafter => exact .value hgiven hafter
  | error hraised hafter => exact .error hraised hafter
  | suspended hafter => exact .error trivial ⟨hafter.alike, hafter.output, hafter.shared, hafter.marks⟩

theorem changed (change : Context → Output → Except Fault (Context × Output)) :
    Paired (remembering engine) level Eq (Render.changed change) (Render.changed change) := by
  intro drive left right _ hcoupled
  have hcontext : right.context = left.context := hcoupled.alike
  unfold Render.changed
  rw [run_bind_ok (run_get drive left), run_bind_ok (run_get drive right), hcontext, hcoupled.output]
  cases change left.context left.output with
  | error fault => exact .error trivial hcoupled
  | ok changed =>
    refine .value rfl (coupled_remembering ?_ hcoupled.marks.first hcoupled.marks.second)
    have hshared := hcoupled.shared
    simp only [essence, hshared.counts, hshared.nextObject]

/-- A script goes side by side with itself if its body does, unless it renders the body at once and the source might make
that wait. -/
theorem script {body body' : Render Unit} (hbody : Paired (remembering engine) level Eq body body') :
    ∀ script : Script, (script.IsPatient ∨ NeverWaits engine) →
      Paired (remembering engine) level Eq (script.run body) (script.run body')
  | .done, _ => .same ()
  | .raise error, _ => .raise trivial
  | .act change next, h => by
    rw [run_act, run_act]
    exact .bind_eq (.changed change) fun _ ↦ script hbody next h
  | .wait next, h => .bind_eq (.evaluate (.wait 1)) fun _ ↦ script hbody next h
  | .body isAtOnce next, h => by
    have hended : Paired (remembering engine) level Eq (if isAtOnce then Render.atOnce body else body)
        (if isAtOnce then Render.atOnce body' else body') := by
      obtain ⟨rfl, -⟩ | hprompt := h
      · exact hbody
      · exact .ite (atOnce hprompt hbody) hbody
    exact hended.attempt_bind fun ended _ ↦ script hbody (next ended) (h.imp_left fun hpatient ↦ hpatient.2 ended)

/-- A custom tag goes side by side with itself if its body does. -/
theorem custom {registration : Nat} {name markup : String}
    (htag : ∀ tag, engine.tag? registration = some tag →
      (tag.script name markup).IsPatient ∨ NeverWaits engine)
    {body body' : Render Flow} (h : Paired (remembering engine) level Eq body body') :
    Paired (remembering engine) level Eq (Render.custom engine registration name markup body)
      (Render.custom engine registration name markup body') := by
  unfold Render.custom
  cases hfound : engine.tag? registration with
  | none => exact .same _
  | some tag =>
    have hbody : Paired (remembering engine) level Eq (do let _ ← body) (do let _ ← body') := h.bind_eq fun _ ↦ .same ()
    exact (script hbody _ (htag tag hfound)).bind_eq fun _ ↦ .same _

/-! ## Blocks -/

/-- However deep includes may nest, a render goes side by side with one that forgets what is kept. -/
theorem blockWithin_forgetful (hstable : ∀ source, engine.source = some source → source.IsStable)
    (htags : ∀ registration name markup tag, engine.tag? registration = some tag →
      (tag.script name markup).IsPatient ∨ NeverWaits engine) :
    ∀ remaining {level} body,
      Paired (remembering engine) level Eq (blockWithin engine remaining body) (forgetfulWithin engine remaining body) := by
  have hnodes {level : Nat} {deeper deeper' : Block → Render Flow}
      (hdeeper : ∀ block, Paired (remembering engine) (level + 1) Eq (deeper block) (deeper' block)) (body : Block) :
      Paired (remembering engine) level Eq (nodes engine (Render.included engine deeper) body)
        (nodes engine (Render.forgetting engine deeper') body) := by
    have hleads : Leads (remembering engine) level engine engine (fun _ ↦ True) (Render.included engine deeper)
        (Render.forgetting engine deeper') :=
      ⟨rfl, Toolbox.agrees_same _, .forgetting hstable hdeeper,
        fun registration _ name markup _ _ _ hbody ↦ .custom (htags registration name markup) hbody⟩
    have hpaired := hleads.nodes body (allTags_of_forall (fun _ ↦ trivial) body)
    rwa [show (remembering engine).removed = [] from rfl, without_nil] at hpaired
  intro remaining
  induction remaining with
  | zero =>
    intro level body
    rw [blockWithin, forgetfulWithin]
    exact hnodes (fun _ ↦ .tooDeep) body
  | succ remaining ih =>
    intro level body
    rw [blockWithin, forgetfulWithin]
    exact hnodes (fun block ↦ ih block) body

/-- A render goes side by side with one that forgets what is kept before each include. -/
theorem block_forgetful (hstable : ∀ source, engine.source = some source → source.IsStable)
    (htags : ∀ registration name markup tag, engine.tag? registration = some tag →
      (tag.script name markup).IsPatient ∨ NeverWaits engine) (body : Block) :
    Paired (remembering engine) level Eq (Render.block engine body) (forgetful engine body) :=
  .context_bind (fun _ ↦ rfl) fun _ ↦ blockWithin_forgetful hstable htags _ body

end Paired

end Render

end Liquid
