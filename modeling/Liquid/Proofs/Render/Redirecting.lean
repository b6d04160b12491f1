import Liquid.Proofs.Render.Restoration

/-!
# Rendering into another output

Built-in tags write text, and they read nothing of what is written except through a capture that they began themselves. So
whatever stands in the output before, they do the same and write the same text behind it. In particular they do in a new
capture what they would do on a new page.
-/

namespace Liquid

namespace Render

open Template

variable {α β : Type} {engine : Engine} {holds : Tag → Prop}

/-- How two runs end that began in states with different outputs: alike, in states that only differ in the output, and with
the same text written behind each output, unless they would have had to wait. -/
structure Redirected (first second : Output) (left right : Except Failure α × RenderState) : Prop where
  ended : right.1 = left.1
  state : right.2 = { left.2 with output := right.2.output }
  written : Returned left.1 → ∃ text, left.2.output = first.write text ∧ right.2.output = second.write text

theorem Redirected.eq {first second : Output} {left right : Except Failure α × RenderState}
    (h : Redirected first second left right) : right = (left.1, { left.2 with output := right.2.output }) :=
  Prod.ext h.ended h.state

/-- An action that does the same into every output, and leads only to states whose includes have a property if it starts in
such a state. -/
structure Redirects (engine : Engine) (holds : Tag → Prop) (action : Render α) : Prop where
  includes : ∀ drive state, IncludesOnly engine holds state → IncludesOnly engine holds (action drive state).2
  redirected : ∀ drive state output, IncludesOnly engine holds state →
    Redirected state.output output (action drive state) (action drive { state with output := output })

namespace Redirects

/-- An action that neither writes nor looks at what is written. -/
theorem of_silent {action : Render α}
    (hincludes : ∀ drive state, IncludesOnly engine holds state → IncludesOnly engine holds (action drive state).2)
    (hsilent : ∀ drive state output, action drive { state with output := output } =
      ((action drive state).1, { (action drive state).2 with output := output })) :
    Redirects engine holds action := by
  refine ⟨hincludes, fun drive state output _ ↦ ?_⟩
  have hsame : (action drive state).2.output = state.output :=
    congrArg (fun run ↦ run.2.output) (hsilent drive state state.output)
  have hrun := hsilent drive state output
  rw [hrun]
  refine ⟨rfl, rfl, fun _ ↦ ⟨"", ?_, ?_⟩⟩
  · rw [hsame, Output.write_empty]
  · rw [Output.write_empty]

/-! ## Sequences -/

theorem pure (value : α) : Redirects engine holds (Pure.pure value : Render α) :=
  .of_silent (fun _ _ h ↦ h) fun _ _ _ ↦ rfl

theorem raise (error : Error) : Redirects engine holds (Render.raise error : Render α) :=
  .of_silent (fun _ _ h ↦ h) fun _ _ _ ↦ rfl

theorem fail (fault : Fault) : Redirects engine holds (Render.fail fault : Render α) := .raise _

theorem settle (ended : Except Error α) : Redirects engine holds (Render.settle ended) := by
  cases ended with
  | ok value => exact .pure value
  | error error => exact .raise error

theorem ofExcept (result : Except Fault α) : Redirects engine holds (Render.ofExcept result) := by
  cases result with
  | ok value => exact .pure value
  | error fault => exact .fail fault

theorem ite {condition : Prop} [Decidable condition] {first second : Render α} (hfirst : Redirects engine holds first)
    (hsecond : Redirects engine holds second) : Redirects engine holds (if condition then first else second) := by
  split
  · exact hfirst
  · exact hsecond

/-- What an action gives may be used by the next one. -/
theorem bind_of (given : α → Prop) {action : Render α} {next : α → Render β} (haction : Redirects engine holds action)
    (hgiven : ∀ drive before, IncludesOnly engine holds before → ∀ value,
      (action drive before).1 = .ok value → given value)
    (hnext : ∀ value, given value → Redirects engine holds (next value)) :
    Redirects engine holds (action >>= next) where
  includes drive state hinv := by
    have hafter := haction.includes drive state hinv
    have hvalue := hgiven drive state hinv
    rw [run_bind]
    rcases hrun : action drive state with ⟨failure | value, after⟩
    · rw [hrun] at hafter
      exact hafter
    · rw [hrun] at hafter hvalue
      exact (hnext value (hvalue value rfl)).includes drive after hafter
  redirected drive state output hinv := by
    have hafter := haction.includes drive state hinv
    have hvalue := hgiven drive state hinv
    obtain ⟨hended, hstate, hwritten⟩ := haction.redirected drive state output hinv
    rw [run_bind, run_bind]
    rcases hleft : action drive state with ⟨ended, after⟩
    rcases hright : action drive { state with output := output } with ⟨endedElsewhere, elsewhere⟩
    rw [hleft] at hafter hvalue hended hstate hwritten
    rw [hright] at hended hstate hwritten
    obtain rfl : endedElsewhere = ended := hended
    rcases endedElsewhere with (error | _) | value
    · exact ⟨rfl, hstate, fun _ ↦ hwritten (.error error)⟩
    · exact ⟨rfl, hstate, nofun⟩
    · obtain ⟨text, hfirst, hsecond⟩ := hwritten (.value value)
      have hlater := (hnext value (hvalue value rfl)).redirected drive after elsewhere.output hafter
      rw [← hstate] at hlater
      refine ⟨hlater.ended, hlater.state, fun hreturned ↦ ?_⟩
      obtain ⟨more, hfirstMore, hsecondMore⟩ := hlater.written hreturned
      refine ⟨text ++ more, ?_, ?_⟩
      · rw [hfirstMore, hfirst, Output.write_write]
      · rw [hsecondMore, hsecond, Output.write_write]

theorem bind {action : Render α} {next : α → Render β} (haction : Redirects engine holds action)
    (hnext : ∀ value, Redirects engine holds (next value)) : Redirects engine holds (action >>= next) :=
  haction.bind_of (fun _ ↦ True) (fun _ _ _ _ _ ↦ trivial) fun value _ ↦ hnext value

/-- What is done with the state must not depend on the output. -/
theorem get_bind {next : RenderState → Render β}
    (hblind : ∀ (state : RenderState) output, next { state with output := output } = next state)
    (hnext : ∀ state, Redirects engine holds (next state)) : Redirects engine holds (MonadState.get >>= next) where
  includes drive state hinv := by
    rw [run_bind_ok (run_get drive state)]
    exact (hnext state).includes drive state hinv
  redirected drive state output hinv := by
    rw [run_bind_ok (run_get drive state), run_bind_ok (run_get drive _), hblind state output]
    exact (hnext state).redirected drive state output hinv

theorem context_bind {next : Context → Render β} (hnext : ∀ context, Redirects engine holds (next context)) :
    Redirects engine holds (Render.context >>= next) :=
  .bind (.of_silent (fun _ _ h ↦ h) fun _ _ _ ↦ rfl) hnext

theorem attempt {action : Render α} (h : Redirects engine holds action) :
    Redirects engine holds (Render.attempt action) where
  includes drive state hinv := by
    have hafter := h.includes drive state hinv
    rw [run_attempt]
    rcases hrun : action drive state with ⟨(error | _) | value, after⟩ <;> rw [hrun] at hafter <;> exact hafter
  redirected drive state output hinv := by
    obtain ⟨hended, hstate, hwritten⟩ := h.redirected drive state output hinv
    rw [run_attempt, run_attempt]
    rcases hleft : action drive state with ⟨ended, after⟩
    rcases hright : action drive { state with output := output } with ⟨endedElsewhere, elsewhere⟩
    rw [hleft] at hended hstate hwritten
    rw [hright] at hended hstate hwritten
    obtain rfl : endedElsewhere = ended := hended
    rcases endedElsewhere with (error | _) | value
    · exact ⟨rfl, hstate, fun _ ↦ hwritten (.error error)⟩
    · exact ⟨rfl, hstate, nofun⟩
    · exact ⟨rfl, hstate, fun _ ↦ hwritten (.value value)⟩

/-! ## Basic actions -/

theorem evaluate (computation : Eval α) : Redirects engine holds (Render.evaluate computation) := by
  refine .of_silent (fun drive state hinv ↦ ?_) fun drive state output ↦ ?_
  · rw [run_evaluate]
    exact hinv
  · rw [run_evaluate, run_evaluate]

/-- The context may be changed except for the registers. -/
theorem change {change : Context → Context} (hregisters : ∀ context, (change context).registers = context.registers) :
    Redirects engine holds (modifyContext change) := by
  refine .of_silent (fun drive state hinv ↦ ?_) fun _ _ _ ↦ rfl
  rw [run_modifyContext, IncludesOnly]
  dsimp only
  rw [hregisters]
  exact hinv

/-- A register other than that of the source may be set. -/
theorem setRegister {key : String} (hkey : key ≠ Registers.sourceKey) (register : Context → Register) :
    Redirects engine holds (modifyContext fun context ↦ context.setRegister key (register context)) := by
  refine .of_silent (fun drive state hinv ↦ ?_) fun _ _ _ ↦ rfl
  have hkept : Keeps (IncludesOnly engine holds) (fun _ _ ↦ True)
      (modifyContext fun context ↦ context.setRegister key (register context)) := .setRegister hkey register
  exact (hkept drive state hinv).inv

theorem write (text : String) : Redirects engine holds (Render.write text) :=
  ⟨fun _ _ h ↦ h, fun _ _ _ _ ↦ ⟨rfl, rfl, fun _ ↦ ⟨text, rfl, rfl⟩⟩⟩

theorem checkCancelled : Redirects engine holds Render.checkCancelled := by
  unfold Render.checkCancelled
  exact .get_bind (fun _ _ ↦ rfl) fun _ ↦ .ite (.fail _) (.pure _)

theorem popScope : Redirects engine holds Render.popScope := by
  refine .of_silent (fun drive state hinv ↦ ?_) fun drive state output ↦ ?_
  · rw [run_popScope]
    cases state.context.scopes.pop? <;> exact hinv
  · rw [run_popScope, run_popScope]
    dsimp only
    cases state.context.scopes.pop? <;> rfl

theorem counter (name : String) : Redirects engine holds (Render.counter name) := .context_bind fun _ ↦ .pure _

theorem newObject (object : Object) : Redirects engine holds (Render.newObject object) :=
  .of_silent (fun _ _ h ↦ h) fun _ _ _ ↦ rfl

theorem advance (id index : Nat) : Redirects engine holds (Render.advance id index) :=
  .of_silent (fun _ _ h ↦ h) fun _ _ _ ↦ rfl

/-! ## Errors and outputs -/

theorem report (error : Error) : Redirects engine holds (Render.report error) := by
  have hrecorded : Redirects engine holds (Render.record error) := .change fun _ ↦ rfl
  unfold Render.report
  refine .bind (.change fun _ ↦ rfl) fun _ ↦ .ite (.raise error) (.context_bind fun context ↦ ?_)
  cases context.errorMode with
  | suppress => exact hrecorded
  | display => exact .bind (.write _) fun _ ↦ hrecorded
  | rethrow => exact .raise error

theorem located (error : Error) (span : Span) : Redirects engine holds (Render.located error span) :=
  .context_bind fun _ ↦ .pure _

theorem guarded (span : Span) {action : Render Flow} (h : Redirects engine holds action) :
    Redirects engine holds (Render.guarded span action) := by
  unfold Render.guarded
  refine .bind h.attempt fun ended ↦ ?_
  cases ended with
  | ok flow => exact .pure flow
  | error error => exact .bind (.located error span) fun located ↦ .bind (.report located) fun _ ↦ .pure _

theorem writeValue (value : Value) (flow : Flow) : Redirects engine holds (do
    let state ← MonadState.get
    Render.write (state.context.formatValue state.shared.counts.tallies value)
    return flow) :=
  .get_bind (fun _ _ ↦ rfl) fun _ ↦ .bind (.write _) fun _ ↦ .pure flow

theorem output (tools : Toolbox) (markup : Markup) (span : Span) :
    Redirects engine holds (Render.output tools markup span) := by
  unfold Render.output
  refine .bind (.evaluate _) fun value ↦ .context_bind fun context ↦ .ite ?_ (.writeValue value _)
  exact .bind (.located _ span) fun error ↦ .bind (.change fun _ ↦ rfl) fun _ ↦ .writeValue value _

theorem cycle (tools : Toolbox) (group : Option Expr) (values : List Expr) :
    Redirects engine holds (Render.cycle tools group values) := by
  unfold Render.cycle
  refine .ite (.pure _) ?_
  refine .bind (.evaluate _) fun key ↦ .context_bind fun context ↦ .bind (.setRegister (by decide) fun _ ↦ _) fun _ ↦ ?_
  split
  · exact .pure _
  · exact .bind (.evaluate _) fun value ↦ .writeValue value _

/-! ## Captures and branches -/

/-- Whatever is written around it, a capture gives the text that its body writes without it, and ends as its body does. -/
theorem captured_eq {body : Render Flow} (h : Redirects engine holds body) (drive : Drive) {state : RenderState}
    (hincludes : IncludesOnly engine holds state) :
    match body drive state with
    | (.ok flow, after) =>
      ∃ text, after.output = state.output.write text ∧ ∀ output,
        Render.captured body drive { state with output := output } = (.ok (text, flow), { after with output := output })
    | (.error (.error error), after) =>
      ∀ output, Render.captured body drive { state with output := output } =
        (.error (.error error), { after with output := output })
    | (.error .suspended, after) =>
      ∀ output, ∃ unfinished, Render.captured body drive { state with output := output } =
        (.error .suspended, { after with output := unfinished }) := by
  have hbody (output : Output) := h.redirected drive state output.beginCapture hincludes
  have hsame (output : Output) := (hbody output).eq
  rcases hplain : body drive state with ⟨(error | _) | flow, after⟩
  · intro output
    obtain ⟨text, -, hinside⟩ := (hbody output).written (by rw [hplain]; exact .error error)
    rw [run_captured, hsame, hplain]
    dsimp only
    rw [hinside, Output.endCapture_write_beginCapture]
  · intro output
    rw [run_captured, hsame, hplain]
    exact ⟨_, rfl⟩
  · obtain ⟨text, houtput, -⟩ := (hbody state.output).written (by rw [hplain]; exact .value flow)
    rw [hplain] at houtput
    refine ⟨text, houtput, fun output ↦ ?_⟩
    obtain ⟨other, hother, hinside⟩ := (hbody output).written (by rw [hplain]; exact .value flow)
    rw [hplain] at hother
    obtain rfl := Output.write_inj (houtput.symm.trans hother)
    rw [run_captured, hsame, hplain]
    dsimp only
    rw [hinside, Output.endCapture_write_beginCapture]

/-- The text of a capture does not depend on what is written around it. -/
theorem captured {body : Render Flow} (h : Redirects engine holds body) :
    Redirects engine holds (Render.captured body) where
  includes drive state hinv := by
    have hafter := h.includes drive { state with output := state.output.beginCapture } hinv
    rw [run_captured]
    rcases hrun : body drive { state with output := state.output.beginCapture } with ⟨(error | _) | flow, after⟩ <;>
      rw [hrun] at hafter <;> exact hafter
  redirected drive state output hinv := by
    have hcaptured := h.captured_eq drive hinv
    rcases hplain : body drive state with ⟨(error | _) | flow, after⟩
    · rw [hplain] at hcaptured
      have hhere : Render.captured body drive state = _ := hcaptured state.output
      rw [hhere, hcaptured output]
      exact ⟨rfl, rfl, fun _ ↦ ⟨"", state.output.write_empty.symm, output.write_empty.symm⟩⟩
    · rw [hplain] at hcaptured
      obtain ⟨left, hleft⟩ := hcaptured state.output
      obtain ⟨right, hright⟩ := hcaptured output
      have hhere : Render.captured body drive state = _ := hleft
      rw [hhere, hright]
      exact ⟨rfl, rfl, nofun⟩
    · rw [hplain] at hcaptured
      obtain ⟨text, -, htext⟩ := hcaptured
      have hhere : Render.captured body drive state = _ := htext state.output
      rw [hhere, htext output]
      exact ⟨rfl, rfl, fun _ ↦ ⟨"", state.output.write_empty.symm, output.write_empty.symm⟩⟩

theorem ifChanged (text : String) : Redirects engine holds (Render.ifChanged text) := by
  have hnoted : Redirects engine holds
      (modifyContext fun context ↦ context.setRegister Registers.changeKey (.text text)) :=
    .setRegister (by decide) fun _ ↦ .text text
  unfold Render.ifChanged
  exact .context_bind fun context ↦ .ite (.bind (.write _) fun _ ↦ hnoted) hnoted

theorem branches (tools : Toolbox) {otherwise : Render Flow} (hotherwise : Redirects engine holds otherwise) :
    ∀ (negated : Bool) (conditions : List (Condition × Render Flow)),
      (∀ branch ∈ conditions, Redirects engine holds branch.2) →
        Redirects engine holds (Render.branches tools otherwise negated conditions)
  | negated, [], _ => by
    rw [Render.branches]
    exact hotherwise
  | negated, (condition, body) :: rest, h => by
    rw [List.forall_mem_cons] at h
    rw [Render.branches]
    exact .bind (.evaluate _) fun _ ↦ .ite h.1 (branches tools hotherwise false rest h.2)

theorem cases (tools : Toolbox) (subject : Value) {otherwise : Render Flow}
    (hotherwise : Redirects engine holds otherwise) :
    ∀ (matched : Bool) (whens : List (List Expr × Render Flow)), (∀ branch ∈ whens, Redirects engine holds branch.2) →
      Redirects engine holds (Render.cases tools subject otherwise matched whens)
  | matched, [], _ => by
    rw [Render.cases]
    exact .ite (.pure _) hotherwise
  | matched, (values, body) :: rest, h => by
    rw [List.forall_mem_cons] at h
    rw [Render.cases]
    refine .bind (.evaluate _) fun _ ↦ .ite (.bind h.1 fun flow ↦ ?_) (cases tools subject hotherwise matched rest h.2)
    cases flow with
    | completed => exact cases tools subject hotherwise true rest h.2
    | breakLoop => exact .pure _
    | continueLoop => exact .pure _

/-! ## Loops -/

theorem eachItem {visit : Nat → Value → Render Flow} (h : ∀ index item, Redirects engine holds (visit index item)) :
    ∀ index items, Redirects engine holds (Render.eachItem visit index items)
  | index, [] => by
    rw [Render.eachItem]
    exact .pure _
  | index, item :: rest => by
    rw [Render.eachItem]
    refine .bind (h index item) fun flow ↦ ?_
    cases flow with
    | breakLoop => exact .pure _
    | completed => exact eachItem h (index + 1) rest
    | continueLoop => exact eachItem h (index + 1) rest

theorem inLoop (objectName : String) (object : Value) {visits : Render Unit} (h : Redirects engine holds visits) :
    Redirects engine holds (Render.inLoop objectName object visits) := by
  unfold Render.inLoop
  exact .bind (.change fun _ ↦ rfl) fun _ ↦ .bind h.attempt fun ended ↦ .bind (.change fun _ ↦ rfl) fun _ ↦
    .bind .popScope fun _ ↦ .pure ended

theorem visitLoop (header : LoopHeader) (items : List Value) {body : Render Flow} (h : Redirects engine holds body) :
    Redirects engine holds (Render.visitLoop header items body) := by
  unfold Render.visitLoop
  refine .bind (.evaluate _) fun parent ↦ .bind (.newObject _) fun made ↦
    .bind (.inLoop _ _ (.eachItem (fun index item ↦ ?_) 0 items)) fun ended ↦ .bind (.settle ended) fun _ ↦ .pure _
  exact .bind (.advance _ index) fun _ ↦ .bind (.change fun _ ↦ rfl) fun _ ↦ h

theorem loopOffset (tools : Toolbox) (header : LoopHeader) : Redirects engine holds (Render.loopOffset tools header) := by
  unfold Render.loopOffset
  split
  · exact .context_bind fun _ ↦ .pure _
  · exact .evaluate _
  · exact .pure _

theorem loop (tools : Toolbox) (header : LoopHeader) {body otherwise : Render Flow} (hbody : Redirects engine holds body)
    (hotherwise : Redirects engine holds otherwise) :
    Redirects engine holds (Render.loop tools header body otherwise) := by
  unfold Render.loop
  exact .bind (.evaluate _) fun collection ↦ .bind (.loopOffset tools header) fun offset ↦ .bind (.evaluate _) fun limit ↦
    .bind (.setRegister (by decide) _) fun _ ↦ .ite hotherwise (.visitLoop header _ hbody)

theorem table (tools : Toolbox) (header : TableHeader) {body : Render Flow} (h : Redirects engine holds body) :
    Redirects engine holds (Render.table tools header body) := by
  unfold Render.table
  refine .bind (.evaluate _) fun collection ↦ .bind (.evaluate _) fun offset ↦ .bind (.evaluate _) fun limit ↦
    .bind (.evaluate _) fun columns ↦ .bind (.newObject _) fun made ↦ .bind (.write _) fun _ ↦
    .bind (.inLoop _ _ (.eachItem (fun index item ↦ ?_) 0 _)) fun ended ↦
    .bind (.write _) fun _ ↦ .bind (.settle ended) fun _ ↦ .pure _
  refine .bind (.advance _ index) fun _ ↦ .bind (.change fun _ ↦ rfl) fun _ ↦ .bind (.write _) fun _ ↦
    .bind h.attempt fun ended ↦ .bind (.write _) fun _ ↦ ?_
  exact .ite (.bind (.write _) fun _ ↦ .settle ended) (.settle ended)

/-! ## Includes -/

theorem fetch (source : Source) (name : String) : Redirects engine holds (Render.fetch source name) := by
  have hread : Redirects engine holds (modify fun state ↦ { state with reads := name :: state.reads } : Render PUnit) :=
    .of_silent (fun _ _ h ↦ h) fun _ _ _ ↦ rfl
  unfold Render.fetch
  refine .ite (.bind hread fun _ ↦ ?_) ?_
  · exact .bind (.evaluate _) fun _ ↦ .ofExcept _
  · exact .bind (.evaluate _) fun _ ↦ .ofExcept _

theorem parse (name text : String) : Redirects engine holds (Render.parse engine name text) := .settle _

theorem keepInclude {block : Block} (hblock : AllTags holds block) (path : String) :
    Redirects engine holds
      (modify fun state ↦ { state with includes := state.includes.put path block } : Render PUnit) := by
  have hkeeps : Keeps (IncludesOnly engine holds) (fun _ _ ↦ True)
      (modify fun state ↦ { state with includes := state.includes.put path block } : Render PUnit) :=
    .keepInclude hblock path
  exact .of_silent (fun drive state hinv ↦ (hkeeps drive state hinv).inv) fun _ _ _ ↦ rfl

theorem loadCached {source : Source} (hsource : engine.source = some source) (name : String) :
    Redirects engine holds (Render.loadCached engine source name) := by
  unfold Render.loadCached
  refine .bind (.ofExcept _) fun path ↦ .get_bind (fun _ _ ↦ rfl) fun state ↦ ?_
  split
  · exact .pure _
  · refine .bind_of (fun text ↦ source.fetch name = .ok text) (.fetch source name)
      (fun _ _ _ _ htext ↦ fetch_eq_ok htext) fun text htext ↦ ?_
    refine .bind_of (AllTags holds) (.parse name text)
      (fun _ _ hinv block hblock ↦ hinv.2 source (.inr hsource) name text block htext (parse_eq_ok hblock))
      fun block hblock ↦ ?_
    exact .bind (.keepInclude hblock path) fun _ ↦ .pure block

theorem load (name : String) : Redirects engine holds (Render.load engine name) := by
  unfold Render.load
  refine .context_bind fun context ↦ ?_
  split
  · exact .bind (.fetch _ name) fun text ↦ .parse name text
  · split
    · next hsource => exact .loadCached hsource name
    · exact .fail _

theorem eachBound {bind : Value → Render Flow} (h : ∀ item, Redirects engine holds (bind item)) :
    ∀ items, Redirects engine holds (Render.eachBound bind items)
  | [] => by
    rw [Render.eachBound]
    exact .pure _
  | item :: rest => by
    rw [Render.eachBound]
    refine .bind (h item) fun flow ↦ ?_
    cases flow with
    | completed => exact eachBound h rest
    | breakLoop => exact .pure _
    | continueLoop => exact .pure _

theorem bound (binding : Option Binding) (name : String) (value : Option Value) {body : Render Flow}
    (h : Redirects engine holds body) : Redirects engine holds (Render.bound binding name value body) := by
  have hbind (value : Value) : Redirects engine holds (do
      modifyContext fun context ↦ context.set name value
      body) :=
    .bind (.change fun _ ↦ rfl) fun _ ↦ h
  unfold Render.bound
  split
  · exact .ite (.eachBound hbind _) (hbind _)
  · exact hbind _
  · exact h

theorem inInclude (name : String) (frame : Entries String Value) {body : Render Flow} (h : Redirects engine holds body) :
    Redirects engine holds (Render.inInclude name frame body) := by
  have hleave (outer : String) (ended : Except Error Flow) : Redirects engine holds (leaveInclude outer ended) :=
    .bind (.change fun _ ↦ rfl) fun _ ↦ .bind (.attempt .popScope) fun popped ↦ .bind (.change fun _ ↦ rfl) fun _ ↦
      .bind (.settle popped) fun _ ↦ .settle ended
  have henter : Redirects engine holds (updateContext Context.enter) := by
    refine .of_silent (fun drive state hinv ↦ ?_) fun drive state output ↦ ?_
    · rw [run_enter]
      split <;> exact hinv
    · rw [run_enter, run_enter]
      dsimp only
      split <;> rfl
  unfold Render.inInclude
  exact .bind henter fun _ ↦ .context_bind fun _ ↦ .bind (.change fun _ ↦ rfl) fun _ ↦ .bind h.attempt fun ended ↦
    hleave _ ended

theorem included {deeper : Block → Render Flow} (h : ∀ block, AllTags holds block → Redirects engine holds (deeper block))
    (inclusion : Inclusion) : Redirects engine holds (Render.included engine deeper inclusion) := by
  unfold Render.included
  refine .bind (.evaluate _) fun name ↦ .bind_of (AllTags holds) (.load name) (fun _ _ hinv _ ↦ load_allTags hinv)
    fun block hblock ↦ ?_
  exact .bind (.evaluate _) fun value ↦ .bind (.evaluate _) fun frame ↦
    .inInclude name frame (.bound _ _ value (h block hblock))

/-! ## Trees -/

/-- Every built-in construct does the same into every output if its parts do. -/
theorem compositional {deeper : Block → Render Flow} (hbuiltin : ∀ tag, holds tag → tag.IsBuiltin)
    (hdeeper : ∀ block, AllTags holds block → Redirects engine holds (deeper block)) :
    Compositional engine (Render.included engine deeper) holds (Redirects engine holds) where
  nothing := .pure _
  writes content := .bind (.write content) fun _ ↦ .pure _
  prints markup span := .output _ markup span
  guards span action h := .guarded span h
  refuses name span action h := .context_bind fun _ ↦ .ite (.guarded span (.fail _)) h
  inOrder first rest hfirst hrest := by
    refine .bind .checkCancelled fun _ ↦ .bind hfirst fun flow ↦ ?_
    cases flow with
    | completed => exact hrest
    | breakLoop => exact .pure _
    | continueLoop => exact .pure _
  assigns target value := .bind (.evaluate _) fun _ ↦ .bind (.change fun _ ↦ rfl) fun _ ↦ .pure _
  captures target body _ h := .bind (.captured h) fun _ ↦ .bind (.change fun _ ↦ rfl) fun _ ↦ .pure _
  selects subject whens otherwise hwhens hotherwise :=
    .bind (.evaluate _) fun value ↦ .cases _ value hotherwise false whens hwhens
  cycles group values := .cycle _ group values
  increments name := .bind (.counter name) fun _ ↦ .bind (.write _) fun _ ↦ .bind (.change fun _ ↦ rfl) fun _ ↦ .pure _
  decrements name := .bind (.counter name) fun _ ↦ .bind (.write _) fun _ ↦ .bind (.change fun _ ↦ rfl) fun _ ↦ .pure _
  repeats header body otherwise hbody hotherwise := .loop _ header hbody hotherwise
  leaves flow := .context_bind fun _ ↦ .ite (.pure _) (.pure _)
  decides negated conditions otherwise hconditions hotherwise := .branches _ hotherwise negated conditions hconditions
  detects body h := .bind (.captured h) fun _ ↦ .bind (.ifChanged _) fun _ ↦ .pure _
  includes inclusion := .included hdeeper inclusion
  tabulates header body h := .table _ header h
  runs registration name markup body hholds _ := (hbuiltin _ hholds).elim

/-- However deep includes may nest, a block does the same into every output. -/
theorem blockWithin (hbuiltin : ∀ tag, holds tag → tag.IsBuiltin) :
    ∀ (remaining : Nat) (body : Block), AllTags holds body →
      Redirects engine holds (Render.blockWithin engine remaining body)
  | 0, body, hbody => by
    rw [Render.blockWithin]
    exact (compositional hbuiltin fun _ _ ↦ .context_bind fun _ ↦ .fail _).nodes body hbody
  | remaining + 1, body, hbody => by
    rw [Render.blockWithin]
    exact (compositional hbuiltin fun block hblock ↦ blockWithin hbuiltin remaining block hblock).nodes body hbody

end Redirects

end Render

end Liquid
