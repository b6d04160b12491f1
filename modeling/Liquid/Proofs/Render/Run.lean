import Liquid.Render.Tree

/-!
# Runs of rendering actions

An action takes a drive and a state to a result and the state it leaves. The equations below say what each basic
action does to a state, so that a run of a longer action unfolds step by step.
-/

namespace Liquid.Render

variable {α β : Type}

@[simp] theorem run_pure (value : α) (drive : Drive) (state : RenderState) :
    (pure value : Render α) drive state = (.ok value, state) := rfl

/-- The second action starts where the first one ends, and only if that has a result. -/
theorem run_bind (action : Render α) (next : α → Render β) (drive : Drive) (state : RenderState) :
    (action >>= next) drive state =
      match action drive state with
      | (.ok value, after) => next value drive after
      | (.error failure, after) => (.error failure, after) := by
  change ExceptT.bindCont (next · drive) (action drive state).1 (action drive state).2 = _
  rcases action drive state with ⟨_ | _, _⟩ <;> rfl

theorem run_bind_ok {action : Render α} {drive : Drive} {state after : RenderState} {value : α}
    (h : action drive state = (.ok value, after)) (next : α → Render β) :
    (action >>= next) drive state = next value drive after := by
  rw [run_bind, h]

/-- If a sequence of actions ends with a result, so do both actions. -/
theorem of_run_bind_eq {action : Render α} {next : α → Render β} {drive : Drive} {state after : RenderState} {value : β}
    (h : (action >>= next) drive state = (.ok value, after)) :
    ∃ first middle, action drive state = (.ok first, middle) ∧ next first drive middle = (.ok value, after) := by
  rw [run_bind] at h
  rcases hrun : action drive state with ⟨failure | first, middle⟩
  · rw [hrun] at h
    cases h
  · rw [hrun] at h
    exact ⟨first, middle, rfl, h⟩

/-- If a sequence of actions has a result, so have both actions. -/
theorem of_run_bind_eq_ok {action : Render α} {next : α → Render β} {drive : Drive} {state : RenderState} {value : β}
    (h : ((action >>= next) drive state).1 = .ok value) :
    ∃ first after, action drive state = (.ok first, after) ∧ (next first drive after).1 = .ok value := by
  have hrun : (action >>= next) drive state = (.ok value, ((action >>= next) drive state).2) := Prod.ext h rfl
  obtain ⟨first, middle, hfirst, hnext⟩ := of_run_bind_eq hrun
  exact ⟨first, middle, hfirst, congrArg Prod.fst hnext⟩

@[simp] theorem run_get (drive : Drive) (state : RenderState) :
    (get : Render RenderState) drive state = (.ok state, state) := rfl

@[simp] theorem run_set (new : RenderState) (drive : Drive) (state : RenderState) :
    (set new : Render PUnit) drive state = (.ok ⟨⟩, new) := rfl

@[simp] theorem run_modify (change : RenderState → RenderState) (drive : Drive) (state : RenderState) :
    (modify change : Render PUnit) drive state = (.ok ⟨⟩, change state) := rfl

@[simp] theorem run_context (drive : Drive) (state : RenderState) :
    context drive state = (.ok state.context, state) := rfl

@[simp] theorem run_modifyContext (change : Context → Context) (drive : Drive) (state : RenderState) :
    modifyContext change drive state = (.ok (), { state with context := change state.context }) := rfl

@[simp] theorem run_modifyOutput (change : Output → Output) (drive : Drive) (state : RenderState) :
    modifyOutput change drive state = (.ok (), { state with output := change state.output }) := rfl

@[simp] theorem run_write (text : String) (drive : Drive) (state : RenderState) :
    write text drive state = (.ok (), { state with output := state.output.write text }) := rfl

@[simp] theorem run_endCapture (drive : Drive) (state : RenderState) :
    endCapture drive state =
      (.ok state.output.endCapture.1, { state with output := state.output.endCapture.2 }) := rfl

@[simp] theorem run_raise (error : Error) (drive : Drive) (state : RenderState) :
    (raise error : Render α) drive state = (.error (.error error), state) := rfl

@[simp] theorem run_fail (fault : Fault) (drive : Drive) (state : RenderState) :
    (fail fault : Render α) drive state = (.error (.error (.of fault)), state) := rfl

@[simp] theorem run_settle (ended : Except Error α) (drive : Drive) (state : RenderState) :
    settle ended drive state = (ended.mapError Failure.error, state) := by
  cases ended <;> rfl

@[simp] theorem run_ofExcept (result : Except Fault α) (drive : Drive) (state : RenderState) :
    ofExcept result drive state = (result.mapError fun fault ↦ .error (.of fault), state) := by
  cases result <;> rfl

/-- An evaluation reads the context and changes what is shared. -/
@[simp] theorem run_evaluate (computation : Eval α) (drive : Drive) (state : RenderState) :
    evaluate computation drive state =
      ((computation drive state.context state.shared).1,
        { state with shared := (computation drive state.context state.shared).2 }) := by
  -- The computation stands under the binding of the state, which has to be carried out first.
  conv => lhs; whnf
  rcases computation drive state.context state.shared with ⟨_ | _, _⟩ <;> rfl

/-- An attempt ends where the action ends; an error becomes a result. -/
theorem run_attempt (action : Render α) (drive : Drive) (state : RenderState) :
    attempt action drive state =
      match action drive state with
      | (.ok value, after) => (.ok (.ok value), after)
      | (.error (.error error), after) => (.ok (.error error), after)
      | (.error .suspended, after) => (.error .suspended, after) := rfl

/-- What follows an attempt goes on from the end of the action, unless that would have had to wait. -/
theorem run_attempt_bind (action : Render α) (next : Except Error α → Render β) (drive : Drive)
    (state : RenderState) :
    (attempt action >>= next) drive state =
      match action drive state with
      | (.ok value, after) => next (.ok value) drive after
      | (.error (.error error), after) => next (.error error) drive after
      | (.error .suspended, after) => (.error .suspended, after) := by
  rw [run_bind, run_attempt]
  rcases action drive state with ⟨(error | _) | value, after⟩ <;> rfl

@[simp] theorem run_located (error : Error) (span : Span) (drive : Drive) (state : RenderState) :
    located error span drive state =
      (.ok (error.locate ⟨state.context.name, span.start.line⟩), state) := rfl

/-- What is fetched has been asked for and waited for. -/
theorem run_fetch (source : Source) (name : String) (drive : Drive) (state : RenderState) :
    fetch source name drive state =
      (do
        evaluate (Eval.wait (source.waits name))
        ofExcept (source.fetch name)) drive
        { state with reads := if source.isLogged then name :: state.reads else state.reads } := by
  unfold fetch
  cases source.isLogged <;> rfl

/-- A reported error is noted. It ends the render if it is fatal or to be rethrown, and else it is recorded. -/
theorem run_report (error : Error) (drive : Drive) (state : RenderState) :
    report error drive state =
      let noted := state.context.noteReported error
      if error.kind.isFatal then (.error (.error error), { state with context := noted })
      else
        match state.context.errorMode with
        | .rethrow => (.error (.error error), { state with context := noted })
        | .display =>
          (.ok (), { state with
            context := noted.record error, output := state.output.write (errorOpening ++ error.message) })
        | .suppress => (.ok (), { state with context := noted.record error }) := by
  unfold report
  rw [run_bind_ok (run_modifyContext _ drive state)]
  dsimp only
  split
  · rfl
  · rw [run_bind_ok (run_context drive _)]
    change (match state.context.errorMode with
      | .rethrow => raise error
      | .display => (do write (errorOpening ++ error.message); record error : Render Unit)
      | .suppress => record error) drive _ = _
    cases state.context.errorMode <;> rfl

/-- A fault that is neither fatal nor displayed nor rethrown is reported and recorded, and the render goes on. -/
theorem run_guarded_fail_suppress {fault : Fault} (hfatal : fault.kind.isFatal = false) (span : Span) (drive : Drive)
    {state : RenderState} (hmode : state.context.errorMode = .suppress) :
    guarded span (fail fault) drive state =
      (.ok .completed,
        let error := (Error.of fault).locate ⟨state.context.name, span.start.line⟩
        { state with context := (state.context.noteReported error).record error }) := by
  have hkind : ((Error.of fault).locate ⟨state.context.name, span.start.line⟩).kind.isFatal = false := hfatal
  unfold guarded
  rw [run_attempt_bind, run_fail]
  dsimp only
  rw [run_bind_ok (run_located _ span drive state), run_bind, run_report, hkind, hmode]
  rfl

/-- A render goes on unless it has been cancelled. -/
theorem run_checkCancelled (drive : Drive) (state : RenderState) :
    checkCancelled drive state =
      (if state.shared.counts.cancelled = some true then .error (.error (.of .cancelled)) else .ok (), state) := by
  unfold checkCancelled
  rw [run_bind_ok (run_get drive state)]
  by_cases hcancelled : state.shared.counts.cancelled = some true
  · rw [if_pos hcancelled, if_pos hcancelled]
    rfl
  · rw [if_neg hcancelled, if_neg hcancelled]
    rfl

/-- Whether a body has a result or fails, its capture is ended. -/
theorem run_captured (body : Render Flow) (drive : Drive) (state : RenderState) :
    captured body drive state =
      match body drive { state with output := state.output.beginCapture } with
      | (.ok flow, after) =>
        (.ok (after.output.endCapture.1, flow), { after with output := after.output.endCapture.2 })
      | (.error (.error error), after) => (.error (.error error), { after with output := after.output.endCapture.2 })
      | (.error .suspended, after) => (.error .suspended, after) := by
  unfold captured
  rw [run_bind_ok (run_modifyOutput _ drive state), run_attempt_bind]
  rcases body drive { state with output := state.output.beginCapture } with ⟨(error | _) | flow, after⟩ <;> rfl

/-- A change detection never fails, and the text that it was given is the last one it knows. -/
theorem run_ifChanged (text : String) (drive : Drive) (state : RenderState) :
    ifChanged text drive state =
      (.ok (), { state with
        context := state.context.setRegister Registers.changeKey (.text text)
        output :=
          if state.context.registers.text? Registers.changeKey ≠ some text then state.output.write text
          else state.output }) := by
  unfold ifChanged
  rw [run_bind_ok (run_context drive state)]
  by_cases hchanged : state.context.registers.text? Registers.changeKey ≠ some text
  · rw [if_pos hchanged, if_pos hchanged]
    rfl
  · rw [if_neg hchanged, if_neg hchanged]
    rfl

/-- Closing a scope fails only if it is the outermost one. -/
theorem run_popScope (drive : Drive) (state : RenderState) :
    popScope drive state =
      match state.context.scopes.pop? with
      | some (_, scopes) => (.ok (), { state with context := { state.context with scopes := scopes } })
      | none => (.error (.error (.of .unmatchedPop)), state) := by
  unfold popScope updateContext
  simp only [run_bind, run_context, run_ofExcept, Context.pop]
  cases state.context.scopes.pop? <;> rfl

/-- Entering an include fails, and changes nothing, if as many are active as are allowed. -/
theorem run_enter (drive : Drive) (state : RenderState) :
    updateContext Context.enter drive state =
      if state.context.depth ≥ state.context.maxDepth then
        (.error (.error (.of (.tooDeep state.context.maxDepth))), state)
      else (.ok (), { state with context := { state.context with depth := state.context.depth + 1 } }) := by
  unfold updateContext
  simp only [run_bind, run_context, run_ofExcept, Context.enter]
  by_cases hdeep : state.context.depth ≥ state.context.maxDepth
  · rw [if_pos hdeep, if_pos hdeep]
    rfl
  · rw [if_neg hdeep, if_neg hdeep]
    rfl

/-- An include is entered in a scope of its own and under its own name. -/
theorem run_inInclude (name : String) (frame : Entries String Value) (body : Render Flow) (drive : Drive)
    (state : RenderState) :
    inInclude name frame body drive state =
      if state.context.depth ≥ state.context.maxDepth then
        (.error (.error (.of (.tooDeep state.context.maxDepth))), state)
      else
        (attempt body >>= leaveInclude state.context.name) drive { state with context :=
          { state.context.push frame with name := name, depth := state.context.depth + 1 } } := by
  unfold inInclude
  rw [run_bind, run_enter]
  by_cases hdeep : state.context.depth ≥ state.context.maxDepth
  · rw [if_pos hdeep, if_pos hdeep]
  · rw [if_neg hdeep, if_neg hdeep]
    rfl

theorem run_popScope_push (drive : Drive) (state : RenderState) {frame : Entries String Value} {scopes : Scopes}
    (h : state.context.scopes = scopes.push frame) :
    popScope drive state = (.ok (), { state with context := { state.context with scopes := scopes } }) := by
  rw [run_popScope, h, Scopes.pop?_push]

/-- Behind an include its scope is closed. If there is none to close, that is the error, and else the result or the error
is that of the include. -/
theorem run_leaveInclude_pop (outer : String) (ended : Except Error Flow) (drive : Drive) (state : RenderState) :
    leaveInclude outer ended drive state =
      match state.context.scopes.pop? with
      | some (_, scopes) =>
        (ended.mapError Failure.error, { state with context :=
          { state.context with name := outer, scopes := scopes, depth := state.context.depth - 1 } })
      | none =>
        (.error (.error (.of .unmatchedPop)), { state with context :=
          { state.context with name := outer, depth := state.context.depth - 1 } }) := by
  unfold leaveInclude
  rw [run_bind_ok (run_modifyContext _ drive state), run_attempt_bind, run_popScope]
  dsimp only
  cases state.context.scopes.pop? with
  | none => rfl
  | some popped => cases ended <;> rfl

theorem run_leaveInclude {state : RenderState} {frame : Entries String Value} {scopes : Scopes}
    (h : state.context.scopes = scopes.push frame) (outer : String) (ended : Except Error Flow) (drive : Drive) :
    leaveInclude outer ended drive state =
      (ended.mapError Failure.error, { state with context :=
        { state.context with name := outer, scopes := scopes, depth := state.context.depth - 1 } }) := by
  rw [run_leaveInclude_pop, h, Scopes.pop?_push]

end Liquid.Render
