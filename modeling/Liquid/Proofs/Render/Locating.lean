import Liquid.Proofs.Evaluation.Composition
import Liquid.Proofs.Render.Blaming
import Liquid.Proofs.Render.Tracing

/-!
# Where errors are located

The renderer leaves an error without a place until it comes out of a node, and a node gives it its own place only if it has
none yet. This is the same as blaming every error at once on the innermost node that is being rendered: an error that comes
out of a node has the place that it got there, so that no node around it and no template that includes it changes the place,
and behind an include the name of the template is the one in front of it.
-/

namespace Liquid

open Template

/-- A context without what constructs open and close again. -/
def Context.around (context : Context) : Context :=
  { context with scopes := .empty, assigned := [], loops := 0, depth := 0 }

/-- An error with a place, if it has none yet and there is one. -/
def Error.placedAt (place : Option Location) (error : Error) : Error := { error with location := error.location <|> place }

theorem Error.placedAt_of_isSome {error : Error} (h : error.location.isSome) (place : Option Location) :
    error.placedAt place = error := by
  obtain ⟨fault, _ | known, cause⟩ := error
  · cases h
  · rfl

theorem Error.placedAt_of_none {error : Error} (h : error.location = none) (place : Option Location) :
    error.placedAt place = { error with location := place } := by
  rw [placedAt, h]
  rfl

/-! ## Evaluations -/

namespace Eval

variable {α β : Type}

/-- The errors of an evaluation have no place. -/
def Unplaced (computation : Eval α) : Prop :=
  ∀ drive context shared error, (computation drive context shared).1 = .error (.error error) → error.location = none

theorem query_unplaced {explain : Fault → Error} (hexplain : ∀ fault, (explain fault).location = none) (query : Query α) :
    Unplaced (Eval.query explain query) := by
  intro drive context shared error h
  rw [run_query] at h
  cases hresult : (query context shared.counts).1 with
  | ok value =>
    rw [hresult] at h
    cases h
  | error fault =>
    rw [hresult] at h
    cases h
    exact hexplain fault

theorem Unplaced.bind {computation : Eval α} {next : α → Eval β} (h : Unplaced computation)
    (hnext : ∀ value, Unplaced (next value)) : Unplaced (computation >>= next) := by
  intro drive context shared error hfailed
  rw [run_bind] at hfailed
  have hfirst := h drive context shared error
  rcases hrun : computation drive context shared with ⟨failure | value, after⟩
  · rw [hrun] at hfailed hfirst
    cases hfailed
    exact hfirst rfl
  · rw [hrun] at hfailed
    exact hnext value drive context after error hfailed

theorem location_invocationError (name : String) (fault : Fault) : (Filter.invocationError name fault).location = none := by
  rw [Filter.invocationError]
  split <;> rfl

/-- No error of an evaluation has a place. -/
theorem unplaced (tools : Toolbox) : Compositional tools fun _ computation ↦ Unplaced computation where
  pure _ _ _ _ _ h := by cases h
  fail _ _ _ _ _ h := by
    cases h
    rfl
  bind h hnext := h.bind hnext
  context_bind _ hnext := by
    intro drive context shared error h
    rw [run_bind] at h
    exact hnext context drive context shared error h
  counting _ := query_unplaced (fun _ ↦ rfl) _
  textOf _ := query_unplaced (fun _ ↦ rfl) _
  wait times drive context shared error h := by
    unfold Eval.wait at h
    split at h <;> cases h
  converts name _ := query_unplaced (location_invocationError name) _
  calls _ _ := query_unplaced (location_invocationError _) _
  misses name := by
    unfold missingPath
    intro drive context shared error h
    rw [run_bind] at h
    change ((if context.strict then _ else _ : Eval Value) drive context shared).1 = _ at h
    split at h
    · cases h
      rfl
    · cases h

end Eval

namespace Render

variable {α β γ δ : Type} {engine : Engine} {holds : Tag → Prop} {place : Option Location} {name : String}

/-- The name of the template is the same. -/
def SameName (before after : RenderState) : Prop := after.context.name = before.context.name

instance : Frame SameName := ⟨fun h ↦ h.name, fun first second ↦ Eq.trans second first⟩

/-! ## Actions in which errors arise -/

/-- The errors of an action have no place. -/
def Unplaced (action : Render α) : Prop :=
  ∀ drive state error, (action drive state).1 = .error (.error error) → error.location = none

theorem unplaced_of_ok {action : Render α} (h : ∀ drive state, ∃ value, (action drive state).1 = .ok value) :
    Unplaced action := by
  intro drive state error hfailed
  obtain ⟨value, hvalue⟩ := h drive state
  rw [hvalue] at hfailed
  cases hfailed

/-- The errors of an action arise in it, and it records none. -/
structure Arises (engine : Engine) (holds : Tag → Prop) (action : Render α) : Prop where
  keeps : Keeps (IncludesOnly engine holds) SameName action
  unplaced : Unplaced action
  still : Still Context.recorded action

namespace Arises

theorem of_same {action : Render α} (hsame : ∀ drive state, (action drive state).2 = state) (hunplaced : Unplaced action) :
    Arises engine holds action :=
  ⟨.of_same hsame, hunplaced, fun drive state ↦ by rw [hsame]⟩

theorem pure (value : α) : Arises engine holds (Pure.pure value : Render α) :=
  of_same (fun _ _ ↦ rfl) (unplaced_of_ok fun _ _ ↦ ⟨_, rfl⟩)

theorem context : Arises engine holds Render.context :=
  of_same (fun _ _ ↦ rfl) (unplaced_of_ok fun _ _ ↦ ⟨_, rfl⟩)

theorem get : Arises engine holds (MonadState.get : Render RenderState) :=
  of_same (fun _ _ ↦ rfl) (unplaced_of_ok fun _ _ ↦ ⟨_, rfl⟩)

theorem fail (fault : Fault) : Arises engine holds (Render.fail fault : Render α) := by
  refine of_same (fun _ _ ↦ rfl) fun drive state error h ↦ ?_
  cases h
  rfl

theorem ofExcept (result : Except Fault α) : Arises engine holds (Render.ofExcept result) := by
  cases result with
  | ok value => exact pure value
  | error fault => exact fail fault

theorem bind {action : Render α} {next : α → Render β} (h : Arises engine holds action)
    (hnext : ∀ value, Arises engine holds (next value)) : Arises engine holds (action >>= next) where
  keeps := h.keeps.bind fun value ↦ (hnext value).keeps
  unplaced drive state error hfailed := by
    have hfirst := h.unplaced drive state error
    rw [run_bind] at hfailed
    rcases hrun : action drive state with ⟨failure | value, after⟩
    · rw [hrun] at hfailed hfirst
      cases hfailed
      exact hfirst rfl
    · rw [hrun] at hfailed
      exact (hnext value).unplaced drive after error hfailed
  still := h.still.bind fun value ↦ (hnext value).still

theorem ite {condition : Prop} [Decidable condition] {first second : Render α} (hfirst : Arises engine holds first)
    (hsecond : Arises engine holds second) : Arises engine holds (if condition then first else second) := by
  split
  · exact hfirst
  · exact hsecond

theorem evaluate {computation : Eval α} (h : Eval.Unplaced computation) :
    Arises engine holds (Render.evaluate computation) where
  keeps := .evaluate computation
  unplaced drive state error hfailed := by
    rw [run_evaluate] at hfailed
    exact h drive state.context state.shared error hfailed
  still := .evaluate computation

theorem write (text : String) : Arises engine holds (Render.write text) :=
  ⟨.write text, unplaced_of_ok fun _ _ ↦ ⟨_, rfl⟩, fun _ _ ↦ rfl⟩

theorem modifyOutput (change : Output → Output) : Arises engine holds (Render.modifyOutput change) := by
  refine ⟨fun drive before hinv ↦ ⟨hinv, ⟨rfl, List.suffix_rfl, List.suffix_rfl⟩, fun _ ↦ rfl⟩, ?_, fun _ _ ↦ rfl⟩
  exact unplaced_of_ok fun _ _ ↦ ⟨_, rfl⟩

theorem endCapture : Arises engine holds Render.endCapture :=
  .bind .get fun _ ↦ .bind (.modifyOutput _) fun _ ↦ .pure _

theorem of_around {action : Render α} (hshared : ∀ drive before, (action drive before).2.includes = before.includes)
    (haround : ∀ drive before, (action drive before).2.context.around = before.context.around)
    (hunplaced : Unplaced action) : Arises engine holds action where
  keeps drive before hinv := by
    have hsame := haround drive before
    have hregisters := congrArg Context.registers hsame
    have hrecorded := congrArg Context.recorded hsame
    have hreported := congrArg Context.reported hsame
    refine ⟨⟨?_, ?_⟩, ⟨(congrArg Context.settings hsame :), ?_, ?_⟩, fun _ ↦ (congrArg Context.name hsame :)⟩
    · rw [hshared]
      exact hinv.1
    · change ∀ source, (action drive before).2.context.around.registers.source? _ = _ ∨ _ → _
      rw [hregisters]
      exact hinv.2
    · change _ <:+ (action drive before).2.context.around.recorded
      rw [hrecorded]
      exact List.suffix_rfl
    · change _ <:+ (action drive before).2.context.around.reported
      rw [hreported]
      exact List.suffix_rfl
  unplaced := hunplaced
  still drive state := (congrArg Context.recorded (haround drive state) :)

/-- A change of what constructs open and close. -/
theorem change {change : Context → Context} (h : ∀ context, (change context).around = context.around) :
    Arises engine holds (modifyContext change) :=
  of_around (fun _ _ ↦ rfl) (fun _ before ↦ h before.context) (unplaced_of_ok fun _ _ ↦ ⟨_, rfl⟩)

theorem setRegister {key : String} (hkey : key ≠ Registers.sourceKey) (register : Context → Register) :
    Arises engine holds (modifyContext fun context ↦ context.setRegister key (register context)) :=
  ⟨.setRegister hkey register, (unplaced_of_ok fun _ _ ↦ ⟨_, rfl⟩), fun _ _ ↦ rfl⟩

theorem newObject (object : Object) : Arises engine holds (Render.newObject object) :=
  ⟨.newObject object, (unplaced_of_ok fun _ _ ↦ ⟨_, rfl⟩), fun _ _ ↦ rfl⟩

theorem advance (id index : Nat) : Arises engine holds (Render.advance id index) :=
  ⟨.advance id index, (unplaced_of_ok fun _ _ ↦ ⟨_, rfl⟩), fun _ _ ↦ rfl⟩

theorem checkCancelled : Arises engine holds Render.checkCancelled :=
  .bind .get fun _ ↦ .ite (.fail _) (.pure _)

theorem counter (variable_ : String) : Arises engine holds (Render.counter variable_) :=
  .bind .context fun _ ↦ .pure _

theorem leaveBody (flow : Flow) : Arises engine holds (Render.leaveBody flow) :=
  .bind .context fun _ ↦ .ite (.pure _) (.pure _)

theorem writeValue (value : Value) : Arises engine holds (do
    let state ← MonadState.get
    Render.write (state.context.formatValue state.shared.counts.tallies value)
    return Flow.completed) :=
  .bind .get fun _ ↦ .bind (.write _) fun _ ↦ .pure _

theorem ifChanged (text : String) : Arises engine holds (Render.ifChanged text) := by
  have hnoted : Arises engine holds (modifyContext fun context ↦ context.setRegister Registers.changeKey (.text text)) :=
    .setRegister (by decide) fun _ ↦ .text text
  unfold Render.ifChanged
  exact .bind .context fun _ ↦ .ite (.bind (.write _) fun _ ↦ hnoted) hnoted

theorem cycle (tools : Toolbox) (group : Option Expr) (values : List Expr) :
    Arises engine holds (Render.cycle tools group values) := by
  unfold Render.cycle
  refine .ite (.pure _) (.bind (.evaluate ((Eval.unplaced tools).cycleKey group values)) fun key ↦
    .bind .context fun context ↦ .bind (.setRegister (by decide) fun _ ↦ _) fun _ ↦ ?_)
  split
  · exact .pure _
  · exact .bind (.evaluate ((Eval.unplaced tools).expr _)) fun value ↦ .writeValue value

theorem loopOffset (tools : Toolbox) (header : LoopHeader) : Arises engine holds (Render.loopOffset tools header) := by
  unfold Render.loopOffset
  split
  · exact .bind .context fun _ ↦ .pure _
  · exact .evaluate ((Eval.unplaced tools).offsetArgument _)
  · exact .pure _

theorem loopWindow (tools : Toolbox) (header : LoopHeader) : Arises engine holds (Render.loopWindow tools header) :=
  .bind (.evaluate ((Eval.unplaced tools).expr _)) fun _ ↦ .bind (.loopOffset tools header) fun _ ↦
    .bind (.evaluate ((Eval.unplaced tools).loopArgument _)) fun _ ↦ .bind (.setRegister (by decide) fun _ ↦ _) fun _ ↦
    .pure _

/-- A change that may fail. -/
theorem update {change : Context → Except Fault Context}
    (h : ∀ context changed, change context = .ok changed → changed.around = context.around) :
    Arises engine holds (updateContext change) := by
  have hrun (drive : Drive) (state : RenderState) : updateContext change drive state =
      match change state.context with
      | .ok changed => (.ok (), { state with context := changed })
      | .error fault => (.error (.error (.of fault)), state) := by
    unfold updateContext
    rw [run_bind_ok (run_context drive state), run_bind, run_ofExcept]
    cases change state.context <;> rfl
  refine of_around (fun drive before ↦ ?_) (fun drive before ↦ ?_) fun drive state error hfailed ↦ ?_
  · rw [hrun]
    cases change before.context <;> rfl
  · rw [hrun]
    cases hchanged : change before.context with
    | ok changed => exact h _ _ hchanged
    | error fault => rfl
  · rw [hrun] at hfailed
    cases hchanged : change state.context with
    | ok changed =>
      rw [hchanged] at hfailed
      cases hfailed
    | error fault =>
      rw [hchanged] at hfailed
      cases hfailed
      rfl

theorem popScope : Arises engine holds Render.popScope := by
  refine .update fun context changed h ↦ ?_
  rw [Context.pop] at h
  split at h <;> cases h
  rfl

theorem enter : Arises engine holds (updateContext Context.enter) := by
  refine .update fun context changed h ↦ ?_
  rw [Context.enter] at h
  split at h <;> cases h
  rfl

theorem fetch (source : Source) (included : String) : Arises engine holds (Render.fetch source included) := by
  have hwait : Eval.Unplaced (Eval.wait (source.waits included)) :=
    (Eval.unplaced ⟨Registry.empty, Registry.empty, Registry.empty⟩).wait _
  have hread : Arises engine holds
      (modify fun state ↦ { state with reads := included :: state.reads } : Render PUnit) :=
    of_around (fun _ _ ↦ rfl) (fun _ _ ↦ rfl) (unplaced_of_ok fun _ _ ↦ ⟨_, rfl⟩)
  have hgiven : Arises engine holds (do
      Render.evaluate (Eval.wait (source.waits included))
      Render.ofExcept (source.fetch included)) :=
    .bind (.evaluate hwait) fun _ ↦ .ofExcept _
  unfold Render.fetch
  exact .ite (.bind hread fun _ ↦ hgiven) hgiven

end Arises

/-! ## Blaming at once and locating on the way out -/

/-- How an action ends that gives its error a place at its end. -/
def relay (place : Option Location) (value : α → β) :
    Except Failure α × RenderState → Except Failure β × RenderState
  | (.ok result, after) => (.ok (value result), after)
  | (.error (.error error), after) => (.error (.error (error.placedAt place)), after)
  | (.error .suspended, after) => (.error .suspended, after)

/-- All recorded errors have places. -/
def RecordsPlaced (state : RenderState) : Prop := ∀ error ∈ state.context.recorded, error.location.isSome

/-- In a template with the given name, an action does what a blaming action does at a place, if its error gets the place at
its end. It records errors with places only. -/
structure Blames (engine : Engine) (holds : Tag → Prop) (place : Option Location) (name : String) (value : α → β)
    (blaming : Blaming β) (action : Render α) : Prop where
  keeps : Keeps (IncludesOnly engine holds) SameName action
  run : ∀ drive state, IncludesOnly engine holds state → state.context.name = name →
    blaming place drive state = relay place value (action drive state)
  records : ∀ drive state, IncludesOnly engine holds state → state.context.name = name → RecordsPlaced state →
    RecordsPlaced (action drive state).2

namespace Blames

variable {value : α → β}

theorem of_arises {action : Render α} (h : Arises engine holds action) :
    Blames engine holds place name id (Blaming.arising action) action where
  keeps := h.keeps
  run drive state _ _ := by
    have hunplaced := h.unplaced drive state
    rw [Blaming.arising]
    rcases hrun : action drive state with ⟨(error | _) | result, after⟩
    · rw [hrun] at hunplaced
      rw [relay, Error.placedAt_of_none (hunplaced error rfl)]
    · rfl
    · rfl
  records drive state _ _ hplaced error herror := by
    rw [h.still drive state] at herror
    exact hplaced error herror

theorem pure (result : α) : Blames engine holds place name value (Pure.pure (value result)) (Pure.pure result : Render α) :=
  ⟨.pure result, fun _ _ _ _ ↦ rfl, fun _ _ _ _ h ↦ h⟩

/-- What the first action gives may be used by the next one. -/
theorem bind_of (given : α → Prop) {first : Blaming β} {first' : Render α} {next : β → Blaming δ} {next' : α → Render γ}
    {result : γ → δ} (h : Blames engine holds place name value first first')
    (hgiven : ∀ drive before, IncludesOnly engine holds before → ∀ result, (first' drive before).1 = .ok result → given result)
    (hnext : ∀ middle, given middle → Blames engine holds place name result (next (value middle)) (next' middle)) :
    Blames engine holds place name result (first >>= next) (first' >>= next') where
  keeps := h.keeps.bind_of given hgiven fun middle hmiddle ↦ (hnext middle hmiddle).keeps
  run drive state hinv hname := by
    have hfirst := h.run drive state hinv hname
    have hkept := h.keeps drive state hinv
    have hmiddle := hgiven drive state hinv
    change (first place >>= fun middle ↦ next middle place) drive state = _
    rw [run_bind, run_bind, hfirst]
    rcases hrun : first' drive state with ⟨(error | _) | middle, after⟩
    · rfl
    · rfl
    · rw [hrun] at hkept hmiddle
      exact (hnext middle (hmiddle middle rfl)).run drive after hkept.inv ((hkept.related (.value middle)).trans hname)
  records drive state hinv hname hplaced := by
    have hfirst := h.records drive state hinv hname hplaced
    have hkept := h.keeps drive state hinv
    have hmiddle := hgiven drive state hinv
    rw [run_bind]
    rcases hrun : first' drive state with ⟨failure | middle, after⟩
    · rw [hrun] at hfirst
      exact hfirst
    · rw [hrun] at hfirst hkept hmiddle
      exact (hnext middle (hmiddle middle rfl)).records drive after hkept.inv
        ((hkept.related (.value middle)).trans hname) hfirst

theorem bind {first : Blaming β} {first' : Render α} {next : β → Blaming δ} {next' : α → Render γ} {result : γ → δ}
    (h : Blames engine holds place name value first first')
    (hnext : ∀ middle, Blames engine holds place name result (next (value middle)) (next' middle)) :
    Blames engine holds place name result (first >>= next) (first' >>= next') :=
  h.bind_of (fun _ ↦ True) (fun _ _ _ _ _ ↦ trivial) fun middle _ ↦ hnext middle

/-- Something in which errors arise is done before. -/
theorem arising_bind {action : Render α} {next : α → Blaming δ} {next' : α → Render γ} {result : γ → δ}
    (h : Arises engine holds action) (hnext : ∀ middle, Blames engine holds place name result (next middle) (next' middle)) :
    Blames engine holds place name result (Blaming.arising action >>= next) (action >>= next') :=
  (of_arises h).bind hnext

theorem change_bind {change : Context → Context} {next : Unit → Blaming δ} {next' : Unit → Render γ} {result : γ → δ}
    (hchange : ∀ context, (change context).around = context.around)
    (hnext : Blames engine holds place name result (next ()) (next' ())) :
    Blames engine holds place name result (Blaming.arising (modifyContext change) >>= next) (modifyContext change >>= next') :=
  arising_bind (.change hchange) fun _ ↦ hnext

theorem ite {condition : Prop} [Decidable condition] {first second : Blaming β} {first' second' : Render α}
    (hfirst : Blames engine holds place name value first first')
    (hsecond : Blames engine holds place name value second second') :
    Blames engine holds place name value (if condition then first else second)
      (if condition then first' else second') := by
  split
  · exact hfirst
  · exact hsecond

/-- A result, or an error with its place. -/
def placed (place : Option Location) : Except Error α → Except Error α := Except.mapError (Error.placedAt place)

theorem attempt {blaming : Blaming α} {action : Render α} (h : Blames engine holds place name id blaming action) :
    Blames engine holds place name (placed place) blaming.attempt (Render.attempt action) where
  keeps := h.keeps.attempt
  run drive state hinv hname := by
    rw [Blaming.attempt, run_attempt, run_attempt, h.run drive state hinv hname]
    rcases action drive state with ⟨(error | _) | result, after⟩ <;> rfl
  records drive state hinv hname hplaced := by
    have hrecords := h.records drive state hinv hname hplaced
    rw [run_attempt]
    rcases hrun : action drive state with ⟨(error | _) | result, after⟩ <;> rwa [hrun] at hrecords

theorem settle (ended : Except Error α) :
    Blames engine holds place name id (Blaming.passing (Render.settle (placed place ended))) (Render.settle ended) where
  keeps := .settle ended
  run drive state _ _ := by
    rw [Blaming.passing, run_settle, run_settle]
    cases ended <;> rfl
  records drive state _ _ hplaced := by
    rw [run_settle]
    exact hplaced

/-! ## Nodes -/

/-- To report an error with a place changes nothing about the place. -/
theorem report {error : Error} (herror : error.location.isSome) :
    Blames engine holds place name id (Blaming.passing (Render.report error)) (Render.report error) where
  keeps := .report error
  run drive state _ _ := by
    rw [Blaming.passing, run_report]
    dsimp only
    split
    · rw [relay, Error.placedAt_of_isSome herror]
    · cases state.context.errorMode with
      | rethrow => rw [relay, Error.placedAt_of_isSome herror]
      | display => rfl
      | suppress => rfl
  records drive state _ _ hplaced := by
    have hrecord : ∀ other ∈ error :: state.context.recorded, other.location.isSome :=
      List.forall_mem_cons.2 ⟨herror, hplaced⟩
    rw [run_report]
    dsimp only
    split
    · exact hplaced
    · cases state.context.errorMode with
      | rethrow => exact hplaced
      | display => exact hrecord
      | suppress => exact hrecord

/-- What follows may use that an error has got the place of a node of the template. -/
theorem located_bind {error : Error} {span : Span} {next : Blaming δ} {next' : Error → Render γ} {result : γ → δ}
    (hkeeps : ∀ error, Keeps (IncludesOnly engine holds) SameName (next' error))
    (h : Blames engine holds place name result next (next' (error.locate ⟨name, span.start.line⟩))) :
    Blames engine holds place name result next (located error span >>= next') where
  keeps := .bind (.located error span) hkeeps
  run drive state hinv hname := by
    rw [h.run drive state hinv hname, run_bind_ok (run_located error span drive state), hname]
  records drive state hinv hname hplaced := by
    rw [run_bind_ok (run_located error span drive state), hname]
    exact h.records drive state hinv hname hplaced

/-- An error leaves a node with a place. -/
theorem isSome_of_guarded {span : Span} {action : Render Flow} {drive : Drive} {state : RenderState} {error : Error}
    (h : (guarded span action drive state).1 = .error (.error error)) : error.location.isSome := by
  unfold guarded at h
  rw [run_attempt_bind] at h
  rcases hrun : action drive state with ⟨(raised | _) | flow, after⟩ <;> rw [hrun] at h
  · dsimp only at h
    rw [run_bind_ok (run_located raised span drive after), run_bind, run_report] at h
    split at h
    · next hreport =>
      split at hreport
      · cases hreport
      · cases hmode : after.context.errorMode <;> rw [hmode] at hreport <;> cases hreport <;> cases h
    · next hreport =>
      split at hreport
      · cases hreport
        cases h
        exact Error.isSome_location_locate _ _
      · cases hmode : after.context.errorMode <;> rw [hmode] at hreport <;> cases hreport
        cases h
        exact Error.isSome_location_locate _ _
  · cases h
  · cases h

/-- What is blamed on a node has left the node with its place. -/
theorem atNode (span : Span) {blaming : Blaming Flow} {action : Render Flow}
    (h : Blames engine holds (some ⟨name, span.start.line⟩) name id blaming action) :
    Blames engine holds place name id (Blaming.atNode name span blaming) (guarded span action) := by
  have hinside : Blames engine holds (some ⟨name, span.start.line⟩) name id blaming.reported (guarded span action) := by
    refine h.attempt.bind fun ended ↦ ?_
    cases ended with
    | ok flow => exact pure flow
    | error error =>
      exact located_bind (fun error ↦ .bind (.report error) fun _ ↦ .pure _)
        ((report (Error.isSome_location_locate _ _)).bind fun _ ↦ pure _)
  refine ⟨hinside.keeps, fun drive state hinv hname ↦ ?_, hinside.records⟩
  refine (hinside.run drive state hinv hname).trans ?_
  have hplaced := @isSome_of_guarded span action drive state
  rcases hrun : guarded span action drive state with ⟨(error | _) | flow, after⟩
  · rw [hrun] at hplaced
    rw [relay, relay, Error.placedAt_of_isSome (hplaced rfl), Error.placedAt_of_isSome (hplaced rfl)]
  · rfl
  · rfl

/-- A fault that is recorded without ending a node gets the place of the node. -/
theorem recordHere_bind {fault : Fault} {span : Span} {next : Blaming δ} {next' : Render γ} {result : γ → δ}
    (h : Blames engine holds (some ⟨name, span.start.line⟩) name result next next') :
    Blames engine holds (some ⟨name, span.start.line⟩) name result (Blaming.recordHere fault >>= fun _ ↦ next) (do
      record (← located (.of fault) span)
      next') := by
  have hrecord : Blames engine holds (some ⟨name, span.start.line⟩) name id (Blaming.recordHere fault)
      (record ((Error.of fault).locate ⟨name, span.start.line⟩)) :=
    ⟨.record _, fun _ _ _ _ ↦ rfl, fun _ _ _ _ hplaced ↦
      List.forall_mem_cons.2 ⟨Error.isSome_location_locate _ _, hplaced⟩⟩
  exact located_bind (fun error ↦ .bind (.record error) fun _ ↦ h.keeps) (hrecord.bind fun _ ↦ h)

theorem output (tools : Toolbox) (markup : Markup) (span : Span) :
    Blames engine holds (some ⟨name, span.start.line⟩) name id (Blaming.output tools markup)
      (Render.output tools markup span) := by
  have hwritten (value : Value) : Blames engine holds (some ⟨name, span.start.line⟩) name id (do
      let state ← (MonadState.get : Render RenderState)
      (write (state.context.formatValue state.shared.counts.tallies value) : Render Unit)
      return Flow.completed) (do
      let state ← MonadState.get
      write (state.context.formatValue state.shared.counts.tallies value)
      return Flow.completed) :=
    arising_bind .get fun _ ↦ arising_bind (.write _) fun _ ↦ pure _
  exact arising_bind (.evaluate ((Eval.unplaced tools).markup markup)) fun value ↦ arising_bind .context fun context ↦
    ite (recordHere_bind (hwritten value)) (hwritten value)

/-! ## Captures, branches and loops -/

theorem captured {blaming : Blaming Flow} {action : Render Flow} (h : Blames engine holds place name id blaming action) :
    Blames engine holds place name id (Blaming.captured blaming) (Render.captured action) :=
  arising_bind (.modifyOutput _) fun _ ↦ h.attempt.bind fun ended ↦ arising_bind .endCapture fun _ ↦
    (settle ended).bind fun _ ↦ pure _

theorem eachItem {visit : Nat → Value → Blaming Flow} {visit' : Nat → Value → Render Flow}
    (h : ∀ index item, Blames engine holds place name id (visit index item) (visit' index item)) :
    ∀ index items, Blames engine holds place name id (Blaming.eachItem visit index items) (Render.eachItem visit' index items)
  | index, [] => by
    rw [Blaming.eachItem, Render.eachItem]
    exact pure _
  | index, item :: rest => by
    rw [Blaming.eachItem, Render.eachItem]
    refine (h index item).bind fun flow ↦ ?_
    cases flow with
    | breakLoop => exact pure _
    | completed => exact eachItem h (index + 1) rest
    | continueLoop => exact eachItem h (index + 1) rest

theorem inLoop (objectName : String) (object : Value) {visits : Blaming Unit} {visits' : Render Unit}
    (h : Blames engine holds place name id visits visits') :
    Blames engine holds place name (placed place) (Blaming.inLoop objectName object visits)
      (Render.inLoop objectName object visits') :=
  change_bind (fun _ ↦ rfl) (h.attempt.bind fun _ ↦ change_bind (fun _ ↦ rfl) (arising_bind .popScope fun _ ↦ pure _))

theorem visitLoop (header : LoopHeader) (items : List Value) {body : Blaming Flow} {body' : Render Flow}
    (h : Blames engine holds place name id body body') :
    Blames engine holds place name id (Blaming.visitLoop header items body) (Render.visitLoop header items body') := by
  refine arising_bind (.evaluate (Eval.query_unplaced (fun _ ↦ rfl) _)) fun parent ↦ arising_bind (.newObject _) fun made ↦
    (inLoop _ _ (eachItem (fun index item ↦ ?_) 0 items)).bind fun ended ↦ (settle ended).bind fun _ ↦ pure _
  exact arising_bind (.advance _ _) fun _ ↦ change_bind (fun _ ↦ rfl) h

theorem loop (header : LoopHeader) {body otherwise : Blaming Flow} {body' otherwise' : Render Flow}
    (hbody : Blames engine holds place name id body body')
    (hotherwise : Blames engine holds place name id otherwise otherwise') :
    Blames engine holds place name id (Blaming.loop engine.tools header body otherwise)
      (Render.loop engine.tools header body' otherwise') := by
  rw [loop_eq_window]
  exact arising_bind (.loopWindow _ header) fun items ↦ ite hotherwise (visitLoop header _ hbody)

theorem table (header : TableHeader) {body : Blaming Flow} {body' : Render Flow}
    (h : Blames engine holds place name id body body') :
    Blames engine holds place name id (Blaming.table engine.tools header body) (Render.table engine.tools header body') := by
  have hunplaced := Eval.unplaced engine.tools
  refine arising_bind (.evaluate (hunplaced.expr _)) fun collection ↦
    arising_bind (.evaluate (hunplaced.offsetArgument _)) fun offset ↦
    arising_bind (.evaluate (hunplaced.loopArgument _)) fun limit ↦
    arising_bind (.evaluate (hunplaced.loopArgument _)) fun columns ↦
    arising_bind (.newObject _) fun made ↦ arising_bind (.write _) fun _ ↦ ?_
  refine (inLoop _ _ (eachItem (fun index item ↦ ?_) 0 _)).bind fun ended ↦
    arising_bind (.write _) fun _ ↦ (settle ended).bind fun _ ↦ pure _
  refine arising_bind (.advance _ index) fun _ ↦ change_bind (fun _ ↦ rfl) (arising_bind (.write _) fun _ ↦
    h.attempt.bind fun ended ↦ arising_bind (.write _) fun _ ↦ ?_)
  exact ite (arising_bind (.write _) fun _ ↦ settle ended) (settle ended)

/-! ## Includes -/

/-- What cannot be parsed has its place in its text. -/
theorem parse (included text : String) :
    Blames engine holds place name id (Blaming.passing (Render.parse engine included text))
      (Render.parse engine included text) := by
  have hplaced : placed place (Template.parse engine.grammar included text) = Template.parse engine.grammar included text := by
    unfold Template.parse
    cases ofTokens engine.grammar (.ofSource text) with
    | ok block => rfl
    | error failure => exact congrArg _ (Error.placedAt_of_isSome (Error.isSome_location_locate _ _) place)
  have hsettled : Blames engine holds place name id _ _ := settle (Template.parse engine.grammar included text)
  rwa [hplaced] at hsettled

theorem loadCached {source : Source} (hsource : engine.source = some source) (included : String) :
    Blames engine holds place name id (Blaming.loadCached engine source included)
      (Render.loadCached engine source included) := by
  refine arising_bind (.ofExcept _) fun path ↦ arising_bind .get fun state ↦ ?_
  cases state.includes.find? path with
  | some block => exact pure block
  | none =>
    refine (of_arises (.fetch source included)).bind_of (fun text ↦ source.fetch included = .ok text)
      (fun _ _ _ _ htext ↦ fetch_eq_ok htext) fun text htext ↦ ?_
    refine (parse included text).bind_of (AllTags holds)
      (fun _ _ hinv block hblock ↦ hinv.2 source (.inr hsource) included text block htext (parse_eq_ok hblock))
      fun block hblock ↦ ?_
    exact arising_bind ⟨.keepInclude hblock path, unplaced_of_ok fun _ _ ↦ ⟨_, rfl⟩, fun _ _ ↦ rfl⟩ fun _ ↦ pure _

theorem load (included : String) :
    Blames engine holds place name id (Blaming.load engine included) (Render.load engine included) := by
  refine arising_bind .context fun context ↦ ?_
  cases context.registers.source? Registers.sourceKey with
  | some source => exact arising_bind (.fetch source included) fun text ↦ parse included text
  | none =>
    cases hsource : engine.source with
    | some source => exact loadCached hsource included
    | none => exact of_arises (.fail _)

theorem eachBound {bind : Value → Blaming Flow} {bind' : Value → Render Flow}
    (h : ∀ item, Blames engine holds place name id (bind item) (bind' item)) :
    ∀ items, Blames engine holds place name id (Blaming.eachBound bind items) (Render.eachBound bind' items)
  | [] => by
    rw [Blaming.eachBound, Render.eachBound]
    exact pure _
  | item :: rest => by
    rw [Blaming.eachBound, Render.eachBound]
    refine (h item).bind fun flow ↦ ?_
    cases flow with
    | completed => exact eachBound h rest
    | breakLoop => exact pure _
    | continueLoop => exact pure _

theorem bound (binding : Option Binding) (variableName : String) (value : Option Value) {body : Blaming Flow}
    {body' : Render Flow} (h : Blames engine holds place name id body body') :
    Blames engine holds place name id (Blaming.bound binding variableName value body)
      (Render.bound binding variableName value body') := by
  have hbind (value : Value) : Blames engine holds place name id (do
      (modifyContext fun context ↦ context.set variableName value : Render Unit)
      body) (do
      modifyContext fun context ↦ context.set variableName value
      body') := change_bind (fun _ ↦ rfl) h
  unfold Blaming.bound Render.bound
  cases value with
  | none => rcases binding with _ | (_ | _) <;> exact h
  | some value =>
    rcases binding with _ | (_ | _)
    · exact hbind value
    · exact hbind value
    · exact ite (eachBound hbind _) (hbind value)

/-- The state in which an include has been entered. -/
def entered (inner : String) (frame : Entries String Value) (state : RenderState) : RenderState :=
  { state with context := { state.context.push frame with name := inner, depth := state.context.depth + 1 } }

/-- An error that comes out of an included template keeps its place. -/
theorem run_leaveInclude (outer : String) (ended : Except Error Flow) (drive : Drive) (state : RenderState) :
    Blaming.leaveInclude outer (placed place ended) place drive state =
      relay place id (Render.leaveInclude outer ended drive state) := by
  change (modifyContext (fun context ↦ { context with name := outer }) >>= fun _ ↦
    Render.attempt (Blaming.arising popScope place) >>= fun popped ↦ modifyContext Context.leave >>= fun _ ↦
      Render.settle popped >>= fun _ ↦ Render.settle (placed place ended)) drive state = _
  rw [run_bind_ok (run_modifyContext _ drive state), run_attempt_bind, Blaming.arising, run_popScope, run_leaveInclude_pop]
  dsimp only
  cases state.context.scopes.pop? with
  | none => rfl
  | some popped => cases ended <;> rfl

theorem run_inInclude_entered (inner : String) (frame : Entries String Value) (body : Render Flow) (drive : Drive)
    (state : RenderState) :
    Render.inInclude inner frame body drive state =
      if state.context.depth ≥ state.context.maxDepth then
        (.error (.error (.of (.tooDeep state.context.maxDepth))), state)
      else (Render.attempt body >>= Render.leaveInclude state.context.name) drive (entered inner frame state) :=
  Render.run_inInclude inner frame body drive state

/-- If an include is refused, its tag is blamed. -/
theorem run_inInclude (inner : String) (frame : Entries String Value) (body : Blaming Flow) (drive : Drive)
    (state : RenderState) :
    Blaming.inInclude inner frame body place drive state =
      if state.context.depth ≥ state.context.maxDepth then
        (.error (.error ⟨.tooDeep state.context.maxDepth, place, none⟩), state)
      else
        (Render.attempt (body place) >>= fun ended ↦ Blaming.leaveInclude state.context.name ended place) drive
          (entered inner frame state) := by
  change (Blaming.arising (updateContext Context.enter) place >>= fun _ ↦ context >>= fun outer ↦
    modifyContext (fun context ↦ { context.push frame with name := inner }) >>= fun _ ↦
      Render.attempt (body place) >>= fun ended ↦ Blaming.leaveInclude outer.name ended place) drive state = _
  rw [run_bind, Blaming.arising, run_enter]
  by_cases hdeep : state.context.depth ≥ state.context.maxDepth
  · rw [if_pos hdeep, if_pos hdeep]
    rfl
  · rw [if_neg hdeep, if_neg hdeep]
    rfl

/-- What happens in an included template, happens under its name; behind it the name is the one in front of it. -/
theorem inInclude (inner : String) (frame : Entries String Value) {body : Blaming Flow} {body' : Render Flow}
    (h : Blames engine holds place inner id body body') :
    Blames engine holds place name id (Blaming.inInclude inner frame body) (Render.inInclude inner frame body') where
  keeps drive state hinv := by
    rw [Render.run_inInclude]
    split
    · exact ⟨hinv, .refl state, fun _ ↦ rfl⟩
    · have hbody : Keeps (IncludesOnly engine holds) (fun _ _ ↦ True) body' := h.keeps.mono fun _ ↦ trivial
      refine hbody.bracket hinv ⟨rfl, List.suffix_rfl, List.suffix_rfl⟩ ?_
      intro ended after hafter hsteady _
      rw [run_leaveInclude_pop]
      cases after.context.scopes.pop? with
      | none => exact ⟨hafter, ⟨hsteady.settings, hsteady.recorded, hsteady.reported⟩, fun _ ↦ rfl⟩
      | some popped => exact ⟨hafter, ⟨hsteady.settings, hsteady.recorded, hsteady.reported⟩, fun _ ↦ rfl⟩
  run drive state hinv _ := by
    have hinside := h.run drive (entered inner frame state) hinv rfl
    rw [run_inInclude, run_inInclude_entered]
    split
    · rfl
    · rw [run_attempt_bind, run_attempt_bind, hinside]
      rcases body' drive (entered inner frame state) with ⟨(error | _) | flow, after⟩
      · exact run_leaveInclude _ (.error error) drive after
      · rfl
      · exact run_leaveInclude _ (.ok flow) drive after
  records drive state hinv _ hplaced := by
    have hinside := h.records drive (entered inner frame state) hinv rfl hplaced
    have hleft (ended : Except Error Flow) (after : RenderState) (hafter : RecordsPlaced after) :
        RecordsPlaced (Render.leaveInclude state.context.name ended drive after).2 := by
      rw [run_leaveInclude_pop]
      cases after.context.scopes.pop? <;> exact hafter
    rw [run_inInclude_entered]
    split
    · exact hplaced
    · rw [run_attempt_bind]
      rcases hrun : body' drive (entered inner frame state) with ⟨(error | _) | flow, after⟩ <;> rw [hrun] at hinside
      · exact hleft _ after hinside
      · exact hinside
      · exact hleft _ after hinside

/-- An included template is rendered under the name under which it is included. -/
theorem included {deeper : String → Block → Blaming Flow} {deeper' : Block → Render Flow}
    (h : ∀ inner block, AllTags holds block → Blames engine holds place inner id (deeper inner block) (deeper' block))
    (inclusion : Inclusion) :
    Blames engine holds place name id (Blaming.included engine deeper inclusion)
      (Render.included engine deeper' inclusion) := by
  have hunplaced := Eval.unplaced engine.tools
  refine arising_bind (.evaluate (hunplaced.templateName _)) fun inner ↦
    (load inner).bind_of (AllTags holds) (fun _ _ hinv _ ↦ load_allTags hinv) fun block hblock ↦ ?_
  refine arising_bind (.evaluate (hunplaced.boundValue _ _)) fun value ↦
    arising_bind (.evaluate (hunplaced.attributeFrame _ _)) fun frame ↦ ?_
  exact inInclude inner frame (bound _ _ value (h inner block hblock))

/-! ## Trees -/

section

-- The linter does not see which of the mutual theorems use the assumptions through the others.
set_option linter.unusedSectionVars false

variable {inclusions : Inclusion → Blaming Flow} {inclusions' : Inclusion → Render Flow}
  (hbuiltin : ∀ tag, holds tag → tag.IsBuiltin)
  (hincludes : ∀ place inclusion, Blames engine holds place name id (inclusions inclusion) (inclusions' inclusion))

include hbuiltin hincludes

mutual

theorem nodes (place : Option Location) : ∀ body, AllTags holds body →
    Blames engine holds place name id (Blaming.nodes engine inclusions name body) (Render.nodes engine inclusions' body)
  | [], _ => by
    rw [Blaming.nodes, Render.nodes]
    exact pure _
  | first :: rest, h => by
    rw [AllTags] at h
    rw [Blaming.nodes, Render.nodes]
    refine arising_bind .checkCancelled fun _ ↦ (node place first h.1).bind fun flow ↦ ?_
    cases flow with
    | completed => exact nodes place rest h.2
    | breakLoop => exact pure _
    | continueLoop => exact pure _

theorem node (place : Option Location) : ∀ node, AllTagsOfNode holds node →
    Blames engine holds place name id (Blaming.node engine inclusions name node) (Render.node engine inclusions' node)
  | .text content, _ => by
    rw [Blaming.node, Render.node]
    exact arising_bind (.write content) fun _ ↦ pure _
  | .output markup span, _ => by
    rw [Blaming.node, Render.node]
    exact atNode span (output _ markup span)
  | .tag tagName markup span action, h => by
    rw [AllTagsOfNode] at h
    rw [Blaming.node, Render.node]
    exact arising_bind .context fun _ ↦ ite (atNode span (of_arises (.fail _))) (atNode span (tag _ tagName markup action h))

theorem tag (place : Option Location) (tagName markup : String) : ∀ action, AllTagsOfTag holds action →
    Blames engine holds place name id (Blaming.tag engine inclusions name action)
      (Render.tag engine inclusions' tagName markup action)
  | .assign target value, _ => by
    rw [Blaming.tag, Render.tag]
    exact arising_bind (.evaluate ((Eval.unplaced _).markup _)) fun _ ↦ change_bind (fun _ ↦ rfl) (pure _)
  | .capture target body, h => by
    rw [AllTagsOfTag] at h
    rw [Blaming.tag, Render.tag]
    exact (captured (nodes place body h.2)).bind fun _ ↦ change_bind (fun _ ↦ rfl) (pure _)
  | .case subject whens otherwise, h => by
    rw [AllTagsOfTag] at h
    rw [Blaming.tag, Render.tag]
    exact arising_bind (.evaluate ((Eval.unplaced _).expr _)) fun value ↦
      cases place value (optional place otherwise h.2.2) false whens h.2.1
  | .comment, _ => by
    rw [Blaming.tag, Render.tag]
    exact pure _
  | .cycle group values, _ => by
    rw [Blaming.tag, Render.tag]
    exact of_arises (.cycle _ group values)
  | .increment variable_, _ => by
    rw [Blaming.tag, Render.tag]
    exact arising_bind (.counter variable_) fun _ ↦ arising_bind (.write _) fun _ ↦ change_bind (fun _ ↦ rfl) (pure _)
  | .decrement variable_, _ => by
    rw [Blaming.tag, Render.tag]
    exact arising_bind (.counter variable_) fun _ ↦ arising_bind (.write _) fun _ ↦ change_bind (fun _ ↦ rfl) (pure _)
  | .loop header body otherwise, h => by
    rw [AllTagsOfTag] at h
    rw [Blaming.tag, Render.tag]
    exact loop header (nodes place body h.2.1) (optional place otherwise h.2.2)
  | .breakLoop, _ => by
    rw [Blaming.tag, Render.tag]
    exact of_arises (.leaveBody _)
  | .continueLoop, _ => by
    rw [Blaming.tag, Render.tag]
    exact of_arises (.leaveBody _)
  | .branch negated conditions otherwise, h => by
    rw [AllTagsOfTag] at h
    rw [Blaming.tag, Render.tag]
    exact branches place (optional place otherwise h.2.2) negated conditions h.2.1
  | .ifChanged body, h => by
    rw [AllTagsOfTag] at h
    rw [Blaming.tag, Render.tag]
    exact (captured (nodes place body h.2)).bind fun _ ↦ arising_bind (.ifChanged _) fun _ ↦ pure _
  | .include inclusion, _ => by
    rw [Blaming.tag, Render.tag]
    exact hincludes place inclusion
  | .table header body, h => by
    rw [AllTagsOfTag] at h
    rw [Blaming.tag, Render.tag]
    exact table header (nodes place body h.2)
  | .custom registration body, h => by
    rw [AllTagsOfTag] at h
    exact (hbuiltin _ h.1).elim

theorem optional (place : Option Location) : ∀ body, AllTagsOfOption holds body →
    Blames engine holds place name id (Blaming.optional engine inclusions name body)
      (Render.optional engine inclusions' body)
  | none, _ => by
    rw [Blaming.optional, Render.optional]
    exact pure _
  | some body, h => by
    rw [AllTagsOfOption] at h
    rw [Blaming.optional, Render.optional]
    exact nodes place body h

theorem branches (place : Option Location) {otherwise : Blaming Flow} {otherwise' : Render Flow}
    (hotherwise : Blames engine holds place name id otherwise otherwise') :
    ∀ (negated : Bool) (conditions : List (Condition × List Node)), AllTagsOfBranches holds conditions →
      Blames engine holds place name id
        (Blaming.branches engine.tools otherwise negated (Blaming.branchBodies engine inclusions name conditions))
        (Render.branches engine.tools otherwise' negated (Render.branchBodies engine inclusions' conditions))
  | negated, [], _ => by
    rw [Blaming.branchBodies, Render.branchBodies, Blaming.branches, Render.branches]
    exact hotherwise
  | negated, (condition, body) :: rest, h => by
    rw [AllTagsOfBranches] at h
    rw [Blaming.branchBodies, Render.branchBodies, Blaming.branches, Render.branches]
    exact arising_bind (.evaluate ((Eval.unplaced _).condition _)) fun _ ↦
      ite (nodes place body h.1) (branches place hotherwise false rest h.2)

theorem cases (place : Option Location) (subject : Value) {otherwise : Blaming Flow} {otherwise' : Render Flow}
    (hotherwise : Blames engine holds place name id otherwise otherwise') :
    ∀ (matched : Bool) (whens : List (List Expr × List Node)), AllTagsOfWhens holds whens →
      Blames engine holds place name id
        (Blaming.cases engine.tools subject otherwise matched (Blaming.whenBodies engine inclusions name whens))
        (Render.cases engine.tools subject otherwise' matched (Render.whenBodies engine inclusions' whens))
  | matched, [], _ => by
    rw [Blaming.whenBodies, Render.whenBodies, Blaming.cases, Render.cases]
    exact ite (pure _) hotherwise
  | matched, (values, body) :: rest, h => by
    rw [AllTagsOfWhens] at h
    rw [Blaming.whenBodies, Render.whenBodies, Blaming.cases, Render.cases]
    refine arising_bind (.evaluate ((Eval.unplaced _).anyEqual subject values)) fun _ ↦
      ite ((nodes place body h.1).bind fun flow ↦ ?_) (cases place subject hotherwise matched rest h.2)
    cases flow with
    | completed => exact cases place subject hotherwise true rest h.2
    | breakLoop => exact pure _
    | continueLoop => exact pure _

end

end

theorem blockWithin (hbuiltin : ∀ tag, holds tag → tag.IsBuiltin) (remaining : Nat) (body : Block)
    (hbody : AllTags holds body) :
    Blames engine holds place name id (Blaming.blockWithin engine remaining name body)
      (Render.blockWithin engine remaining body) := by
  induction remaining generalizing place name body with
  | zero =>
    rw [Blaming.blockWithin, Render.blockWithin]
    exact nodes hbuiltin (fun place ↦ included fun inner block _ ↦ of_arises (.bind .context fun _ ↦ .fail _)) place body hbody
  | succ remaining ih =>
    rw [Blaming.blockWithin, Render.blockWithin]
    exact nodes hbuiltin (fun place ↦ included fun inner block hblock ↦ ih block hblock) place body hbody

/-- A block blames its errors on the innermost nodes in which they arise. -/
theorem block (hbuiltin : ∀ tag, holds tag → tag.IsBuiltin) {body : Block} (hbody : AllTags holds body) :
    Blames engine holds place name id (Blaming.block engine name body) (Render.block engine body) :=
  arising_bind .context fun _ ↦ blockWithin hbuiltin _ body hbody

end Blames

end Render

end Liquid
