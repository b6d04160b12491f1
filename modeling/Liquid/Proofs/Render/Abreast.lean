import Liquid.Proofs.Render.Contrast
import Liquid.Proofs.Render.Watching

/-!
# Constructs in two renders abreast

Each construct keeps two renders abreast until the first one is lost, and passes on the error by which it is. So the render
of a block goes abreast with a watched one whose watches go abreast with the question whether the render has been cancelled.
-/

namespace Liquid.Render

open Template

variable {α : Type} {contrast : Contrast} {engine : Engine} {holds : Tag → Prop}
  {rel : RenderState → RenderState → Prop} [Frame rel] {tools : Toolbox}

namespace Alongside

/-! ## Basic actions -/

theorem evaluate {computation : Eval α} (h : computation.Abreast contrast) :
    Alongside contrast engine holds rel (Render.evaluate computation) (Render.evaluate computation) where
  keeps := .evaluate computation
  token drive state _ := by
    rw [run_evaluate]
    exact h.token drive state.context state.shared
  ends drive left right _ habreast := by
    rw [run_evaluate, run_evaluate, habreast.shared]
    obtain ⟨failure, hfailed, hhopeless⟩ | hsame := h.runs drive left.shared habreast.context
    · exact .lost (.inl ⟨failure, hfailed, hhopeless⟩)
    · rw [hsame]
      exact .abreast (habreast.modify (fun state ↦ { state with shared := _ }) (fun _ ↦ rfl) fun _ ↦ rfl)

theorem assign (name : String) (value : Value) :
    Alongside contrast engine holds rel (modifyContext fun context ↦ context.assign name value)
      (modifyContext fun context ↦ context.assign name value) :=
  .of_change (.assign name value) (fun _ ↦ rfl) (fun _ ↦ rfl) fun _ ↦ rfl

theorem set (name : String) (value : Value) :
    Alongside contrast engine holds RestoredAround (modifyContext fun context ↦ context.set name value)
      (modifyContext fun context ↦ context.set name value) :=
  .of_change (.set name value) (fun _ ↦ rfl) (fun _ ↦ rfl) fun _ ↦ rfl

theorem advance (id index : Nat) :
    Alongside contrast engine holds rel (Render.advance id index) (Render.advance id index) :=
  .of_change (.advance id index) (fun _ ↦ rfl) (fun _ ↦ rfl) fun _ ↦ rfl

theorem write (text : String) : Alongside contrast engine holds rel (Render.write text) (Render.write text) :=
  .of_change (.write text) (fun _ ↦ rfl) (fun _ ↦ rfl) fun _ ↦ rfl

theorem setRegister {key : String} (hsource : key ≠ Registers.sourceKey) {register : Context → Register}
    (hregister : ∀ context, register context = register context.main) :
    Alongside contrast engine holds rel (modifyContext fun context ↦ context.setRegister key (register context))
      (modifyContext fun context ↦ context.setRegister key (register context)) := by
  refine .of_change (.setRegister hsource register) (fun _ ↦ rfl) (fun _ ↦ rfl) fun state ↦ ?_
  dsimp only
  rw [hregister state.context]
  rfl

theorem newObject (object : Object) :
    Alongside contrast engine holds rel (Render.newObject object) (Render.newObject object) := by
  have hrun (drive : Drive) (state : RenderState) : Render.newObject object drive state =
      (.ok (state.shared.nextObject, .object state.shared.nextObject object),
        { state with shared := { state.shared with nextObject := state.shared.nextObject + 1 } }) := rfl
  refine of_agreed (.newObject object) (fun _ _ ↦ rfl) fun drive left right habreast ↦ ?_
  rw [hrun, hrun, habreast.shared]
  exact ⟨rfl, habreast.modify (fun state ↦ { state with shared := _ }) (fun _ ↦ rfl) fun _ ↦ rfl⟩

theorem counter (name : String) : Alongside contrast engine holds rel (Render.counter name) (Render.counter name) := by
  unfold Render.counter
  exact .context_bind (fun _ ↦ rfl) fun _ ↦ .pure _

theorem checkCancelled : Alongside contrast engine holds rel Render.checkCancelled Render.checkCancelled := by
  unfold Render.checkCancelled
  exact .get_bind (fun _ ↦ rfl) fun _ ↦ .ite (.fail _) (.pure _)

/-- A change of the context that closes something. -/
theorem closes {change : Context → Context} (hsettings : ∀ context, (change context).settings = context.settings)
    (hregisters : ∀ context, (change context).registers = context.registers)
    (hreported : ∀ context, (change context).reported = context.reported)
    (haside : ∀ context, (change context).aside = context.aside)
    (hmain : ∀ context, (change context).main = (change context.main).main) :
    Alongside contrast engine holds (fun _ _ ↦ True) (modifyContext change) (modifyContext change) := by
  refine .of_change (fun _ before hinv ↦ ⟨?_, ⟨hsettings _, ?_, ?_⟩, fun _ ↦ trivial⟩) (fun _ ↦ rfl)
    (fun state ↦ haside state.context) fun state ↦ ?_
  · rw [run_modify, IncludesOnly]
    dsimp only
    rw [hregisters]
    exact hinv
  · have hrecorded : (change before.context).recorded = before.context.recorded :=
      congrArg Aside.recorded (haside before.context)
    exact hrecorded.symm ▸ List.suffix_rfl
  · exact (hreported before.context).symm ▸ List.suffix_rfl
  · exact congrArg (fun context ↦ ({ state with context := context } : RenderState)) (hmain state.context)

/-- Closing a scope succeeds or fails in both renders. -/
theorem popScope : Alongside contrast engine holds (fun _ _ ↦ True) Render.popScope Render.popScope := by
  have hsteady (drive : Drive) (state : RenderState) : ∃ scopes, (Render.popScope drive state).2 =
      { state with context := { state.context with scopes := scopes } } := by
    rw [run_popScope]
    cases state.context.scopes.pop? with
    | none => exact ⟨state.context.scopes, rfl⟩
    | some popped => exact ⟨popped.2, rfl⟩
  refine of_agreed (fun drive before hinv ↦ ?_) (fun drive state ↦ ?_) fun drive left right habreast ↦ ?_
  · obtain ⟨scopes, hafter⟩ := hsteady drive before
    refine ⟨?_, ?_, fun _ ↦ trivial⟩
    · rw [hafter]
      exact hinv
    · rw [hafter]
      exact ⟨rfl, List.suffix_rfl, List.suffix_rfl⟩
  · obtain ⟨scopes, hafter⟩ := hsteady drive state
    rw [hafter]
  · rw [run_popScope, run_popScope, habreast.scopes]
    cases left.context.scopes.pop? with
    | none => exact ⟨rfl, habreast⟩
    | some popped =>
      exact ⟨rfl, habreast.modify (fun state ↦ { state with context := { state.context with scopes := popped.2 } })
        (fun _ ↦ rfl) fun _ ↦ rfl⟩

/-! ## Errors and outputs -/

theorem located (error : Error) (span : Span) :
    Alongside contrast engine holds rel (Render.located error span) (Render.located error span) := by
  unfold Render.located
  exact .context_bind (fun _ ↦ rfl) fun _ ↦ .pure _

/-- An error that both renders report ends both, or both record it. -/
theorem report (error : Error) : Alongside contrast engine holds rel (Render.report error) (Render.report error) where
  keeps := .report error
  token drive state _ := by
    rw [run_report]
    dsimp only
    split
    · exact contrast.token_refl _
    · cases state.context.errorMode <;> exact contrast.token_refl _
  ends drive left right _ habreast := by
    have hnoted := habreast.modify (fun state ↦ { state with context := state.context.noteReported error })
      (fun _ ↦ rfl) fun _ ↦ rfl
    have hrecorded (output : Output → Output) : EndAbreast contrast
        (Except.ok (), { left with context := (left.context.noteReported error).record error, output := output left.output })
        (Except.ok (), { right with
          context := (right.context.noteReported error).record error, output := output right.output }) := by
      obtain hspoiled | htogether := contrast.together_record error habreast.together
      · exact .lost (.inr hspoiled)
      · refine .abreast ⟨?_, htogether⟩
        rw [habreast.output]
        exact congrArg (fun state : RenderState ↦ { state with output := output left.output }) hnoted.main
    rw [run_report, run_report, habreast.errorMode]
    dsimp only
    split
    · exact .abreast hnoted
    · cases left.context.errorMode with
      | suppress => exact hrecorded id
      | display => exact hrecorded fun output ↦ output.write (errorOpening ++ error.message)
      | rethrow => exact .abreast hnoted

/-- A hopeless error that is reported ends the render or spoils it. -/
theorem lost_report {error : Error} (hhopeless : contrast.hopeless (.error error)) (drive : Drive) (state : RenderState) :
    Lost contrast (Render.report error drive state) := by
  rw [run_report]
  dsimp only
  by_cases hfatal : error.kind.isFatal
  · rw [if_pos hfatal]
    exact .inl ⟨_, rfl, hhopeless⟩
  · rw [if_neg hfatal]
    have hspoiled := (contrast.hopeless_record hhopeless).resolve_left hfatal
    cases state.context.errorMode with
    | suppress => exact .inr (hspoiled _)
    | display => exact .inr (hspoiled _)
    | rethrow => exact .inl ⟨_, rfl, hhopeless⟩

/-- A node in which the first render is lost by an error passes the error on or records it. -/
theorem guarded (span : Span) {action action' : Render Flow} (h : Alongside contrast engine holds rel action action') :
    Alongside contrast engine holds rel (Render.guarded span action) (Render.guarded span action') := by
  unfold Render.guarded
  refine .attempt_bind h (fun ended ↦ ?_) fun error drive after hhopeless ↦ ?_
  · cases ended with
    | ok flow => exact .pure flow
    | error error => exact .bind (.located error span) fun _ ↦ .bind (.report _) fun _ ↦ .pure _
  · dsimp only
    rw [run_bind_ok (run_located error span drive after)]
    exact (lost_report (contrast.hopeless_locate hhopeless) drive after).bind_pure Flow.completed

theorem writeValue (value : Value) : Alongside contrast engine holds rel
    (do
      let state ← MonadState.get
      Render.write (state.context.formatValue state.shared.counts.tallies value)
      return Flow.completed)
    (do
      let state ← MonadState.get
      Render.write (state.context.formatValue state.shared.counts.tallies value)
      return Flow.completed) :=
  .get_bind (fun _ ↦ rfl) fun _ ↦ .bind (.write _) fun _ ↦ .pure _

/-- Where variables may be undefined, an undefined one is recorded. -/
theorem recordMissing (missing : Bool) (name : String) (span : Span) {next next' : Render Flow}
    (h : Alongside contrast engine holds rel next next') : Alongside contrast engine holds rel
    (do
      if missing && !(← context).strict then record (← Render.located (.of (.undefinedVariable name)) span)
      next)
    (do
      if missing && !(← context).strict then record (← Render.located (.of (.undefinedVariable name)) span)
      next') := by
  cases missing with
  | false => exact .context_bind (fun _ ↦ rfl) fun _ ↦ h
  | true =>
    let error (state : RenderState) := (Error.of (.undefinedVariable name)).locate ⟨state.context.name, span.start.line⟩
    let recorded (state : RenderState) : RenderState :=
      if state.context.strict then state else { state with context := state.context.record (error state) }
    have hrun (action : Render Flow) (drive : Drive) (state : RenderState) :
        (do
          if true && !(← context).strict then record (← Render.located (.of (.undefinedVariable name)) span)
          action : Render Flow) drive state = action drive (recorded state) := by
      rw [run_bind_ok (run_context drive state)]
      dsimp only [recorded]
      cases state.context.strict <;> rfl
    have hshared (state : RenderState) : (recorded state).shared = state.shared := by
      dsimp only [recorded]
      split <;> rfl
    have hincludes {state : RenderState} (hinv : IncludesOnly engine holds state) :
        IncludesOnly engine holds (recorded state) := by
      dsimp only [recorded]
      split <;> exact hinv
    have hmain (state : RenderState) : (recorded state).main = state.main := by
      dsimp only [recorded]
      split <;> rfl
    have haside (state : RenderState) :
        (recorded state).context.aside = state.context.aside.recordMissing (error state) := by
      dsimp only [recorded, Aside.recordMissing, Context.aside]
      split <;> rfl
    refine ⟨?_, fun drive state hinv ↦ ?_, fun drive left right hinv habreast ↦ ?_⟩
    · exact .bind .context fun _ ↦ .ite (.bind (.located _ span) fun _ ↦ .bind (.record _) fun _ ↦ h.keeps) h.keeps
    · rw [hrun, ← hshared state]
      exact h.token drive (recorded state) (hincludes hinv)
    · have herror : error right = error left := congrArg (fun name : String ↦ Error.locate _ ⟨name, _⟩) habreast.name
      rw [hrun, hrun]
      refine h.ends drive _ _ (hincludes hinv) ⟨?_, ?_⟩
      · rw [hmain, hmain, habreast.main]
      · rw [haside, haside, herror]
        exact contrast.together_recordMissing rfl habreast.together

theorem output (hsuit : tools.Suit contrast) (markup : Markup) (span : Span) :
    Alongside contrast engine holds rel (Render.output tools markup span) (Render.output tools markup span) := by
  unfold Render.output
  refine .bind (.evaluate ((Eval.Compositional.abreast hsuit).markup markup)) fun value ↦ ?_
  exact .recordMissing _ _ _ (.writeValue value)

theorem cycle (hsuit : tools.Suit contrast) (group : Option Expr) (values : List Expr) :
    Alongside contrast engine holds rel (Render.cycle tools group values) (Render.cycle tools group values) := by
  have rules := Eval.Compositional.abreast hsuit
  unfold Render.cycle
  refine .ite (.pure _) ?_
  refine .bind (.evaluate (rules.cycleKey group values)) fun key ↦ .context_bind (fun _ ↦ rfl) fun context ↦
    .bind (.setRegister (by decide) fun _ ↦ rfl) fun _ ↦ ?_
  split
  · exact .pure _
  · exact .bind (.evaluate (rules.expr _)) fun value ↦ .writeValue value

/-! ## Captures -/

theorem captured {body body' : Render Flow} (h : Alongside contrast engine holds Restored body body') :
    Alongside contrast engine holds rel (Render.captured body) (Render.captured body') := by
  have hclosing (ended : Except Error Flow) : Alongside contrast engine holds (fun _ _ ↦ True)
      (do
        let text ← Render.endCapture
        return (text, ← Render.settle ended))
      (do
        let text ← Render.endCapture
        return (text, ← Render.settle ended)) := by
    refine .bind (.of_agreed ?_ (fun _ _ ↦ rfl) fun _ left right habreast ↦ ?_) fun text ↦
      .bind (.settle ended) fun flow ↦ .pure (text, flow)
    · exact fun _ _ hinv ↦ ⟨hinv, ⟨rfl, List.suffix_rfl, List.suffix_rfl⟩, fun _ ↦ trivial⟩
    · rw [run_endCapture, run_endCapture, habreast.output]
      exact ⟨rfl, habreast.modify (fun state ↦ { state with output := _ }) (fun _ ↦ rfl) fun _ ↦ rfl⟩
  refine ⟨.captured h.keeps, fun drive state hinv ↦ ?_, fun drive left right hinv habreast ↦ ?_⟩
  · exact token_attempt_bind h hclosing drive { state with output := state.output.beginCapture } hinv
  · have hopened := habreast.modify (fun state ↦ { state with output := state.output.beginCapture }) (fun _ ↦ rfl) fun _ ↦ rfl
    exact ends_attempt_bind h hclosing hinv hopened fun error after hhopeless _ ↦ .inl ⟨.error error, rfl, hhopeless⟩

theorem ifChanged (text : String) :
    Alongside contrast engine holds rel (Render.ifChanged text) (Render.ifChanged text) := by
  have hnoted : Alongside contrast engine holds rel
      (modifyContext fun context ↦ context.setRegister Registers.changeKey (.text text))
      (modifyContext fun context ↦ context.setRegister Registers.changeKey (.text text)) :=
    .setRegister (by decide) fun _ ↦ rfl
  unfold Render.ifChanged
  exact .context_bind (fun _ ↦ rfl) fun _ ↦ .ite (.bind (.write _) fun _ ↦ hnoted) hnoted

/-! ## Loops -/

theorem eachItem {visit visit' : Nat → Value → Render Flow}
    (h : ∀ index item, Alongside contrast engine holds rel (visit index item) (visit' index item)) :
    ∀ index items, Alongside contrast engine holds rel (Render.eachItem visit index items) (Render.eachItem visit' index items)
  | index, [] => by
    rw [Render.eachItem, Render.eachItem]
    exact .pure _
  | index, item :: rest => by
    rw [Render.eachItem, Render.eachItem]
    refine .bind (h index item) fun flow ↦ ?_
    cases flow with
    | breakLoop => exact .pure _
    | completed => exact eachItem h (index + 1) rest
    | continueLoop => exact eachItem h (index + 1) rest

/-- What follows the visits of a loop has to pass on the error that ended them. -/
theorem inLoop_bind (objectName : String) (object : Value) {visits visits' : Render Unit}
    {next next' : Except Error Unit → Render Flow} (h : Alongside contrast engine holds RestoredAround visits visits')
    (hnext : ∀ ended, Alongside contrast engine holds rel (next ended) (next' ended))
    (hraised : ∀ error drive state, (next (.error error) drive state).1 = .error (.error error)) :
    Alongside contrast engine holds rel (Render.inLoop objectName object visits >>= next)
      (Render.inLoop objectName object visits' >>= next') := by
  let opened (state : RenderState) : RenderState :=
    { state with context := ((state.context.push []).enterLoop).set objectName object }
  let closing (next : Except Error Unit → Render Flow) (ended : Except Error Unit) : Render Flow := do
    modifyContext Context.leaveLoop
    Render.popScope
    next ended
  have hrun (visits : Render Unit) (next : Except Error Unit → Render Flow) (drive : Drive) (state : RenderState) :
      (Render.inLoop objectName object visits >>= next) drive state =
        (Render.attempt visits >>= closing next) drive (opened state) := by
    unfold Render.inLoop
    simp only [bind_assoc, pure_bind]
    rw [run_bind_ok (run_modifyContext _ drive state)]
  have hclosing (ended : Except Error Unit) :
      Alongside contrast engine holds (fun _ _ ↦ True) (closing next ended) (closing next' ended) := by
    refine .bind (.closes (fun _ ↦ rfl) (fun _ ↦ rfl) (fun _ ↦ rfl) (fun _ ↦ rfl) fun _ ↦ rfl) fun _ ↦ ?_
    exact .bind .popScope fun _ ↦ (hnext ended).mono fun _ ↦ trivial
  refine ⟨.bind (.inLoop _ _ h.keeps) fun ended ↦ (hnext ended).keeps, fun drive state hinv ↦ ?_,
    fun drive left right hinv habreast ↦ ?_⟩
  · rw [hrun]
    exact token_attempt_bind h hclosing drive (opened state) hinv
  · rw [hrun, hrun]
    refine ends_attempt_bind h hclosing hinv (habreast.modify opened (fun _ ↦ rfl) fun _ ↦ rfl) ?_
    intro error after hhopeless haround
    have hscopes : after.context.leaveLoop.scopes = left.context.scopes.push after.context.scopes.top :=
      haround.scopes_eq_push rfl
    refine .inl ⟨.error error, ?_, hhopeless⟩
    dsimp only [closing]
    rw [run_bind_ok (run_modifyContext _ drive after),
      run_bind_ok (run_popScope_push drive { after with context := after.context.leaveLoop } hscopes)]
    exact hraised error drive _

theorem visitLoop (header : LoopHeader) (items : List Value) {body body' : Render Flow}
    (h : Alongside contrast engine holds Restored body body') :
    Alongside contrast engine holds rel (Render.visitLoop header items body) (Render.visitLoop header items body') := by
  unfold Render.visitLoop
  refine .bind (.evaluate (.counting fun _ ↦ rfl)) fun parent ↦ .bind (.newObject _) fun made ↦ ?_
  refine .inLoop_bind _ _ (.eachItem (fun index item ↦ ?_) 0 items) (fun ended ↦ .bind (.settle ended) fun _ ↦ .pure _)
    fun _ _ _ ↦ rfl
  exact .bind (.advance _ index) fun _ ↦ .bind (.set header.item item) fun _ ↦ h.mono Restored.toRestoredAround

theorem loopOffset (hsuit : tools.Suit contrast) (header : LoopHeader) :
    Alongside contrast engine holds rel (Render.loopOffset tools header) (Render.loopOffset tools header) := by
  unfold Render.loopOffset
  split
  · exact .context_bind (fun _ ↦ rfl) fun _ ↦ .pure _
  · exact .evaluate ((Eval.Compositional.abreast hsuit).offsetArgument _)
  · exact .pure _

theorem loop (hsuit : tools.Suit contrast) (header : LoopHeader) {body body' otherwise otherwise' : Render Flow}
    (hbody : Alongside contrast engine holds Restored body body')
    (hotherwise : Alongside contrast engine holds Restored otherwise otherwise') :
    Alongside contrast engine holds Restored (Render.loop tools header body otherwise)
      (Render.loop tools header body' otherwise') := by
  have rules := Eval.Compositional.abreast hsuit
  unfold Render.loop
  refine .bind (.evaluate (rules.expr _)) fun collection ↦ .bind (.loopOffset hsuit header) fun offset ↦
    .bind (.evaluate (rules.loopArgument _)) fun limit ↦ .bind (.setRegister (by decide) fun _ ↦ rfl) fun _ ↦ ?_
  exact .ite hotherwise (.visitLoop header _ hbody)

theorem table (hsuit : tools.Suit contrast) (header : TableHeader) {body body' : Render Flow}
    (h : Alongside contrast engine holds Restored body body') :
    Alongside contrast engine holds rel (Render.table tools header body) (Render.table tools header body') := by
  have rules := Eval.Compositional.abreast hsuit
  unfold Render.table
  refine .bind (.evaluate (rules.expr _)) fun collection ↦ .bind (.evaluate (rules.offsetArgument _)) fun offset ↦
    .bind (.evaluate (rules.loopArgument _)) fun limit ↦ .bind (.evaluate (rules.loopArgument _)) fun columns ↦
    .bind (.newObject _) fun made ↦ .bind (.write _) fun _ ↦ ?_
  refine .inLoop_bind _ _ (.eachItem (fun index item ↦ ?_) 0 _)
    (fun ended ↦ .bind (.write _) fun _ ↦ .bind (.settle ended) fun _ ↦ .pure _) fun _ _ _ ↦ rfl
  refine .bind (.advance _ index) fun _ ↦ .bind (.set header.item item) fun _ ↦ .bind (.write _) fun _ ↦
    .attempt_bind (h.mono Restored.toRestoredAround) (fun ended ↦ ?_) fun error drive state hhopeless ↦
      .inl ⟨.error error, ?_, hhopeless⟩
  · exact .bind (.write _) fun _ ↦ .ite (.bind (.write _) fun _ ↦ .settle ended) (.settle ended)
  · have hsettled (closesRow : Prop) [Decidable closesRow] (text : String) (closed : RenderState) :
        ((if closesRow then do Render.write text; Render.settle (.error error)
          else Render.settle (.error error) : Render Flow) drive closed).1 = .error (.error error) := by
      split <;> rfl
    rw [run_bind_ok (run_write _ drive state)]
    exact hsettled _ _ _

/-! ## Includes -/

theorem fetch (source : Source) (name : String) :
    Alongside contrast engine holds rel (Render.fetch source name) (Render.fetch source name) := by
  have hread : Alongside contrast engine holds rel
      (modify fun state ↦ { state with reads := name :: state.reads } : Render PUnit)
      (modify fun state ↦ { state with reads := name :: state.reads }) :=
    .of_change (.of_quiet fun _ before ↦ ⟨before.context.assigned, before.shared, _, rfl⟩) (fun _ ↦ rfl) (fun _ ↦ rfl)
      fun _ ↦ rfl
  have hwait : Alongside contrast engine holds rel (Render.evaluate (Eval.wait (source.waits name)))
      (Render.evaluate (Eval.wait (source.waits name))) := .evaluate (.wait _)
  unfold Render.fetch
  exact .ite (.bind hread fun _ ↦ .bind hwait fun _ ↦ .ofExcept _) (.bind hwait fun _ ↦ .ofExcept _)

theorem parse (name text : String) :
    Alongside contrast engine holds rel (Render.parse engine name text) (Render.parse engine name text) :=
  .settle _

theorem keepInclude {block : Block} (hblock : AllTags holds block) (path : String) :
    Alongside contrast engine holds rel
      (modify fun state ↦ { state with includes := state.includes.put path block } : Render PUnit)
      (modify fun state ↦ { state with includes := state.includes.put path block }) :=
  .of_change (.keepInclude hblock path) (fun _ ↦ rfl) (fun _ ↦ rfl) fun _ ↦ rfl

theorem loadCached {source : Source} (hsource : engine.source = some source) (name : String) :
    Alongside contrast engine holds rel (Render.loadCached engine source name) (Render.loadCached engine source name) := by
  unfold Render.loadCached
  refine .bind (.ofExcept _) fun path ↦ .get_bind (fun _ ↦ rfl) fun state ↦ ?_
  split
  · exact .pure _
  · refine .bind_of (fun text ↦ source.fetch name = .ok text) (.fetch source name)
      (fun _ _ _ _ htext ↦ fetch_eq_ok htext) fun text htext ↦ ?_
    refine .bind_of (AllTags holds) (.parse name text)
      (fun _ _ hinv block hblock ↦ hinv.2 source (.inr hsource) name text block htext (parse_eq_ok hblock))
      fun block hblock ↦ ?_
    exact .bind (.keepInclude hblock path) fun _ ↦ .pure block

theorem load (name : String) :
    Alongside contrast engine holds rel (Render.load engine name) (Render.load engine name) := by
  unfold Render.load
  refine .context_bind (fun _ ↦ rfl) fun context ↦ ?_
  split
  · exact .bind (.fetch _ name) fun text ↦ .parse name text
  · split
    · next hsource => exact .loadCached hsource name
    · exact .fail _

theorem eachBound {bind bind' : Value → Render Flow}
    (h : ∀ item, Alongside contrast engine holds rel (bind item) (bind' item)) :
    ∀ items, Alongside contrast engine holds rel (Render.eachBound bind items) (Render.eachBound bind' items)
  | [] => by
    rw [Render.eachBound, Render.eachBound]
    exact .pure _
  | item :: rest => by
    rw [Render.eachBound, Render.eachBound]
    refine .bind (h item) fun flow ↦ ?_
    cases flow with
    | completed => exact eachBound h rest
    | breakLoop => exact .pure _
    | continueLoop => exact .pure _

theorem bound (binding : Option Binding) (name : String) (value : Option Value) {body body' : Render Flow}
    (h : Alongside contrast engine holds Restored body body') :
    Alongside contrast engine holds RestoredAround (Render.bound binding name value body)
      (Render.bound binding name value body') := by
  have haround := h.mono Restored.toRestoredAround
  have hbind (value : Value) : Alongside contrast engine holds RestoredAround
      (do
        modifyContext fun context ↦ context.set name value
        body)
      (do
        modifyContext fun context ↦ context.set name value
        body') :=
    .bind (.set name value) fun _ ↦ haround
  unfold Render.bound
  split
  · exact .ite (.eachBound hbind _) (hbind _)
  · exact hbind _
  · exact haround

/-- What closes an include passes on the error that ended it. -/
theorem leaveInclude (outer : String) (ended : Except Error Flow) :
    Alongside contrast engine holds (fun _ _ ↦ True) (Render.leaveInclude outer ended) (Render.leaveInclude outer ended) := by
  unfold Render.leaveInclude
  refine .bind (.closes (fun _ ↦ rfl) (fun _ ↦ rfl) (fun _ ↦ rfl) (fun _ ↦ rfl) fun _ ↦ rfl) fun _ ↦ ?_
  refine .attempt_bind .popScope (fun popped ↦ ?_) fun error _ _ hhopeless ↦ .inl ⟨.error error, rfl, hhopeless⟩
  refine .bind (.closes (fun _ ↦ rfl) (fun _ ↦ rfl) (fun _ ↦ rfl) (fun _ ↦ rfl) fun _ ↦ rfl) fun _ ↦ ?_
  exact .bind (.settle popped) fun _ ↦ .settle ended

/-- Both renders enter an include or neither does, and both leave it. -/
theorem inInclude (name : String) (frame : Entries String Value) {body body' : Render Flow}
    (h : Alongside contrast engine holds RestoredAround body body') :
    Alongside contrast engine holds rel (Render.inInclude name frame body) (Render.inInclude name frame body') := by
  let opened (state : RenderState) : RenderState :=
    { state with context := { state.context.push frame with name := name, depth := state.context.depth + 1 } }
  refine ⟨.inInclude name frame h.keeps, fun drive state hinv ↦ ?_, fun drive left right hinv habreast ↦ ?_⟩
  · rw [run_inInclude]
    split
    · exact contrast.token_refl _
    · exact token_attempt_bind h (.leaveInclude state.context.name) drive (opened state) hinv
  · have hdeepRight : right.context.depth ≥ right.context.maxDepth ↔ left.context.depth ≥ left.context.maxDepth := by
      rw [habreast.depth, habreast.maxDepth]
    rw [run_inInclude, run_inInclude]
    by_cases hdeep : left.context.depth ≥ left.context.maxDepth
    · rw [if_pos hdeep, if_pos (hdeepRight.2 hdeep), habreast.maxDepth]
      exact .abreast habreast
    · rw [if_neg hdeep, if_neg (mt hdeepRight.1 hdeep), habreast.name]
      refine ends_attempt_bind h (.leaveInclude left.context.name) hinv
        (habreast.modify opened (fun _ ↦ rfl) fun _ ↦ rfl) fun error after hhopeless haround ↦ ?_
      have hscopes : after.context.scopes = left.context.scopes.push after.context.scopes.top :=
        haround.scopes_eq_push rfl
      rw [run_leaveInclude hscopes]
      exact .inl ⟨.error error, rfl, hhopeless⟩

theorem included (hsuit : engine.tools.Suit contrast) {deeper deeper' : Block → Render Flow}
    (h : ∀ block, AllTags holds block → Alongside contrast engine holds Restored (deeper block) (deeper' block))
    (inclusion : Inclusion) :
    Alongside contrast engine holds Restored (Render.included engine deeper inclusion)
      (Render.included engine deeper' inclusion) := by
  have rules := Eval.Compositional.abreast hsuit
  unfold Render.included
  refine .bind (.evaluate (rules.templateName _)) fun name ↦
    .bind_of (AllTags holds) (.load name) (fun _ _ hinv _ ↦ load_allTags hinv) fun block hblock ↦ ?_
  refine .bind (.evaluate (rules.boundValue _ _)) fun value ↦ .bind (.evaluate (rules.attributeFrame _ _)) fun frame ↦ ?_
  exact .inInclude name frame (.bound _ _ value (h block hblock))

end Alongside

/-! ## Trees -/

/-- A watch and includes that go abreast with those of the renderer, in a render of built-in tags whose filters suit. -/
structure Accompanies (contrast : Contrast) (engine : Engine) (holds : Tag → Prop) (watch : Node → Render Unit)
    (inclusions inclusions' : Inclusion → Render Flow) : Prop where
  suit : engine.tools.Suit contrast
  builtin : ∀ tag, holds tag → tag.IsBuiltin
  watches : ∀ node, Alongside contrast engine holds Restored checkCancelled (watch node)
  includes : ∀ inclusion, Alongside contrast engine holds Restored (inclusions inclusion) (inclusions' inclusion)

namespace Accompanies

variable {watch : Node → Render Unit} {inclusions inclusions' : Inclusion → Render Flow}

theorem evaluations (rules : Accompanies contrast engine holds watch inclusions inclusions') :
    Eval.Compositional engine.tools fun _ computation ↦ computation.Abreast contrast :=
  .abreast rules.suit

mutual

/-- The render of a block goes abreast with the watched one. -/
theorem nodes (rules : Accompanies contrast engine holds watch inclusions inclusions') :
    ∀ body, AllTags holds body →
      Alongside contrast engine holds Restored (Render.nodes engine inclusions body)
        (watchedNodes engine watch inclusions' body)
  | [], _ => by
    rw [Render.nodes, watchedNodes]
    exact .pure _
  | first :: rest, h => by
    rw [AllTags] at h
    rw [Render.nodes, watchedNodes]
    refine .bind (rules.watches first) fun _ ↦ .bind (rules.node first h.1) fun flow ↦ ?_
    cases flow with
    | completed => exact rules.nodes rest h.2
    | breakLoop => exact .pure _
    | continueLoop => exact .pure _

theorem node (rules : Accompanies contrast engine holds watch inclusions inclusions') :
    ∀ node, AllTagsOfNode holds node →
      Alongside contrast engine holds Restored (Render.node engine inclusions node)
        (watchedNode engine watch inclusions' node)
  | .text content, _ => by
    rw [watchedNode, Render.node, Render.node]
    exact .bind (.write content) fun _ ↦ .pure _
  | .output markup span, _ => by
    rw [watchedNode, Render.node, Render.node]
    exact .guarded span (.output rules.suit markup span)
  | .tag name markup span action, h => by
    rw [AllTagsOfNode] at h
    rw [Render.node, watchedNode]
    exact .context_bind (fun _ ↦ rfl) fun _ ↦ .ite (.guarded span (.fail _)) (.guarded span (rules.tag name markup action h))

theorem tag (rules : Accompanies contrast engine holds watch inclusions inclusions') (name markup : String) :
    ∀ action, AllTagsOfTag holds action →
      Alongside contrast engine holds Restored (Render.tag engine inclusions name markup action)
        (watchedTag engine watch inclusions' name markup action)
  | .assign target value, _ => by
    rw [watchedTag, Render.tag, Render.tag]
    exact .bind (.evaluate (rules.evaluations.markup value)) fun _ ↦ .bind (.assign _ _) fun _ ↦ .pure _
  | .capture target body, h => by
    rw [AllTagsOfTag] at h
    rw [Render.tag, watchedTag]
    exact .bind (.captured (rules.nodes body h.2)) fun _ ↦ .bind (.assign _ _) fun _ ↦ .pure _
  | .case subject whens otherwise, h => by
    rw [AllTagsOfTag] at h
    rw [Render.tag, watchedTag]
    exact .bind (.evaluate (rules.evaluations.expr subject)) fun value ↦
      rules.cases value (rules.optional otherwise h.2.2) false whens h.2.1
  | .comment, _ => by
    rw [watchedTag, Render.tag, Render.tag]
    exact .pure _
  | .cycle group values, _ => by
    rw [watchedTag, Render.tag, Render.tag]
    exact .cycle rules.suit group values
  | .increment name, _ => by
    rw [watchedTag, Render.tag, Render.tag]
    exact .bind (.counter name) fun _ ↦ .bind (.write _) fun _ ↦ .bind (.assign _ _) fun _ ↦ .pure _
  | .decrement name, _ => by
    rw [watchedTag, Render.tag, Render.tag]
    exact .bind (.counter name) fun _ ↦ .bind (.write _) fun _ ↦ .bind (.assign _ _) fun _ ↦ .pure _
  | .loop header body otherwise, h => by
    rw [AllTagsOfTag] at h
    rw [Render.tag, watchedTag]
    exact .loop rules.suit header (rules.nodes body h.2.1) (rules.optional otherwise h.2.2)
  | .breakLoop, _ => by
    rw [watchedTag, Render.tag, Render.tag]
    exact .context_bind (fun _ ↦ rfl) fun _ ↦ .ite (.pure _) (.pure _)
  | .continueLoop, _ => by
    rw [watchedTag, Render.tag, Render.tag]
    exact .context_bind (fun _ ↦ rfl) fun _ ↦ .ite (.pure _) (.pure _)
  | .branch negated conditions otherwise, h => by
    rw [AllTagsOfTag] at h
    rw [Render.tag, watchedTag]
    exact rules.branches (rules.optional otherwise h.2.2) negated conditions h.2.1
  | .ifChanged body, h => by
    rw [AllTagsOfTag] at h
    rw [Render.tag, watchedTag]
    exact .bind (.captured (rules.nodes body h.2)) fun _ ↦ .bind (.ifChanged _) fun _ ↦ .pure _
  | .include inclusion, _ => by
    rw [watchedTag, Render.tag, Render.tag]
    exact rules.includes inclusion
  | .table header body, h => by
    rw [AllTagsOfTag] at h
    rw [Render.tag, watchedTag]
    exact .table rules.suit header (rules.nodes body h.2)
  | .custom registration body, h => by
    rw [AllTagsOfTag] at h
    exact (rules.builtin _ h.1).elim

theorem optional (rules : Accompanies contrast engine holds watch inclusions inclusions') :
    ∀ body, AllTagsOfOption holds body →
      Alongside contrast engine holds Restored (Render.optional engine inclusions body)
        (watchedOptional engine watch inclusions' body)
  | none, _ => by
    rw [Render.optional, watchedOptional]
    exact .pure _
  | some body, h => by
    rw [AllTagsOfOption] at h
    rw [Render.optional, watchedOptional]
    exact rules.nodes body h

theorem branches (rules : Accompanies contrast engine holds watch inclusions inclusions')
    {otherwise otherwise' : Render Flow}
    (hotherwise : Alongside contrast engine holds Restored otherwise otherwise') :
    ∀ negated conditions, AllTagsOfBranches holds conditions →
      Alongside contrast engine holds Restored
        (Render.branches engine.tools otherwise negated (branchBodies engine inclusions conditions))
        (Render.branches engine.tools otherwise' negated (watchedBranches engine watch inclusions' conditions))
  | negated, [], _ => by
    rw [branchBodies, watchedBranches, Render.branches, Render.branches]
    exact hotherwise
  | negated, (condition, body) :: rest, h => by
    rw [AllTagsOfBranches] at h
    rw [branchBodies, watchedBranches, Render.branches, Render.branches]
    exact .bind (.evaluate (rules.evaluations.condition condition)) fun _ ↦
      .ite (rules.nodes body h.1) (rules.branches hotherwise false rest h.2)

theorem cases (rules : Accompanies contrast engine holds watch inclusions inclusions')
    (subject : Value) {otherwise otherwise' : Render Flow}
    (hotherwise : Alongside contrast engine holds Restored otherwise otherwise') :
    ∀ matched whens, AllTagsOfWhens holds whens →
      Alongside contrast engine holds Restored
        (Render.cases engine.tools subject otherwise matched (whenBodies engine inclusions whens))
        (Render.cases engine.tools subject otherwise' matched (watchedWhens engine watch inclusions' whens))
  | matched, [], _ => by
    rw [whenBodies, watchedWhens, Render.cases, Render.cases]
    exact .ite (.pure _) hotherwise
  | matched, (values, body) :: rest, h => by
    rw [AllTagsOfWhens] at h
    rw [whenBodies, watchedWhens, Render.cases, Render.cases]
    refine .bind (.evaluate (rules.evaluations.anyEqual subject values)) fun _ ↦
      .ite (.bind (rules.nodes body h.1) fun flow ↦ ?_) (rules.cases subject hotherwise matched rest h.2)
    cases flow with
    | completed => exact rules.cases subject hotherwise true rest h.2
    | breakLoop => exact .pure _
    | continueLoop => exact .pure _

end

end Accompanies

namespace Alongside

variable {watch : Node → Render Unit}

/-- However deep includes may nest, the render of a block goes abreast with the watched one. -/
theorem blockWithin (hsuit : engine.tools.Suit contrast) (hbuiltin : ∀ tag, holds tag → tag.IsBuiltin)
    (hwatch : ∀ node, Alongside contrast engine holds Restored Render.checkCancelled (watch node)) :
    ∀ (remaining : Nat) (body : Block), AllTags holds body →
      Alongside contrast engine holds Restored (Render.blockWithin engine remaining body)
        (watchedBlockWithin engine watch remaining body)
  | 0, body, hbody => by
    rw [Render.blockWithin, watchedBlockWithin]
    refine Accompanies.nodes ⟨hsuit, hbuiltin, hwatch, fun inclusion ↦ ?_⟩ body hbody
    exact .included hsuit (fun _ _ ↦ .context_bind (fun _ ↦ rfl) fun _ ↦ .fail _) inclusion
  | remaining + 1, body, hbody => by
    rw [Render.blockWithin, watchedBlockWithin]
    refine Accompanies.nodes ⟨hsuit, hbuiltin, hwatch, fun inclusion ↦ ?_⟩ body hbody
    exact .included hsuit (fun block hblock ↦ blockWithin hsuit hbuiltin hwatch remaining block hblock) inclusion

theorem block (hsuit : engine.tools.Suit contrast) (hbuiltin : ∀ tag, holds tag → tag.IsBuiltin)
    (hwatch : ∀ node, Alongside contrast engine holds Restored Render.checkCancelled (watch node)) {body : Block}
    (hbody : AllTags holds body) :
    Alongside contrast engine holds Restored (Render.block engine body) (watchedBlock engine watch body) :=
  .context_bind (fun _ ↦ rfl) fun _ ↦ .blockWithin hsuit hbuiltin hwatch _ body hbody

end Alongside

end Liquid.Render
