import Liquid.Proofs.Render.Mirror
import Liquid.Proofs.Render.Restoration

/-!
# Constructs in two renders side by side

Each construct keeps two renders together that differ in the error mode, until an error is reported. What is written may
come back into the state only through a capture: a capture tag is kept out of loose comparisons, and a change detection
touches nothing but its register.
-/

namespace Liquid.Render

open Template

variable {α : Type} {comparison : Comparison} {engine : Engine} {holds : Tag → Prop}
  {rel : RenderState → RenderState → Prop} [Frame rel]

/-- In a loose comparison outputs do not count. -/
theorem Alike.withOutput {left right : RenderState} (h : Alike .loose left right) {leftOutput rightOutput : Output} :
    Alike .loose { left with output := leftOutput } { right with output := rightOutput } :=
  ⟨h.leftMode, h.rightMode, h.core, h.registers, nofun⟩

/-- In a loose comparison the last text of a change detection does not count. -/
theorem Alike.withChange {left right : RenderState} (h : Alike .loose left right) (leftText rightText : String) :
    Alike .loose { left with context := left.context.setRegister Registers.changeKey (.text leftText) }
      { right with context := right.context.setRegister Registers.changeKey (.text rightText) } := by
  refine ⟨h.leftMode, h.rightMode, h.core, fun key hkey ↦ ?_, nofun⟩
  have hother : Registers.changeKey ≠ key := fun hsame ↦ hkey.elim id fun hdifferent ↦ hdifferent hsame.symm
  change Entries.find? key (Entries.put Registers.changeKey _ right.context.registers) =
    Entries.find? key (Entries.put Registers.changeKey _ left.context.registers)
  rw [Entries.find?_put_of_ne hother, Entries.find?_put_of_ne hother, h.registers key hkey]

namespace Mirrored

/-! ## Basic actions -/

theorem evaluate {computation : Eval α} (hagrees : computation.Agrees .blind) :
    Mirrored comparison engine holds rel (Render.evaluate computation) := by
  refine of_agreed (.evaluate computation) (fun _ _ ↦ by rw [run_evaluate]) fun drive left right halike ↦ ?_
  rw [run_evaluate, run_evaluate, halike.evaluate hagrees drive]
  exact ⟨rfl, halike.modify (fun state ↦ { state with shared := _ }) (fun _ ↦ rfl) (fun _ ↦ rfl)
    (fun _ ↦ rfl) halike.output⟩

theorem assign (name : String) (value : Value) :
    Mirrored comparison engine holds rel (modifyContext fun context ↦ context.assign name value) :=
  .of_change (.assign name value) (fun _ ↦ rfl) (fun _ ↦ rfl) (fun _ ↦ rfl) (fun _ ↦ rfl) fun _ ↦ rfl

theorem set (name : String) (value : Value) :
    Mirrored comparison engine holds RestoredAround (modifyContext fun context ↦ context.set name value) :=
  .of_change (.set name value) (fun _ ↦ rfl) (fun _ ↦ rfl) (fun _ ↦ rfl) (fun _ ↦ rfl) fun _ ↦ rfl

theorem advance (id index : Nat) : Mirrored comparison engine holds rel (Render.advance id index) :=
  .of_change (.advance id index) (fun _ ↦ rfl) (fun _ ↦ rfl) (fun _ ↦ rfl) (fun _ ↦ rfl) fun _ ↦ rfl

theorem record (error : Error) : Mirrored comparison engine holds rel (Render.record error) :=
  .of_change (.record error) (fun _ ↦ rfl) (fun _ ↦ rfl) (fun _ ↦ rfl) (fun _ ↦ rfl) fun _ ↦ rfl

theorem newObject (object : Object) : Mirrored comparison engine holds rel (Render.newObject object) := by
  have hrun (drive : Drive) (state : RenderState) : Render.newObject object drive state =
      (.ok (state.shared.nextObject, .object state.shared.nextObject object),
        { state with shared := { state.shared with nextObject := state.shared.nextObject + 1 } }) := rfl
  refine of_agreed (.newObject object) (fun _ _ ↦ rfl) fun drive left right halike ↦ ?_
  rw [hrun, hrun, halike.shared]
  exact ⟨rfl, halike.modify (fun state ↦ { state with shared := _ }) (fun _ ↦ rfl) (fun _ ↦ rfl)
    (fun _ ↦ rfl) halike.output⟩

theorem write (text : String) : Mirrored comparison engine holds rel (Render.write text) := by
  refine of_agreed (.write text) (fun _ _ ↦ rfl) fun drive left right halike ↦ ?_
  refine ⟨rfl, halike.modify (fun state ↦ { state with output := state.output.write text }) (fun _ ↦ rfl)
    (fun _ ↦ rfl) (fun _ ↦ rfl) fun hstrict ↦ ?_⟩
  rw [halike.output hstrict]

/-- A register that both renders have may be set to what both give it. -/
theorem setRegister {key : String} (hsource : key ≠ Registers.sourceKey) {register : Context → Register}
    (hregister : ∀ left right, Alike comparison left right → register right.context = register left.context) :
    Mirrored comparison engine holds rel
      (modifyContext fun context ↦ context.setRegister key (register context)) := by
  refine of_agreed (.setRegister hsource register) (fun _ _ ↦ rfl) fun drive left right halike ↦ ⟨rfl, ?_⟩
  refine ⟨halike.leftMode, halike.rightMode, halike.core, fun other hother ↦ ?_, halike.output⟩
  change Entries.find? other (Entries.put key (register right.context) right.context.registers) =
    Entries.find? other (Entries.put key (register left.context) left.context.registers)
  rw [Entries.find?_put, Entries.find?_put, hregister left right halike, halike.registers other hother]

theorem checkCancelled : Mirrored comparison engine holds rel Render.checkCancelled := by
  unfold Render.checkCancelled
  exact .get_bind (fun _ ↦ rfl) fun _ ↦ .ite (.fail _) (.pure _)

theorem counter (name : String) : Mirrored comparison engine holds rel (Render.counter name) := by
  unfold Render.counter
  exact .context_bind (fun _ ↦ rfl) fun _ ↦ .pure _

/-! ## Errors and outputs -/

theorem located (error : Error) (span : Span) : Mirrored comparison engine holds rel (Render.located error span) := by
  unfold Render.located
  exact .context_bind (fun _ ↦ rfl) fun _ ↦ .pure _

/-- Where an error is reported, a strict comparison ends. -/
theorem report {error : Error} (hplaced : error.location.isSome) :
    Mirrored comparison engine holds rel (Render.report error) where
  keeps := .report error
  twin := by
    intro drive left right _ halike
    cases comparison with
    | strict mode =>
      refine .parted [] error trivial ?_ hplaced fun hmode ↦ ?_
      · rw [run_report, halike.leftMode]
        dsimp only
        split <;> rfl
      · rw [run_report, halike.rightMode, hmode]
        dsimp only
        split <;> rfl
    | loose =>
      have hnoted : Alike .loose { left with context := left.context.noteReported error }
          { right with context := right.context.noteReported error } :=
        halike.modify (fun state ↦ { state with context := state.context.noteReported error })
          (fun _ ↦ rfl) (fun _ ↦ rfl) (fun _ ↦ rfl) nofun
      have hrecorded : Alike .loose { left with context := (left.context.noteReported error).record error }
          { right with
            context := (right.context.noteReported error).record error
            output := right.output.write (errorOpening ++ error.message) } :=
        ⟨hnoted.leftMode, hnoted.rightMode,
          congrArg (fun state ↦ { state with context := state.context.record error }) hnoted.core, hnoted.registers, nofun⟩
      rw [run_report, run_report, halike.leftMode, halike.rightMode]
      dsimp only [Comparison.mode]
      by_cases hfatal : error.kind.isFatal
      · rw [if_pos hfatal, if_pos hfatal]
        exact .agreed hnoted nofun
      · rw [if_neg hfatal, if_neg hfatal]
        exact .agreed hrecorded nofun

/-- A node whose error has a place already passes that error on if errors are rethrown. -/
theorem guarded (span : Span) {action : Render Flow} (h : Mirrored comparison engine holds rel action) :
    Mirrored comparison engine holds rel (Render.guarded span action) where
  keeps := h.keeps.guarded span
  twin := by
    intro drive left right hinv halike
    refine Twin.attempt_bind h (fun ended ↦ ?_) halike hinv rfl ?_
    · cases ended with
      | ok flow => exact .pure flow
      | error error =>
        refine .bind_of (fun placed ↦ placed.location.isSome) (.located error span) ?_
          fun placed hplaced ↦ .bind (.report hplaced) fun _ ↦ .pure _
        intro drive before _ placed hlocated
        rw [run_located] at hlocated
        rw [← Except.ok.inj hlocated, Error.isSome_location_locate]
    · intro hmode error after hplaced hsteady _
      have hrethrow : after.context.errorMode = .rethrow := by
        rw [hsteady.errorMode, halike.rightMode, hmode]
      have hraised : (Render.report error drive after).1 = .error (.error error) := by
        rw [run_report, hrethrow]
        dsimp only
        split <;> rfl
      change ((do
        Render.report (← Render.located error span)
        return Flow.completed) drive after).1 = _
      rw [run_bind_ok (run_located error span drive after), Error.locate_of_isSome hplaced, run_bind]
      rcases hrun : Render.report error drive after with ⟨ended, reported⟩
      rw [hrun] at hraised
      rw [show ended = .error (.error error) from hraised]

theorem output {tools : Toolbox} (hblind : tools.IsBlind) (markup : Markup) (span : Span) :
    Mirrored comparison engine holds rel (Render.output tools markup span) := by
  unfold Render.output
  have hwritten (value : Value) : Mirrored comparison engine holds rel (do
      let state ← MonadState.get
      Render.write (state.context.formatValue state.shared.counts.tallies value)
      return Flow.completed) :=
    .get_bind (fun _ ↦ rfl) fun _ ↦ .bind (.write _) fun _ ↦ .pure _
  refine .bind (.evaluate (hblind.agrees.compositional.markup markup)) fun value ↦ .context_bind (fun _ ↦ rfl) fun context ↦
    .ite ?_ (hwritten value)
  exact .bind (.located _ span) fun error ↦ .bind (.record error) fun _ ↦ hwritten value

theorem cycle {tools : Toolbox} (hblind : tools.IsBlind) (group : Option Expr) (values : List Expr) :
    Mirrored comparison engine holds rel (Render.cycle tools group values) := by
  unfold Render.cycle
  refine .ite (.pure _) ?_
  refine .bind (.evaluate (hblind.agrees.compositional.cycleKey group values)) fun key ↦ .context_bind_of ?_ fun context ↦ ?_
  · intro left right halike
    dsimp only
    rw [halike.places (by decide)]
  · dsimp only
    refine .bind (.setRegister (by decide) fun _ _ _ ↦ rfl) fun _ ↦ ?_
    split
    · exact .pure _
    · refine .bind (.evaluate (hblind.agrees.compositional.expr _)) fun value ↦ .get_bind (fun _ ↦ rfl) fun _ ↦ ?_
      exact .bind (.write _) fun _ ↦ .pure _

/-! ## Captures and branches -/

/-- In a strict comparison a capture gives both renders the same text. -/
theorem captured (hstrict : comparison.IsStrict) {body : Render Flow}
    (h : Mirrored comparison engine holds Restored body) :
    Mirrored comparison engine holds rel (Render.captured body) where
  keeps := .captured h.keeps
  twin := by
    intro drive left right hinv halike
    have hopened : Alike comparison { left with output := left.output.beginCapture }
        { right with output := right.output.beginCapture } :=
      halike.modify (fun state ↦ { state with output := state.output.beginCapture }) (fun _ ↦ rfl)
        (fun _ ↦ rfl) (fun _ ↦ rfl) fun _ ↦ by rw [halike.output hstrict]
    unfold Render.captured
    rw [run_bind_ok (run_modifyOutput _ drive left), run_bind_ok (run_modifyOutput _ drive right)]
    refine Twin.attempt_bind h (fun ended ↦ ?_) hopened hinv rfl fun _ error after _ _ _ ↦ rfl
    refine .bind (of_agreed ?_ (fun _ _ ↦ rfl) fun _ left right halike ↦ ?_) fun text ↦
      .bind (.settle ended) fun flow ↦ .pure (text, flow)
    · exact fun _ _ hinv ↦ ⟨hinv, ⟨rfl, List.suffix_rfl, List.suffix_rfl⟩, fun _ ↦ trivial⟩
    · rw [run_endCapture, run_endCapture, halike.output hstrict]
      exact ⟨rfl, halike.modify (fun state ↦ { state with output := _ }) (fun _ ↦ rfl) (fun _ ↦ rfl)
        (fun _ ↦ rfl) fun _ ↦ rfl⟩

/-- In a strict comparison the last text of a change detection is the same in both renders. -/
theorem ifChanged (hstrict : comparison.IsStrict) (text : String) :
    Mirrored comparison engine holds rel (Render.ifChanged text) := by
  have hnoted : Mirrored comparison engine holds rel
      (modifyContext fun context ↦ context.setRegister Registers.changeKey (.text text)) :=
    .setRegister (by decide) fun _ _ _ ↦ rfl
  unfold Render.ifChanged
  refine .context_bind_of (fun left right halike ↦ ?_) fun context ↦ .ite (.bind (.write _) fun _ ↦ hnoted) hnoted
  rw [Registers.text?, Registers.text?, halike.registers _ (.inl hstrict)]

/-- What a change detection writes or does not write matters to no other construct. -/
theorem detected {body : Render Flow} (h : Mirrored comparison engine holds Restored body) :
    Mirrored comparison engine holds rel (do
      let (text, flow) ← Render.captured body
      Render.ifChanged text
      return flow) := by
  cases comparison with
  | strict mode =>
    have hstrict : (Comparison.strict mode).IsStrict := trivial
    exact .bind (.captured hstrict h) fun _ ↦ .bind (.ifChanged hstrict _) fun _ ↦ .pure _
  | loose =>
    refine ⟨.bind (.captured h.keeps) fun _ ↦ .bind (.ifChanged _) fun _ ↦ .pure _, ?_⟩
    intro drive left right hinv halike
    have htwin := h.twin drive { left with output := left.output.beginCapture }
      { right with output := right.output.beginCapture } hinv halike.withOutput
    rw [run_bind, run_bind, run_captured, run_captured]
    rcases hrunLeft : body drive { left with output := left.output.beginCapture } with ⟨leftEnded, leftAfter⟩
    rcases hrunRight : body drive { right with output := right.output.beginCapture } with ⟨rightEnded, rightAfter⟩
    rw [hrunLeft, hrunRight] at htwin
    cases htwin with
    | parted newer first hstrict => exact hstrict.elim
    | agreed hafter =>
      rcases leftEnded with (error | _) | flow
      · exact .agreed hafter.withOutput nofun
      · exact .agreed hafter nofun
      · dsimp only
        rw [run_bind_ok (run_ifChanged _ drive _), run_bind_ok (run_ifChanged _ drive _)]
        exact .agreed (hafter.withChange _ _).withOutput nofun

theorem branches {tools : Toolbox} (hblind : tools.IsBlind) {otherwise : Render Flow}
    (hotherwise : Mirrored comparison engine holds rel otherwise) :
    ∀ (negated : Bool) (conditions : List (Condition × Render Flow)),
      (∀ branch ∈ conditions, Mirrored comparison engine holds rel branch.2) →
        Mirrored comparison engine holds rel (Render.branches tools otherwise negated conditions)
  | negated, [], _ => by
    rw [Render.branches]
    exact hotherwise
  | negated, (condition, body) :: rest, h => by
    rw [List.forall_mem_cons] at h
    rw [Render.branches]
    exact .bind (.evaluate (hblind.agrees.compositional.condition condition)) fun _ ↦
      .ite h.1 (branches hblind hotherwise false rest h.2)

theorem cases {tools : Toolbox} (hblind : tools.IsBlind) (subject : Value) {otherwise : Render Flow}
    (hotherwise : Mirrored comparison engine holds rel otherwise) :
    ∀ (matched : Bool) (whens : List (List Expr × Render Flow)),
      (∀ branch ∈ whens, Mirrored comparison engine holds rel branch.2) →
        Mirrored comparison engine holds rel (Render.cases tools subject otherwise matched whens)
  | matched, [], _ => by
    rw [Render.cases]
    exact .ite (.pure _) hotherwise
  | matched, (values, body) :: rest, h => by
    rw [List.forall_mem_cons] at h
    rw [Render.cases]
    refine .bind (.evaluate (hblind.agrees.compositional.anyEqual subject values)) fun _ ↦ .ite (.bind h.1 fun flow ↦ ?_)
      (cases hblind subject hotherwise matched rest h.2)
    cases flow with
    | completed => exact cases hblind subject hotherwise true rest h.2
    | breakLoop => exact .pure _
    | continueLoop => exact .pure _

/-! ## Loops -/

/-- What follows an attempt has to pass on the error that the attempt ended with. -/
theorem attempt_bind {β : Type} {action : Render α} {next : Except Error α → Render β}
    (h : Mirrored comparison engine holds rel action)
    (hnext : ∀ ended, Mirrored comparison engine holds rel (next ended))
    (hraised : ∀ error drive state, (next (.error error) drive state).1 = .error (.error error)) :
    Mirrored comparison engine holds rel (attempt action >>= next) where
  keeps := .bind h.keeps.attempt fun ended ↦ (hnext ended).keeps
  twin _ _ _ hinv halike :=
    Twin.attempt_bind h (fun ended ↦ (hnext ended).mono fun _ ↦ trivial) halike hinv rfl
      fun _ error after _ _ _ ↦ hraised error _ after

/-- Closing a scope succeeds or fails in both renders. -/
theorem popScope : Mirrored comparison engine holds (fun _ _ ↦ True) Render.popScope := by
  have hsteady (drive : Drive) (state : RenderState) : ∃ scopes, (Render.popScope drive state).2 =
      { state with context := { state.context with scopes := scopes } } := by
    rw [run_popScope]
    cases state.context.scopes.pop? with
    | none => exact ⟨state.context.scopes, rfl⟩
    | some popped => exact ⟨popped.2, rfl⟩
  refine of_agreed (fun drive before hinv ↦ ?_) (fun drive state ↦ ?_) fun drive left right halike ↦ ?_
  · obtain ⟨scopes, hafter⟩ := hsteady drive before
    refine ⟨?_, ?_, fun _ ↦ trivial⟩
    · rw [hafter]
      exact hinv
    · rw [hafter]
      exact ⟨rfl, List.suffix_rfl, List.suffix_rfl⟩
  · obtain ⟨scopes, hafter⟩ := hsteady drive state
    rw [hafter]
  · rw [run_popScope, run_popScope, halike.scopes]
    cases left.context.scopes.pop? with
    | none => exact ⟨rfl, halike⟩
    | some popped =>
      exact ⟨rfl, halike.modify (fun state ↦ { state with context := { state.context with scopes := popped.2 } })
        (fun _ ↦ rfl) (fun _ ↦ rfl) (fun _ ↦ rfl) halike.output⟩

/-- A change of the context that closes something. -/
theorem closes {change : Context → Context} (hsettings : ∀ context, (change context).settings = context.settings)
    (hregisters : ∀ context, (change context).registers = context.registers)
    (hrecorded : ∀ context, (change context).recorded = context.recorded)
    (hreported : ∀ context, (change context).reported = context.reported)
    (hcore : ∀ context, (change context).core = (change context.core).core) :
    Mirrored comparison engine holds (fun _ _ ↦ True) (modifyContext change) := by
  refine .of_change (fun _ before hinv ↦ ⟨?_, ⟨?_, ?_, ?_⟩, fun _ ↦ trivial⟩) (fun state ↦ ?_) (fun state ↦ ?_)
    (fun state ↦ ?_) (fun _ ↦ rfl) fun state ↦ ?_
  · rw [run_modify, IncludesOnly]
    dsimp only
    rw [hregisters]
    exact hinv
  · exact hsettings before.context
  · exact (hrecorded before.context).symm ▸ List.suffix_rfl
  · exact (hreported before.context).symm ▸ List.suffix_rfl
  · have hmode := congrArg Context.errorMode (hsettings state.context)
    exact hmode
  · exact hregisters state.context
  · exact hreported state.context
  · exact congrArg (fun context ↦ ({ state with context := context, output := .empty } : RenderState))
      (hcore state.context)

theorem eachItem {visit : Nat → Value → Render Flow}
    (h : ∀ index item, Mirrored comparison engine holds rel (visit index item)) :
    ∀ index items, Mirrored comparison engine holds rel (Render.eachItem visit index items)
  | index, [] => by
    rw [Render.eachItem]
    exact .pure _
  | index, item :: rest => by
    rw [Render.eachItem]
    refine .bind (h index item) fun flow ↦ ?_
    cases flow with
    | breakLoop => exact .pure _
    | completed => exact eachItem h (index + 1) rest
    | continueLoop => exact eachItem h (index + 1) rest

/-- What follows the visits of a loop has to pass on the error that ended them. -/
theorem inLoop_bind (objectName : String) (object : Value) {visits : Render Unit} {next : Except Error Unit → Render Flow}
    (h : Mirrored comparison engine holds RestoredAround visits)
    (hnext : ∀ ended, Mirrored comparison engine holds rel (next ended))
    (hraised : ∀ error drive state, (next (.error error) drive state).1 = .error (.error error)) :
    Mirrored comparison engine holds rel (Render.inLoop objectName object visits >>= next) where
  keeps := .bind (.inLoop _ _ h.keeps) fun ended ↦ (hnext ended).keeps
  twin := by
    intro drive left right hinv halike
    have hopened := halike.modify
      (fun state ↦ { state with context := ((state.context.push []).enterLoop).set objectName object })
      (fun _ ↦ rfl) (fun _ ↦ rfl) (fun _ ↦ rfl) halike.output
    unfold Render.inLoop
    simp only [bind_assoc, pure_bind]
    rw [run_bind_ok (run_modifyContext _ drive left), run_bind_ok (run_modifyContext _ drive right)]
    refine Twin.attempt_bind h (fun ended ↦ ?_) hopened hinv rfl fun _ error after _ _ haround ↦ ?_
    · refine .bind (.closes (fun _ ↦ rfl) (fun _ ↦ rfl) (fun _ ↦ rfl) (fun _ ↦ rfl) fun _ ↦ rfl) fun _ ↦ ?_
      exact .bind .popScope fun _ ↦ (hnext ended).mono fun _ ↦ trivial
    · have hscopes : after.context.leaveLoop.scopes = right.context.scopes.push after.context.scopes.top :=
        haround.scopes_eq_push rfl
      rw [run_bind_ok (run_modifyContext _ drive after),
        run_bind_ok (run_popScope_push drive { after with context := after.context.leaveLoop } hscopes)]
      exact hraised error drive _

theorem visitLoop (header : LoopHeader) (items : List Value) {body : Render Flow}
    (h : Mirrored comparison engine holds Restored body) :
    Mirrored comparison engine holds rel (Render.visitLoop header items body) := by
  have hvisit (id index : Nat) (item : Value) : Mirrored comparison engine holds RestoredAround (do
      Render.advance id index
      modifyContext fun context ↦ context.set header.item item
      body) :=
    .bind (.advance id index) fun _ ↦ .bind (.set header.item item) fun _ ↦ h.mono Restored.toRestoredAround
  unfold Render.visitLoop
  refine .bind (.evaluate (.counting fun _ ↦ rfl)) fun parent ↦ .bind (.newObject _) fun made ↦ ?_
  exact .inLoop_bind _ _ (.eachItem (hvisit made.1) 0 items) (fun ended ↦ .bind (.settle ended) fun _ ↦ .pure _)
    fun _ _ _ ↦ rfl

theorem loopOffset {tools : Toolbox} (hblind : tools.IsBlind) (header : LoopHeader) :
    Mirrored comparison engine holds rel (Render.loopOffset tools header) := by
  unfold Render.loopOffset
  split
  · refine .context_bind_of (fun left right halike ↦ ?_) fun _ ↦ .pure _
    rw [halike.places (by decide)]
  · exact .evaluate (hblind.agrees.compositional.offsetArgument _)
  · exact .pure _

theorem loop {tools : Toolbox} (hblind : tools.IsBlind) (header : LoopHeader) {body otherwise : Render Flow}
    (hbody : Mirrored comparison engine holds Restored body)
    (hotherwise : Mirrored comparison engine holds Restored otherwise) :
    Mirrored comparison engine holds Restored (Render.loop tools header body otherwise) := by
  unfold Render.loop
  refine .bind (.evaluate (hblind.agrees.compositional.expr _)) fun collection ↦
    .bind (.loopOffset hblind header) fun offset ↦
    .bind (.evaluate (hblind.agrees.compositional.loopArgument _)) fun limit ↦ ?_
  refine .bind (.setRegister (by decide) fun left right halike ↦ ?_) fun _ ↦
    .ite hotherwise (.visitLoop header _ hbody)
  rw [halike.places (by decide)]

theorem table {tools : Toolbox} (hblind : tools.IsBlind) (header : TableHeader) {body : Render Flow}
    (h : Mirrored comparison engine holds Restored body) :
    Mirrored comparison engine holds rel (Render.table tools header body) := by
  have hargument (argument : Option Expr) : Mirrored comparison engine holds rel
      (Render.evaluate (loopArgument tools argument)) :=
    .evaluate (hblind.agrees.compositional.loopArgument argument)
  unfold Render.table
  refine .bind (.evaluate (hblind.agrees.compositional.expr _)) fun collection ↦
    .bind (.evaluate (hblind.agrees.compositional.offsetArgument _)) fun offset ↦ .bind (hargument _) fun limit ↦
    .bind (hargument _) fun columns ↦ .bind (.newObject _) fun made ↦ .bind (.write _) fun _ ↦ ?_
  refine .inLoop_bind _ _ (.eachItem (fun index item ↦ ?_) 0 _)
    (fun ended ↦ .bind (.write _) fun _ ↦ .bind (.settle ended) fun _ ↦ .pure _) fun _ _ _ ↦ rfl
  refine .bind (.advance _ index) fun _ ↦ .bind (.set header.item item) fun _ ↦ .bind (.write _) fun _ ↦
    .attempt_bind (h.mono Restored.toRestoredAround) (fun ended ↦ ?_) fun error drive state ↦ ?_
  · exact .bind (.write _) fun _ ↦ .ite (.bind (.write _) fun _ ↦ .settle ended) (.settle ended)
  · have hsettled (closesRow : Prop) [Decidable closesRow] (text : String) (closed : RenderState) :
        ((if closesRow then do Render.write text; Render.settle (.error error)
          else Render.settle (.error error) : Render Flow) drive closed).1 = .error (.error error) := by
      split <;> rfl
    rw [run_bind_ok (run_write _ drive state)]
    exact hsettled _ _ _

/-! ## Includes -/

theorem fetch (source : Source) (name : String) :
    Mirrored comparison engine holds rel (Render.fetch source name) := by
  have hread : Mirrored comparison engine holds rel
      (modify fun state ↦ { state with reads := name :: state.reads } : Render PUnit) :=
    .of_change (.of_quiet fun _ before ↦ ⟨before.context.assigned, before.shared, _, rfl⟩) (fun _ ↦ rfl) (fun _ ↦ rfl)
      (fun _ ↦ rfl) (fun _ ↦ rfl) fun _ ↦ rfl
  unfold Render.fetch
  refine .ite (.bind hread fun _ ↦ ?_) ?_
  · exact .bind (.evaluate (.wait _)) fun _ ↦ .ofExcept _
  · exact .bind (.evaluate (.wait _)) fun _ ↦ .ofExcept _

theorem parse (name text : String) : Mirrored comparison engine holds rel (Render.parse engine name text) :=
  .settle _

theorem keepInclude {block : Block} (hblock : AllTags holds block) (path : String) :
    Mirrored comparison engine holds rel
      (modify fun state ↦ { state with includes := state.includes.put path block } : Render PUnit) :=
  .of_change (.keepInclude hblock path) (fun _ ↦ rfl) (fun _ ↦ rfl) (fun _ ↦ rfl) (fun _ ↦ rfl) fun _ ↦ rfl

theorem loadCached {source : Source} (hsource : engine.source = some source) (name : String) :
    Mirrored comparison engine holds rel (Render.loadCached engine source name) := by
  unfold Render.loadCached
  refine .bind (.ofExcept _) fun path ↦ .get_bind (fun _ ↦ rfl) fun state ↦ ?_
  split
  · exact .pure _
  · refine .bind_of (fun text ↦ source.fetch name = .ok text) (.fetch source name)
      (fun _ _ _ _ htext ↦ fetch_eq_ok htext) fun text htext ↦ ?_
    refine .bind_of (AllTags holds) (.parse name text)
      (fun _ _ hinv block hblock ↦ hinv.2 source (.inr hsource) name text block htext (parse_eq_ok hblock))
      fun block hblock ↦ ?_
    exact .bind (.keepInclude hblock path) fun _ ↦ .pure block

theorem load (name : String) : Mirrored comparison engine holds rel (Render.load engine name) := by
  unfold Render.load
  refine .context_bind_of (fun left right halike ↦ ?_) fun context ↦ ?_
  · rw [halike.source?]
  · split
    · exact .bind (.fetch _ name) fun text ↦ .parse name text
    · split
      · next hsource => exact .loadCached hsource name
      · exact .fail _

theorem eachBound {bind : Value → Render Flow} (h : ∀ item, Mirrored comparison engine holds rel (bind item)) :
    ∀ items, Mirrored comparison engine holds rel (Render.eachBound bind items)
  | [] => by
    rw [Render.eachBound]
    exact .pure _
  | item :: rest => by
    rw [Render.eachBound]
    refine .bind (h item) fun flow ↦ ?_
    cases flow with
    | completed => exact eachBound h rest
    | breakLoop => exact .pure _
    | continueLoop => exact .pure _

theorem bound (binding : Option Binding) (name : String) (value : Option Value) {body : Render Flow}
    (h : Mirrored comparison engine holds Restored body) :
    Mirrored comparison engine holds RestoredAround (Render.bound binding name value body) := by
  have haround : Mirrored comparison engine holds RestoredAround body := h.mono Restored.toRestoredAround
  have hbind (value : Value) : Mirrored comparison engine holds RestoredAround (do
      modifyContext fun context ↦ context.set name value
      body) :=
    .bind (.set name value) fun _ ↦ haround
  unfold Render.bound
  split
  · exact .ite (.eachBound hbind _) (hbind _)
  · exact hbind _
  · exact haround

/-- Both renders enter an include or neither does, and both leave it. -/
theorem inInclude (name : String) (frame : Entries String Value) {body : Render Flow}
    (h : Mirrored comparison engine holds RestoredAround body) :
    Mirrored comparison engine holds rel (Render.inInclude name frame body) where
  keeps := .inInclude name frame h.keeps
  twin := by
    intro drive left right hinv halike
    have hopened := halike.modify
      (fun state ↦ { state with context :=
        { state.context.push frame with name := name, depth := state.context.depth + 1 } })
      (fun _ ↦ rfl) (fun _ ↦ rfl) (fun _ ↦ rfl) halike.output
    rw [run_inInclude, run_inInclude]
    by_cases hdeep : left.context.depth ≥ left.context.maxDepth
    · have hdeepRight : right.context.depth ≥ right.context.maxDepth := by
        rw [halike.depth, halike.maxDepth]
        exact hdeep
      rw [if_pos hdeep, if_pos hdeepRight, halike.maxDepth]
      exact .agreed halike fun _ ↦ rfl
    · have hshallowRight : ¬right.context.depth ≥ right.context.maxDepth := by
        rw [halike.depth, halike.maxDepth]
        exact hdeep
      rw [if_neg hdeep, if_neg hshallowRight, halike.name]
      refine Twin.attempt_bind h (fun ended ↦ ?_) hopened hinv rfl fun _ error after _ _ haround ↦ ?_
      · unfold Render.leaveInclude
        refine .bind (.closes (fun _ ↦ rfl) (fun _ ↦ rfl) (fun _ ↦ rfl) (fun _ ↦ rfl) fun _ ↦ rfl) fun _ ↦ ?_
        refine .attempt_bind .popScope (fun popped ↦ ?_) fun _ _ _ ↦ rfl
        refine .bind (.closes (fun _ ↦ rfl) (fun _ ↦ rfl) (fun _ ↦ rfl) (fun _ ↦ rfl) fun _ ↦ rfl) fun _ ↦ ?_
        exact .bind (.settle popped) fun _ ↦ .settle ended
      · have hscopes : after.context.scopes = right.context.scopes.push after.context.scopes.top :=
          haround.scopes_eq_push rfl
        rw [run_leaveInclude hscopes]
        rfl

theorem included (hblind : engine.tools.IsBlind) {deeper : Block → Render Flow}
    (h : ∀ block, AllTags holds block → Mirrored comparison engine holds Restored (deeper block))
    (inclusion : Inclusion) : Mirrored comparison engine holds Restored (Render.included engine deeper inclusion) := by
  unfold Render.included
  refine .bind (.evaluate (hblind.agrees.compositional.templateName _)) fun name ↦
    .bind_of (AllTags holds) (.load name) (fun _ _ hinv _ ↦ load_allTags hinv) fun block hblock ↦ ?_
  refine .bind (.evaluate (hblind.agrees.compositional.boundValue _ _)) fun value ↦
    .bind (.evaluate (hblind.agrees.compositional.attributeFrame _ _)) fun frame ↦ ?_
  exact .inInclude name frame (.bound _ _ value (h block hblock))

/-! ## Trees -/

/-- Every construct of the language keeps two renders together if its parts do. -/
theorem compositional {deeper : Block → Render Flow} (hblind : engine.tools.IsBlind)
    (hbuiltin : ∀ tag, holds tag → tag.IsBuiltin) (hcaptures : ∀ tag, holds tag → tag.IsCapture → comparison.IsStrict)
    (hdeeper : ∀ block, AllTags holds block → Mirrored comparison engine holds Restored (deeper block)) :
    Compositional engine (Render.included engine deeper) holds (Mirrored comparison engine holds Restored) where
  nothing := .pure _
  writes content := .bind (.write content) fun _ ↦ .pure _
  prints markup span := .output hblind markup span
  guards span action h := .guarded span h
  refuses name span action h := .context_bind (fun _ ↦ rfl) fun _ ↦ .ite (.guarded span (.fail _)) h
  inOrder first rest hfirst hrest := by
    refine .bind .checkCancelled fun _ ↦ .bind hfirst fun flow ↦ ?_
    cases flow with
    | completed => exact hrest
    | breakLoop => exact .pure _
    | continueLoop => exact .pure _
  assigns target value :=
    .bind (.evaluate (hblind.agrees.compositional.markup value)) fun _ ↦ .bind (.assign _ _) fun _ ↦ .pure _
  captures target body hholds h :=
    .bind (.captured (hcaptures _ hholds trivial) h) fun _ ↦ .bind (.assign _ _) fun _ ↦ .pure _
  selects subject whens otherwise hwhens hotherwise :=
    .bind (.evaluate (hblind.agrees.compositional.expr subject)) fun value ↦ .cases hblind value hotherwise false whens hwhens
  cycles group values := .cycle hblind group values
  increments name :=
    .bind (.counter name) fun _ ↦ .bind (.write _) fun _ ↦ .bind (.assign _ _) fun _ ↦ .pure _
  decrements name :=
    .bind (.counter name) fun _ ↦ .bind (.write _) fun _ ↦ .bind (.assign _ _) fun _ ↦ .pure _
  repeats header body otherwise hbody hotherwise := .loop hblind header hbody hotherwise
  leaves flow := .context_bind (fun _ ↦ rfl) fun _ ↦ .ite (.pure _) (.pure _)
  decides negated conditions otherwise hconditions hotherwise :=
    .branches hblind hotherwise negated conditions hconditions
  detects body h := .detected h
  includes inclusion := .included hblind hdeeper inclusion
  tabulates header body h := .table hblind header h
  runs registration name markup body hholds _ := (hbuiltin _ hholds).elim

/-- However deep includes may nest, a block keeps two renders together. -/
theorem blockWithin (hblind : engine.tools.IsBlind) (hbuiltin : ∀ tag, holds tag → tag.IsBuiltin)
    (hcaptures : ∀ tag, holds tag → tag.IsCapture → comparison.IsStrict) :
    ∀ (remaining : Nat) (body : Block), AllTags holds body →
      Mirrored comparison engine holds Restored (Render.blockWithin engine remaining body)
  | 0, body, hbody => by
    rw [Render.blockWithin]
    refine (compositional hblind hbuiltin hcaptures fun _ _ ↦ ?_).nodes body hbody
    exact .context_bind (fun _ ↦ rfl) fun _ ↦ .fail _
  | remaining + 1, body, hbody => by
    rw [Render.blockWithin]
    refine (compositional hblind hbuiltin hcaptures fun block hblock ↦ ?_).nodes body hbody
    exact blockWithin hblind hbuiltin hcaptures remaining block hblock

theorem block (hblind : engine.tools.IsBlind) (hbuiltin : ∀ tag, holds tag → tag.IsBuiltin)
    (hcaptures : ∀ tag, holds tag → tag.IsCapture → comparison.IsStrict) {body : Block} (hbody : AllTags holds body) :
    Mirrored comparison engine holds Restored (Render.block engine body) := by
  unfold Render.block
  exact .context_bind (fun _ ↦ rfl) fun context ↦ .blockWithin hblind hbuiltin hcaptures _ body hbody

end Mirrored

end Liquid.Render
