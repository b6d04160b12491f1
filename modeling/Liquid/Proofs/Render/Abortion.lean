import Liquid.Proofs.Render.Restoration

/-!
# Fatal errors end a render

A node that fails reports its error. If the error is of a fatal kind, it leaves the node again, and every construct around
the node closes what it has opened and passes the error on. So a fatal error that was reported is the one that the render
ends with, in every error mode.
-/

namespace Liquid.Render

open Template

/-- No fatal error has been reported. -/
def Calm (state : RenderState) : Prop :=
  ∀ error ∈ state.context.reported, error.kind.isFatal = false

/-- Every fatal error that has been reported has a place and is the one that the run ended with. -/
def Aborted {α : Type} (run : Except Failure α × RenderState) : Prop :=
  ∀ error ∈ run.2.context.reported, error.kind.isFatal = true →
    run.1 = .error (.error error) ∧ error.location.isSome = true

/-- Besides what it keeps, an action ends with the fatal error that is reported in it. -/
structure Aborts {α : Type} (engine : Engine) (holds : Tag → Prop) (rel : RenderState → RenderState → Prop)
    (action : Render α) : Prop where
  keeps : Keeps (IncludesOnly engine holds) rel action
  aborts : ∀ drive state, IncludesOnly engine holds state → Calm state → Aborted (action drive state)

variable {α β : Type} {engine : Engine} {holds : Tag → Prop} {rel : RenderState → RenderState → Prop}

/-- Where no fatal error has been reported, a run may have ended in any way. -/
theorem Calm.aborted {state : RenderState} (h : Calm state) (ended : Except Failure α) : Aborted (ended, state) := by
  intro error herror hfatal
  rw [h error herror] at hfatal
  cases hfatal

/-- An action that does not fail leaves no fatal error behind. -/
theorem Aborted.calm {value : α} {after : RenderState} (h : Aborted (.ok value, after)) : Calm after := by
  intro error herror
  cases hfatal : error.kind.isFatal with
  | false => rfl
  | true => cases (h error herror hfatal).1

/-- What else is done without reporting anything passes on the error of the run. -/
theorem Aborted.pass {failure : Failure} {after later : RenderState} {ended : Except Failure β}
    (h : Aborted ((.error failure : Except Failure α), after)) (hreported : later.context.reported = after.context.reported)
    (hended : ended = .error failure) : Aborted (ended, later) := by
  intro error herror hfatal
  dsimp only at herror ⊢
  rw [hreported] at herror
  obtain ⟨hsame, hplaced⟩ := h error herror hfatal
  rw [hended, Except.error.inj hsame]
  exact ⟨rfl, hplaced⟩

/-! ## Loading leaves the context alone -/

/-- Actions that leave the context alone do so one after the other. -/
theorem bind_context {action : Render α} {next : α → Render β}
    (h : ∀ drive state, (action drive state).2.context = state.context)
    (hnext : ∀ value drive state, (next value drive state).2.context = state.context) (drive : Drive)
    (state : RenderState) : ((action >>= next) drive state).2.context = state.context := by
  have hfirst := h drive state
  rw [run_bind]
  rcases hrun : action drive state with ⟨failure | value, after⟩
  · rw [hrun] at hfirst
    exact hfirst
  · rw [hrun] at hfirst
    exact (hnext value drive after).trans hfirst

theorem fetch_context (source : Source) (name : String) (drive : Drive) (state : RenderState) :
    (fetch source name drive state).2.context = state.context := by
  have hfetched (drive : Drive) (state : RenderState) : ((do
      Render.evaluate (Eval.wait (source.waits name))
      ofExcept (source.fetch name)) drive state).2.context = state.context :=
    bind_context (fun _ _ ↦ by rw [run_evaluate]) (fun _ _ _ ↦ by rw [run_ofExcept]) drive state
  unfold fetch
  split
  · exact bind_context (fun _ _ ↦ rfl) (fun _ ↦ hfetched) drive state
  · exact hfetched drive state

theorem load_context (name : String) (drive : Drive) (state : RenderState) :
    (load engine name drive state).2.context = state.context := by
  have hparsed (text : String) (drive : Drive) (state : RenderState) :
      (parse engine name text drive state).2.context = state.context := by rw [parse, run_settle]
  have hcached (source : Source) (drive : Drive) (state : RenderState) :
      (loadCached engine source name drive state).2.context = state.context := by
    unfold loadCached
    refine bind_context (fun _ _ ↦ by rw [run_ofExcept]) (fun path ↦
      bind_context (fun _ _ ↦ rfl) fun known drive state ↦ ?_) drive state
    cases Entries.find? path known.includes with
    | some block => rfl
    | none =>
      exact bind_context (fetch_context source name) (fun text ↦ bind_context (hparsed text) fun _ _ _ ↦ rfl) drive state
  unfold load
  refine bind_context (fun _ _ ↦ rfl) (fun context drive state ↦ ?_) drive state
  cases context.registers.source? Registers.sourceKey with
  | some source => exact bind_context (fetch_context source name) hparsed drive state
  | none =>
    cases engine.source with
    | some source => exact hcached source drive state
    | none => rfl

namespace Aborts

/-! ## Combining actions -/

/-- An action that reports nothing. -/
theorem of_silent {action : Render α} (hkeeps : Keeps (IncludesOnly engine holds) rel action)
    (hsilent : ∀ drive state, (action drive state).2.context.reported = state.context.reported) :
    Aborts engine holds rel action where
  keeps := hkeeps
  aborts := by
    intro drive state _ hcalm
    have hafter : Calm (action drive state).2 := by
      intro error herror
      rw [hsilent] at herror
      exact hcalm error herror
    exact hafter.aborted _

theorem mono {weaker : RenderState → RenderState → Prop} {action : Render α} (h : Aborts engine holds rel action)
    (himp : ∀ {before after}, rel before after → weaker before after) : Aborts engine holds weaker action :=
  ⟨h.keeps.mono himp, h.aborts⟩

variable [Frame rel]

theorem pure (value : α) : Aborts engine holds rel (Pure.pure value : Render α) := of_silent (.pure value) fun _ _ ↦ rfl

theorem fail (fault : Fault) : Aborts engine holds rel (Render.fail fault : Render α) :=
  of_silent (.fail fault) fun _ _ ↦ rfl

theorem settle (ended : Except Error α) : Aborts engine holds rel (Render.settle ended) :=
  of_silent (.settle ended) fun _ _ ↦ by rw [run_settle]

theorem context : Aborts engine holds rel Render.context := of_silent .context fun _ _ ↦ rfl

theorem evaluate (computation : Eval α) : Aborts engine holds rel (Render.evaluate computation) :=
  of_silent (.evaluate computation) fun _ _ ↦ by rw [run_evaluate]

theorem write (text : String) : Aborts engine holds rel (Render.write text) := of_silent (.write text) fun _ _ ↦ rfl

omit [Frame rel] in
theorem ite {condition : Prop} [Decidable condition] {first second : Render α}
    (hfirst : Aborts engine holds rel first) (hsecond : Aborts engine holds rel second) :
    Aborts engine holds rel (if condition then first else second) := by
  split
  · exact hfirst
  · exact hsecond

/-- Behind an action that ended with a fatal error nothing is run. -/
theorem bind_of (given : α → Prop) {action : Render α} {next : α → Render β} (h : Aborts engine holds rel action)
    (hgiven : ∀ drive before, IncludesOnly engine holds before → ∀ value,
      (action drive before).1 = .ok value → given value)
    (hnext : ∀ value, given value → Aborts engine holds rel (next value)) :
    Aborts engine holds rel (action >>= next) where
  keeps := h.keeps.bind_of given hgiven fun value hvalue ↦ (hnext value hvalue).keeps
  aborts := by
    intro drive state hinv hcalm
    have hkept := h.keeps drive state hinv
    have hvalue := hgiven drive state hinv
    have haborted := h.aborts drive state hinv hcalm
    rw [run_bind]
    rcases hrun : action drive state with ⟨failure | value, after⟩
    · rw [hrun] at haborted
      exact haborted.pass rfl rfl
    · rw [hrun] at hkept hvalue haborted
      exact (hnext value (hvalue value rfl)).aborts drive after hkept.inv haborted.calm

theorem bind {action : Render α} {next : α → Render β} (h : Aborts engine holds rel action)
    (hnext : ∀ value, Aborts engine holds rel (next value)) : Aborts engine holds rel (action >>= next) :=
  h.bind_of (fun _ ↦ True) (fun _ _ _ _ _ ↦ trivial) fun value _ ↦ hnext value

/-- What follows an attempt has to pass on the fatal error that the attempt ended with. -/
theorem attempt_aborted {inner : RenderState → RenderState → Prop} {body : Render α}
    {closing : Except Error α → Render β} {drive : Drive} {opened : RenderState} (hbody : Aborts engine holds inner body)
    (hinv : IncludesOnly engine holds opened) (hcalm : Calm opened)
    (hcloses : ∀ ended after, IncludesOnly engine holds after → Calm after → Aborted (closing ended drive after))
    (hpasses : ∀ error after, error.kind.isFatal = true → error.location.isSome = true → inner opened after →
      Aborted ((.error (.error error) : Except Failure α), after) → Aborted (closing (.error error) drive after)) :
    Aborted ((attempt body >>= closing) drive opened) := by
  have hkept := hbody.keeps drive opened hinv
  have haborted := hbody.aborts drive opened hinv hcalm
  rw [run_attempt_bind]
  rcases hrun : body drive opened with ⟨(error | _) | value, after⟩
  · rw [hrun] at hkept haborted
    by_cases hafter : Calm after
    · exact hcloses _ _ hkept.inv hafter
    · obtain ⟨reported, hreported, hfatal⟩ : ∃ reported ∈ after.context.reported, reported.kind.isFatal = true := by
        simpa [Calm] using hafter
      obtain ⟨hended, hplaced⟩ := haborted reported hreported hfatal
      cases hended
      exact hpasses _ _ hfatal hplaced (hkept.related (.error _)) haborted
  · rw [hrun] at haborted
    exact haborted.pass rfl rfl
  · rw [hrun] at hkept haborted
    exact hcloses _ _ hkept.inv haborted.calm

/-- What follows an attempt may report nothing and pass on every error. -/
theorem attempt_aborted_of_silent {inner : RenderState → RenderState → Prop} {body : Render α}
    {closing : Except Error α → Render β} {drive : Drive} {opened : RenderState} (hbody : Aborts engine holds inner body)
    (hinv : IncludesOnly engine holds opened) (hcalm : Calm opened)
    (hsilent : ∀ ended after, (closing ended drive after).2.context.reported = after.context.reported)
    (hraised : ∀ error after, inner opened after → (closing (.error error) drive after).1 = .error (.error error)) :
    Aborted ((attempt body >>= closing) drive opened) := by
  refine attempt_aborted hbody hinv hcalm (fun ended after _ hafter ↦ ?_) fun error after _ _ hinner haborted ↦ ?_
  · have hlater : Calm (closing ended drive after).2 := by
      intro error herror
      rw [hsilent] at herror
      exact hafter error herror
    exact hlater.aborted _
  · exact haborted.pass (hsilent _ _) (hraised error after hinner)

/-- An error with a place is reported once more or for the first time, and ends the node if it is fatal. -/
theorem report_aborted {error : Error} {after : RenderState} (drive : Drive) (hplaced : error.location.isSome = true)
    (hothers : ∀ other ∈ after.context.reported, other.kind.isFatal = true → other = error) :
    Aborted ((do Render.report error; return Flow.completed) drive after) := by
  have hnoted : ∀ other ∈ error :: after.context.reported, other.kind.isFatal = true → other = error :=
    List.forall_mem_cons.2 ⟨fun _ ↦ rfl, hothers⟩
  rw [run_bind, run_report]
  dsimp only
  cases hfatal : error.kind.isFatal with
  | true =>
    rw [if_pos rfl]
    intro other hother hotherFatal
    obtain rfl := hnoted other hother hotherFatal
    exact ⟨rfl, hplaced⟩
  | false =>
    have hcalm (later : RenderState) (hreported : later.context.reported = error :: after.context.reported) :
        Calm later := by
      intro other hother
      rw [hreported] at hother
      cases hotherFatal : other.kind.isFatal with
      | false => rfl
      | true =>
        rw [hnoted other hother hotherFatal, hfatal] at hotherFatal
        cases hotherFatal
    rw [if_neg Bool.false_ne_true]
    cases after.context.errorMode with
    | rethrow => exact (hcalm _ rfl).aborted _
    | display => exact (hcalm _ rfl).aborted _
    | suppress => exact (hcalm _ rfl).aborted _

theorem guarded (span : Span) {action : Render Flow} (h : Aborts engine holds rel action) :
    Aborts engine holds rel (Render.guarded span action) where
  keeps := h.keeps.guarded span
  aborts := by
    intro drive state hinv hcalm
    refine attempt_aborted h hinv hcalm (fun ended after _ hafter ↦ ?_) fun error after hfatal hplaced _ haborted ↦ ?_
    · cases ended with
      | ok flow => exact hafter.aborted _
      | error error =>
        refine report_aborted drive (Error.isSome_location_locate _ _) fun other hother hfatal ↦ ?_
        rw [hafter other hother] at hfatal
        cases hfatal
    · dsimp only
      rw [run_bind_ok (run_located error span drive after), Error.locate_of_isSome hplaced]
      refine report_aborted drive hplaced fun other hother hotherFatal ↦ ?_
      have hsame := (haborted other hother hotherFatal).1
      cases hsame
      rfl

theorem assign (name : String) (value : Value) :
    Aborts engine holds rel (modifyContext fun context ↦ context.assign name value) :=
  of_silent (.assign name value) fun _ _ ↦ rfl

theorem setRegister {key : String} (hkey : key ≠ Registers.sourceKey) (register : Context → Register) :
    Aborts engine holds rel (modifyContext fun context ↦ context.setRegister key (register context)) :=
  of_silent (.setRegister hkey register) fun _ _ ↦ rfl

theorem checkCancelled : Aborts engine holds rel Render.checkCancelled := by
  refine of_silent .checkCancelled fun drive state ↦ ?_
  rw [run_checkCancelled]

theorem output (tools : Toolbox) (markup : Markup) (span : Span) :
    Aborts engine holds rel (Render.output tools markup span) := by
  have hprinted (value : Value) : Aborts engine holds rel (do
      let state ← MonadState.get
      Render.write (state.context.formatValue state.shared.counts.tallies value)
      return Flow.completed) :=
    of_silent (.bind .get fun _ ↦ .bind (.write _) fun _ ↦ .pure _) fun _ _ ↦ rfl
  unfold Render.output
  refine .bind (.evaluate _) fun value ↦ .bind .context fun context ↦ .ite ?_ (hprinted value)
  exact .bind (of_silent (.located _ span) fun _ _ ↦ rfl) fun error ↦
    .bind (of_silent (.record error) fun _ _ ↦ rfl) fun _ ↦ hprinted value

theorem cycle (tools : Toolbox) (group : Option Expr) (values : List Expr) :
    Aborts engine holds rel (Render.cycle tools group values) := by
  unfold Render.cycle
  refine .ite (.pure _) ?_
  refine .bind (.evaluate _) fun key ↦ .bind .context fun context ↦ ?_
  refine .bind (.setRegister (by decide) fun _ ↦ _) fun _ ↦ ?_
  split
  · exact .pure _
  · refine .bind (.evaluate _) fun _ ↦ of_silent ?_ fun _ _ ↦ rfl
    exact .bind .get fun _ ↦ .bind (.write _) fun _ ↦ .pure _

/-! ## Captures and branches -/

theorem captured {body : Render Flow} (h : Aborts engine holds Restored body) :
    Aborts engine holds rel (Render.captured body) where
  keeps := .captured h.keeps
  aborts := by
    intro drive state hinv hcalm
    unfold Render.captured
    rw [run_bind_ok (run_modifyOutput _ drive state)]
    refine attempt_aborted_of_silent h hinv hcalm (fun ended after ↦ ?_) fun error after _ ↦ rfl
    cases ended <;> rfl

theorem ifChanged (text : String) : Aborts engine holds rel (Render.ifChanged text) :=
  of_silent (.ifChanged text) fun drive state ↦ by
    rw [run_ifChanged]
    rfl

theorem branches (tools : Toolbox) {otherwise : Render Flow} (hotherwise : Aborts engine holds rel otherwise) :
    ∀ (negated : Bool) (conditions : List (Condition × Render Flow)),
      (∀ branch ∈ conditions, Aborts engine holds rel branch.2) →
        Aborts engine holds rel (Render.branches tools otherwise negated conditions)
  | negated, [], _ => by
    rw [Render.branches]
    exact hotherwise
  | negated, (condition, body) :: rest, h => by
    rw [List.forall_mem_cons] at h
    rw [Render.branches]
    exact .bind (.evaluate _) fun _ ↦ .ite h.1 (branches tools hotherwise false rest h.2)

theorem cases (tools : Toolbox) (subject : Value) {otherwise : Render Flow}
    (hotherwise : Aborts engine holds rel otherwise) :
    ∀ (matched : Bool) (whens : List (List Expr × Render Flow)),
      (∀ branch ∈ whens, Aborts engine holds rel branch.2) →
        Aborts engine holds rel (Render.cases tools subject otherwise matched whens)
  | matched, [], _ => by
    rw [Render.cases]
    exact .ite (.pure _) hotherwise
  | matched, (values, body) :: rest, h => by
    rw [List.forall_mem_cons] at h
    rw [Render.cases]
    refine .bind (.evaluate _) fun _ ↦ .ite (.bind h.1 fun flow ↦ ?_) (cases tools subject hotherwise matched rest h.2)
    cases flow with
    | completed => exact cases tools subject hotherwise true rest h.2
    | breakLoop => exact .pure _
    | continueLoop => exact .pure _

/-! ## Loops -/

theorem eachItem {visit : Nat → Value → Render Flow} (h : ∀ index item, Aborts engine holds rel (visit index item)) :
    ∀ index items, Aborts engine holds rel (Render.eachItem visit index items)
  | index, [] => by
    rw [Render.eachItem]
    exact .pure _
  | index, item :: rest => by
    rw [Render.eachItem]
    refine .bind (h index item) fun flow ↦ ?_
    cases flow with
    | breakLoop => exact .pure _
    | completed => exact eachItem h (index + 1) rest
    | continueLoop => exact eachItem h (index + 1) rest

/-- The scope of a loop is closed behind a fatal error. -/
theorem inLoop_bind (objectName : String) (object : Value) {visits : Render Unit} {next : Except Error Unit → Render Flow}
    (h : Aborts engine holds RestoredAround visits) (hnext : ∀ ended, Keeps (IncludesOnly engine holds) rel (next ended))
    (hsilent : ∀ ended drive state, (next ended drive state).2.context.reported = state.context.reported)
    (hraised : ∀ error drive state, (next (.error error) drive state).1 = .error (.error error)) :
    Aborts engine holds rel (Render.inLoop objectName object visits >>= next) where
  keeps := .bind (.inLoop _ _ h.keeps) hnext
  aborts := by
    intro drive state hinv hcalm
    unfold Render.inLoop
    simp only [bind_assoc, pure_bind]
    rw [run_bind_ok (run_modifyContext _ drive state)]
    refine attempt_aborted_of_silent h hinv hcalm (fun ended after ↦ ?_) fun error after haround ↦ ?_
    · rw [run_bind_ok (run_modifyContext _ drive after), run_bind, run_popScope]
      cases after.context.leaveLoop.scopes.pop? with
      | none => rfl
      | some popped => exact hsilent ended drive _
    · have hscopes : after.context.leaveLoop.scopes = state.context.scopes.push after.context.scopes.top :=
        haround.scopes_eq_push rfl
      rw [run_bind_ok (run_modifyContext _ drive after),
        run_bind_ok (run_popScope_push drive { after with context := after.context.leaveLoop } hscopes)]
      exact hraised error drive _

/-- What is done for an item of a loop. -/
theorem visit {id index : Nat} {name : String} {item : Value} {body : Render Flow}
    (h : Aborts engine holds RestoredAround body) :
    Aborts engine holds RestoredAround (do
      Render.advance id index
      modifyContext fun context ↦ context.set name item
      body) :=
  .bind (of_silent (.advance id index) fun _ _ ↦ rfl) fun _ ↦ .bind (of_silent (.set name item) fun _ _ ↦ rfl) fun _ ↦ h

theorem visitLoop (header : LoopHeader) (items : List Value) {body : Render Flow}
    (h : Aborts engine holds Restored body) : Aborts engine holds rel (Render.visitLoop header items body) := by
  unfold Render.visitLoop
  refine .bind (.evaluate _) fun parent ↦ .bind (of_silent (.newObject _) fun _ _ ↦ rfl) fun made ↦
    .inLoop_bind _ _ (.eachItem (fun index item ↦ .visit (h.mono Restored.toRestoredAround)) 0 items)
      (fun ended ↦ .bind (.settle ended) fun _ ↦ .pure _) (fun ended drive state ↦ ?_) fun _ _ _ ↦ rfl
  cases ended <;> rfl

theorem loop (tools : Toolbox) (header : LoopHeader) {body otherwise : Render Flow}
    (hbody : Aborts engine holds Restored body) (hotherwise : Aborts engine holds Restored otherwise) :
    Aborts engine holds Restored (Render.loop tools header body otherwise) := by
  have hoffset : Aborts engine holds Restored (Render.loopOffset tools header) := by
    unfold Render.loopOffset
    split
    · exact .bind .context fun _ ↦ .pure _
    · exact .evaluate _
    · exact .pure _
  unfold Render.loop
  refine .bind (.evaluate _) fun collection ↦ .bind hoffset fun offset ↦ .bind (.evaluate _) fun limit ↦
    .bind (.setRegister (by decide) fun _ ↦ _) fun _ ↦ .ite hotherwise ?_
  exact .visitLoop header _ hbody

/-- The cell of a table is closed behind a fatal error, and its row if need be. -/
theorem cell {closesRow : Prop} [Decidable closesRow] {row : String} {body : Render Flow}
    (h : Aborts engine holds RestoredAround body) :
    Aborts engine holds RestoredAround (do
      let ended ← attempt body
      Render.write "</td>"
      if closesRow then Render.write row
      Render.settle ended) where
  keeps := .bind h.keeps.attempt fun ended ↦ .bind (.write _) fun _ ↦
    .ite (.bind (.write _) fun _ ↦ .settle ended) (.settle ended)
  aborts := by
    intro drive state hinv hcalm
    refine attempt_aborted_of_silent h hinv hcalm (fun ended after ↦ ?_) fun error after _ ↦ ?_
    · by_cases hcloses : closesRow
      · simp only [if_pos hcloses, run_bind, run_write, run_settle]
      · simp only [if_neg hcloses, run_bind, run_write, run_settle]
    · by_cases hcloses : closesRow
      · simp only [if_pos hcloses, run_bind, run_write]
        rfl
      · simp only [if_neg hcloses, run_bind, run_write]
        rfl

theorem table (tools : Toolbox) (header : TableHeader) {body : Render Flow} (h : Aborts engine holds Restored body) :
    Aborts engine holds rel (Render.table tools header body) := by
  unfold Render.table
  refine .bind (.evaluate _) fun collection ↦ .bind (.evaluate _) fun offset ↦ .bind (.evaluate _) fun limit ↦
    .bind (.evaluate _) fun columns ↦ .bind (of_silent (.newObject _) fun _ _ ↦ rfl) fun made ↦
    .bind (.write _) fun _ ↦ ?_
  refine .inLoop_bind _ _ (.eachItem (fun index item ↦ .visit (.bind (.write _) fun _ ↦ ?_)) 0 _)
    (fun ended ↦ .bind (.write _) fun _ ↦ .bind (.settle ended) fun _ ↦ .pure _) (fun ended drive state ↦ ?_)
    fun _ _ _ ↦ rfl
  · exact .cell (h.mono Restored.toRestoredAround)
  · cases ended <;> rfl

/-! ## Includes -/

theorem eachBound {bind : Value → Render Flow} (h : ∀ item, Aborts engine holds rel (bind item)) :
    ∀ items, Aborts engine holds rel (Render.eachBound bind items)
  | [] => by
    rw [Render.eachBound]
    exact .pure _
  | item :: rest => by
    rw [Render.eachBound]
    refine .bind (h item) fun flow ↦ ?_
    cases flow with
    | completed => exact eachBound h rest
    | breakLoop => exact .pure _
    | continueLoop => exact .pure _

theorem bound (binding : Option Binding) (name : String) (value : Option Value) {body : Render Flow}
    (h : Aborts engine holds Restored body) :
    Aborts engine holds RestoredAround (Render.bound binding name value body) := by
  have haround : Aborts engine holds RestoredAround body := h.mono Restored.toRestoredAround
  have hbind (value : Value) : Aborts engine holds RestoredAround (do
      modifyContext fun context ↦ context.set name value
      body) :=
    .bind (of_silent (.set name value) fun _ _ ↦ rfl) fun _ ↦ haround
  unfold Render.bound
  split
  · exact .ite (.eachBound hbind _) (hbind _)
  · exact hbind _
  · exact haround

/-- An include is left behind a fatal error. -/
theorem inInclude (name : String) (frame : Entries String Value) {body : Render Flow}
    (h : Aborts engine holds RestoredAround body) :
    Aborts engine holds rel (Render.inInclude name frame body) where
  keeps := .inInclude name frame h.keeps
  aborts := by
    intro drive state hinv hcalm
    rw [run_inInclude]
    split
    · exact hcalm.aborted _
    · refine attempt_aborted_of_silent h hinv hcalm (fun ended after ↦ ?_) fun error after haround ↦ ?_
      · rw [run_leaveInclude_pop]
        cases after.context.scopes.pop? <;> rfl
      · have hscopes : after.context.scopes = state.context.scopes.push after.context.scopes.top :=
          haround.scopes_eq_push rfl
        rw [run_leaveInclude hscopes]
        rfl

theorem included {deeper : Block → Render Flow}
    (h : ∀ block, AllTags holds block → Aborts engine holds Restored (deeper block)) (inclusion : Inclusion) :
    Aborts engine holds Restored (Render.included engine deeper inclusion) := by
  unfold Render.included
  refine .bind (.evaluate _) fun name ↦ .bind_of (AllTags holds)
    (of_silent (.load name) fun drive state ↦ by rw [load_context]) (fun _ _ hinv _ ↦ load_allTags hinv) fun block hblock ↦ ?_
  refine .bind (.evaluate _) fun value ↦ .bind (.evaluate _) fun frame ↦ ?_
  exact .inInclude name frame (.bound _ _ value (h block hblock))

/-- Every construct of the language ends with a fatal error if its parts do. -/
theorem compositional {deeper : Block → Render Flow} (hbuiltin : ∀ tag, holds tag → tag.IsBuiltin)
    (hdeeper : ∀ block, AllTags holds block → Aborts engine holds Restored (deeper block)) :
    Compositional engine (Render.included engine deeper) holds (Aborts engine holds Restored) where
  nothing := .pure _
  writes content := .bind (.write content) fun _ ↦ .pure _
  prints markup span := .output _ markup span
  guards span action h := .guarded span h
  refuses name span action h := .bind .context fun _ ↦ .ite (.guarded span (.fail _)) h
  inOrder first rest hfirst hrest := by
    refine .bind .checkCancelled fun _ ↦ .bind hfirst fun flow ↦ ?_
    cases flow with
    | completed => exact hrest
    | breakLoop => exact .pure _
    | continueLoop => exact .pure _
  assigns target value := .bind (.evaluate _) fun _ ↦ .bind (.assign _ _) fun _ ↦ .pure _
  captures target body _ h := .bind (.captured h) fun _ ↦ .bind (.assign _ _) fun _ ↦ .pure _
  selects subject whens otherwise hwhens hotherwise :=
    .bind (.evaluate _) fun value ↦ .cases _ value hotherwise false whens hwhens
  cycles group values := .cycle _ group values
  increments name :=
    .bind (of_silent (.counter name) fun _ _ ↦ rfl) fun _ ↦ .bind (.write _) fun _ ↦ .bind (.assign _ _) fun _ ↦ .pure _
  decrements name :=
    .bind (of_silent (.counter name) fun _ _ ↦ rfl) fun _ ↦ .bind (.write _) fun _ ↦ .bind (.assign _ _) fun _ ↦ .pure _
  repeats header body otherwise hbody hotherwise := .loop _ header hbody hotherwise
  leaves flow := .bind .context fun _ ↦ .ite (.pure _) (.pure _)
  decides negated conditions otherwise hconditions hotherwise := .branches _ hotherwise negated conditions hconditions
  detects body h := .bind (.captured h) fun _ ↦ .bind (.ifChanged _) fun _ ↦ .pure _
  includes inclusion := .included hdeeper inclusion
  tabulates header body h := .table _ header h
  runs registration name markup body hholds _ := (hbuiltin _ hholds).elim

/-- However deep includes may nest, a fatal error ends the render of a block. -/
theorem blockWithin (hbuiltin : ∀ tag, holds tag → tag.IsBuiltin) :
    ∀ (remaining : Nat) (body : Block), AllTags holds body →
      Aborts engine holds Restored (Render.blockWithin engine remaining body)
  | 0, body, hbody => by
    rw [Render.blockWithin]
    exact (compositional hbuiltin fun _ _ ↦ .bind .context fun _ ↦ .fail _).nodes body hbody
  | remaining + 1, body, hbody => by
    rw [Render.blockWithin]
    exact (compositional hbuiltin fun block hblock ↦ blockWithin hbuiltin remaining block hblock).nodes body hbody

theorem block (hbuiltin : ∀ tag, holds tag → tag.IsBuiltin) {body : Block} (hbody : AllTags holds body) :
    Aborts engine holds Restored (Render.block engine body) := by
  unfold Render.block
  exact .bind .context fun context ↦ .blockWithin hbuiltin _ body hbody

end Aborts

end Liquid.Render
