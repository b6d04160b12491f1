import Liquid.Proofs.Evaluation.Composition
import Liquid.Proofs.Render.Restoration

/-!
# Two renders until the first one is lost

Two renders go abreast: they differ at most in whether variables are strict, in what they have recorded, and in what they do
at the nodes. The first one may be lost on the way, by an error that is hopeless or by recording one; what the second one
does from then on does not matter. Whatever the first one does, and lost or not, it treats the token of its
cancellation as it should.
-/

namespace Liquid

/-- What two contexts that go abreast may differ in. -/
structure Aside where
  strict : Bool
  recorded : List Error

namespace Aside

/-- With an error recorded. -/
def record (aside : Aside) (error : Error) : Aside := { aside with recorded := error :: aside.recorded }

/-- With the error of an output of an undefined variable recorded, if variables may be undefined. -/
def recordMissing (aside : Aside) (error : Error) : Aside := if aside.strict then aside else aside.record error

end Aside

/-- Whether variables are strict in a context, and what it has recorded. -/
def Context.aside (context : Context) : Aside := ⟨context.strict, context.recorded⟩

/-- A context without what is aside. -/
def Context.main (context : Context) : Context := { context with strict := false, recorded := [] }

/-- A state without what is aside in its context. -/
def RenderState.main (state : RenderState) : RenderState := { state with context := state.context.main }

/-- Which differences two renders may have, and what the first one is lost by. -/
structure Contrast where
  together : Aside → Aside → Prop
  hopeless : Failure → Prop
  spoiled : List Error → Prop
  /-- What a render may do to the token of its cancellation. -/
  token : Option Bool → Option Bool → Prop
  token_refl : ∀ before, token before before
  token_trans : ∀ {first second third}, token first second → token second third → token first third
  spoiled_suffix : ∀ {recorded more}, spoiled recorded → recorded <:+ more → spoiled more
  hopeless_locate : ∀ {error place}, hopeless (.error error) → hopeless (.error (error.locate place))
  /-- A hopeless error that does not end the render spoils it. -/
  hopeless_record : ∀ {error}, hopeless (.error error) → error.kind.isFatal = true ∨ ∀ recorded, spoiled (error :: recorded)
  together_record : ∀ {left right} (error : Error), together left right →
    spoiled (error :: left.recorded) ∨ together (left.record error) (right.record error)
  together_recordMissing : ∀ {left right} {error : Error}, error.kind = .undefinedError → together left right →
    together (left.recordMissing error) (right.recordMissing error)
  /-- Where only the first render is strict, every failure is hopeless. -/
  together_strict : ∀ {left right}, together left right → right.strict = left.strict ∨
    left.strict = true ∧ ∀ failure, hopeless failure

/-- Contexts that go abreast. -/
structure Context.Abreast (contrast : Contrast) (left right : Context) : Prop where
  main : right.main = left.main
  together : contrast.together left.aside right.aside

theorem Context.Abreast.eq_of_aside {contrast : Contrast} {left right : Context} (h : left.Abreast contrast right)
    (haside : left.aside = right.aside) : right = left := by
  have hsplit (context : Context) :
      context = { context.main with strict := context.aside.strict, recorded := context.aside.recorded } := rfl
  rw [hsplit right, h.main, ← haside]
  rfl

/-! ## Evaluations -/

/-- In contexts that go abreast a filter gives the same result, and it treats the token as it should. -/
structure Filter.Suits (contrast : Contrast) (filter : Filter) : Prop where
  run_eq : ∀ arguments {left right : Context} counts, left.Abreast contrast right →
    filter.run arguments right counts = filter.run arguments left counts
  token : ∀ arguments context counts, contrast.token counts.cancelled (filter.run arguments context counts).2.cancelled

/-- All filters suit a contrast. -/
def Toolbox.Suit (contrast : Contrast) (tools : Toolbox) : Prop :=
  tools.localFilters.All (Filter.Suits contrast) ∧ tools.filters.All (Filter.Suits contrast)

namespace Eval

variable {α β : Type} {contrast : Contrast}

/-- In contexts that go abreast an evaluation is hopeless in the first one, or else it ends alike in both. -/
structure Abreast (contrast : Contrast) (computation : Eval α) : Prop where
  token : ∀ drive context shared,
    contrast.token shared.counts.cancelled (computation drive context shared).2.counts.cancelled
  runs : ∀ drive {left right : Context} shared, left.Abreast contrast right →
    (∃ failure, (computation drive left shared).1 = .error failure ∧ contrast.hopeless failure) ∨
      computation drive right shared = computation drive left shared

namespace Abreast

/-- An evaluation that does not look at what is aside. -/
theorem of_eq {computation : Eval α} (htoken : ∀ drive context shared,
      contrast.token shared.counts.cancelled (computation drive context shared).2.counts.cancelled)
    (hsame : ∀ drive {left right : Context} shared, left.Abreast contrast right →
      computation drive right shared = computation drive left shared) :
    Abreast contrast computation :=
  ⟨htoken, fun drive _ _ shared habreast ↦ .inr (hsame drive shared habreast)⟩

theorem pure (value : α) : Abreast contrast (Pure.pure value : Eval α) :=
  of_eq (fun _ _ _ ↦ contrast.token_refl _) fun _ _ _ _ _ ↦ rfl

theorem fail (fault : Fault) : Abreast contrast (Eval.fail fault : Eval α) :=
  of_eq (fun _ _ _ ↦ contrast.token_refl _) fun _ _ _ _ _ ↦ rfl

theorem wait (times : Nat) : Abreast contrast (Eval.wait times) := by
  refine of_eq (fun drive _ shared ↦ ?_) fun _ _ _ _ _ ↦ rfl
  cases times with
  | zero => exact contrast.token_refl _
  | succ times => cases drive <;> exact contrast.token_refl _

theorem bind {computation : Eval α} {next : α → Eval β} (h : Abreast contrast computation)
    (hnext : ∀ value, Abreast contrast (next value)) : Abreast contrast (computation >>= next) where
  token drive context shared := by
    have hfirst := h.token drive context shared
    rw [run_bind]
    rcases hrun : computation drive context shared with ⟨failure | value, after⟩
    · rw [hrun] at hfirst
      exact hfirst
    · rw [hrun] at hfirst
      exact contrast.token_trans hfirst ((hnext value).token drive context after)
  runs drive left right shared habreast := by
    rw [run_bind, run_bind]
    obtain ⟨failure, hfailed, hhopeless⟩ | hsame := h.runs drive shared habreast
    · rcases hrun : computation drive left shared with ⟨ended, after⟩
      rw [hrun] at hfailed
      obtain rfl : ended = .error failure := hfailed
      exact .inl ⟨failure, rfl, hhopeless⟩
    · rw [hsame]
      rcases computation drive left shared with ⟨failure | value, after⟩
      · exact .inr rfl
      · exact (hnext value).runs drive after habreast

/-- What is done with the context must not look at what is aside. -/
theorem context_bind {next : Context → Eval β} (hmain : ∀ context, next context = next context.main)
    (hnext : ∀ context, Abreast contrast (next context)) : Abreast contrast (Eval.context >>= next) where
  token drive context shared := (hnext context).token drive context shared
  runs drive left right shared habreast := by
    have hsame : next right = next left := by rw [hmain right, habreast.main, ← hmain left]
    change (∃ failure, (next left drive left shared).1 = .error failure ∧ contrast.hopeless failure) ∨
      next right drive right shared = next left drive left shared
    rw [hsame]
    exact (hnext left).runs drive shared habreast

theorem query {explain : Fault → Error} {query : Query α}
    (htoken : ∀ context counts, contrast.token counts.cancelled (query context counts).2.cancelled)
    (hsame : ∀ {left right : Context} counts, left.Abreast contrast right → query right counts = query left counts) :
    Abreast contrast (Eval.query explain query) := by
  refine of_eq (fun drive context shared ↦ ?_) fun drive {left right} shared habreast ↦ ?_
  · rw [run_query]
    exact htoken context shared.counts
  · rw [run_query, run_query, hsame shared.counts habreast]

theorem counting {action : Context → StateM Tallies α} (hmain : ∀ context, action context = action context.main) :
    Abreast contrast (Eval.counting action) := by
  have hrun (context : Context) (counts : Counts) : Query.counting action context counts =
      (.ok (action context counts.tallies).1, { counts with tallies := (action context counts.tallies).2 }) := rfl
  refine .query (fun context counts ↦ contrast.token_refl _) fun {left right} counts habreast ↦ ?_
  rw [hrun, hrun, hmain right, habreast.main, ← hmain left]

/-- Where only the first render is strict, a path that leads nowhere is hopeless. -/
theorem missingPath (name : String) : Abreast contrast (Liquid.missingPath name) := by
  have hrun (drive : Drive) (context : Context) (shared : Shared) : Liquid.missingPath name drive context shared =
      (if context.strict then .error (.error (.of (.undefinedVariable name))) else .ok .undefined, shared) := by
    unfold Liquid.missingPath
    rw [run_bind]
    change (if context.strict = true then Eval.fail _ else Pure.pure _ : Eval Value) drive context shared = _
    split <;> rfl
  refine ⟨fun drive context shared ↦ ?_, fun drive left right shared habreast ↦ ?_⟩
  · rw [hrun]
    exact contrast.token_refl _
  · rw [hrun, hrun]
    obtain hsame | ⟨hstrict, hhopeless⟩ := contrast.together_strict habreast.together
    · rw [show right.strict = left.strict from hsame]
      exact .inr rfl
    · rw [if_pos (show left.strict = true from hstrict)]
      exact .inl ⟨_, rfl, hhopeless _⟩

end Abreast

/-- The evaluations of the language go abreast if the filters suit the contrast. -/
theorem Compositional.abreast {tools : Toolbox} (hsuit : tools.Suit contrast) :
    Compositional tools fun _ computation ↦ Abreast contrast computation where
  pure := .pure
  fail _ := .fail _
  bind := .bind
  context_bind hvisible := .context_bind fun context ↦ by rw [hvisible context, hvisible context.main]; rfl
  counting hvisible := .counting fun context ↦ by rw [hvisible context, hvisible context.main]; rfl
  textOf value := .query (fun _ _ ↦ contrast.token_refl _) fun _ _ ↦ rfl
  wait := .wait
  converts name result := by
    refine .query (fun _ _ ↦ ?_) fun _ _ ↦ rfl
    cases result <;> exact contrast.token_refl _
  calls hchosen arguments := by
    have hfilter : Filter.Suits contrast _ := Toolbox.filter_holds hsuit.1 hsuit.2 hchosen
    exact .query (hfilter.token arguments) fun counts habreast ↦ hfilter.run_eq arguments counts habreast
  misses := .missingPath

end Eval

/-! ## Renders -/

namespace Render

open Template

variable {α β : Type} {contrast : Contrast} {engine : Engine} {holds : Tag → Prop}

/-- States that go abreast. -/
structure Abreast (contrast : Contrast) (left right : RenderState) : Prop where
  main : right.main = left.main
  together : contrast.together left.context.aside right.context.aside

/-- A render is lost by a hopeless failure or by what it has recorded. -/
def Lost (contrast : Contrast) (ended : Except Failure α × RenderState) : Prop :=
  (∃ failure, ended.1 = .error failure ∧ contrast.hopeless failure) ∨ contrast.spoiled ended.2.context.recorded

/-- How two renders end that began abreast: alike and abreast, unless the first one is lost. -/
inductive EndAbreast (contrast : Contrast) : Except Failure α × RenderState → Except Failure α × RenderState → Prop where
  | abreast {ended : Except Failure α} {left right : RenderState} (habreast : Abreast contrast left right) :
      EndAbreast contrast (ended, left) (ended, right)
  | lost {left right : Except Failure α × RenderState} (hlost : Lost contrast left) : EndAbreast contrast left right

theorem EndAbreast.lost_or_abreast {left right : Except Failure α × RenderState} (h : EndAbreast contrast left right) :
    Lost contrast left ∨ right.1 = left.1 ∧ Abreast contrast left.2 right.2 := by
  cases h with
  | abreast habreast => exact .inr ⟨rfl, habreast⟩
  | lost hlost => exact .inl hlost

/-- Two actions that go abreast: the first one keeps what built-in tags keep and treats the token as it should, and both end
alike unless the first one is lost. -/
structure Alongside (contrast : Contrast) (engine : Engine) (holds : Tag → Prop) (rel : RenderState → RenderState → Prop)
    (action action' : Render α) : Prop where
  keeps : Keeps (IncludesOnly engine holds) rel action
  token : ∀ drive state, IncludesOnly engine holds state →
    contrast.token state.shared.counts.cancelled (action drive state).2.shared.counts.cancelled
  ends : ∀ drive left right, IncludesOnly engine holds left → Abreast contrast left right →
    EndAbreast contrast (action drive left) (action' drive right)

namespace Abreast

variable {left right : RenderState}

theorem context (h : Abreast contrast left right) : left.context.Abreast contrast right.context :=
  ⟨congrArg RenderState.context h.main, h.together⟩

theorem errorMode (h : Abreast contrast left right) : right.context.errorMode = left.context.errorMode := by
  have hmode := congrArg Context.errorMode h.context.main
  exact hmode

theorem name (h : Abreast contrast left right) : right.context.name = left.context.name := by
  have hname := congrArg Context.name h.context.main
  exact hname

theorem scopes (h : Abreast contrast left right) : right.context.scopes = left.context.scopes := by
  have hscopes := congrArg Context.scopes h.context.main
  exact hscopes

theorem depth (h : Abreast contrast left right) : right.context.depth = left.context.depth := by
  have hdepth := congrArg Context.depth h.context.main
  exact hdepth

theorem maxDepth (h : Abreast contrast left right) : right.context.maxDepth = left.context.maxDepth := by
  have hmaxDepth := congrArg Context.maxDepth h.context.main
  exact hmaxDepth

theorem shared (h : Abreast contrast left right) : right.shared = left.shared := by
  have hshared := congrArg RenderState.shared h.main
  exact hshared

theorem output (h : Abreast contrast left right) : right.output = left.output := by
  have houtput := congrArg RenderState.output h.main
  exact houtput

/-- A change that neither looks at what is aside nor touches it keeps two states abreast. -/
theorem modify (h : Abreast contrast left right) (change : RenderState → RenderState)
    (haside : ∀ state, (change state).context.aside = state.context.aside)
    (hmain : ∀ state, (change state).main = (change state.main).main) :
    Abreast contrast (change left) (change right) where
  main := by rw [hmain right, h.main, ← hmain left]
  together := by
    rw [haside, haside]
    exact h.together

end Abreast

/-- A lost render stays lost, whatever it still does. -/
theorem Lost.of_steady {before : RenderState} {ended : Except Failure α × RenderState}
    (hspoiled : contrast.spoiled before.context.recorded) (hsteady : Steady before ended.2) : Lost contrast ended :=
  .inr (contrast.spoiled_suffix hspoiled hsteady.recorded)

/-- A failure that is passed on is as lost as before. -/
theorem Lost.passed {failure : Failure} {after : RenderState}
    (h : Lost contrast ((.error failure, after) : Except Failure α × RenderState)) :
    Lost contrast ((.error failure, after) : Except Failure β × RenderState) := by
  obtain ⟨_, hfailed, hhopeless⟩ | hspoiled := h
  · obtain rfl := Except.error.inj hfailed
    exact .inl ⟨failure, rfl, hhopeless⟩
  · exact .inr hspoiled

theorem Lost.bind_pure {action : Render α} {drive : Drive} {state : RenderState} (h : Lost contrast (action drive state))
    (value : β) : Lost contrast ((do let _ ← action; return value : Render β) drive state) := by
  rw [run_bind]
  rcases hrun : action drive state with ⟨failure | given, after⟩
  · rw [hrun] at h
    exact h.passed
  · rw [hrun] at h
    obtain ⟨_, hfailed, -⟩ | hspoiled := h
    · cases hfailed
    · exact .inr hspoiled

namespace Alongside

variable {rel : RenderState → RenderState → Prop}

/-- An action that leaves the token and what is aside alone. -/
theorem of_agreed {action : Render α} (hkeeps : Keeps (IncludesOnly engine holds) rel action)
    (htoken : ∀ drive state, (action drive state).2.shared.counts.cancelled = state.shared.counts.cancelled)
    (hagreed : ∀ drive left right, Abreast contrast left right → (action drive right).1 = (action drive left).1 ∧
      Abreast contrast (action drive left).2 (action drive right).2) :
    Alongside contrast engine holds rel action action where
  keeps := hkeeps
  token drive state _ := by
    rw [htoken]
    exact contrast.token_refl _
  ends drive left right _ habreast := by
    obtain ⟨hended, hafter⟩ := hagreed drive left right habreast
    rcases hrunLeft : action drive left with ⟨leftEnded, leftAfter⟩
    rcases hrunRight : action drive right with ⟨rightEnded, rightAfter⟩
    rw [hrunLeft, hrunRight] at hended hafter
    obtain rfl : rightEnded = leftEnded := hended
    exact .abreast hafter

/-- A change that leaves the token and what is aside alone. -/
theorem of_change {change : RenderState → RenderState}
    (hkeeps : Keeps (IncludesOnly engine holds) rel (modify change : Render PUnit))
    (htoken : ∀ state, (change state).shared.counts.cancelled = state.shared.counts.cancelled)
    (haside : ∀ state, (change state).context.aside = state.context.aside)
    (hmain : ∀ state, (change state).main = (change state.main).main) :
    Alongside contrast engine holds rel (modify change : Render PUnit) (modify change) :=
  of_agreed hkeeps (fun _ state ↦ htoken state) fun _ _ _ habreast ↦ ⟨rfl, habreast.modify change haside hmain⟩

theorem pure [Frame rel] (value : α) : Alongside contrast engine holds rel (Pure.pure value : Render α) (Pure.pure value) :=
  of_agreed (.pure value) (fun _ _ ↦ rfl) fun _ _ _ h ↦ ⟨rfl, h⟩

theorem raise [Frame rel] (error : Error) :
    Alongside contrast engine holds rel (Render.raise error : Render α) (Render.raise error) :=
  of_agreed (.raise error) (fun _ _ ↦ rfl) fun _ _ _ h ↦ ⟨rfl, h⟩

theorem fail [Frame rel] (fault : Fault) :
    Alongside contrast engine holds rel (Render.fail fault : Render α) (Render.fail fault) :=
  raise _

theorem settle [Frame rel] (ended : Except Error α) :
    Alongside contrast engine holds rel (Render.settle ended) (Render.settle ended) := by
  cases ended with
  | ok value => exact .pure value
  | error error => exact .raise error

theorem ofExcept [Frame rel] (result : Except Fault α) :
    Alongside contrast engine holds rel (Render.ofExcept result) (Render.ofExcept result) := by
  cases result with
  | ok value => exact .pure value
  | error fault => exact .fail fault

theorem ite [Frame rel] {condition : Prop} [Decidable condition] {first second first' second' : Render α}
    (hfirst : Alongside contrast engine holds rel first first')
    (hsecond : Alongside contrast engine holds rel second second') :
    Alongside contrast engine holds rel (if condition then first else second) (if condition then first' else second') := by
  split
  · exact hfirst
  · exact hsecond

theorem mono {weaker : RenderState → RenderState → Prop} {action action' : Render α}
    (h : Alongside contrast engine holds rel action action')
    (himp : ∀ {before after}, rel before after → weaker before after) :
    Alongside contrast engine holds weaker action action' :=
  ⟨h.keeps.mono himp, h.token, h.ends⟩

/-- What the first action gives in the first render may be used by the next one. -/
theorem bind_of [Frame rel] (given : α → Prop) {action action' : Render α} {next next' : α → Render β}
    (haction : Alongside contrast engine holds rel action action')
    (hgiven : ∀ drive before, IncludesOnly engine holds before → ∀ value,
      (action drive before).1 = .ok value → given value)
    (hnext : ∀ value, given value → Alongside contrast engine holds rel (next value) (next' value)) :
    Alongside contrast engine holds rel (action >>= next) (action' >>= next') where
  keeps := haction.keeps.bind_of given hgiven fun value hvalue ↦ (hnext value hvalue).keeps
  token drive state hinv := by
    have hkept := haction.keeps drive state hinv
    have hvalue := hgiven drive state hinv
    have hfirst := haction.token drive state hinv
    rw [run_bind]
    rcases hrun : action drive state with ⟨failure | value, after⟩
    · rw [hrun] at hfirst
      exact hfirst
    · rw [hrun] at hkept hvalue hfirst
      exact contrast.token_trans hfirst ((hnext value (hvalue value rfl)).token drive after hkept.inv)
  ends drive left right hinv habreast := by
    have hkept := haction.keeps drive left hinv
    have hvalue := hgiven drive left hinv
    have hends := haction.ends drive left right hinv habreast
    rw [run_bind, run_bind]
    rcases hrunLeft : action drive left with ⟨leftEnded, leftAfter⟩
    rcases hrunRight : action' drive right with ⟨rightEnded, rightAfter⟩
    rw [hrunLeft] at hkept hvalue hends
    rw [hrunRight] at hends
    cases hends with
    | abreast hafter =>
      cases leftEnded with
      | error failure => exact .abreast hafter
      | ok value => exact (hnext value (hvalue value rfl)).ends drive leftAfter rightAfter hkept.inv hafter
    | lost hlost =>
      cases leftEnded with
      | error failure => exact .lost hlost.passed
      | ok value =>
        obtain ⟨_, hfailed, -⟩ | hspoiled := hlost
        · cases hfailed
        · exact .lost (.of_steady hspoiled ((hnext value (hvalue value rfl)).keeps drive leftAfter hkept.inv).steady)

theorem bind [Frame rel] {action action' : Render α} {next next' : α → Render β}
    (haction : Alongside contrast engine holds rel action action')
    (hnext : ∀ value, Alongside contrast engine holds rel (next value) (next' value)) :
    Alongside contrast engine holds rel (action >>= next) (action' >>= next') :=
  haction.bind_of (fun _ ↦ True) (fun _ _ _ _ _ ↦ trivial) fun value _ ↦ hnext value

/-- What is done with the state must not depend on what is aside. -/
theorem get_bind [Frame rel] {next next' : RenderState → Render β} (hmain : ∀ state, next' state = next' state.main)
    (hnext : ∀ state, Alongside contrast engine holds rel (next state) (next' state)) :
    Alongside contrast engine holds rel (MonadState.get >>= next) (MonadState.get >>= next') where
  keeps := .bind .get fun state ↦ (hnext state).keeps
  token drive state hinv := by
    rw [run_bind_ok (run_get drive state)]
    exact (hnext state).token drive state hinv
  ends drive left right hinv habreast := by
    have hsame : next' right = next' left := by rw [hmain right, habreast.main, ← hmain left]
    rw [run_bind_ok (run_get drive left), run_bind_ok (run_get drive right), hsame]
    exact (hnext left).ends drive left right hinv habreast

/-- What is done with the context must not depend on what is aside. -/
theorem context_bind [Frame rel] {next next' : Context → Render β} (hmain : ∀ context, next' context = next' context.main)
    (hnext : ∀ context, Alongside contrast engine holds rel (next context) (next' context)) :
    Alongside contrast engine holds rel (Render.context >>= next) (Render.context >>= next') :=
  .get_bind (fun state ↦ hmain state.context) fun state ↦ hnext state.context

/-! ## Attempts -/

variable {inner : RenderState → RenderState → Prop} {body body' : Render α} {closing closing' : Except Error α → Render β}

/-- An attempt with what follows it treats the token as its parts do. -/
theorem token_attempt_bind (hbody : Alongside contrast engine holds inner body body')
    (hclosing : ∀ ended, Alongside contrast engine holds (fun _ _ ↦ True) (closing ended) (closing' ended)) (drive : Drive)
    (state : RenderState) (hinv : IncludesOnly engine holds state) :
    contrast.token state.shared.counts.cancelled
      ((Render.attempt body >>= closing) drive state).2.shared.counts.cancelled := by
  have hkept := hbody.keeps drive state hinv
  have hfirst := hbody.token drive state hinv
  rw [run_attempt_bind]
  rcases hrun : body drive state with ⟨(error | _) | value, after⟩
  · rw [hrun] at hkept hfirst
    exact contrast.token_trans hfirst ((hclosing (.error error)).token drive after hkept.inv)
  · rw [hrun] at hfirst
    exact hfirst
  · rw [hrun] at hkept hfirst
    exact contrast.token_trans hfirst ((hclosing (.ok value)).token drive after hkept.inv)

/-- What follows an attempt is reached by both renders in the same way unless the first one has been lost in it. If it has
been lost by an error, what follows must not make up for that. -/
theorem ends_attempt_bind (hbody : Alongside contrast engine holds inner body body')
    (hclosing : ∀ ended, Alongside contrast engine holds (fun _ _ ↦ True) (closing ended) (closing' ended))
    {drive : Drive} {left right : RenderState} (hinv : IncludesOnly engine holds left)
    (habreast : Abreast contrast left right)
    (hpasses : ∀ error after, contrast.hopeless (.error error) → inner left after →
      Lost contrast (closing (.error error) drive after)) :
    EndAbreast contrast ((Render.attempt body >>= closing) drive left) ((Render.attempt body' >>= closing') drive right) := by
  have hkept := hbody.keeps drive left hinv
  have hends := hbody.ends drive left right hinv habreast
  rw [run_attempt_bind, run_attempt_bind]
  rcases hrunLeft : body drive left with ⟨leftEnded, leftAfter⟩
  rcases hrunRight : body' drive right with ⟨rightEnded, rightAfter⟩
  rw [hrunLeft] at hkept hends
  rw [hrunRight] at hends
  have hstays (ended : Except Error α) (hspoiled : contrast.spoiled leftAfter.context.recorded) :
      Lost contrast (closing ended drive leftAfter) :=
    .of_steady hspoiled ((hclosing ended).keeps drive leftAfter hkept.inv).steady
  cases hends with
  | abreast hafter =>
    rcases leftEnded with (error | _) | value
    · exact (hclosing (.error error)).ends drive leftAfter rightAfter hkept.inv hafter
    · exact .abreast hafter
    · exact (hclosing (.ok value)).ends drive leftAfter rightAfter hkept.inv hafter
  | lost hlost =>
    rcases leftEnded with (error | _) | value
    · obtain ⟨failure, hfailed, hhopeless⟩ | hspoiled := hlost
      · obtain rfl := Except.error.inj hfailed
        exact .lost (hpasses error leftAfter hhopeless (hkept.related (.error error)))
      · exact .lost (hstays (.error error) hspoiled)
    · exact .lost hlost.passed
    · obtain ⟨failure, hfailed, -⟩ | hspoiled := hlost
      · cases hfailed
      · exact .lost (hstays (.ok value) hspoiled)

/-- What follows an attempt must not make up for an error by which the first render has been lost. -/
theorem attempt_bind [Frame rel] (hbody : Alongside contrast engine holds rel body body')
    (hclosing : ∀ ended, Alongside contrast engine holds rel (closing ended) (closing' ended))
    (hpasses : ∀ error drive after, contrast.hopeless (.error error) →
      Lost contrast (closing (.error error) drive after)) :
    Alongside contrast engine holds rel (Render.attempt body >>= closing) (Render.attempt body' >>= closing') where
  keeps := .bind hbody.keeps.attempt fun ended ↦ (hclosing ended).keeps
  token := token_attempt_bind hbody fun ended ↦ (hclosing ended).mono fun _ ↦ trivial
  ends drive _ _ hinv habreast :=
    ends_attempt_bind hbody (fun ended ↦ (hclosing ended).mono fun _ ↦ trivial) hinv habreast
      fun error after hhopeless _ ↦ hpasses error drive after hhopeless

end Alongside

end Render

end Liquid
