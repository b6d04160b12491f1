import Liquid.Proofs.Evaluation.Agreement
import Liquid.Proofs.Render.Run

/-!
# Coupled renders

Two renders go side by side in lockstep. Of their states they share the variables, the output and what objects have
counted. The rest, their marks, are only related: the disabled tags, the errors that were recorded and reported, the source
in the registers, the trees that are kept and how often they had to wait. A coupling says how, and that what both renders
do alike keeps their marks related. The second render may lack some tags that the first one refuses.
-/

namespace Liquid

/-- What two coupled renders need not share. Their depths are among it so that a coupling can follow them. -/
structure Marks where
  disabled : List String
  errorMode : ErrorMode
  depth : Nat
  maxDepth : Nat
  recorded : List Error
  reported : List Error
  /-- The source in the registers. -/
  source? : Option Source
  suspensions : Nat
  includes : Entries String Block
  reads : List String

/-- The marks of a state. -/
def RenderState.marks (state : RenderState) : Marks where
  disabled := state.context.disabled
  errorMode := state.context.errorMode
  depth := state.context.depth
  maxDepth := state.context.maxDepth
  recorded := state.context.recorded
  reported := state.context.reported
  source? := state.context.registers.source? Registers.sourceKey
  suspensions := state.shared.suspensions
  includes := state.includes
  reads := state.reads

/-- A change of the context that neither looks at marks nor touches them. -/
structure Context.IsPlain (change : Context → Context) : Prop where
  unmarked : ∀ context, (change context).unmarked = change context.unmarked
  marks : ∀ state : RenderState, RenderState.marks { state with context := change state.context } = state.marks

namespace Context.IsPlain

theorem set (name : String) (value : Value) : IsPlain fun context ↦ context.set name value :=
  ⟨fun _ ↦ rfl, fun _ ↦ rfl⟩

theorem assign (name : String) (value : Value) : IsPlain fun context ↦ context.assign name value :=
  ⟨fun _ ↦ rfl, fun _ ↦ rfl⟩

theorem rename (name : String) : IsPlain fun context ↦ { context with name := name } :=
  ⟨fun _ ↦ rfl, fun _ ↦ rfl⟩

theorem setScopes (scopes : Scopes) : IsPlain fun context ↦ { context with scopes := scopes } :=
  ⟨fun _ ↦ rfl, fun _ ↦ rfl⟩

theorem leaveLoop : IsPlain leaveLoop := ⟨fun _ ↦ rfl, fun _ ↦ rfl⟩

/-- A register other than that of the source may be set to what does not depend on marks. -/
theorem setRegister {key : String} (hkey : key ≠ Registers.sourceKey) {register : Context → Register}
    (hregister : ∀ context, register context = register context.unmarked) :
    IsPlain fun context ↦ context.setRegister key (register context) := by
  constructor
  · intro context
    have hput : Entries.erase Registers.sourceKey (Entries.put key (register context) context.registers) =
        Entries.put key (register context.unmarked) (Entries.erase Registers.sourceKey context.registers) := by
      rw [Entries.erase_put_of_ne hkey, hregister]
    exact congrArg (fun registers ↦ ({ context.unmarked with registers := registers } : Context)) hput
  · intro state
    have hsource : Entries.find? Registers.sourceKey (Entries.put key (register state.context) state.context.registers) =
        Entries.find? Registers.sourceKey state.context.registers := Entries.find?_put_of_ne hkey _ _
    simp only [RenderState.marks, Context.setRegister, Registers.source?, hsource]

end Context.IsPlain

/-- The places in a register other than that of the source are no mark. -/
theorem Context.places_unmarked (context : Context) {key : String} (hkey : key ≠ Registers.sourceKey) :
    context.unmarked.registers.places key = context.registers.places key := by
  have hfound : Entries.find? key (Entries.erase Registers.sourceKey context.registers) =
      Entries.find? key context.registers := by
    rw [Entries.find?_erase, if_neg (Ne.symm hkey)]
  simp only [Context.unmarked, Registers.places, hfound]

/-- The text in a register other than that of the source is no mark. -/
theorem Context.text?_unmarked (context : Context) {key : String} (hkey : key ≠ Registers.sourceKey) :
    context.unmarked.registers.text? key = context.registers.text? key := by
  have hfound : Entries.find? key (Entries.erase Registers.sourceKey context.registers) =
      Entries.find? key context.registers := by
    rw [Entries.find?_erase, if_neg (Ne.symm hkey)]
  simp only [Context.unmarked, Registers.text?, hfound]

/-- How two renders go side by side. -/
structure Coupling extends Viewpoint where
  /-- How the marks of the two renders are related at a level of nested includes. -/
  rel : Nat → Marks → Marks → Prop
  /-- How the two renders may be driven. -/
  drives : Drive → Prop
  /-- The names of the tags that the second render lacks and the first one refuses. -/
  removed : List String
  unmarked_eq : ∀ {left right}, alike left right → right.unmarked = left.unmarked
  /-- What is done alike to alike contexts keeps them alike. -/
  alike_change : ∀ change : Context → Context,
    (∀ {left right}, right.unmarked = left.unmarked → (change right).unmarked = (change left).unmarked) →
      ∀ {left right}, alike left right → alike (change left) (change right)
  rel_wait : ∀ {level left right}, rel level left right → ∀ times,
    rel level { left with suspensions := left.suspensions + times }
      { right with suspensions := right.suspensions + times }
  rel_report : ∀ {level left right}, rel level left right → ∀ {error : Error}, raises error.kind →
    rel level { left with reported := error :: left.reported } { right with reported := error :: right.reported }
  rel_record : ∀ {level left right}, rel level left right → ∀ {error : Error}, raises error.kind →
    rel level { left with recorded := error :: left.recorded } { right with recorded := error :: right.recorded }
  rel_enter : ∀ {level left right}, rel level left right → left.depth < left.maxDepth →
    rel (level + 1) { left with depth := left.depth + 1 } { right with depth := right.depth + 1 }
  rel_leave : ∀ {level left right}, rel (level + 1) left right →
    rel level { left with depth := left.depth - 1 } { right with depth := right.depth - 1 }
  /-- A tag that is not removed is refused by both renders or by neither. -/
  refuses : ∀ {level left right}, rel level left right → ∀ {name}, name ∉ removed →
    right.disabled.contains name = left.disabled.contains name ∧
      (left.disabled.contains name = true → raises .disabledTag)
  /-- A tag that is removed is refused by the first render, which suppresses the error. -/
  loses : ∀ {level left right}, rel level left right → ∀ {name}, name ∈ removed →
    left.disabled.contains name = true ∧ left.errorMode = .suppress ∧
      ∀ {error : Error}, error.kind = .disabledTag →
        rel level { left with reported := error :: left.reported, recorded := error :: left.recorded } right
  alike_lose : ∀ {left right}, alike left right → ∀ {name}, name ∈ removed → ∀ error,
    alike ((left.noteReported error).record error) right
  uncancelled : ∀ {counts}, meets counts → ∀ {name}, name ∈ removed → counts.cancelled ≠ some true

namespace Viewpoint

variable {view : Viewpoint}

/-- Where no tag is removed none is lost, -/
theorem alike_lose_nil {left right : Context} (_ : view.alike left right) {name : String}
    (hname : name ∈ ([] : List String)) (error : Error) : view.alike ((left.noteReported error).record error) right :=
  (List.not_mem_nil hname).elim

/-- and renders may be cancelled. -/
theorem uncancelled_nil {counts : Counts} (_ : view.meets counts) {name : String} (hname : name ∈ ([] : List String)) :
    counts.cancelled ≠ some true :=
  (List.not_mem_nil hname).elim

end Viewpoint

namespace Render

/-- The states of two renders that go side by side. -/
structure Coupled (coupling : Coupling) (level : Nat) (left right : RenderState) : Prop where
  alike : coupling.alike left.context right.context
  output : right.output = left.output
  shared : coupling.Level left.shared right.shared
  marks : coupling.rel level left.marks right.marks

/-- Two coupled renders ended alike, with related results or with the same error. -/
inductive Met {α β : Type} (coupling : Coupling) (level : Nat) (given : α → β → Prop) :
    Except Failure α × RenderState → Except Failure β × RenderState → Prop where
  | value {first : α} {second : β} {left right : RenderState} (hgiven : given first second)
      (hcoupled : Coupled coupling level left right) : Met coupling level given (.ok first, left) (.ok second, right)
  | error {error : Error} {left right : RenderState} (hraised : coupling.raises error.kind)
      (hcoupled : Coupled coupling level left right) :
      Met coupling level given (.error (.error error), left) (.error (.error error), right)
  /-- They would both have had to wait, perhaps within includes. -/
  | suspended {inner : Nat} {left right : RenderState} (hcoupled : Coupled coupling inner left right) :
      Met coupling level given (.error .suspended, left) (.error .suspended, right)

/-- From coupled states two actions end alike. -/
def Paired {α β : Type} (coupling : Coupling) (level : Nat) (given : α → β → Prop) (first : Render α)
    (second : Render β) : Prop :=
  ∀ drive left right, coupling.drives drive → Coupled coupling level left right →
    Met coupling level given (first drive left) (second drive right)

variable {α β γ δ : Type} {coupling : Coupling} {level : Nat} {given : α → β → Prop} {last : γ → δ → Prop}

/-- Renders that ended alike ended in the same way, and their states are still coupled. -/
theorem Met.ended {left right : Except Failure α × RenderState} (h : Met coupling level Eq left right) :
    right.1 = left.1 ∧ ∃ inner, Coupled coupling inner left.2 right.2 := by
  cases h with
  | value hgiven hcoupled => exact ⟨congrArg Except.ok hgiven.symm, level, hcoupled⟩
  | error _ hcoupled => exact ⟨rfl, level, hcoupled⟩
  | suspended hcoupled => exact ⟨rfl, _, hcoupled⟩

namespace Coupled

variable {left right : RenderState}

theorem unmarked (h : Coupled coupling level left right) : right.context.unmarked = left.context.unmarked :=
  coupling.unmarked_eq h.alike

theorem change (h : Coupled coupling level left right) {change : Context → Context} (hplain : Context.IsPlain change) :
    Coupled coupling level { left with context := change left.context }
      { right with context := change right.context } where
  alike := by
    refine coupling.alike_change change (fun hunmarked ↦ ?_) h.alike
    rw [hplain.unmarked, hplain.unmarked, hunmarked]
  output := h.output
  shared := h.shared
  marks := by
    rw [hplain.marks left, hplain.marks right]
    exact h.marks

theorem changeOutput (h : Coupled coupling level left right) (change : Output → Output) :
    Coupled coupling level { left with output := change left.output } { right with output := change right.output } :=
  ⟨h.alike, congrArg change h.output, h.shared, h.marks⟩

theorem counted (h : Coupled coupling level left right) (change : Tallies → Tallies) :
    Coupled coupling level { left with shared.counts.tallies := change left.shared.counts.tallies }
      { right with shared.counts.tallies := change right.shared.counts.tallies } where
  alike := h.alike
  output := h.output
  shared := by
    refine ⟨?_, coupling.meets_tallies h.shared.met _, h.shared.nextObject⟩
    dsimp only
    rw [h.shared.counts]
  marks := h.marks

/-- One level down. -/
theorem deeper (h : Coupled coupling level left right) (hshallow : left.context.depth < left.context.maxDepth) :
    Coupled coupling (level + 1) { left with context := { left.context with depth := left.context.depth + 1 } }
      { right with context := { right.context with depth := right.context.depth + 1 } } where
  alike := coupling.alike_change (fun context ↦ { context with depth := context.depth + 1 })
    (fun hunmarked ↦ congrArg (fun context ↦ { context with depth := context.depth + 1 }) hunmarked) h.alike
  output := h.output
  shared := h.shared
  marks := coupling.rel_enter h.marks hshallow

/-- One level up. -/
theorem higher (h : Coupled coupling (level + 1) left right) :
    Coupled coupling level { left with context := left.context.leave } { right with context := right.context.leave } where
  alike := coupling.alike_change Context.leave (fun hunmarked ↦ congrArg Context.leave hunmarked) h.alike
  output := h.output
  shared := h.shared
  marks := coupling.rel_leave h.marks

theorem noted (h : Coupled coupling level left right) {error : Error} (hraised : coupling.raises error.kind) :
    Coupled coupling level { left with context := left.context.noteReported error }
      { right with context := right.context.noteReported error } where
  alike := coupling.alike_change (fun context ↦ context.noteReported error) id h.alike
  output := h.output
  shared := h.shared
  marks := coupling.rel_report h.marks hraised

theorem recorded (h : Coupled coupling level left right) {error : Error} (hraised : coupling.raises error.kind) :
    Coupled coupling level { left with context := left.context.record error }
      { right with context := right.context.record error } where
  alike := coupling.alike_change (fun context ↦ context.record error) id h.alike
  output := h.output
  shared := h.shared
  marks := coupling.rel_record h.marks hraised

end Coupled

namespace Paired

/-! ## Combining actions -/

theorem pure {first : α} {second : β} (h : given first second) :
    Paired coupling level given (Pure.pure first) (Pure.pure second) :=
  fun _ _ _ _ hcoupled ↦ .value h hcoupled

/-- Both renders do the same without a result to relate. -/
theorem same (value : α) : Paired coupling level Eq (Pure.pure value : Render α) (Pure.pure value) := .pure rfl

theorem raise {error : Error} (h : coupling.raises error.kind) :
    Paired coupling level given (Render.raise error : Render α) (Render.raise error : Render β) :=
  fun _ _ _ _ hcoupled ↦ .error h hcoupled

theorem fail {fault : Fault} (h : fault.kind ≠ .disabledTag) :
    Paired coupling level given (Render.fail fault : Render α) (Render.fail fault : Render β) :=
  .raise (coupling.raises_of_ne h)

/-- Related results go on alike. -/
theorem bind {first : Render α} {second : Render β} {next : α → Render γ} {next' : β → Render δ}
    (h : Paired coupling level given first second)
    (hnext : ∀ value value', given value value' → Paired coupling level last (next value) (next' value')) :
    Paired coupling level last (first >>= next) (second >>= next') := by
  intro drive left right hdrive hcoupled
  have hmet := h drive left right hdrive hcoupled
  rw [run_bind, run_bind]
  rcases hleft : first drive left with ⟨leftEnd, leftAfter⟩
  rcases hright : second drive right with ⟨rightEnd, rightAfter⟩
  rw [hleft, hright] at hmet
  cases hmet with
  | value hgiven hafter => exact hnext _ _ hgiven drive leftAfter rightAfter hdrive hafter
  | error hraised hafter => exact .error hraised hafter
  | suspended hafter => exact .suspended hafter

/-- Equal results go on alike. -/
theorem bind_eq {first second : Render α} {next : α → Render γ} {next' : α → Render δ}
    (h : Paired coupling level Eq first second)
    (hnext : ∀ value, Paired coupling level last (next value) (next' value)) :
    Paired coupling level last (first >>= next) (second >>= next') :=
  h.bind fun value value' hvalue ↦ by
    rw [← hvalue]
    exact hnext value

theorem ite {condition : Prop} [Decidable condition] {first first' : Render α} {second second' : Render β}
    (hfirst : Paired coupling level given first second) (hsecond : Paired coupling level given first' second') :
    Paired coupling level given (if condition then first else first') (if condition then second else second') := by
  split
  · exact hfirst
  · exact hsecond

/-- An attempt gives equal results, or the error that both actions ended with. -/
theorem attempt {first second : Render α} (h : Paired coupling level Eq first second) :
    Paired coupling level
      (fun ended ended' ↦ ended = ended' ∧ ∀ error, ended = .error error → coupling.raises error.kind)
      (Render.attempt first) (Render.attempt second) := by
  intro drive left right hdrive hcoupled
  have hmet := h drive left right hdrive hcoupled
  rw [run_attempt, run_attempt]
  rcases hleft : first drive left with ⟨leftEnd, leftAfter⟩
  rcases hright : second drive right with ⟨rightEnd, rightAfter⟩
  rw [hleft, hright] at hmet
  cases hmet with
  | value hgiven hafter => exact .value ⟨congrArg _ hgiven, nofun⟩ hafter
  | error hraised hafter =>
    refine .value ⟨rfl, fun error herror ↦ ?_⟩ hafter
    obtain rfl := Except.error.inj herror
    exact hraised
  | suspended hafter => exact .suspended hafter

/-- What follows an attempt goes on alike, whether it gave a result or failed. -/
theorem attempt_bind {first second : Render α} {next : Except Error α → Render γ} {next' : Except Error α → Render δ}
    (h : Paired coupling level Eq first second)
    (hnext : ∀ ended, (∀ error, ended = .error error → coupling.raises error.kind) →
      Paired coupling level last (next ended) (next' ended)) :
    Paired coupling level last (Render.attempt first >>= next) (Render.attempt second >>= next') :=
  h.attempt.bind fun ended ended' hended ↦ by
    rw [← hended.1]
    exact hnext ended hended.2

theorem settle {ended : Except Error α} (h : ∀ error, ended = .error error → coupling.raises error.kind) :
    Paired coupling level Eq (Render.settle ended) (Render.settle ended) := by
  cases ended with
  | ok value => exact .same value
  | error error => exact .raise (h error rfl)

/-- What is done with the context must not look at marks. -/
theorem context_bind {next : Context → Render γ} {next' : Context → Render δ}
    (hunmarked : ∀ context, next' context = next' context.unmarked)
    (hnext : ∀ context, Paired coupling level last (next context) (next' context)) :
    Paired coupling level last (Render.context >>= next) (Render.context >>= next') := by
  intro drive left right hdrive hcoupled
  have hsame : next' right.context = next' left.context := by
    rw [hunmarked right.context, hcoupled.unmarked, ← hunmarked left.context]
  rw [run_bind_ok (run_context drive left), run_bind_ok (run_context drive right), hsame]
  exact hnext left.context drive left right hdrive hcoupled

/-! ## Basic actions -/

theorem modifyContext {change : Context → Context} (h : Context.IsPlain change) :
    Paired coupling level Eq (Render.modifyContext change) (Render.modifyContext change) :=
  fun _ _ _ _ hcoupled ↦ .value rfl (hcoupled.change h)

theorem modifyOutput (change : Output → Output) :
    Paired coupling level Eq (Render.modifyOutput change) (Render.modifyOutput change) :=
  fun _ _ _ _ hcoupled ↦ .value rfl (hcoupled.changeOutput change)

theorem write (text : String) : Paired coupling level Eq (Render.write text) (Render.write text) :=
  .modifyOutput fun output ↦ output.write text

theorem endCapture : Paired coupling level Eq Render.endCapture Render.endCapture := by
  intro drive left right _ hcoupled
  rw [run_endCapture, run_endCapture, hcoupled.output]
  exact .value rfl ⟨hcoupled.alike, rfl, hcoupled.shared, hcoupled.marks⟩

theorem evaluate {computation : Eval α} (h : computation.Agrees coupling.toViewpoint) :
    Paired coupling level Eq (Render.evaluate computation) (Render.evaluate computation) := by
  intro drive left right _ hcoupled
  obtain ⟨hresult, hraised, hlevel, times, hwaited, hwaited'⟩ := h drive hcoupled.alike hcoupled.shared
  rw [run_evaluate, run_evaluate, hresult]
  have hafter : Coupled coupling level
      { left with shared := (computation drive left.context left.shared).2 }
      { right with shared := (computation drive right.context right.shared).2 } := by
    refine ⟨hcoupled.alike, hcoupled.output, hlevel, ?_⟩
    have hmarks := coupling.rel_wait hcoupled.marks times
    simpa only [RenderState.marks, hwaited, hwaited'] using hmarks
  rcases hended : (computation drive left.context left.shared).1 with (error | _) | value
  · exact .error (hraised error hended) hafter
  · exact .suspended hafter
  · exact .value rfl hafter

theorem newObject (object : Object) :
    Paired coupling level Eq (Render.newObject object) (Render.newObject object) := by
  have hrun (drive : Drive) (state : RenderState) : Render.newObject object drive state =
      (.ok (state.shared.nextObject, .object state.shared.nextObject object),
        { state with shared := { state.shared with nextObject := state.shared.nextObject + 1 } }) := rfl
  intro drive left right _ hcoupled
  rw [hrun, hrun, hcoupled.shared.nextObject]
  refine .value rfl ⟨hcoupled.alike, hcoupled.output, ⟨hcoupled.shared.counts, hcoupled.shared.met, ?_⟩, hcoupled.marks⟩
  rfl

theorem advance (id index : Nat) :
    Paired coupling level Eq (Render.advance id index) (Render.advance id index) :=
  fun _ _ _ _ hcoupled ↦ .value rfl (hcoupled.counted (Entries.put id index))

theorem checkCancelled : Paired coupling level Eq Render.checkCancelled Render.checkCancelled := by
  intro drive left right _ hcoupled
  rw [run_checkCancelled, run_checkCancelled, hcoupled.shared.counts]
  split
  · exact .error (coupling.raises_of_ne nofun) hcoupled
  · exact .value rfl hcoupled

/-- Both renders format a value alike. -/
theorem writeValue (value : Value) {flow : Flow} :
    Paired coupling level Eq
      (do
        let state ← get
        Render.write (state.context.formatValue state.shared.counts.tallies value)
        return flow)
      (do
        let state ← get
        Render.write (state.context.formatValue state.shared.counts.tallies value)
        return flow) := by
  intro drive left right hdrive hcoupled
  have hformat : right.context.formatValue right.shared.counts.tallies value =
      left.context.formatValue left.shared.counts.tallies value := by
    change right.context.unmarked.formatValue _ value = left.context.unmarked.formatValue _ value
    rw [hcoupled.unmarked, hcoupled.shared.counts]
  rw [run_bind_ok (run_get drive left), run_bind_ok (run_get drive right), hformat]
  exact (bind_eq (write _) fun _ ↦ same flow) drive left right hdrive hcoupled

theorem popScope : Paired coupling level Eq Render.popScope Render.popScope := by
  intro drive left right _ hcoupled
  have hscopes : right.context.scopes = left.context.scopes := by
    have h := congrArg Context.scopes hcoupled.unmarked
    exact h
  rw [run_popScope, run_popScope, hscopes]
  cases left.context.scopes.pop? with
  | none => exact .error (coupling.raises_of_ne nofun) hcoupled
  | some popped => exact .value rfl (hcoupled.change (.setScopes popped.2))

/-! ## Errors -/

theorem located (error : Error) (span : Span) :
    Paired coupling level (fun first second ↦ first = second ∧ first.kind = error.kind)
      (Render.located error span) (Render.located error span) := by
  intro drive left right _ hcoupled
  have hname : right.context.name = left.context.name := by
    have h := congrArg Context.name hcoupled.unmarked
    exact h
  rw [run_located, run_located, hname]
  exact .value ⟨rfl, Error.kind_locate _ _⟩ hcoupled

theorem record {error : Error} (h : coupling.raises error.kind) :
    Paired coupling level Eq (Render.record error) (Render.record error) :=
  fun _ _ _ _ hcoupled ↦ .value rfl (hcoupled.recorded h)

theorem report {error : Error} (h : coupling.raises error.kind) :
    Paired coupling level Eq (Render.report error) (Render.report error) := by
  intro drive left right _ hcoupled
  have hmode : right.context.errorMode = left.context.errorMode := by
    have h := congrArg Context.errorMode hcoupled.unmarked
    exact h
  have hnoted := hcoupled.noted h
  have hrecorded := hnoted.recorded h
  rw [run_report, run_report, hmode]
  dsimp only
  split
  · exact .error h hnoted
  · cases left.context.errorMode with
    | rethrow => exact .error h hnoted
    | display => exact .value rfl (hrecorded.changeOutput fun output ↦ output.write (errorOpening ++ error.message))
    | suppress => exact .value rfl hrecorded

theorem guarded (span : Span) {first second : Render Flow} (h : Paired coupling level Eq first second) :
    Paired coupling level Eq (Render.guarded span first) (Render.guarded span second) := by
  unfold Render.guarded
  refine h.attempt_bind fun ended hraised ↦ ?_
  cases ended with
  | ok flow => exact .same flow
  | error error =>
    refine (located error span).bind fun placed placed' hplaced ↦ ?_
    obtain ⟨rfl, hkind⟩ := hplaced
    refine bind_eq (report ?_) fun _ ↦ same _
    rw [hkind]
    exact hraised error rfl

end Paired

end Render

end Liquid
