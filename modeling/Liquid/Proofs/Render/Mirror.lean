import Liquid.Proofs.Evaluation.Blindness
import Liquid.Proofs.Render.Frame
import Liquid.Render.Report

/-!
# Renders that differ in the error mode

Two renders of the same thing go side by side: the first one suppresses errors, the second one is in another mode. They are
compared strictly until the first of them reports an error, or loosely, without regard to what is written, to the end.
Where they part in a strict comparison, the second one has failed with the error that the first one reported, if it is to
rethrow errors.
-/

namespace Liquid

/-- A state without what the two renders may differ in. -/
def RenderState.core (state : RenderState) : RenderState :=
  { state with context := state.context.core, output := .empty }

namespace Render

open Template

/-- How two renders are compared. -/
inductive Comparison where
  /-- In all that they do until an error is reported; the second one is in the given mode. -/
  | strict (mode : ErrorMode)
  /-- In all but what they write; the second one displays errors. -/
  | loose

namespace Comparison

/-- The error mode of the second render. -/
def mode : Comparison → ErrorMode
  | strict mode => mode
  | loose => .display

/-- Whether the outputs count, and with them the last text of a change detection. -/
def IsStrict : Comparison → Prop
  | strict _ => True
  | loose => False

end Comparison

/-- The states of two renders that have not parted. -/
structure Alike (comparison : Comparison) (left right : RenderState) : Prop where
  leftMode : left.context.errorMode = .suppress
  rightMode : right.context.errorMode = comparison.mode
  core : right.core = left.core
  registers : ∀ key, comparison.IsStrict ∨ key ≠ Registers.changeKey →
    Entries.find? key right.context.registers = Entries.find? key left.context.registers
  output : comparison.IsStrict → right.output = left.output

/-- How two renders ended that began with the same reported errors. -/
inductive Twin {α : Type} (comparison : Comparison) (reported : List Error) :
    Except Failure α × RenderState → Except Failure α × RenderState → Prop where
  | agreed {ended : Except Failure α} {left right : RenderState} (halike : Alike comparison left right)
      (hsilent : comparison.IsStrict → left.context.reported = reported) :
      Twin comparison reported (ended, left) (ended, right)
  | parted {left right : Except Failure α × RenderState} (newer : List Error) (first : Error)
      (hstrict : comparison.IsStrict) (hreported : left.2.context.reported = newer ++ first :: reported)
      (hplaced : first.location.isSome)
      (hraised : comparison.mode = .rethrow → right.1 = .error (.error first)) :
      Twin comparison reported left right

/-- Side by side an action keeps what it keeps in one render, and the renders do not part but at a reported error. -/
structure Mirrored {α : Type} (comparison : Comparison) (engine : Engine) (holds : Tag → Prop)
    (rel : RenderState → RenderState → Prop) (action : Render α) : Prop where
  keeps : Keeps (IncludesOnly engine holds) rel action
  twin : ∀ drive left right, IncludesOnly engine holds left → Alike comparison left right →
    Twin comparison left.context.reported (action drive left) (action drive right)

variable {α β : Type} {comparison : Comparison} {engine : Engine} {holds : Tag → Prop}

namespace Alike

variable {left right : RenderState}

theorem context_core (h : Alike comparison left right) : right.context.core = left.context.core :=
  congrArg RenderState.context h.core

theorem scopes (h : Alike comparison left right) : right.context.scopes = left.context.scopes := by
  have hscopes := congrArg Context.scopes h.context_core
  exact hscopes

theorem name (h : Alike comparison left right) : right.context.name = left.context.name := by
  have hname := congrArg Context.name h.context_core
  exact hname

theorem depth (h : Alike comparison left right) : right.context.depth = left.context.depth := by
  have hdepth := congrArg Context.depth h.context_core
  exact hdepth

theorem maxDepth (h : Alike comparison left right) : right.context.maxDepth = left.context.maxDepth := by
  have hmaxDepth := congrArg Context.maxDepth h.context_core
  exact hmaxDepth

theorem shared (h : Alike comparison left right) : right.shared = left.shared := by
  have hshared := congrArg RenderState.shared h.core
  exact hshared

theorem includes (h : Alike comparison left right) : right.includes = left.includes := by
  have hincludes := congrArg RenderState.includes h.core
  exact hincludes

theorem places (h : Alike comparison left right) {key : String} (hkey : key ≠ Registers.changeKey) :
    right.context.registers.places key = left.context.registers.places key := by
  rw [Registers.places, Registers.places, h.registers key (.inr hkey)]

theorem source? (h : Alike comparison left right) :
    right.context.registers.source? Registers.sourceKey = left.context.registers.source? Registers.sourceKey := by
  rw [Registers.source?, Registers.source?, h.registers _ (.inr (by decide))]

theorem includesOnly (h : Alike comparison left right) (hleft : IncludesOnly engine holds left) :
    IncludesOnly engine holds right := by
  rw [IncludesOnly, h.includes, h.source?]
  exact hleft

/-- An evaluation that ignores error mode and registers has the same result in both states. -/
theorem evaluate (h : Alike comparison left right) {computation : Eval α} (hagrees : computation.Agrees .blind)
    (drive : Drive) :
    computation drive right.context right.shared = computation drive left.context left.shared := by
  rw [h.shared]
  exact hagrees.eq_of_core_eq drive h.context_core left.shared

/-- A change that neither depends on what two alike states may differ in nor touches it keeps them alike. -/
theorem modify (h : Alike comparison left right) (change : RenderState → RenderState)
    (hmode : ∀ state, (change state).context.errorMode = state.context.errorMode)
    (hregisters : ∀ state, (change state).context.registers = state.context.registers)
    (hcore : ∀ state, (change state).core = (change state.core).core)
    (houtput : comparison.IsStrict → (change right).output = (change left).output) :
    Alike comparison (change left) (change right) where
  leftMode := (hmode left).trans h.leftMode
  rightMode := (hmode right).trans h.rightMode
  core := by rw [hcore right, h.core, ← hcore left]
  registers key hkey := by
    rw [hregisters, hregisters]
    exact h.registers key hkey
  output := houtput

end Alike

/-- After a part in which nothing was reported, renders that part later have parted since its beginning too. -/
theorem Twin.after {later earlier : List Error} {left right : Except Failure α × RenderState}
    (h : Twin comparison later left right) (hsilent : comparison.IsStrict → later = earlier) :
    Twin comparison earlier left right := by
  cases h with
  | agreed halike hlater => exact .agreed halike fun hstrict ↦ (hlater hstrict).trans (hsilent hstrict)
  | parted newer first hstrict hreported hplaced hraised =>
    rw [hsilent hstrict] at hreported
    exact .parted newer first hstrict hreported hplaced hraised

/-- Renders that have parted stay parted, whatever the first one still does. -/
theorem Twin.parted_of_suffix {reported newer : List Error} {first : Error} {middle : RenderState}
    {left right : Except Failure α × RenderState} (hstrict : comparison.IsStrict)
    (hreported : middle.context.reported = newer ++ first :: reported) (hplaced : first.location.isSome)
    (hleft : Steady middle left.2) (hraised : comparison.mode = .rethrow → right.1 = .error (.error first)) :
    Twin comparison reported left right := by
  obtain ⟨newest, hnewest⟩ := hleft.reported
  refine .parted (newest ++ newer) first hstrict ?_ hplaced hraised
  rw [← hnewest, hreported, List.append_assoc]

namespace Mirrored

variable {rel : RenderState → RenderState → Prop}

/-- An action that reports nothing and does the same in both renders. -/
theorem of_agreed {action : Render α} (hkeeps : Keeps (IncludesOnly engine holds) rel action)
    (hsilent : ∀ drive state, (action drive state).2.context.reported = state.context.reported)
    (hagreed : ∀ drive left right, Alike comparison left right → (action drive right).1 = (action drive left).1 ∧
      Alike comparison (action drive left).2 (action drive right).2) :
    Mirrored comparison engine holds rel action where
  keeps := hkeeps
  twin := by
    intro drive left right _ halike
    obtain ⟨hended, hafter⟩ := hagreed drive left right halike
    have hleft := hsilent drive left
    rcases hrunLeft : action drive left with ⟨leftEnded, leftAfter⟩
    rcases hrunRight : action drive right with ⟨rightEnded, rightAfter⟩
    rw [hrunLeft] at hended hafter hleft
    rw [hrunRight] at hended hafter
    obtain rfl : rightEnded = leftEnded := hended
    exact .agreed hafter fun _ ↦ hleft

/-- A change that looks at no output and touches neither output, registers nor error mode. -/
theorem of_change {change : RenderState → RenderState}
    (hkeeps : Keeps (IncludesOnly engine holds) rel (modify change : Render PUnit))
    (hmode : ∀ state, (change state).context.errorMode = state.context.errorMode)
    (hregisters : ∀ state, (change state).context.registers = state.context.registers)
    (hreported : ∀ state, (change state).context.reported = state.context.reported)
    (houtput : ∀ state, (change state).output = state.output)
    (hcore : ∀ state, (change state).core = (change state.core).core) :
    Mirrored comparison engine holds rel (modify change : Render PUnit) := by
  refine of_agreed hkeeps (fun _ state ↦ hreported state) fun _ left right halike ↦ ⟨rfl, ?_⟩
  refine halike.modify change hmode hregisters hcore fun hstrict ↦ ?_
  rw [houtput, houtput, halike.output hstrict]

theorem pure [Frame rel] (value : α) : Mirrored comparison engine holds rel (Pure.pure value : Render α) :=
  of_agreed (.pure value) (fun _ _ ↦ rfl) fun _ _ _ h ↦ ⟨rfl, h⟩

theorem raise [Frame rel] (error : Error) : Mirrored comparison engine holds rel (Render.raise error : Render α) :=
  of_agreed (.raise error) (fun _ _ ↦ rfl) fun _ _ _ h ↦ ⟨rfl, h⟩

theorem fail [Frame rel] (fault : Fault) : Mirrored comparison engine holds rel (Render.fail fault : Render α) :=
  of_agreed (.fail fault) (fun _ _ ↦ rfl) fun _ _ _ h ↦ ⟨rfl, h⟩

theorem settle [Frame rel] (ended : Except Error α) : Mirrored comparison engine holds rel (Render.settle ended) := by
  cases ended with
  | ok value => exact .pure value
  | error error => exact .raise error

theorem ofExcept [Frame rel] (result : Except Fault α) :
    Mirrored comparison engine holds rel (Render.ofExcept result) := by
  cases result with
  | ok value => exact .pure value
  | error fault => exact .fail fault

theorem ite [Frame rel] {condition : Prop} [Decidable condition] {first second : Render α}
    (hfirst : Mirrored comparison engine holds rel first) (hsecond : Mirrored comparison engine holds rel second) :
    Mirrored comparison engine holds rel (if condition then first else second) := by
  split
  · exact hfirst
  · exact hsecond

theorem mono {weaker : RenderState → RenderState → Prop} {action : Render α}
    (h : Mirrored comparison engine holds rel action) (himp : ∀ {before after}, rel before after → weaker before after) :
    Mirrored comparison engine holds weaker action :=
  ⟨h.keeps.mono himp, h.twin⟩

/-- What an action gives in the first render may be used by the next one. -/
theorem bind_of [Frame rel] (given : α → Prop) {action : Render α} {next : α → Render β}
    (haction : Mirrored comparison engine holds rel action)
    (hgiven : ∀ drive before, IncludesOnly engine holds before → ∀ value,
      (action drive before).1 = .ok value → given value)
    (hnext : ∀ value, given value → Mirrored comparison engine holds rel (next value)) :
    Mirrored comparison engine holds rel (action >>= next) where
  keeps := haction.keeps.bind_of given hgiven fun value hvalue ↦ (hnext value hvalue).keeps
  twin := by
    intro drive left right hinv halike
    have hkept := haction.keeps drive left hinv
    have hvalue := hgiven drive left hinv
    have htwin := haction.twin drive left right hinv halike
    rw [run_bind, run_bind]
    rcases hrunLeft : action drive left with ⟨leftEnded, leftAfter⟩
    rcases hrunRight : action drive right with ⟨rightEnded, rightAfter⟩
    rw [hrunLeft] at hkept hvalue htwin
    rw [hrunRight] at htwin
    cases htwin with
    | agreed hafter hsilent =>
      cases leftEnded with
      | error failure => exact .agreed hafter hsilent
      | ok value =>
        have hlater := (hnext value (hvalue value rfl)).twin drive leftAfter rightAfter hkept.inv hafter
        exact hlater.after hsilent
    | parted newer first hstrict hreported hplaced hraised =>
      have hfailed (hmode : comparison.mode = .rethrow) : (match (rightEnded, rightAfter) with
          | (.ok value, after) => next value drive after
          | (.error failure, after) => (.error failure, after)).1 = .error (.error first) := by
        rw [show rightEnded = .error (.error first) from hraised hmode]
      cases leftEnded with
      | error failure => exact .parted newer first hstrict hreported hplaced hfailed
      | ok value =>
        have hlater := (hnext value (hvalue value rfl)).keeps drive leftAfter hkept.inv
        exact .parted_of_suffix hstrict hreported hplaced hlater.steady hfailed

theorem bind [Frame rel] {action : Render α} {next : α → Render β}
    (haction : Mirrored comparison engine holds rel action)
    (hnext : ∀ value, Mirrored comparison engine holds rel (next value)) :
    Mirrored comparison engine holds rel (action >>= next) :=
  haction.bind_of (fun _ ↦ True) (fun _ _ _ _ _ ↦ trivial) fun value _ ↦ hnext value

/-- What is done with the state may depend on what the two renders have in common. -/
theorem get_bind_of [Frame rel] {next : RenderState → Render β}
    (hsame : ∀ left right, Alike comparison left right → next right = next left)
    (hnext : ∀ state, Mirrored comparison engine holds rel (next state)) :
    Mirrored comparison engine holds rel (MonadState.get >>= next) where
  keeps := .bind .get fun state ↦ (hnext state).keeps
  twin := by
    intro drive left right hinv halike
    rw [run_bind_ok (run_get drive left), run_bind_ok (run_get drive right), hsame left right halike]
    exact (hnext left).twin drive left right hinv halike

theorem get_bind [Frame rel] {next : RenderState → Render β} (hcore : ∀ state, next state = next state.core)
    (hnext : ∀ state, Mirrored comparison engine holds rel (next state)) :
    Mirrored comparison engine holds rel (MonadState.get >>= next) :=
  get_bind_of (fun left right halike ↦ by rw [hcore right, halike.core, ← hcore left]) hnext

/-- What is done with the context may depend on what the two renders have in common. -/
theorem context_bind_of [Frame rel] {next : Context → Render β}
    (hsame : ∀ left right, Alike comparison left right → next right.context = next left.context)
    (hnext : ∀ context, Mirrored comparison engine holds rel (next context)) :
    Mirrored comparison engine holds rel (Render.context >>= next) where
  keeps := .bind .context fun context ↦ (hnext context).keeps
  twin := by
    intro drive left right hinv halike
    rw [run_bind_ok (run_context drive left), run_bind_ok (run_context drive right), hsame left right halike]
    exact (hnext left.context).twin drive left right hinv halike

theorem context_bind [Frame rel] {next : Context → Render β} (hcore : ∀ context, next context = next context.core)
    (hnext : ∀ context, Mirrored comparison engine holds rel (next context)) :
    Mirrored comparison engine holds rel (Render.context >>= next) :=
  context_bind_of (fun left right halike ↦ by rw [hcore right.context, halike.context_core, ← hcore left.context]) hnext

end Mirrored

/-- What follows an attempt is reached by both renders in the same way unless they have parted in it. If they have, the
second one has to pass its error on. -/
theorem Twin.attempt_bind {inner : RenderState → RenderState → Prop} {body : Render α}
    {closing : Except Error α → Render β} {drive : Drive} {left right : RenderState}
    (hbody : Mirrored comparison engine holds inner body)
    (hclosing : ∀ ended, Mirrored comparison engine holds (fun _ _ ↦ True) (closing ended))
    (halike : Alike comparison left right) (hinv : IncludesOnly engine holds left) {reported : List Error}
    (hreported : left.context.reported = reported)
    (hraised : comparison.mode = .rethrow → ∀ error after, error.location.isSome → Steady right after →
      inner right after → (closing (.error error) drive after).1 = .error (.error error)) :
    Twin comparison reported ((Render.attempt body >>= closing) drive left)
      ((Render.attempt body >>= closing) drive right) := by
  subst hreported
  have hkept := hbody.keeps drive left hinv
  have hkeptRight := hbody.keeps drive right (halike.includesOnly hinv)
  have htwin := hbody.twin drive left right hinv halike
  rw [run_attempt_bind, run_attempt_bind]
  rcases hrunLeft : body drive left with ⟨leftEnded, leftAfter⟩
  rcases hrunRight : body drive right with ⟨rightEnded, rightAfter⟩
  rw [hrunLeft] at hkept htwin
  rw [hrunRight] at hkeptRight htwin
  cases htwin with
  | agreed hafter hsilent =>
    have hgoesOn (ended : Except Error α) : Twin comparison left.context.reported
        (closing ended drive leftAfter) (closing ended drive rightAfter) :=
      ((hclosing ended).twin drive leftAfter rightAfter hkept.inv hafter).after hsilent
    rcases leftEnded with (error | _) | value
    · exact hgoesOn (.error error)
    · exact .agreed hafter hsilent
    · exact hgoesOn (.ok value)
  | parted newer first hstrict hreported hplaced hfailed =>
    have hpasses (hmode : comparison.mode = .rethrow) : (match (rightEnded, rightAfter) with
        | (.ok value, after) => closing (.ok value) drive after
        | (.error (.error error), after) => closing (.error error) drive after
        | (.error .suspended, after) => (.error .suspended, after)).1 = .error (.error first) := by
      obtain rfl : rightEnded = .error (.error first) := hfailed hmode
      exact hraised hmode first rightAfter hplaced hkeptRight.steady (hkeptRight.related (.error first))
    have hstays (ended : Except Error α) : Steady leftAfter (closing ended drive leftAfter).2 :=
      ((hclosing ended).keeps drive leftAfter hkept.inv).steady
    rcases leftEnded with (error | _) | value
    · exact .parted_of_suffix hstrict hreported hplaced (hstays (.error error)) hpasses
    · exact .parted newer first hstrict hreported hplaced hpasses
    · exact .parted_of_suffix hstrict hreported hplaced (hstays (.ok value)) hpasses

end Render

end Liquid
