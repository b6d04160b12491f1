import Liquid.Proofs.Render.Run
import Liquid.Proofs.Template.Tags

/-!
# What rendering leaves as it is

Whatever a render of built-in tags does, it does not touch the settings of its context and it only adds to the errors that
it notes. When it returns, it has closed every scope, loop, include and capture that it opened, and it has only added text.
An action that keeps these things is put together from actions that do.
-/

namespace Liquid

/-- The part of a context that a render of built-in tags does not touch. -/
def Context.settings (context : Context) : Context :=
  { context with
    name := "", scopes := .empty, assigned := [], registers := [], depth := 0, loops := 0, recorded := [],
    reported := [] }

namespace Render

open Template

/-- The render ended with a result or an error, not because it would have had to wait. -/
inductive Returned {α : Type} : Except Failure α → Prop where
  | value (value : α) : Returned (.ok value)
  | error (error : Error) : Returned (.error (.error error))

instance {α : Type} : (ended : Except Failure α) → Decidable (Returned ended)
  | .ok value => isTrue (.value value)
  | .error (.error error) => isTrue (.error error)
  | .error .suspended => isFalse nofun

/-- What holds between the states before and behind any stretch of a render. -/
structure Steady (before after : RenderState) : Prop where
  settings : after.context.settings = before.context.settings
  recorded : before.context.recorded <:+ after.context.recorded
  reported : before.context.reported <:+ after.context.reported

namespace Steady

theorem refl (state : RenderState) : Steady state state :=
  ⟨rfl, List.suffix_rfl, List.suffix_rfl⟩

theorem trans {first second third : RenderState} (earlier : Steady first second) (later : Steady second third) :
    Steady first third where
  settings := later.settings.trans earlier.settings
  recorded := earlier.recorded.trans later.recorded
  reported := earlier.reported.trans later.reported

theorem errorMode {before after : RenderState} (h : Steady before after) :
    after.context.errorMode = before.context.errorMode := by
  have hmode := congrArg Context.errorMode h.settings
  exact hmode

end Steady

/-- Everything around the innermost scope is as it was, and text was only added to the innermost capture. -/
structure RestoredAround (before after : RenderState) : Prop where
  around : after.context.scopes.below = before.context.scopes.below
  loops : after.context.loops = before.context.loops
  depth : after.context.depth = before.context.depth
  name : after.context.name = before.context.name
  captures : after.output.below = before.output.below
  written : ∃ more, after.output.top = before.output.top ++ more

/-- All scopes are as they were too. -/
structure Restored (before after : RenderState) : Prop extends RestoredAround before after where
  innermost : after.context.scopes.top = before.context.scopes.top

theorem RestoredAround.refl (state : RenderState) : RestoredAround state state :=
  ⟨rfl, rfl, rfl, rfl, rfl, "", String.append_empty.symm⟩

theorem Restored.refl (state : RenderState) : Restored state state := ⟨.refl state, rfl⟩

theorem RestoredAround.trans {first second third : RenderState} (earlier : RestoredAround first second)
    (later : RestoredAround second third) : RestoredAround first third where
  around := later.around.trans earlier.around
  loops := later.loops.trans earlier.loops
  depth := later.depth.trans earlier.depth
  name := later.name.trans earlier.name
  captures := later.captures.trans earlier.captures
  written := by
    obtain ⟨text, htext⟩ := earlier.written
    obtain ⟨more, hmore⟩ := later.written
    exact ⟨text ++ more, by rw [hmore, htext, String.append_assoc]⟩

theorem Restored.trans {first second third : RenderState} (earlier : Restored first second)
    (later : Restored second third) : Restored first third :=
  ⟨earlier.toRestoredAround.trans later.toRestoredAround, later.innermost.trans earlier.innermost⟩

/-- A change that leaves output, scopes and counts alone needs no restoring. -/
theorem Restored.of_same {before after : RenderState} (hscopes : after.context.scopes = before.context.scopes)
    (hloops : after.context.loops = before.context.loops) (hdepth : after.context.depth = before.context.depth)
    (hname : after.context.name = before.context.name) (houtput : after.output = before.output) :
    Restored before after where
  around := by rw [hscopes]
  loops := hloops
  depth := hdepth
  name := hname
  captures := by rw [houtput]
  written := ⟨"", by rw [houtput, String.append_empty]⟩
  innermost := by rw [hscopes]

theorem Restored.scopes {before after : RenderState} (h : Restored before after) :
    after.context.scopes = before.context.scopes := by
  have htop := h.innermost
  have hbelow := h.around
  cases hbefore : before.context.scopes
  cases hafter : after.context.scopes
  simp_all

/-- Behind what happened in an opened scope, the scopes around it are those that it was opened in. -/
theorem RestoredAround.scopes_eq_push {opened after : RenderState} (h : RestoredAround opened after)
    {frame : Entries String Value} {scopes : Scopes} (hopened : opened.context.scopes = scopes.push frame) :
    after.context.scopes = scopes.push after.context.scopes.top := by
  have hbelow : after.context.scopes.below = scopes.toList := by
    rw [h.around, hopened]
    rfl
  rw [Scopes.push, ← Scopes.toList, ← hbelow]

/-- A relation between states that a render may be shown to keep: what is restored is so related. -/
class Frame (rel : RenderState → RenderState → Prop) : Prop where
  of_restored : ∀ {before after}, Restored before after → rel before after
  trans : ∀ {first second third}, rel first second → rel second third → rel first third

instance : Frame Restored := ⟨id, Restored.trans⟩

instance : Frame RestoredAround := ⟨Restored.toRestoredAround, RestoredAround.trans⟩

instance : Frame fun _ _ ↦ True := ⟨fun _ ↦ trivial, fun _ _ ↦ trivial⟩

theorem Frame.refl {rel : RenderState → RenderState → Prop} [Frame rel] (state : RenderState) : rel state state :=
  Frame.of_restored (Restored.refl state)

/-- Every tree that an include can lead to from a state has a property in all its tags: those that are kept, and those
of the texts that the source of the state gives. -/
def IncludesOnly (engine : Engine) (holds : Tag → Prop) (state : RenderState) : Prop :=
  (∀ path block, state.includes.find? path = some block → AllTags holds block) ∧
    ∀ source, state.context.registers.source? Registers.sourceKey = some source ∨ engine.source = some source →
      ∀ name text block, source.fetch name = .ok text → Template.parse engine.grammar name text = .ok block →
        AllTags holds block

/-- What a stretch of a render has kept, given how it ended. -/
structure Kept {α : Type} (inv : RenderState → Prop) (rel : RenderState → RenderState → Prop) (before : RenderState)
    (ended : Except Failure α × RenderState) : Prop where
  inv : inv ended.2
  steady : Steady before ended.2
  related : Returned ended.1 → rel before ended.2

/-- From a state with the property an action leads to a state with the property, and if it returns, the states are
related. -/
def Keeps {α : Type} (inv : RenderState → Prop) (rel : RenderState → RenderState → Prop) (action : Render α) : Prop :=
  ∀ drive before, inv before → Kept inv rel before (action drive before)

namespace Keeps

variable {α β : Type} {inv : RenderState → Prop} {rel : RenderState → RenderState → Prop}

/-- An action that leaves the state alone. -/
theorem of_same [Frame rel] {action : Render α} (h : ∀ drive state, (action drive state).2 = state) :
    Keeps inv rel action := by
  intro drive before hinv
  constructor
  · rw [h]
    exact hinv
  · rw [h]
    exact .refl before
  · rw [h]
    exact fun _ ↦ Frame.refl before

theorem pure [Frame rel] (value : α) : Keeps inv rel (Pure.pure value : Render α) := of_same fun _ _ ↦ rfl

theorem raise [Frame rel] (error : Error) : Keeps inv rel (Render.raise error : Render α) := of_same fun _ _ ↦ rfl

theorem fail [Frame rel] (fault : Fault) : Keeps inv rel (Render.fail fault : Render α) := of_same fun _ _ ↦ rfl

theorem get [Frame rel] : Keeps inv rel (MonadState.get : Render RenderState) := of_same fun _ _ ↦ rfl

theorem context [Frame rel] : Keeps inv rel Render.context := of_same fun _ _ ↦ rfl

theorem settle [Frame rel] (ended : Except Error α) : Keeps inv rel (Render.settle ended) :=
  of_same fun _ _ ↦ by rw [run_settle]

theorem ofExcept [Frame rel] (result : Except Fault α) : Keeps inv rel (Render.ofExcept result) :=
  of_same fun _ _ ↦ by rw [run_ofExcept]

theorem located [Frame rel] (error : Error) (span : Span) : Keeps inv rel (Render.located error span) :=
  of_same fun _ _ ↦ rfl

/-- What an action gives may be used by the next one. -/
theorem bind_of [Frame rel] (given : α → Prop) {action : Render α} {next : α → Render β}
    (haction : Keeps inv rel action)
    (hgiven : ∀ drive before, inv before → ∀ value, (action drive before).1 = .ok value → given value)
    (hnext : ∀ value, given value → Keeps inv rel (next value)) : Keeps inv rel (action >>= next) := by
  intro drive before hinv
  have hkept := haction drive before hinv
  have hvalue := hgiven drive before hinv
  rw [run_bind]
  rcases hrun : action drive before with ⟨failure | value, after⟩
  · rw [hrun] at hkept
    refine ⟨hkept.inv, hkept.steady, fun hreturned ↦ hkept.related ?_⟩
    cases hreturned with
    | error error => exact .error error
  · rw [hrun] at hkept hvalue
    have hlater := hnext value (hvalue value rfl) drive after hkept.inv
    exact ⟨hlater.inv, hkept.steady.trans hlater.steady,
      fun hreturned ↦ Frame.trans (hkept.related (.value value)) (hlater.related hreturned)⟩

theorem bind [Frame rel] {action : Render α} {next : α → Render β} (haction : Keeps inv rel action)
    (hnext : ∀ value, Keeps inv rel (next value)) : Keeps inv rel (action >>= next) :=
  haction.bind_of (fun _ ↦ True) (fun _ _ _ _ _ ↦ trivial) fun value _ ↦ hnext value

theorem ite [Frame rel] {condition : Prop} [Decidable condition] {first second : Render α}
    (hfirst : Keeps inv rel first) (hsecond : Keeps inv rel second) :
    Keeps inv rel (if condition then first else second) := by
  split
  · exact hfirst
  · exact hsecond

theorem attempt {action : Render α} (h : Keeps inv rel action) : Keeps inv rel (attempt action) := by
  intro drive before hinv
  have hkept := h drive before hinv
  rw [run_attempt]
  rcases hrun : action drive before with ⟨(error | _) | value, after⟩
  · rw [hrun] at hkept
    exact ⟨hkept.inv, hkept.steady, fun _ ↦ hkept.related (.error error)⟩
  · rw [hrun] at hkept
    exact ⟨hkept.inv, hkept.steady, nofun⟩
  · rw [hrun] at hkept
    exact ⟨hkept.inv, hkept.steady, fun _ ↦ hkept.related (.value value)⟩

/-- An action between an opened state and what closes it again keeps what the whole keeps. -/
theorem bracket {inner : RenderState → RenderState → Prop} {before opened : RenderState} {body : Render α}
    {closing : Except Error α → Render β} {drive : Drive} (hbody : Keeps inv inner body) (hinv : inv opened)
    (hsteady : Steady before opened)
    (hclosing : ∀ ended after, inv after → Steady before after → inner opened after →
      Kept inv rel before (closing ended drive after)) :
    Kept inv rel before ((Render.attempt body >>= closing) drive opened) := by
  have hkept := hbody drive opened hinv
  rw [run_attempt_bind]
  rcases hrun : body drive opened with ⟨(error | _) | value, after⟩
  · rw [hrun] at hkept
    exact hclosing _ _ hkept.inv (hsteady.trans hkept.steady) (hkept.related (.error error))
  · rw [hrun] at hkept
    exact ⟨hkept.inv, hsteady.trans hkept.steady, nofun⟩
  · rw [hrun] at hkept
    exact hclosing _ _ hkept.inv (hsteady.trans hkept.steady) (hkept.related (.value value))

theorem mono {weaker : RenderState → RenderState → Prop} {action : Render α} (h : Keeps inv rel action)
    (himp : ∀ {before after}, rel before after → weaker before after) : Keeps inv weaker action :=
  fun drive before hinv ↦
    ⟨(h drive before hinv).inv, (h drive before hinv).steady, fun hreturned ↦
      himp ((h drive before hinv).related hreturned)⟩

end Keeps

end Render

end Liquid
