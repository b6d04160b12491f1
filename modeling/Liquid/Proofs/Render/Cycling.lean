import Liquid.Proofs.Render.Hosting
import Liquid.Proofs.Render.Resuming
import Mathlib.Data.Nat.ModEq

/-!
# Cycles that take turns

A cycle keeps the place of its key, which is the number of the value that it wrote last, counted from one. All keys share a
register; but a cycle only moves the place of its own key, and it does so before its value is evaluated. So the values of a
key take turns, whatever other cycles are executed in between and whichever values cannot be evaluated.
-/

namespace Liquid.Render

open Template

variable {tools : Toolbox} {key : String} {count : Nat} {arrival : Arrival}

/-! ## One step -/

/-- Takes the value whose turn it is under a key, and moves the place of the key. -/
def takeTurn (key : String) (values : List Expr) : Render (Option Expr) := do
  let places := (← context).registers.places Registers.cycleKey
  let place := (places.find? key).getD 0 % values.length
  modifyContext fun context ↦ context.setRegister Registers.cycleKey (.places (places.put key (place + 1)))
  return values[place]?

/-- The number of the value whose turn it is under a key. -/
def turn (places : Places) (key : String) (values : List Expr) : Nat := (places.cycles.find? key).getD 0 % values.length

theorem run_takeTurn (key : String) (values : List Expr) (drive : Drive) (state : RenderState) :
    takeTurn key values drive state =
      (.ok values[turn state.context.places key values]?,
        { state with
          context := state.context.setRegister Registers.cycleKey
            (.places (state.context.places.cycles.put key (turn state.context.places key values + 1))) }) := rfl

/-- Evaluates a value and writes it. -/
def writeEvaluated (tools : Toolbox) (value : Expr) : Render Flow := do
  let value ← evaluate (value.eval tools)
  let state ← get
  write (state.context.formatValue state.shared.counts.tallies value)
  return .completed

theorem cycle_eq_takeTurn (tools : Toolbox) (group : Option Expr) {values : List Expr} (hvalues : values ≠ []) :
    cycle tools group values = (do
      let key ← evaluate (cycleKey tools group values)
      match ← takeTurn key values with
      | none => return .completed
      | some value => writeEvaluated tools value) := by
  rw [cycle, if_neg (by simpa using hvalues)]
  simp only [takeTurn, bind_assoc, pure_bind]
  rfl

theorem writeTaken_still (tools : Toolbox) (value? : Option Expr) : Still Context.places (
    match value? with
    | none => return .completed
    | some value => writeEvaluated tools value) := by
  cases value? with
  | none => exact .pure _
  | some value => exact .bind (.evaluate _) fun value ↦ .writeValue value _

/-- A cycle with values moves the place of its key, whether the value can be evaluated or not, and nothing if it has no key. -/
theorem cycles_cycle (tools : Toolbox) (group : Option Expr) {values : List Expr} (hvalues : values ≠ []) (drive : Drive)
    (state : RenderState) :
    (cycle tools group values drive state).2.context.places.cycles =
      match (evaluate (cycleKey tools group values) drive state).1.toOption with
      | some key => state.context.places.cycles.put key (turn state.context.places key values + 1)
      | none => state.context.places.cycles := by
  have hkeyed : (evaluate (cycleKey tools group values) drive state).2.context = state.context := by rw [run_evaluate]
  rw [cycle_eq_takeTurn tools group hvalues, run_bind]
  rcases hrun : evaluate (cycleKey tools group values) drive state with ⟨failure | key, keyed⟩
  · rw [hrun] at hkeyed
    exact congrArg (·.places.cycles) hkeyed
  · rw [hrun] at hkeyed
    dsimp only at hkeyed
    dsimp only [Except.toOption]
    rw [run_bind, run_takeTurn, hkeyed]
    dsimp only
    rw [writeTaken_still]
    exact Registers.places_put_self _ _ _

/-- A loop leaves the places of cycles alone. -/
theorem loopWindow_still (tools : Toolbox) (header : LoopHeader) : Still (·.places.cycles) (loopWindow tools header) := by
  have hplaces (context : Context) (register : Register) :
      (context.setRegister Registers.loopKey register).places.cycles = context.places.cycles :=
    Registers.places_put_of_ne (by decide) register context.registers
  have hbeginning : Still (·.places.cycles) (beginning tools header) :=
    fun drive state ↦ congrArg Places.cycles (beginning_still tools header drive state)
  rw [loopWindow_eq]
  exact .bind hbeginning fun start ↦ .bind (.modifyContext (hplaces · _)) fun _ ↦ .pure _

namespace Arrival

/-- The values of the cycle of an arrival. -/
def values (arrival : Arrival) : List Expr :=
  match arrival.tag with
  | .loop _ => []
  | .cycle _ values => values

/-- The key of the cycle of an arrival, if it has values and the evaluation of its key does not fail. -/
def key? (tools : Toolbox) (arrival : Arrival) : Option String :=
  match arrival.tag with
  | .loop _ => none
  | .cycle group values =>
    if values = [] then none else (evaluate (cycleKey tools group values) arrival.drive arrival.state).1.toOption

/-- A cycle with a key has values, and the evaluation of its key leaves the context as it is. -/
theorem of_key?_eq (h : arrival.key? tools = some key) : arrival.values ≠ [] ∧
    ∃ group keyed, arrival.tag = .cycle group arrival.values ∧
      evaluate (cycleKey tools group arrival.values) arrival.drive arrival.state = (.ok key, keyed) ∧
      keyed.context = arrival.state.context := by
  obtain ⟨tag, drive, state⟩ := arrival
  cases tag with
  | loop header => cases h
  | cycle group values =>
    change (if values = [] then none else (evaluate (cycleKey tools group values) drive state).1.toOption) = some key at h
    obtain rfl | hvalues := eq_or_ne values []
    · cases h
    rw [if_neg hvalues] at h
    rcases hrun : evaluate (cycleKey tools group values) drive state with ⟨failure | evaluated, keyed⟩
    · rw [hrun] at h
      cases h
    · rw [hrun] at h
      obtain rfl : evaluated = key := Option.some.inj h
      refine ⟨hvalues, group, keyed, rfl, hrun, ?_⟩
      rw [run_evaluate] at hrun
      exact (congrArg (·.2.context) hrun).symm

/-- The places of cycles behind the move of an arrival: a cycle with a key moves the place of the key, and anything else
leaves them alone. -/
theorem cycles_moved (arrival : Arrival) :
    (arrival.moved tools).context.places.cycles =
      match arrival.key? tools with
      | some key =>
        arrival.state.context.places.cycles.put key (turn arrival.state.context.places key arrival.values + 1)
      | none => arrival.state.context.places.cycles := by
  obtain ⟨tag, drive, state⟩ := arrival
  cases tag with
  | loop header =>
    change ((do let _ ← loopWindow tools header : Render Unit) drive state).2.context.places.cycles = _
    rw [run_discard]
    exact loopWindow_still tools header drive state
  | cycle group values =>
    change ((do let _ ← cycle tools group values : Render Unit) drive state).2.context.places.cycles =
      match if values = [] then none else (evaluate (cycleKey tools group values) drive state).1.toOption with
      | some key => state.context.places.cycles.put key (turn state.context.places key values + 1)
      | none => state.context.places.cycles
    rw [run_discard]
    obtain rfl | hvalues := eq_or_ne values []
    · rfl
    · rw [if_neg hvalues, cycles_cycle tools group hvalues]

/-- A key is moved by its own cycles only. -/
theorem find?_cycles_moved (tools : Toolbox) (key : String) (arrival : Arrival) :
    (arrival.moved tools).context.places.cycles.find? key =
      if arrival.key? tools = some key then some (turn arrival.state.context.places key arrival.values + 1)
      else arrival.state.context.places.cycles.find? key := by
  rw [cycles_moved]
  cases arrival.key? tools with
  | none => rfl
  | some moved =>
    dsimp only
    rw [Entries.find?_put]
    by_cases hmoved : moved = key
    · rw [if_pos hmoved, if_pos (congrArg some hmoved), hmoved]
    · rw [if_neg hmoved, if_neg fun h ↦ hmoved (Option.some.inj h)]

/-- A cycle with a key evaluates and writes the value whose turn it is, in the state in which the turn has been taken. -/
theorem run_cycle_of_key {value : Expr} (h : arrival.key? tools = some key)
    (hvalue : arrival.values[turn arrival.state.context.places key arrival.values]? = some value) :
    ∃ group keyed, arrival.tag = .cycle group arrival.values ∧
      evaluate (cycleKey tools group arrival.values) arrival.drive arrival.state = (.ok key, keyed) ∧
      cycle tools group arrival.values arrival.drive arrival.state =
        writeEvaluated tools value arrival.drive (takeTurn key arrival.values arrival.drive keyed).2 := by
  obtain ⟨hvalues, group, keyed, htag, hrun, hcontext⟩ := of_key?_eq h
  refine ⟨group, keyed, htag, hrun, ?_⟩
  rw [cycle_eq_takeTurn tools group hvalues, run_bind_ok hrun, run_bind, run_takeTurn, hcontext, hvalue]

end Arrival

/-! ## From step to step -/

/-- The cycles of a key at which a render arrives. -/
def cyclesOf (tools : Toolbox) (key : String) (arrivals : List Arrival) : List Arrival :=
  arrivals.filter fun arrival ↦ arrival.key? tools = some key

/-- The values of a key take turns from the place of the key on, whatever else moves places in between. -/
theorem Moves.turns {before after : Places} {arrivals : List Arrival} (h : Moves tools before arrivals after)
    (hcount : ∀ arrival ∈ cyclesOf tools key arrivals, arrival.values.length = count) :
    ∀ (number : Nat) arrival, (cyclesOf tools key arrivals)[number]? = some arrival →
      turn arrival.state.context.places key arrival.values = ((before.cycles.find? key).getD 0 + number) % count := by
  induction arrivals generalizing before with
  | nil =>
    intro number arrival harrival
    cases harrival
  | cons first rest ih =>
    -- The arrival changes the place of the key only if it is a cycle of the key, which then stands in front.
    obtain ⟨rfl, hrest⟩ := h
    have hmoved := first.find?_cycles_moved tools key
    unfold cyclesOf at hcount ⊢
    by_cases hkey : first.key? tools = some key
    · rw [List.filter_cons_of_pos (by simpa using hkey)] at hcount ⊢
      obtain ⟨hfirst, hcount⟩ := List.forall_mem_cons.1 hcount
      rw [if_pos hkey, turn, hfirst] at hmoved
      intro number arrival harrival
      cases number with
      | zero =>
        obtain rfl : first = arrival := Option.some.inj harrival
        rw [turn, hfirst, Nat.add_zero]
      | succ number =>
        rw [ih hrest hcount number arrival harrival, hmoved, Option.getD_some, Nat.add_assoc, Nat.add_comm 1 number]
        exact (Nat.mod_modEq _ count).add_right (number + 1)
    · rw [List.filter_cons_of_neg (by simpa using hkey)] at hcount ⊢
      rw [if_neg hkey] at hmoved
      intro number arrival harrival
      rw [ih hrest hcount number arrival harrival, hmoved]

/-- In every render of a template of built-in tags the values of a key take turns, from the place on that the key has when the
render begins: each cycle with the key evaluates and writes the next value, in the state in which it has taken its turn. -/
theorem block_cycles {engine : Engine} {body : Block} {state : RenderState} (hbody : AllTags Tag.IsBuiltin body)
    (hincludes : IncludesOnly engine Tag.IsBuiltin state) (drive : Drive)
    (hcount : ∀ arrival ∈ cyclesOf engine.tools key ((Traced.block engine.withoutTags body).arrivals drive state),
      arrival.values.length = count) :
    (Traced.block engine.withoutTags body).run drive state = block engine body drive state ∧
    ∀ (number : Nat) arrival,
      (cyclesOf engine.tools key ((Traced.block engine.withoutTags body).arrivals drive state))[number]? = some arrival →
        ∃ group value keyed, arrival.tag = .cycle group arrival.values ∧
          evaluate (cycleKey engine.tools group arrival.values) arrival.drive arrival.state = (.ok key, keyed) ∧
          arrival.values[((state.context.places.cycles.find? key).getD 0 + number) % count]? = some value ∧
          cycle engine.tools group arrival.values arrival.drive arrival.state =
            writeEvaluated engine.tools value arrival.drive (takeTurn key arrival.values arrival.drive keyed).2 := by
  have hkeeps : engine.withoutTags.KeepsPlaces := fun _ _ h ↦ by cases h
  have htraces : Traces engine.tools (Traced.block engine.withoutTags body) (block engine.withoutTags body) :=
    Traces.block hkeeps body
  refine ⟨by rw [htraces.run_eq, block_withoutTags hbody hincludes], fun number arrival harrival ↦ ?_⟩
  have hturn := (htraces.moves drive state).turns hcount number arrival harrival
  have hmem := List.mem_of_getElem? harrival
  have hkey : arrival.key? engine.tools = some key := by simpa using (List.mem_filter.1 hmem).2
  have hsome : 0 < count := hcount arrival hmem ▸ List.length_pos_iff.2 (Arrival.of_key?_eq hkey).1
  have hlt : ((state.context.places.cycles.find? key).getD 0 + number) % count < arrival.values.length := by
    rw [hcount arrival hmem]
    exact Nat.mod_lt _ hsome
  have hvalue := List.getElem?_eq_getElem hlt
  obtain ⟨group, keyed, htag, hrun, hcycle⟩ := arrival.run_cycle_of_key hkey (by rwa [hturn])
  exact ⟨group, _, keyed, htag, hrun, hvalue, hcycle⟩

end Liquid.Render
