import Liquid.Proofs.Render.Tracing
import Liquid.Proofs.Value.Ranges
import Liquid.Session

/-!
# Loops that resume

A loop may begin where the last loop of its name stopped. The place at which a loop stops is where its window ends, whatever
its visits do. So loops of one name that resume one after the other walk over their collection without gap and without
overlap, wherever in a render they are.

The name of a loop does not tell its item and its collection apart where they meet: a loop of other items over another
collection can have the same name, and then moves the place.
-/

namespace Liquid.Render

variable {tools : Toolbox} {header : LoopHeader} {drive : Drive} {state after : RenderState} {items : List Value}

/-! ## Where loops begin and stop -/

/-- A loop whose collection and arguments have been evaluated. -/
structure LoopStart where
  header : LoopHeader
  collection : Value
  offset : Nat
  limit : Option Int64

namespace LoopStart

/-- The items that the loop visits, in the order of the collection. -/
def window (start : LoopStart) : List Value := loopItems start.collection start.offset start.limit

/-- The items in the order in which they are visited. -/
def visited (start : LoopStart) : List Value := if start.header.reversed then start.window.reverse else start.window

/-- The place at which the loop stops. -/
def place (start : LoopStart) : Nat := min (start.offset + start.window.length) maxCount

/-- How many items the loop may take. -/
def reach (start : LoopStart) : Nat := (start.limit.map fun limit ↦ limit.toInt.toNat).getD maxCount

end LoopStart

/-- How many items the loops may take together. -/
def totalReach : List LoopStart → Nat
  | [] => 0
  | start :: rest => start.reach + totalReach rest

/-- Evaluates the collection and the arguments of a loop. -/
def beginning (tools : Toolbox) (header : LoopHeader) : Render LoopStart := do
  let collection ← evaluate (header.collection.eval tools)
  let offset ← loopOffset tools header
  let limit ← evaluate (loopArgument tools header.limit)
  return ⟨header, collection, offset, limit⟩

/-- A loop takes its window by evaluating and by noting the place at which it stops. -/
theorem loopWindow_eq (tools : Toolbox) (header : LoopHeader) :
    loopWindow tools header = (do
      let start ← beginning tools header
      modifyContext fun context ↦
        context.setRegister Registers.loopKey
          (.places ((context.registers.places Registers.loopKey).put start.header.name start.place))
      return start.window) := by
  simp only [loopWindow, beginning, bind_assoc, pure_bind]
  rfl

/-- The loop that begins at an arrival, if its evaluation does not fail. -/
def Arrival.begun? (tools : Toolbox) (arrival : Arrival) : Option LoopStart :=
  match arrival.tag with
  | .loop header => (beginning tools header arrival.drive arrival.state).1.toOption
  | .cycle _ _ => none

/-- The loops of a name that begin at arrivals. -/
def begunLoops (tools : Toolbox) (name : String) (arrivals : List Arrival) : List LoopStart :=
  (arrivals.filterMap (Arrival.begun? tools)).filter (·.header.name = name)

theorem beginning_still (tools : Toolbox) (header : LoopHeader) : Still Context.places (beginning tools header) := by
  have hoffset : Still Context.places (loopOffset tools header) := by
    unfold loopOffset
    split
    · exact .bind .context fun _ ↦ .pure _
    · exact .evaluate _
    · exact .pure _
  exact .bind (.evaluate _) fun _ ↦ .bind hoffset fun _ ↦ .bind (.evaluate _) fun _ ↦ .pure _

/-- A loop without offset begins with the first item, and one that resumes begins at the place of its name. -/
theorem of_beginning_eq {start : LoopStart} (h : beginning tools header drive state = (.ok start, after)) :
    start.header = header ∧ (header.offset = none → start.offset = 0) ∧
      (header.offset = some .resume → start.offset = (state.context.places.loops.find? header.name).getD 0) := by
  obtain ⟨collection, middle, hcollection, h⟩ := of_run_bind_eq h
  have hcontext : middle.context = state.context := by
    rw [run_evaluate] at hcollection
    exact (congrArg (·.2.context) hcollection).symm
  obtain ⟨offset, next, hoffset, h⟩ := of_run_bind_eq h
  obtain ⟨limit, last, -, h⟩ := of_run_bind_eq h
  rw [run_pure] at h
  cases h
  refine ⟨rfl, fun hnone ↦ ?_, fun hresume ↦ ?_⟩
  · rw [loopOffset, hnone] at hoffset
    cases hoffset
    rfl
  · rw [loopOffset, hresume] at hoffset
    cases hoffset
    rw [hcontext]
    rfl

/-- A loop begins where its tag is arrived at and its evaluation has a result. -/
theorem Arrival.of_begun?_eq {arrival : Arrival} {start : LoopStart} (h : arrival.begun? tools = some start) :
    arrival.tag = .loop start.header ∧
      ∃ after, beginning tools start.header arrival.drive arrival.state = (.ok start, after) := by
  obtain ⟨tag, drive, state⟩ := arrival
  cases tag with
  | cycle group values => cases h
  | loop header =>
    change (beginning tools header drive state).1.toOption = some start at h
    rcases hrun : beginning tools header drive state with ⟨failure | begun, after⟩
    · rw [hrun] at h
      cases h
    · rw [hrun] at h
      obtain rfl : begun = start := Option.some.inj h
      obtain ⟨rfl, -⟩ := of_beginning_eq hrun
      exact ⟨rfl, after, hrun⟩

/-- A cycle leaves the places of loops alone. -/
theorem cycle_still (tools : Toolbox) (group : Option Expr) (values : List Expr) :
    Still (·.places.loops) (cycle tools group values) := by
  have hplaces (context : Context) (register : Register) :
      (context.setRegister Registers.cycleKey register).places.loops = context.places.loops :=
    Registers.places_put_of_ne (by decide) register context.registers
  unfold cycle
  refine .ite (.pure _) ?_
  refine .bind (.evaluate _) fun key ↦ .bind .context fun context ↦ .bind (.modifyContext (hplaces · _)) fun _ ↦ ?_
  split
  · exact .pure _
  · exact .bind (.evaluate _) fun value ↦ .writeValue value _

/-- The places of loops behind the move of an arrival: a loop that begins puts the place at which it stops under its
name, and anything else leaves them alone. -/
theorem Arrival.loops_moved (arrival : Arrival) :
    (arrival.moved tools).context.places.loops =
      match arrival.begun? tools with
      | some start => arrival.state.context.places.loops.put start.header.name start.place
      | none => arrival.state.context.places.loops := by
  obtain ⟨tag, drive, state⟩ := arrival
  cases tag with
  | cycle group values =>
    change ((do let _ ← cycle tools group values : Render Unit) drive state).2.context.places.loops = _
    rw [run_discard]
    exact cycle_still tools group values drive state
  | loop header =>
    have hstill : (beginning tools header drive state).2.context.places.loops = state.context.places.loops :=
      congrArg Places.loops (beginning_still tools header drive state)
    change ((do let _ ← loopWindow tools header : Render Unit) drive state).2.context.places.loops =
      match (beginning tools header drive state).1.toOption with
      | some start => state.context.places.loops.put start.header.name start.place
      | none => state.context.places.loops
    rw [run_discard, loopWindow_eq, run_bind]
    rcases hrun : beginning tools header drive state with ⟨failure | start, after⟩
    · rwa [hrun] at hstill
    · rw [hrun] at hstill
      simp only [Except.toOption, ← hstill]
      exact Registers.places_put_self _ _ _

/-- The loop of an arrival visits its window, forward or backward, or else renders its other body. -/
theorem run_loop_of_begun {arrival : Arrival} {start : LoopStart} (h : arrival.begun? tools = some start)
    (body otherwise : Render Flow) :
    loop tools start.header body otherwise arrival.drive arrival.state =
      (if start.window.isEmpty then otherwise else visitLoop start.header start.visited body) arrival.drive
        (arrival.moved tools) := by
  obtain ⟨htag, after, hrun⟩ := arrival.of_begun?_eq h
  rw [Arrival.moved, htag, Placed.move, run_discard, loop_eq_window, loopWindow_eq, bind_assoc, run_bind_ok hrun,
    run_bind_ok hrun]
  rfl

/-! ## From loop to loop -/

/-- Each loop begins with the first item, or where the one before it stops, or with an offset of its own. -/
def Follow : Nat → List LoopStart → Prop
  | _, [] => True
  | place, start :: rest =>
    (start.header.offset = none → start.offset = 0) ∧ (start.header.offset = some .resume → start.offset = place) ∧
      Follow start.place rest

theorem Follow.of_append {place : Nat} {first rest : List LoopStart} (h : Follow place (first ++ rest)) :
    ∃ reached, Follow reached rest := by
  induction first generalizing place with
  | nil => exact ⟨place, h⟩
  | cons start first ih => exact ih h.2.2

theorem Follow.left {place : Nat} {first rest : List LoopStart} (h : Follow place (first ++ rest)) : Follow place first := by
  induction first generalizing place with
  | nil => trivial
  | cons start first ih => exact ⟨h.1, h.2.1, ih h.2.2⟩

/-- The loops of one name follow each other, whatever else moves places in between. -/
theorem Moves.follow {before after : Places} {arrivals : List Arrival} (h : Moves tools before arrivals after)
    (name : String) : Follow ((before.loops.find? name).getD 0) (begunLoops tools name arrivals) := by
  induction arrivals generalizing before with
  | nil => trivial
  | cons arrival rest ih =>
    -- The arrival changes the place of the name only if it is a loop of the name, which then stands in front.
    obtain ⟨rfl, hrest⟩ := h
    have hfollow := ih hrest
    rw [Arrival.loops_moved] at hfollow
    unfold begunLoops
    cases hbegun : arrival.begun? tools with
    | none =>
      rw [hbegun] at hfollow
      rwa [List.filterMap_cons_none hbegun]
    | some start =>
      rw [hbegun] at hfollow
      dsimp only at hfollow
      rw [Entries.find?_put] at hfollow
      rw [List.filterMap_cons_some hbegun]
      by_cases hname : start.header.name = name
      · rw [if_pos hname, Option.getD_some] at hfollow
        rw [List.filter_cons_of_pos (by simpa using hname)]
        obtain ⟨-, next, hrun⟩ := arrival.of_begun?_eq hbegun
        obtain ⟨-, hnone, hresume⟩ := of_beginning_eq hrun
        rw [hname] at hresume
        exact ⟨hnone, hresume, hfollow⟩
      · rw [if_neg hname] at hfollow
        rwa [List.filter_cons_of_neg (by simpa using hname)]

/-! ## Windows in a row -/

/-- A window of a value with items, as long as the items up to its end can be counted. -/
theorem window?_eq_some {value : Value} (hitems : value.items? = some items) {offset : Nat} {limit : Option Nat}
    (hcount : items.length ≤ maxCount ∨ offset + limit.getD maxCount ≤ maxCount) :
    value.window? offset limit = some ((items.drop offset).take (limit.getD maxCount)) := by
  cases value with
  | range first last =>
    rw [Value.items?_range] at hitems
    obtain rfl := Option.some.inj hitems
    rw [length_integers] at hcount
    rw [Value.window?, rangeItems_eq_integersFrom, integers, drop_integersFrom, take_integersFrom, rangeLength]
    congr 2
    omega
  | _ => simp only [Value.window?, hitems, Option.map_some]

/-- The window of a loop consists of the items behind its offset, as many as it may take. -/
theorem LoopStart.window_eq {start : LoopStart} (hitems : start.collection.items? = some items)
    (hcount : items.length ≤ maxCount ∨ start.offset + start.reach ≤ maxCount) :
    start.window = (items.drop start.offset).take start.reach := by
  have hwindow : start.window =
      (start.collection.window? start.offset (start.limit.map fun limit ↦ limit.toInt.toNat)).getD [] := by
    obtain ⟨header, collection, offset, limit⟩ := start
    cases collection with
    | string text => cases hitems
    | _ => rfl
  rw [hwindow, window?_eq_some hitems hcount]
  rfl

/-- A loop that begins behind the items that have been passed takes the next ones. -/
theorem LoopStart.window_eq_of_passed {start : LoopStart} {passed : Nat} (hitems : start.collection.items? = some items)
    (hoffset : start.offset = min passed items.length)
    (hcount : min items.length (passed + start.reach) ≤ maxCount) :
    start.window = (items.drop passed).take start.reach := by
  rw [start.window_eq hitems (by omega), hoffset]
  by_cases hpassed : passed ≤ items.length
  · rw [Nat.min_eq_left hpassed]
  · rw [Nat.min_eq_right (by omega), List.drop_length, List.drop_eq_nil_of_le (by omega)]

/-- It stops behind the items that it may take, or at the end of the collection. -/
theorem LoopStart.place_eq_of_passed {start : LoopStart} {passed : Nat} (hitems : start.collection.items? = some items)
    (hoffset : start.offset = min passed items.length)
    (hcount : min items.length (passed + start.reach) ≤ maxCount) :
    start.place = min (passed + start.reach) items.length := by
  rw [LoopStart.place, start.window_eq_of_passed hitems hoffset hcount, List.length_take, List.length_drop, hoffset]
  omega

/-- Whether loops take the items behind those that have been passed, one loop after the other. -/
structure Walk (items : List Value) (passed : Nat) (starts : List LoopStart) : Prop where
  windows : ∀ (number : Nat) start, starts[number]? = some start →
    start.window = (items.drop (passed + totalReach (starts.take number))).take start.reach
  together : starts.flatMap LoopStart.window = (items.drop passed).take (totalReach starts)

namespace Walk

variable {passed : Nat} {start : LoopStart} {starts rest : List LoopStart}

theorem nil : Walk items passed [] := ⟨fun _ _ h ↦ by simp at h, rfl⟩

theorem cons (hwindow : start.window = (items.drop passed).take start.reach) (h : Walk items (passed + start.reach) rest) :
    Walk items passed (start :: rest) where
  windows number later hlater := by
    cases number with
    | zero =>
      obtain rfl : start = later := Option.some.inj hlater
      exact hwindow
    | succ number =>
      rw [List.take_succ_cons, totalReach, ← Nat.add_assoc]
      exact h.windows number later hlater
  together := by
    rw [List.flatMap_cons, hwindow, h.together, totalReach, List.take_add, List.drop_drop]

/-- Loops that resume one after the other take the items in a row. -/
theorem of_follow (hfollow : Follow (min passed items.length) starts)
    (hresume : ∀ start ∈ starts, start.header.offset = some .resume)
    (hitems : ∀ start ∈ starts, start.collection.items? = some items)
    (hcount : min items.length (passed + totalReach starts) ≤ maxCount) : Walk items passed starts := by
  -- What has been passed may lie beyond the end; the place of the loops is then the end itself.
  induction starts generalizing passed with
  | nil => exact nil
  | cons start rest ih =>
    rw [List.forall_mem_cons] at hresume hitems
    rw [totalReach] at hcount
    have hoffset := hfollow.2.1 hresume.1
    have hreached : min items.length (passed + start.reach) ≤ maxCount := by omega
    have hrest := hfollow.2.2
    rw [start.place_eq_of_passed hitems.1 hoffset hreached] at hrest
    exact cons (start.window_eq_of_passed hitems.1 hoffset hreached)
      (ih hrest hresume.2 hitems.2 (by omega))

end Walk

/-- In every render whose custom tags leave the places alone, loops of one name that begin one after the other, the first one
without an offset and the others where the one before them stopped, take the items of their collection in a row, as long
as these can be counted: each takes as many as it may of those that the loops before it left, and together they take as
many from the beginning as they may together. Each visits what it takes, forward or backward; how that ends plays no
part. -/
theorem resuming_loops_walk {engine : Engine} (hkeeps : engine.KeepsPlaces) (body : Block) (drive : Drive)
    (state : RenderState) {name : String} {earlier rest later : List LoopStart} {first : LoopStart}
    (hbegun : begunLoops engine.tools name ((Traced.block engine body).arrivals drive state) =
      earlier ++ (first :: rest ++ later))
    (hfirst : first.header.offset = none) (hrest : ∀ start ∈ rest, start.header.offset = some .resume)
    (hitems : ∀ start ∈ first :: rest, start.collection.items? = some items)
    (hcount : min items.length (totalReach (first :: rest)) ≤ maxCount) :
    (Traced.block engine body).run = block engine body ∧
    (∀ arrival ∈ (Traced.block engine body).arrivals drive state, ∀ start, arrival.begun? engine.tools = some start →
      ∀ body otherwise, loop engine.tools start.header body otherwise arrival.drive arrival.state =
        (if start.window.isEmpty then otherwise else visitLoop start.header start.visited body) arrival.drive
          (arrival.moved engine.tools)) ∧
    (∀ (number : Nat) start, (first :: rest)[number]? = some start →
      start.window = (items.drop (totalReach ((first :: rest).take number))).take start.reach) ∧
    (first :: rest).flatMap LoopStart.window = items.take (totalReach (first :: rest)) := by
  have htraces := Traces.block hkeeps body
  have hall := (htraces.moves drive state).follow name
  rw [hbegun] at hall
  obtain ⟨reached, hbehind⟩ := hall.of_append
  have hfollow : Follow reached (first :: rest) := hbehind.left
  rw [List.forall_mem_cons] at hitems
  have hreach : totalReach (first :: rest) = first.reach + totalReach rest := rfl
  have hoffset : first.offset = min 0 items.length := by rw [hfollow.1 hfirst, Nat.zero_min]
  have hreached : min items.length (0 + first.reach) ≤ maxCount := by omega
  have hnext := hfollow.2.2
  rw [first.place_eq_of_passed hitems.1 hoffset hreached] at hnext
  have hwalk : Walk items 0 (first :: rest) :=
    .cons (first.window_eq_of_passed hitems.1 hoffset hreached) (.of_follow hnext hrest hitems.2 (by omega))
  refine ⟨htraces.run_eq, fun _ _ _ hbegins body otherwise ↦ run_loop_of_begun hbegins body otherwise, ?_, hwalk.together⟩
  intro number start hstart
  rw [hwalk.windows number start hstart, Nat.zero_add]

/-- A loop over three numbers with a limit. -/
def numbersLoop (reversed : Bool) (limit : Int64) (offset : Option LoopOffset) : LoopHeader :=
  ⟨"x", .literal (.seq [.int 1, .int 2, .int 3]), "x-c", reversed, some (.literal (.int limit)), offset⟩

/-- A page that breaks a reversed loop and goes on behind it. -/
def brokenPage : Block :=
  [.tag "for" "" ⟨.first, .first⟩ (.loop (numbersLoop true 1 none) [.tag "break" "" ⟨.first, .first⟩ .breakLoop] none),
    .tag "for" "" ⟨.first, .first⟩ (.loop (numbersLoop false 5 (some .resume)) [] none)]

/-- The state in which a render of the page starts. -/
def brokenPageState : RenderState :=
  (Session.start Environment.standard 0).renderState ⟨"page", "", brokenPage, [], false⟩ .nil .none

/-- The loop of the page that is broken. -/
def brokenStart : LoopStart := ⟨numbersLoop true 1 none, .seq [.int 1, .int 2, .int 3], 0, some 1⟩

/-- The loop of the page that goes on. -/
def resumedStart : LoopStart := ⟨numbersLoop false 5 (some .resume), .seq [.int 1, .int 2, .int 3], 1, some 5⟩

theorem resuming_loops_walk_broken :
    begunLoops (Environment.standard.engine Registry.empty).tools "x-c"
        ((Traced.block (Environment.standard.engine Registry.empty) brokenPage).arrivals .blocking brokenPageState) =
      [brokenStart, resumedStart] ∧
    brokenStart.window = [.int 1] ∧ resumedStart.window = [.int 2, .int 3] := by
  have hkeeps : (Environment.standard.engine Registry.empty).KeepsPlaces := fun _ _ h ↦ by cases h
  have hall : ((Traced.block (Environment.standard.engine Registry.empty) brokenPage).arrivals .blocking
      brokenPageState).filterMap (Arrival.begun? (Environment.standard.engine Registry.empty).tools) =
      [brokenStart, resumedStart] := by rfl
  have hbegun : begunLoops (Environment.standard.engine Registry.empty).tools "x-c"
      ((Traced.block (Environment.standard.engine Registry.empty) brokenPage).arrivals .blocking brokenPageState) =
      [] ++ (brokenStart :: [resumedStart] ++ []) := by
    rw [begunLoops, hall]
    rfl
  have hresume : ∀ start ∈ [resumedStart], start.header.offset = some .resume := by simp [resumedStart, numbersLoop]
  have hitems : ∀ start ∈ brokenStart :: [resumedStart], start.collection.items? = some [.int 1, .int 2, .int 3] := by
    simp [brokenStart, resumedStart, Value.items?]
  have hwalk := resuming_loops_walk hkeeps brokenPage .blocking brokenPageState hbegun rfl hresume hitems (by decide)
  exact ⟨hbegun, hwalk.2.2.1 0 brokenStart rfl, hwalk.2.2.1 1 resumedStart rfl⟩

/-- A text with a loop over `c` that is resumed behind something else. -/
def resumedText (between : String) : String :=
  "\x7b% for a-b in c limit: 1 %\x7d\x7b\x7b a-b \x7d\x7d\x7b% endfor %\x7d" ++ between ++
    "|\x7b% for a-b in c offset: continue %\x7d\x7b\x7b a-b \x7d\x7d\x7b% endfor %\x7d"

/-- The page of the text. -/
def resumedPage (between : String) : Template where
  name := "page"
  source := resumedText between
  root := (Environment.standard.parse "page" (resumedText between)).toOption.getD []
  assigned := []
  isThreadSafe := false

/-- A loop of other items over another collection lets the loop go on behind an item that it has not come to. -/
theorem resumed_loop_skips_item :
    let printed (between : String) :=
      (Session.render .blocking 0
        (.map [("c", .seq [.int 1, .int 2, .int 3]), ("b-c", .seq [.int 8, .int 9])]) .none
        { Session.start Environment.standard 0 with templates := [resumedPage between] }).1.toOption.map
          fun rendered ↦ rendered.output
    printed "" = some "1|23" ∧ printed "\x7b% for a in b-c limit: 2 %\x7d\x7b% endfor %\x7d" = some "1|3" := by
  decide +kernel

end Liquid.Render
