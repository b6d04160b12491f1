import Liquid.Proofs.Render.Leaving

/-!
# What loops make of breaks and continues

The body of a loop or a table is rendered for each item. A continue that leaves the body ends that iteration, a break ends the
loop, and the loop itself never ends with either, so that no loop around it is left.
-/

namespace Liquid.Render

open Template

variable {engine : Engine} {inclusions : Inclusion → Render Flow} {drive : Drive} {levels : Nat} {state : RenderState}

/-! ## Iterations -/

/-- The iterations of a loop over items: what is left of the body of one is not rendered if a break or a continue is reached
that leaves it. After a continue the next item follows, after a break none does. Each iteration is entered and left in the
given ways. -/
inductive Iterates (engine : Engine) (drive : Drive) (levels : Nat) (block : Block)
    (enter : Nat → Value → RenderState → RenderState) (leave : Nat → RenderState → RenderState) :
    Nat → List Value → RenderState → Except Failure Unit → RenderState → Prop
  | done {index : Nat} {state : RenderState} : Iterates engine drive levels block enter leave index [] state (.ok ()) state
  | completed {index : Nat} {item : Value} {rest : List Value} {state next after : RenderState} {ended : Except Failure Unit}
      (stays : ∀ flow other, ¬Leaves engine drive flow levels block (enter index item state) other)
      (body : blockWithin engine levels block drive (enter index item state) = (.ok .completed, next))
      (iterates : Iterates engine drive levels block enter leave (index + 1) rest (leave index next) ended after) :
      Iterates engine drive levels block enter leave index (item :: rest) state ended after
  | continued {index : Nat} {item : Value} {rest : List Value} {state next after : RenderState} {ended : Except Failure Unit}
      (body : Leaves engine drive .continueLoop levels block (enter index item state) next)
      (iterates : Iterates engine drive levels block enter leave (index + 1) rest (leave index next) ended after) :
      Iterates engine drive levels block enter leave index (item :: rest) state ended after
  | broken {index : Nat} {item : Value} {rest : List Value} {state next : RenderState}
      (body : Leaves engine drive .breakLoop levels block (enter index item state) next) :
      Iterates engine drive levels block enter leave index (item :: rest) state (.ok ()) (leave index next)
  | failed {index : Nat} {item : Value} {rest : List Value} {state next : RenderState} {error : Error}
      (body : blockWithin engine levels block drive (enter index item state) = (.error (.error error), next)) :
      Iterates engine drive levels block enter leave index (item :: rest) state (.error (.error error)) (leave index next)
  | suspended {index : Nat} {item : Value} {rest : List Value} {state next : RenderState}
      (body : blockWithin engine levels block drive (enter index item state) = (.error .suspended, next)) :
      Iterates engine drive levels block enter leave index (item :: rest) state (.error .suspended) next

/-- What is done behind something that has ended, unless it would have had to wait. -/
def behind {α : Type} (close : RenderState → RenderState) :
    Except Failure α × RenderState → Except Failure α × RenderState
  | (.error .suspended, state) => (.error .suspended, state)
  | (ended, state) => (ended, close state)

/-- Visits that render a block for each item iterate, where a loop is active. -/
theorem iterates_eachItem {block : Block} {enter : Nat → Value → RenderState → RenderState}
    {leave : Nat → RenderState → RenderState} {visit : Nat → Value → Render Flow}
    (hvisit : ∀ index item state, visit index item drive state =
      behind (leave index) (blockWithin engine levels block drive (enter index item state)))
    (hblock : AllTags Tag.IsBuiltin block)
    (henter : ∀ index item state, IncludesOnly engine Tag.IsBuiltin state → SameLoops engine state (enter index item state))
    (hleave : ∀ index state, IncludesOnly engine Tag.IsBuiltin state → SameLoops engine state (leave index state)) :
    ∀ (items : List Value) (index : Nat) (state : RenderState), IncludesOnly engine Tag.IsBuiltin state →
      0 < state.context.loops →
        Iterates engine drive levels block enter leave index items state (eachItem visit index items drive state).1
          (eachItem visit index items drive state).2
  | [], index, state, _, _ => by
    rw [eachItem]
    exact .done
  | item :: rest, index, state, hincludes, hactive => by
    have hentered := henter index item state hincludes
    have hinside : 0 < (enter index item state).context.loops := hentered.loops ▸ hactive
    have hbody : Keeps (IncludesOnly engine Tag.IsBuiltin) RestoredAround (blockWithin engine levels block) :=
      .blockWithin_around hblock levels
    have hbreak : Flow.breakLoop ≠ .completed := by decide
    have hcontinue : Flow.continueLoop ≠ .completed := by decide
    have hnext {flow : Flow} {next : RenderState}
        (hrun : blockWithin engine levels block drive (enter index item state) = (.ok flow, next)) :=
      hentered.trans ((hbody.sameLoops hentered.includes hrun).trans
        (hleave index next (hbody.sameLoops hentered.includes hrun).includes))
    rw [eachItem, run_bind, hvisit]
    rcases hrun : blockWithin engine levels block drive (enter index item state) with ⟨(error | _) | _ | _ | _, next⟩
    · exact .failed hrun
    · exact .suspended hrun
    · refine .completed (fun flow other hleaves ↦ ?_) hrun
        (iterates_eachItem hvisit hblock henter hleave rest (index + 1) _ (hnext hrun).includes ((hnext hrun).loops ▸ hactive))
      have hleft := hleaves.run hblock hentered.includes hinside
      rw [hrun] at hleft
      exact hleaves.flow_ne (Except.ok.inj (congrArg Prod.fst hleft)).symm
    · exact .broken (leaves_of_run hbreak levels block hblock hentered.includes hrun).2
    · exact .continued (leaves_of_run hcontinue levels block hblock hentered.includes hrun).2
        (iterates_eachItem hvisit hblock henter hleave rest (index + 1) _ (hnext hrun).includes ((hnext hrun).loops ▸ hactive))

/-- The state in a loop, in whose scope a name stands for the object of the loop. -/
def openLoop (objectName : String) (object : Value) (state : RenderState) : RenderState :=
  { state with context := ((state.context.push []).enterLoop).set objectName object }

/-- The state behind a loop that was entered in a context. -/
def closeLoop (outer : Context) (state : RenderState) : RenderState :=
  { state with context := { state.context with scopes := outer.scopes, loops := state.context.loops - 1 } }

/-- How a loop ends whose iterations have ended: it never leaves the loop around it. -/
def endLoop (close : RenderState → RenderState) (ended : Except Failure Unit) (inside : RenderState) :
    Except Failure Flow × RenderState :=
  behind close (ended.map fun _ ↦ .completed, inside)

/-- A loop ends as its visits do, and it is closed behind them. -/
theorem run_inLoop {visits : Render Unit} {next : Except Error Unit → Render Flow} {close : RenderState → RenderState}
    (hvisits : Keeps (IncludesOnly engine Tag.IsBuiltin) RestoredAround visits)
    (hincludes : IncludesOnly engine Tag.IsBuiltin state)
    (hnext : ∀ ended inside, next ended drive inside = ((ended.map fun _ ↦ .completed).mapError Failure.error, close inside))
    (objectName : String) (object : Value) :
    (inLoop objectName object visits >>= next) drive state =
      endLoop (close ∘ closeLoop state.context) (visits drive (openLoop objectName object state)).1
        (visits drive (openLoop objectName object state)).2 := by
  have hkept := hvisits drive (openLoop objectName object state) hincludes
  unfold inLoop
  simp only [bind_assoc, pure_bind]
  rw [run_bind_ok (run_modifyContext _ drive state)]
  change (attempt visits >>= _) drive (openLoop objectName object state) = _
  rw [run_attempt_bind]
  have hclosed {ended : Except Failure Unit} {inside : RenderState} (hreturned : Returned ended)
      (hrun : visits drive (openLoop objectName object state) = (ended, inside)) :
      popScope drive { inside with context := inside.context.leaveLoop } = (.ok (), closeLoop state.context inside) := by
    rw [hrun] at hkept
    exact run_popScope_push drive _ ((hkept.related hreturned).scopes_eq_push rfl)
  rcases hrun : visits drive (openLoop objectName object state) with ⟨(error | _) | _, inside⟩
  · dsimp only
    rw [run_bind_ok (run_modifyContext _ drive inside), run_bind_ok (hclosed (.error error) hrun), hnext]
    rfl
  · rfl
  · dsimp only
    rw [run_bind_ok (run_modifyContext _ drive inside), run_bind_ok (hclosed (.value ()) hrun), hnext]
    rfl

/-- The visits of a loop iterate, and the loop is closed behind them. -/
theorem exists_iterates {block : Block} {enter : Nat → Value → RenderState → RenderState}
    {leave : Nat → RenderState → RenderState} {visit : Nat → Value → Render Flow} {next : Except Error Unit → Render Flow}
    {close : RenderState → RenderState}
    (hvisit : ∀ index item state, visit index item drive state =
      behind (leave index) (blockWithin engine levels block drive (enter index item state)))
    (hblock : AllTags Tag.IsBuiltin block)
    (henter : ∀ index item state, IncludesOnly engine Tag.IsBuiltin state → SameLoops engine state (enter index item state))
    (hleave : ∀ index state, IncludesOnly engine Tag.IsBuiltin state → SameLoops engine state (leave index state))
    (hkeeps : ∀ index item, Keeps (IncludesOnly engine Tag.IsBuiltin) RestoredAround (visit index item))
    (hnext : ∀ ended inside, next ended drive inside = ((ended.map fun _ ↦ .completed).mapError Failure.error, close inside))
    (hincludes : IncludesOnly engine Tag.IsBuiltin state) (objectName : String) (object : Value) (items : List Value) :
    ∃ ended inside,
      Iterates engine drive levels block enter leave 0 items (openLoop objectName object state) ended inside ∧
        (inLoop objectName object (eachItem visit 0 items) >>= next) drive state =
          endLoop (close ∘ closeLoop state.context) ended inside :=
  ⟨_, _, iterates_eachItem hvisit hblock henter hleave items 0 _ hincludes (Nat.succ_pos _),
    run_inLoop (.eachItem hkeeps 0 items) hincludes hnext objectName object⟩

/-- The state in which an item is visited. -/
def visited (id : Nat) (name : String) (index : Nat) (item : Value) (state : RenderState) : RenderState :=
  { state with
    context := state.context.set name item
    shared.counts.tallies := Entries.put id index state.shared.counts.tallies }

/-- Visits an item. -/
def visitItem (id : Nat) (name : String) (body : Render Flow) (index : Nat) (item : Value) : Render Flow := do
  advance id index
  modifyContext fun context ↦ context.set name item
  body

theorem run_visitItem (id : Nat) (name : String) (body : Render Flow) (index : Nat) (item : Value) (drive : Drive)
    (state : RenderState) :
    visitItem id name body index item drive state = body drive (visited id name index item state) := rfl

theorem Keeps.visitItem (id : Nat) (name : String) {body : Render Flow} (index : Nat) (item : Value)
    (h : Keeps (IncludesOnly engine Tag.IsBuiltin) RestoredAround body) :
    Keeps (IncludesOnly engine Tag.IsBuiltin) RestoredAround (Render.visitItem id name body index item) :=
  .bind (.advance id index) fun _ ↦ .bind (.set name item) fun _ ↦ h

theorem behind_id {α : Type} (run : Except Failure α × RenderState) : behind id run = run := by
  rcases run with ⟨(_ | _) | _, _⟩ <;> rfl

/-! ## Loops -/

/-- Makes the object of a loop over a number of items. -/
def loopObject (header : LoopHeader) (count : Nat) : Render (Nat × Value) := do
  let parent ← evaluate (Eval.counting fun context ↦ context.lookup "forloop")
  newObject (.forLoop header.name count (parent.getD .undefined))

theorem Keeps.loopObject (header : LoopHeader) (count : Nat) :
    Keeps (IncludesOnly engine Tag.IsBuiltin) RestoredAround (Render.loopObject header count) :=
  .bind (.evaluate _) fun _ ↦ .newObject _

/-- The items of a loop in the order in which it visits them. -/
def ordered (header : LoopHeader) (items : List Value) : List Value :=
  if header.reversed then items.reverse else items

/-- How a loop visits items. -/
theorem visitLoop_eq_object (header : LoopHeader) (items : List Value) (body : Render Flow) :
    visitLoop header items body = (do
      let made ← loopObject header items.length
      let ended ← inLoop "forloop" made.2 (eachItem (visitItem made.1 header.item body) 0 items)
      settle ended
      return .completed) := by
  simp only [visitLoop, loopObject, bind_assoc]
  rfl

theorem run_loopObject (header : LoopHeader) (count : Nat) (drive : Drive) (state : RenderState) :
    ∃ made opened, loopObject header count drive state = (.ok made, opened) := ⟨_, _, rfl⟩

/-- How a loop tag runs. -/
inductive LoopRuns (engine : Engine) (drive : Drive) (levels : Nat) (header : LoopHeader) (body : Block)
    (otherwise : Option Block) (state : RenderState) : Except Failure Flow × RenderState → Prop
  /-- Its collection or an argument cannot be evaluated. -/
  | failed {failure : Failure} {ready : RenderState}
      (window : loopWindow engine.tools header drive state = (.error failure, ready)) :
      LoopRuns engine drive levels header body otherwise state (.error failure, ready)
  /-- There is no item, so that the other block is rendered. -/
  | empty {ready : RenderState} (window : loopWindow engine.tools header drive state = (.ok [], ready)) :
      LoopRuns engine drive levels header body otherwise state
        (optional engine (inclusionsWithin engine levels) otherwise drive ready)
  | visits {items : List Value} {ready opened inside : RenderState} {made : Nat × Value} {ended : Except Failure Unit}
      (window : loopWindow engine.tools header drive state = (.ok items, ready)) (several : items ≠ [])
      (makes : loopObject header (ordered header items).length drive ready = (.ok made, opened))
      (iterates : Iterates engine drive levels body (visited made.1 header.item) (fun _ ↦ id) 0 (ordered header items)
        (openLoop "forloop" made.2 opened) ended inside) :
      LoopRuns engine drive levels header body otherwise state (endLoop (closeLoop opened.context) ended inside)

/-- From a window with items on, a loop iterates over them. -/
theorem exists_visits {body : Block} {header : LoopHeader} (hbody : AllTags Tag.IsBuiltin body)
    (hincludes : IncludesOnly engine Tag.IsBuiltin state) (items : List Value) :
    ∃ made opened ended inside, loopObject header items.length drive state = (.ok made, opened) ∧
      Iterates engine drive levels body (visited made.1 header.item) (fun _ ↦ id) 0 items
        (openLoop "forloop" made.2 opened) ended inside ∧
      visitLoop header items (blockWithin engine levels body) drive state = endLoop (closeLoop opened.context) ended inside := by
  obtain ⟨made, opened, hmade⟩ := run_loopObject header items.length drive state
  have hopened := ((Keeps.loopObject header items.length).sameLoops hincludes hmade).includes
  have hvisit (index : Nat) (item : Value) (state : RenderState) :
      visitItem made.1 header.item (blockWithin engine levels body) index item drive state =
        behind id (blockWithin engine levels body drive (visited made.1 header.item index item state)) :=
    (behind_id _).symm
  have hkeeps (index : Nat) (item : Value) : Keeps (IncludesOnly engine Tag.IsBuiltin) RestoredAround
      (visitItem made.1 header.item (blockWithin engine levels body) index item) :=
    .visitItem made.1 header.item index item (.blockWithin_around hbody levels)
  have hnext (ended : Except Error Unit) (inside : RenderState) :
      (do settle ended; return .completed : Render Flow) drive inside =
        ((ended.map fun _ ↦ .completed).mapError Failure.error, id inside) := by
    cases ended <;> rfl
  obtain ⟨ended, inside, hiterates, hrun⟩ :=
    exists_iterates hvisit hbody (fun _ _ _ h ↦ ⟨h, rfl⟩) (fun _ _ h ↦ ⟨h, rfl⟩) hkeeps hnext hopened "forloop" made.2 items
  exact ⟨made, opened, ended, inside, hmade, hiterates, by rw [visitLoop_eq_object, run_bind_ok hmade]; exact hrun⟩

theorem loopRuns_tag {body : Block} (hbody : AllTags Tag.IsBuiltin body) (hincludes : IncludesOnly engine Tag.IsBuiltin state)
    (name markup : String) (header : LoopHeader) (otherwise : Option Block) :
    LoopRuns engine drive levels header body otherwise state
      (tag engine (inclusionsWithin engine levels) name markup (.loop header body otherwise) drive state) := by
  rw [tag, loop_eq_window, run_bind, ← blockWithin_eq_nodes]
  rcases hwindow : loopWindow engine.tools header drive state with ⟨failure | _ | ⟨item, rest⟩, ready⟩
  · exact .failed hwindow
  · exact .empty hwindow
  · have hready := ((Keeps.loopWindow _ header).sameLoops hincludes hwindow).includes
    obtain ⟨made, opened, ended, inside, hmade, hiterates, hrun⟩ :=
      exists_visits hbody hready (ordered header (item :: rest))
    change LoopRuns engine drive levels header body otherwise state
      (visitLoop header (ordered header (item :: rest)) (blockWithin engine levels body) drive ready)
    rw [hrun]
    exact .visits hwindow (List.cons_ne_nil item rest) hmade hiterates

/-- A loop with items that has a result is completed. -/
theorem loop_completes {name markup : String} {header : LoopHeader} {body : Block} {otherwise : Option Block}
    {items : List Value} {ready : RenderState} {flow : Flow}
    (hwindow : loopWindow engine.tools header drive state = (.ok items, ready)) (hitems : items ≠ [])
    (hended : (tag engine inclusions name markup (.loop header body otherwise) drive state).1 = .ok flow) :
    flow = .completed := by
  refine Decidable.byContradiction fun hflow ↦ ?_
  obtain ⟨_, _, _, hempty, _⟩ := (loop_eq_ok_iff hflow ..).1 (Prod.ext hended rfl)
  rw [hwindow] at hempty
  exact hitems (Except.ok.inj (Prod.mk.inj hempty).1)

/-! ## Tables -/

/-- A table that is about to be filled. -/
structure Grid where
  items : List Value
  columns : Nat
  /-- The identity of its object. -/
  id : Nat
  object : Value

/-- Evaluates the collection and the arguments of a table and starts it. -/
def tableGrid (tools : Toolbox) (header : TableHeader) : Render Grid := do
  let collection ← evaluate (header.collection.eval tools)
  let offset ← evaluate (offsetArgument tools header.offset)
  let limit ← evaluate (loopArgument tools header.limit)
  let items := loopItems collection offset limit
  let columns :=
    match ← evaluate (loopArgument tools header.columns) with
    | some columns => if 0 < columns.toInt then columns.toInt.toNat else max items.length 1
    | none => max items.length 1
  let (id, object) ← newObject (.tableRow header.name items.length columns)
  write "<tr class=\"row1\">\n"
  return ⟨items, columns, id, object⟩

theorem Keeps.tableGrid (tools : Toolbox) (header : TableHeader) :
    Keeps (IncludesOnly engine Tag.IsBuiltin) RestoredAround (Render.tableGrid tools header) :=
  .bind (.evaluate _) fun _ ↦ .bind (.evaluate _) fun _ ↦ .bind (.evaluate _) fun _ ↦ .bind (.evaluate _) fun _ ↦
    .bind (.newObject _) fun _ ↦ .bind (.write _) fun _ ↦ .pure _

namespace Grid

/-- Whether the cell of an item ends its row and another row follows. -/
def EndsRow (grid : Grid) (index : Nat) : Prop :=
  index % grid.columns + 1 = grid.columns ∧ index + 1 ≠ grid.items.length

instance (grid : Grid) (index : Nat) : Decidable (grid.EndsRow index) := inferInstanceAs (Decidable (_ ∧ _))

/-- The state in the cell of an item. -/
def openCell (grid : Grid) (name : String) (index : Nat) (item : Value) (state : RenderState) : RenderState :=
  let inside := visited grid.id name index item state
  { inside with output := inside.output.write ("<td class=\"col" ++ toString (index % grid.columns + 1) ++ "\">") }

/-- The state behind the cell of an item. -/
def closeCell (grid : Grid) (index : Nat) (state : RenderState) : RenderState :=
  let closed := state.output.write "</td>"
  { state with output :=
      if grid.EndsRow index then
        closed.write ("</tr>\n<tr class=\"row" ++ toString (index / grid.columns + 2) ++ "\">")
      else closed }

/-- The state behind the last row. -/
def closeTable (state : RenderState) : RenderState :=
  { state with output := state.output.write "</tr>\n" }

/-- Renders the cell of an item. -/
def cell (grid : Grid) (name : String) (body : Render Flow) (index : Nat) (item : Value) : Render Flow :=
  visitItem grid.id name (do
    write ("<td class=\"col" ++ toString (index % grid.columns + 1) ++ "\">")
    let ended ← attempt body
    write "</td>"
    if grid.EndsRow index then
      write ("</tr>\n<tr class=\"row" ++ toString (index / grid.columns + 2) ++ "\">")
    settle ended) index item

/-- However the body of a cell ends, the cell is closed behind it. -/
theorem run_cell (grid : Grid) (name : String) (body : Render Flow) (index : Nat) (item : Value) (drive : Drive)
    (state : RenderState) :
    grid.cell name body index item drive state =
      behind (grid.closeCell index) (body drive (grid.openCell name index item state)) := by
  have hclosed (ended : Except Error Flow) (inside : RenderState) :
      (do
        write "</td>"
        if grid.EndsRow index then
          write ("</tr>\n<tr class=\"row" ++ toString (index / grid.columns + 2) ++ "\">")
        settle ended : Render Flow) drive inside = (ended.mapError Failure.error, grid.closeCell index inside) := by
    unfold closeCell
    dsimp only
    by_cases hends : grid.EndsRow index
    · rw [if_pos hends, if_pos hends]
      cases ended <;> rfl
    · rw [if_neg hends, if_neg hends]
      cases ended <;> rfl
  rw [cell, run_visitItem, run_bind_ok (run_write _ drive _)]
  change (attempt body >>= _) drive (grid.openCell name index item state) = _
  rw [run_attempt_bind]
  rcases body drive (grid.openCell name index item state) with ⟨(error | _) | flow, inside⟩
  · exact hclosed (.error error) inside
  · rfl
  · exact hclosed (.ok flow) inside

theorem keeps_cell (grid : Grid) (name : String) {body : Render Flow} (index : Nat) (item : Value)
    (h : Keeps (IncludesOnly engine Tag.IsBuiltin) RestoredAround body) :
    Keeps (IncludesOnly engine Tag.IsBuiltin) RestoredAround (grid.cell name body index item) :=
  .visitItem _ name index item <| .bind (.write _) fun _ ↦ .bind h.attempt fun ended ↦ .bind (.write _) fun _ ↦
    .ite (.bind (.write _) fun _ ↦ .settle ended) (.settle ended)

end Grid

/-- How a table is filled. -/
theorem table_eq_grid (tools : Toolbox) (header : TableHeader) (body : Render Flow) :
    table tools header body = (do
      let grid ← tableGrid tools header
      let ended ← inLoop "tablerowloop" grid.object (eachItem (grid.cell header.item body) 0 grid.items)
      write "</tr>\n"
      settle ended
      return .completed) := by
  simp only [table, tableGrid, bind_assoc, pure_bind]
  rfl

/-- How a table tag runs. -/
inductive TableRuns (engine : Engine) (drive : Drive) (levels : Nat) (header : TableHeader) (body : Block)
    (state : RenderState) : Except Failure Flow × RenderState → Prop
  /-- Its collection or an argument cannot be evaluated. -/
  | failed {failure : Failure} {ready : RenderState}
      (grid : tableGrid engine.tools header drive state = (.error failure, ready)) :
      TableRuns engine drive levels header body state (.error failure, ready)
  | fills {grid : Grid} {opened inside : RenderState} {ended : Except Failure Unit}
      (made : tableGrid engine.tools header drive state = (.ok grid, opened))
      (iterates : Iterates engine drive levels body (grid.openCell header.item) grid.closeCell 0 grid.items
        (openLoop "tablerowloop" grid.object opened) ended inside) :
      TableRuns engine drive levels header body state
        (endLoop (Grid.closeTable ∘ closeLoop opened.context) ended inside)

theorem tableRuns_tag {body : Block} (hbody : AllTags Tag.IsBuiltin body) (hincludes : IncludesOnly engine Tag.IsBuiltin state)
    (name markup : String) (header : TableHeader) :
    TableRuns engine drive levels header body state
      (tag engine (inclusionsWithin engine levels) name markup (.table header body) drive state) := by
  rw [tag, table_eq_grid, run_bind, ← blockWithin_eq_nodes]
  rcases hgrid : tableGrid engine.tools header drive state with ⟨failure | grid, opened⟩
  · exact .failed hgrid
  · have hopened := ((Keeps.tableGrid _ header).sameLoops hincludes hgrid).includes
    have hkeeps (index : Nat) (item : Value) : Keeps (IncludesOnly engine Tag.IsBuiltin) RestoredAround
        (grid.cell header.item (blockWithin engine levels body) index item) :=
      grid.keeps_cell header.item index item (.blockWithin_around hbody levels)
    have hnext (ended : Except Error Unit) (inside : RenderState) :
        (do write "</tr>\n"; settle ended; return .completed : Render Flow) drive inside =
          ((ended.map fun _ ↦ .completed).mapError Failure.error, Grid.closeTable inside) := by
      cases ended <;> rfl
    obtain ⟨ended, inside, hiterates, hrun⟩ :=
      exists_iterates (fun index item state ↦ grid.run_cell header.item _ index item drive state) hbody
        (fun _ _ _ h ↦ ⟨h, rfl⟩) (fun _ _ h ↦ ⟨h, rfl⟩) hkeeps hnext hopened "tablerowloop" grid.object grid.items
    have hfills := TableRuns.fills hgrid hiterates
    rw [← hrun] at hfills
    exact hfills

/-! ## The nearest loop -/

/-- Breaks and continues act on the nearest loop or table. However deep includes may nest, and `block` lets them nest as deep
as the context allows:

- a block of built-in tags ends with a break or a continue just where a loop is active and rendering the block reaches one
  through the blocks that its tags open, and then what is left of those blocks is not rendered;
- where no loop is active, a block never ends so, and a break or a continue does what a comment does: what follows is
  rendered;
- a continue lets a loop go on with its next item, a break ends it; the loop itself never ends with either, unless it has no
  items and its other block does;
- so they do in a table, which never ends with either. -/
theorem leaves_nearest_loop (engine : Engine) (drive : Drive) (levels : Nat) (state : RenderState)
    (hincludes : IncludesOnly engine Tag.IsBuiltin state) :
    (∀ body flow after, AllTags Tag.IsBuiltin body → flow ≠ .completed →
      (blockWithin engine levels body drive state = (.ok flow, after) ↔
        0 < state.context.loops ∧ Leaves engine drive flow levels body state after)) ∧
    (state.context.loops = 0 →
      (∀ body flow, AllTags Tag.IsBuiltin body → (blockWithin engine levels body drive state).1 = .ok flow →
        flow = .completed) ∧
      ∀ name markup span action rest, (Tag.leaves? action).isSome →
        blockWithin engine levels (.tag name markup span action :: rest) drive state =
          blockWithin engine levels (.tag name markup span .comment :: rest) drive state ∧
        (Ready name state →
          blockWithin engine levels (.tag name markup span action :: rest) drive state =
            blockWithin engine levels rest drive state)) ∧
    (∀ name markup header body otherwise, AllTags Tag.IsBuiltin body →
      LoopRuns engine drive levels header body otherwise state
        (tag engine (inclusionsWithin engine levels) name markup (.loop header body otherwise) drive state) ∧
      ∀ items ready flow, loopWindow engine.tools header drive state = (.ok items, ready) → items ≠ [] →
        (tag engine (inclusionsWithin engine levels) name markup (.loop header body otherwise) drive state).1 = .ok flow →
          flow = .completed) ∧
    ∀ name markup header body, AllTags Tag.IsBuiltin body →
      TableRuns engine drive levels header body state
        (tag engine (inclusionsWithin engine levels) name markup (.table header body) drive state) ∧
      ∀ flow, (tag engine (inclusionsWithin engine levels) name markup (.table header body) drive state).1 = .ok flow →
        flow = .completed := by
  refine ⟨fun body flow after hbody hflow ↦ ⟨leaves_of_run hflow levels body hbody hincludes, fun h ↦ ?_⟩,
    fun hloops ↦ ⟨fun body flow hbody hended ↦ completed_of_no_loop hloops hbody hincludes hended,
      fun name markup span action rest hleaves ↦ ⟨?_, fun hready ↦ ?_⟩⟩,
    fun name markup header body otherwise hbody ↦ ⟨loopRuns_tag hbody hincludes name markup header otherwise,
      fun items ready flow hwindow hitems hended ↦ loop_completes hwindow hitems hended⟩,
    fun name markup header body hbody ↦ ⟨tableRuns_tag hbody hincludes name markup header, fun flow hended ↦ ?_⟩⟩
  · exact h.2.run hbody hincludes h.1
  · rw [run_blockWithin, run_blockWithin, run_nodes_of_no_loop hloops hleaves]
  · rw [run_blockWithin, run_blockWithin, run_nodes_of_no_loop hloops hleaves, run_nodes_comment hready]
  · rw [tag] at hended
    exact Completes.table _ header _ drive state flow hended

/-- A loop body that includes a template. -/
def stoppedBody : Block :=
  [.text "a", .tag "include" "'stop'" ⟨.first, .first⟩ (.include ⟨.literal (.string "stop"), none, []⟩), .text "b"]

/-- A state in a loop; the template that it keeps breaks the loop that includes it. -/
def stoppedState : RenderState :=
  { brokenLoopState with context := brokenLoopState.context.enterLoop }

theorem leaves_nearest_loop_stopped :
    ∃ after, Leaves brokenLoopEngine .blocking .breakLoop 3 stoppedBody stoppedState after := by
  have hbody : AllTags Tag.IsBuiltin stoppedBody := ⟨trivial, trivial, trivial, trivial⟩
  have hbroken : ∃ after, blockWithin brokenLoopEngine 3 stoppedBody .blocking stoppedState = (.ok .breakLoop, after) := by
    have hended : (blockWithin brokenLoopEngine 3 stoppedBody .blocking stoppedState).1.toOption = some .breakLoop := by
      decide +kernel
    rcases hrun : blockWithin brokenLoopEngine 3 stoppedBody .blocking stoppedState with ⟨failure | flow, after⟩
    · rw [hrun] at hended
      cases hended
    · rw [hrun] at hended
      exact ⟨after, by rw [Option.some.inj hended]⟩
  obtain ⟨after, hrun⟩ := hbroken
  have hleaves := leaves_nearest_loop brokenLoopEngine .blocking 3 stoppedState brokenLoopState_includesOnly
  exact ⟨after, ((hleaves.1 stoppedBody .breakLoop after hbody nofun).1 hrun).2⟩

end Liquid.Render
