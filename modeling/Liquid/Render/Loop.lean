import Liquid.Render.State

/-!
# Loops

A loop visits the items of a window of its collection. An object shows how far it has come. A break ends the nearest loop,
and whatever happens in a loop, its scope is closed behind it.
-/

namespace Liquid.Render

/-- The window of a collection that a loop visits; a text that is not empty is one item. -/
def loopItems (collection : Value) (offset : Nat) (limit : Option Int64) : List Value :=
  let limit := limit.map fun limit ↦ limit.toInt.toNat
  match collection with
  | .string text => if text.isEmpty || offset > 0 || limit == some 0 then [] else [collection]
  | _ => (collection.window? offset limit).getD []

/-- The integer that an argument of a loop gives; nil and what is no number give none. -/
def loopArgument (tools : Toolbox) (argument : Option Expr) : Eval (Option Int64) :=
  match argument with
  | none => return none
  | some expr => do
    let value ← expr.eval tools
    if value.isNil then return none else return value.toNumber?.map Number.toInteger

/-- The offset that an argument of a loop gives, zero unless it is positive. -/
def offsetArgument (tools : Toolbox) (argument : Option Expr) : Eval Nat := do
  return ((← loopArgument tools argument).map fun offset ↦ offset.toInt.toNat).getD 0

/-- Makes a new object. -/
def newObject (object : Object) : Render (Nat × Value) := do
  let state ← get
  let id := state.shared.nextObject
  set { state with shared := { state.shared with nextObject := id + 1 } }
  return (id, .object id object)

/-- Sets how far the object of a loop has come. -/
def advance (id index : Nat) : Render Unit :=
  modify fun state ↦
    { state with shared.counts.tallies := Entries.put id index state.shared.counts.tallies }

/-- Visits items one after the other until a visit breaks the loop. -/
def eachItem (visit : Nat → Value → Render Flow) : (index : Nat) → List Value → Render Unit
  | _, [] => return ()
  | index, item :: rest => do
    match ← visit index item with
    | .breakLoop => return ()
    | .continueLoop | .completed => eachItem visit (index + 1) rest

/-- Runs the visits of a loop in a scope of their own, in which a name stands for the object of the loop. -/
def inLoop (objectName : String) (object : Value) (visits : Render Unit) : Render (Except Error Unit) := do
  modifyContext fun context ↦ ((context.push []).enterLoop).set objectName object
  let ended ← attempt visits
  modifyContext Context.leaveLoop
  popScope
  return ended

/-- Visits the items of a loop. -/
def visitLoop (header : LoopHeader) (items : List Value) (body : Render Flow) : Render Flow := do
  let parent ← evaluate (Eval.counting fun context ↦ context.lookup "forloop")
  let (id, object) ← newObject (.forLoop header.name items.length (parent.getD .undefined))
  let visit (index : Nat) (item : Value) : Render Flow := do
    advance id index
    modifyContext fun context ↦ context.set header.item item
    body
  settle (← inLoop "forloop" object (eachItem visit 0 items))
  return .completed

/-- The number of items that a loop passes over. -/
def loopOffset (tools : Toolbox) (header : LoopHeader) : Render Nat := do
  match header.offset with
  | some .resume => return (((← context).registers.places Registers.loopKey).find? header.name).getD 0
  | some (.expr expr) => evaluate (offsetArgument tools (some expr))
  | none => return 0

/-- Renders a loop; without items its other body is rendered. -/
def loop (tools : Toolbox) (header : LoopHeader) (body otherwise : Render Flow) : Render Flow := do
  let collection ← evaluate (header.collection.eval tools)
  let offset ← loopOffset tools header
  let limit ← evaluate (loopArgument tools header.limit)
  let items := loopItems collection offset limit
  modifyContext fun context ↦
    context.setRegister Registers.loopKey
      (.places ((context.registers.places Registers.loopKey).put header.name
        (min (offset + items.length) maxCount)))
  if items.isEmpty then otherwise
  else visitLoop header (if header.reversed then items.reverse else items) body

/-- Renders a table with a cell for each item. -/
def table (tools : Toolbox) (header : TableHeader) (body : Render Flow) : Render Flow := do
  let collection ← evaluate (header.collection.eval tools)
  let offset ← evaluate (offsetArgument tools header.offset)
  let limit ← evaluate (loopArgument tools header.limit)
  let items := loopItems collection offset limit
  let columns :=
    match ← evaluate (loopArgument tools header.columns) with
    | some columns => if 0 < columns.toInt then columns.toInt.toNat else max items.length 1
    | none => max items.length 1
  let (id, object) ← newObject (.tableRow header.name items.length columns)
  write "<tr class=\"row1\">\n"
  let visit (index : Nat) (item : Value) : Render Flow := do
    advance id index
    modifyContext fun context ↦ context.set header.item item
    let column := index % columns
    write ("<td class=\"col" ++ toString (column + 1) ++ "\">")
    let ended ← attempt body
    write "</td>"
    if column + 1 = columns ∧ index + 1 ≠ items.length then
      write ("</tr>\n<tr class=\"row" ++ toString (index / columns + 2) ++ "\">")
    settle ended
  let ended ← inLoop "tablerowloop" object (eachItem visit 0 items)
  write "</tr>\n"
  settle ended
  return .completed

end Liquid.Render
