import Liquid.Context.Lookup
import Liquid.Value.Equality

/-!
# Filters on sequences

What the filters on items compute.
-/

namespace Liquid.Filter

/-- The items without later repetitions. -/
def uniqueItems (items : List Value) : List Value :=
  items.foldl (fun kept item ↦ if kept.any (·.same item) then kept else kept ++ [item]) []

/-- The key by which an item is sorted: itself, or a member, nil if it has none. -/
def sortKey (context : Context) (member? : Option String) (item : Value) : StateM Tallies Value := do
  match member? with
  | some name => return (← context.member? item name).getD .nil
  | none => return item

/-- Whether the key of an item comes before that of another one. Both keys are read, that of the item first. -/
def keyIsBefore (context : Context) (member? : Option String) (item other : Value) : StateM Tallies Bool := do
  let key ← sortKey context member? item
  let otherKey ← sortKey context member? other
  return key.sortOrder otherKey == .lt

/-- Puts an item into items in reverse order, in front of the first one that it is not before. -/
def insertBack {α : Type} {m : Type → Type} [Monad m] (isBefore : α → α → m Bool) (item : α) : List α → m (List α)
  | [] => return [item]
  | last :: earlier => do
    if ← isBefore item last then return last :: (← insertBack isBefore item earlier)
    else return item :: last :: earlier

/-- Items put in order one after the other, each behind all that it is not before; those that are alike keep their order. -/
def sortBy {α : Type} {m : Type → Type} [Monad m] (isBefore : α → α → m Bool) (items : List α) : m (List α) := do
  return (← items.foldlM (fun sorted item ↦ insertBack isBefore item sorted) []).reverse

/-- The items in the order of their keys, which are read anew for every comparison. A single item has nothing to be compared
with, and its key is not read. -/
def sortItems (context : Context) (member? : Option String) (items : List Value) : StateM Tallies (List Value) :=
  sortBy (keyIsBefore context member?) items

/-- A member of each item, nil where there is none. -/
def membersOf (context : Context) (name : String) (items : List Value) : StateM Tallies (List Value) :=
  items.mapM fun item ↦ do return (← context.member? item name).getD .nil

end Liquid.Filter
