import Liquid.Context.Basic

/-!
# Looking up names

A name is looked for in the scopes from the innermost to the outermost, then among the assigned variables, then among the
members of the render's variables and last among the globals. Members of maps and objects are found by name; values that
have items also have a size, a first and a last item. Reading a member of an object may change what the object has
counted.
-/

namespace Liquid

namespace Object

/-- A member of the state of a loop that has come to the item of the given index. -/
def loopMember? (name : String) (length index : Nat) (member : String) : Option Value :=
  match member with
  | "index0" => some (.ofCount index)
  | "index" => some (.ofCount (index + 1))
  | "length" => some (.ofCount length)
  | "rindex" => some (.ofCount (length - index))
  | "rindex0" => some (.ofCount (length - index - 1))
  | "first" => some (.bool (index == 0))
  | "last" => some (.bool (length == 0 || index == length - 1))
  | "name" => some (.string name)
  | _ => none

/-- A member of the state of a table that has come to the item of the given index. -/
def tableMember? (name : String) (length columns index : Nat) (member : String) : Option Value :=
  match member with
  | "col" => some (.ofCount (index % columns + 1))
  | "col0" => some (.ofCount (index % columns))
  | "row" => some (.ofCount (index / columns + 1))
  | "col_first" => some (.bool (index % columns == 0))
  | "col_last" => some (.bool (index % columns + 1 == columns))
  | "name" => none
  | _ => loopMember? name length index member

/-- The value of a member that a host object lists; `variable` finds the variable of a phrase. -/
def hostMember (variable_ : String → StateM Tallies (Option Value)) (id : Nat) : Member → StateM Tallies Value
  | .constant value => return value
  | .tally => do
    let count := (← get).count id + 1
    modify (Entries.put id count)
    return .ofCount count
  | .phrase opening name fallback => do
    match ← variable_ name with
    | some value => return .string (opening ++ value.text (← get))
    | none => return .string (opening ++ fallback)

/-- A member of an object. -/
def member? (variable_ : String → StateM Tallies (Option Value)) (id : Nat) (member : String) :
    Object → StateM Tallies (Option Value)
  | forLoop name length parent => do
    if member == "parentloop" then return some parent
    else return loopMember? name length ((← get).count id) member
  | tableRow name length columns => do
    return tableMember? name length (max columns 1) ((← get).count id) member
  | host _ _ members _ =>
    match Entries.find? member members with
    | some found => some <$> hostMember variable_ id found
    | none => return none

end Object

namespace Value

/-- The members that values have by their structure: a size, and of items the first and the last. -/
def structuralMember? (value : Value) (name : String) : Option Value :=
  if name == "size" then value.length?.map ofCount
  else if value.kind == .seq || value.kind == .object then
    if name == "first" then value.index? 0
    else if name == "last" then value.index? (-1)
    else none
  else none

/-- A member of a map: an entry of that name, else an entry that the name matches, else the size. -/
def mapMember? (naming : NamingConvention) (entries : Entries String Value) (name : String) : Option Value :=
  entries.find? name <|> (List.find? (fun entry ↦ naming.matchesName entry.1 name) entries).map Prod.snd <|>
    if name == "size" then some (ofCount entries.length) else none

/-- A member of a value. -/
def member? (variable_ : String → StateM Tallies (Option Value)) (naming : NamingConvention) (value : Value)
    (name : String) : StateM Tallies (Option Value) := do
  match value with
  | map entries => return mapMember? naming entries name
  | object id shown =>
    match ← shown.member? variable_ id name with
    | some found => return some found
    | none => return value.structuralMember? name
  | _ => return value.structuralMember? name

end Value

namespace Context

/-- The value of a name, the members of the render's variables being found as given. -/
def variableWith (member? : Value → String → StateM Tallies (Option Value)) (context : Context) (name : String) :
    StateM Tallies (Option Value) := do
  match context.scopes.find? name <|> context.assigned.find? name with
  | some value => return some value
  | none =>
    match ← member? context.inputs name with
    | some value => return some value
    | none => return context.globals.find? name

/-- The value of a name for the phrases of objects, in which no other phrase is looked for. -/
def plainVariable (context : Context) : String → StateM Tallies (Option Value) :=
  context.variableWith (Value.member? (fun _ ↦ return none) context.naming)

/-- A member of a value. -/
def member? (context : Context) (value : Value) (name : String) : StateM Tallies (Option Value) :=
  value.member? context.plainVariable context.naming name

/-- The value of a name. -/
def lookup (context : Context) (name : String) : StateM Tallies (Option Value) :=
  context.variableWith context.member? name

/-- The part of a value that a key selects: an item by number, a member by text, and of a map an entry by the text of
any other key. -/
def item? (context : Context) (value key : Value) : StateM Tallies (Option Value) := do
  match key, value with
  | .string name, _ => context.member? value name
  | _, .map entries => return Entries.find? (key.text (← get)) entries
  | .int index, _ => return value.index? index.toInt
  | .float _, _ => return key.integer?.bind fun index ↦ value.index? index.toInt
  | _, _ => return none

end Context

end Liquid
