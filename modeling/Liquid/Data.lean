import Liquid.Error
import Liquid.Text.Utf8
import Liquid.Value.Access
import Liquid.Value.Text

/-!
# Converting host data

A host describes its data as a tree of scalars, sequences, maps, records and variants, in which values of the engine
may stand anywhere, and it may convert other data on the way. Values pass through a conversion by handles: a value
is put into a table under a new handle, which is described as a variant of a reserved name, and the handle is
exchanged for the value at once.
-/

namespace Liquid

/-- The name of enumeration and variant under which a handle is described. -/
def handleName : String := "\x01__miniliquid_ValueHandle"

/-- An enumeration of a host. -/
structure Enumeration where
  name : String
  /-- The reserved name is no name of a host. -/
  isHost : name ≠ handleName

mutual

/-- A description of host data. -/
inductive Data where
  | bool (value : Bool)
  | integer (value : Int)
  | float (value : Float)
  | text (content : String)
  | bytes (content : List Nat)
  | nothing
  /-- A variant without data, with its place in its enumeration. -/
  | unitVariant (enumeration : Enumeration) (place : Nat) (name : String)
  /-- Data in a wrapper that does not show. -/
  | wrapped (content : Data)
  /-- Data under the name of a variant. -/
  | variant (name : String) (content : Data)
  | sequence (items : List Data)
  /-- A map, as its keys and values are given one after the other. -/
  | mapping (parts : List MapPart)
  | record (fields : List (String × Data))
  | embedded (value : Value)
  /-- Other data that is converted on its own first, and what is described when its result is known. -/
  | converting (other : Data) (next : Except Fault Value → Data)
  /-- Data whose description fails. -/
  | failing (message : String)

/-- A part of the description of a map. -/
inductive MapPart where
  | key (key : Data)
  | value (content : Data)

end

namespace Data

/-- A map in which each key is followed by its value. -/
def map (entries : List (Data × Data)) : Data :=
  mapping (entries.flatMap fun entry ↦ [.key entry.1, .value entry.2])

/-- A map with data for which no key has been given. -/
def keyless (content : Data) : Data := mapping [.value content]

end Data

/-- The values that are passed through conversions. -/
structure Handles where
  values : Entries Nat Value
  /-- The handle that was given last. -/
  last : Nat
  /-- Whether values are passed by handles. -/
  isActive : Bool

namespace Handles

/-- The number of handles. -/
def capacity : Nat := 4294967296

/-- No value is being passed. -/
def empty : Handles := ⟨[], 0, false⟩

/-- Puts a value into the table and gives its handle. -/
def deposit (value : Value) (handles : Handles) : Nat × Handles :=
  let handle := (handles.last + 1) % capacity
  (handle, { handles with values := handles.values.put handle value, last := handle })

/-- Takes the value of a handle out of the table. -/
def withdraw (handle : Nat) (handles : Handles) : Option Value × Handles :=
  (handles.values.find? handle, { handles with values := handles.values.erase handle })

end Handles

namespace Value

mutual

/-- What a value is converted to where it describes itself by its parts. -/
def plain : Value → Value
  | undefined | nil | empty | blank => nil
  | seq items => seq (plainItems items)
  | map entries => map (plainEntries entries)
  | range first last => seq (rangeItems first 0 (last.toInt - first.toInt + 1).toNat)
  | moment instant => string (text [] (moment instant))
  | object _ (.host _ _ _ (some items)) => seq (plainItems items)
  | object id shown => string (text [] (object id shown))
  | value => value

/-- Items as they describe themselves. -/
def plainItems : List Value → List Value
  | [] => []
  | item :: rest => plain item :: plainItems rest

/-- Entries as they describe themselves. -/
def plainEntries : List (String × Value) → List (String × Value)
  | [] => []
  | (key, value) :: rest => (key, plain value) :: plainEntries rest

end

end Value

/-- A conversion that passes values by handles. -/
abbrev Conversion := ExceptT Fault (StateM Handles)

namespace Conversion

/-- Passes values by handles until a conversion has come to its end. -/
def guarded {α : Type} (conversion : Conversion α) : Conversion α := fun handles ↦
  let (result, after) := conversion { handles with isActive := true }
  (result, if handles.isActive then after else { after with isActive := false })

/-- The result of a conversion, an error included. -/
def observed {α : Type} (conversion : Conversion α) : Conversion (Except Fault α) := fun handles ↦
  let (result, after) := conversion handles
  (.ok result, after)

/-- The value of a variant without data: that of its handle if it has the reserved name, its own name otherwise. -/
def unitVariant (enumeration : String) (place : Nat) (name : String) : Conversion Value := do
  if enumeration == handleName && name == handleName then
    match ← modifyGet (Handles.withdraw place) with
    | some value => return value
    | none => throw .lostHandle
  else return .string name

/-- The value that a value of the engine describes: by a handle within a conversion, by its parts elsewhere. -/
def passed (value : Value) : Conversion Value := do
  if (← get).isActive then
    let handle ← modifyGet (Handles.deposit value)
    unitVariant handleName handle handleName
  else return value.plain

end Conversion

namespace Data

/-- The integer value of a number that fits, and the nearest float of others. -/
def ofInteger (n : Int) : Value :=
  match Liquid.integer? n with
  | some i => .int i
  | none => .float (Float.ofInt n)

/-- The key of a map that a value gives. -/
def keyOf (key : Value) : Except Fault String :=
  match key with
  | .string name => .ok name
  | .int _ | .float _ | .bool _ => .ok (key.text [])
  | _ => .error (.badMapKey key.kind.title)

mutual

/-- The value of data. -/
def convert : Data → Conversion Value
  | bool value => return .bool value
  | integer value => return ofInteger value
  | float value => return .float value
  | text content => return .string content
  | bytes content => return .ofText (Text.Utf8.decode content)
  | nothing => return .nil
  | unitVariant enumeration place name => Conversion.unitVariant enumeration.name place name
  | wrapped content => convert content
  | variant name content => do return .map [(name, ← convert content)]
  | sequence items => do return .seq (← convertItems items)
  | mapping parts => do return .map (← convertParts [] none parts)
  | record fields => do return .map (← convertFields [] fields)
  | embedded value => Conversion.passed value
  | converting other next => do
    let result ← (convert other).guarded.observed
    convert (next result)
  | failing message => throw (.reported .badSerialization (some message))

/-- The values of items. -/
def convertItems : List Data → Conversion (List Value)
  | [] => return []
  | item :: rest => do
    let value ← convert item
    return value :: (← convertItems rest)

/-- The entries of a map, behind the ones already known; a key waits for its value. -/
def convertParts (known : Entries String Value) (waiting : Option String) :
    List MapPart → Conversion (Entries String Value)
  | [] => return known
  | .key key :: rest => do
    let name ← keyOf (← convert key)
    convertParts known (some name) rest
  | .value content :: rest =>
    match waiting with
    | some name => do convertParts (known.put name (← convert content)) none rest
    | none => throw .valueWithoutKey

/-- The entries of a record, behind the ones already known. -/
def convertFields (known : Entries String Value) : List (String × Data) → Conversion (Entries String Value)
  | [] => return known
  | (name, content) :: rest => do convertFields (known.put name (← convert content)) rest

end

/-- Converts data. -/
def transform (data : Data) : Conversion Value := data.convert.guarded

/-- The value of data, or what is wrong with it. -/
def toValue? (data : Data) : Except Fault Value := (data.transform Handles.empty).1

/-- The value of data, undefined if something is wrong with it. -/
def toValue (data : Data) : Value :=
  match data.toValue? with
  | .ok value => value
  | .error _ => .undefined

end Data

end Liquid
