import Liquid.Data

/-!
# Conversion is translation

Host data has a translation, in which embedded values stand as they are, and a list of what is wrong with it in the
order of the document. A conversion gives the translation if nothing is wrong and the first fault otherwise. It
takes every value that it puts into the table of handles out again, so that table and flag are what they were, also
where the conversion is made within another one.
-/

namespace Liquid

/-- A value if nothing is wrong, and the first fault otherwise. -/
def settled {α : Type} (value : α) : List Fault → Except Fault α
  | [] => .ok value
  | fault :: _ => .error fault

namespace Data

/-- What is wrong with the value of a key: only texts, numbers and truth values are keys. -/
def defectsOfKey (key : Value) : List Fault :=
  match key.kind with
  | .string | .number | .bool => []
  | kind => [.badMapKey kind.title]

mutual

/-- The value that data stands for. Of data with which something is wrong it says nothing. -/
def translation : Data → Value
  | bool value => .bool value
  | integer value => ofInteger value
  | float value => .float value
  | text content => .string content
  | bytes content => .ofText (Text.Utf8.decode content)
  | nothing => .nil
  | unitVariant _ _ name => .string name
  | wrapped content => translation content
  | variant name content => .map [(name, translation content)]
  | sequence items => .seq (translations items)
  | mapping parts => .map (Entries.ofList (pairsOfParts none parts))
  | record fields => .map (Entries.ofList (pairsOfFields fields))
  | embedded value => value
  | converting other next => translation (next (settled (translation other) (defects other)))
  | failing _ => .undefined

/-- The values that items stand for. -/
def translations : List Data → List Value
  | [] => []
  | item :: rest => translation item :: translations rest

/-- The keys of a map with their values; a key waits for its value. -/
def pairsOfParts (waiting : Option String) : List MapPart → List (String × Value)
  | [] => []
  | .key key :: rest => pairsOfParts (some ((translation key).text [])) rest
  | .value content :: rest =>
    match waiting with
    | some name => (name, translation content) :: pairsOfParts none rest
    | none => pairsOfParts none rest

/-- The names of fields with their values. -/
def pairsOfFields : List (String × Data) → List (String × Value)
  | [] => []
  | (name, content) :: rest => (name, translation content) :: pairsOfFields rest

/-- What is wrong with data, in the order of the document: a description that fails, a key of a map that is none, or a
value of a map without a key. -/
def defects : Data → List Fault
  | bool _ | integer _ | float _ | text _ | bytes _ | nothing | unitVariant _ _ _ | embedded _ => []
  | wrapped content => defects content
  | variant _ content => defects content
  | sequence items => defectsOfItems items
  | mapping parts => defectsOfParts false parts
  | record fields => defectsOfFields fields
  | converting other next => defects (next (settled (translation other) (defects other)))
  | failing message => [.reported .badSerialization (some message)]

/-- What is wrong with items. -/
def defectsOfItems : List Data → List Fault
  | [] => []
  | item :: rest => defects item ++ defectsOfItems rest

/-- What is wrong with the parts of a map, a key for whose first value may have been given. -/
def defectsOfParts (hasKey : Bool) : List MapPart → List Fault
  | [] => []
  | .key key :: rest => defects key ++ (defectsOfKey (translation key) ++ defectsOfParts true rest)
  | .value content :: rest =>
    (if hasKey then [] else [.valueWithoutKey]) ++ (defects content ++ defectsOfParts false rest)

/-- What is wrong with fields. -/
def defectsOfFields : List (String × Data) → List Fault
  | [] => []
  | (_, content) :: rest => defects content ++ defectsOfFields rest

end

mutual

/-- How many values are passed by handles while data is converted. -/
def embeddings : Data → Nat
  | bool _ | integer _ | float _ | text _ | bytes _ | nothing | unitVariant _ _ _ | failing _ => 0
  | wrapped content => embeddings content
  | variant _ content => embeddings content
  | sequence items => embeddingsOfItems items
  | mapping parts => embeddingsOfParts parts
  | record fields => embeddingsOfFields fields
  | embedded _ => 1
  | converting other next => embeddings other + embeddings (next (settled (translation other) (defects other)))

def embeddingsOfItems : List Data → Nat
  | [] => 0
  | item :: rest => embeddings item + embeddingsOfItems rest

def embeddingsOfParts : List MapPart → Nat
  | [] => 0
  | .key key :: rest => embeddings key + embeddingsOfParts rest
  | .value content :: rest => embeddings content + embeddingsOfParts rest

def embeddingsOfFields : List (String × Data) → Nat
  | [] => 0
  | (_, content) :: rest => embeddings content + embeddingsOfFields rest

end

end Data

/-! ## Handles -/

namespace Handles

variable {handles after : Handles} {count more : Nat}

/-- None of the next handles is in the table. -/
def HasRoom (handles : Handles) (count : Nat) : Prop :=
  ∀ step < count, handles.values.find? ((handles.last + 1 + step) % capacity) = none

/-- After a number of values was passed, table and flag are as before, and so many handles were given at most. -/
structure Passed (before : Handles) (count : Nat) (after : Handles) : Prop where
  values : after.values = before.values
  isActive : after.isActive = before.isActive
  hasRoom : ∀ {more}, before.HasRoom (count + more) → after.HasRoom more

theorem HasRoom.mono (h : handles.HasRoom more) (hle : count ≤ more) : handles.HasRoom count :=
  fun step hstep ↦ h step (Nat.lt_of_lt_of_le hstep hle)

theorem hasRoom_of_values_eq_nil (h : handles.values = []) (count : Nat) : handles.HasRoom count := by
  intro step _
  rw [h]
  rfl

theorem Passed.refl (handles : Handles) : handles.Passed 0 handles :=
  ⟨rfl, rfl, fun h ↦ h.mono (Nat.le_add_left ..)⟩

theorem Passed.trans {between : Handles} (h : handles.Passed count between) (h' : between.Passed more after) :
    handles.Passed (count + more) after :=
  ⟨h'.values.trans h.values, h'.isActive.trans h.isActive,
    fun hroom ↦ h'.hasRoom (h.hasRoom (Nat.add_assoc .. ▸ hroom))⟩

theorem Passed.mono (h : handles.Passed count after) (hle : count ≤ more) : handles.Passed more after :=
  ⟨h.values, h.isActive, fun hroom ↦ h.hasRoom (hroom.mono (Nat.add_le_add_right hle _))⟩

/-- Only the handle that was given last may have changed. -/
theorem Passed.eq (h : handles.Passed count after) : after = { handles with last := after.last } := by
  obtain ⟨values, last, isActive⟩ := after
  obtain ⟨rfl, rfl, -⟩ := h
  rfl

end Handles

/-- A key that is put and erased leaves no trace if it was not there. -/
theorem Entries.erase_put_self {α : Type} {key : Nat} {entries : Entries Nat α} (h : entries.find? key = none) (value : α) :
    Entries.erase key (entries.put key value) = entries := by
  induction entries with
  | nil => simp [put, erase]
  | cons entry rest ih =>
    obtain ⟨other, old⟩ := entry
    rw [find?] at h
    split at h
    · cases h
    · next hother =>
      have hrest := ih h
      rw [erase] at hrest ⊢
      rw [put, if_neg hother, List.filter_cons_of_pos (by simpa using hother), hrest]

namespace Conversion

variable {α β : Type} {conversion : Conversion α} {next : α → Conversion β} {value : α} {result : β}
  {outcome : Except Fault α}
  {faults others : List Fault} {count more : Nat}

/-- Within a conversion with room for so many values, a part of it gives a value if nothing is wrong and the first fault
otherwise, and leaves table and flag as they are. -/
def Gives (conversion : Conversion α) (value : α) (faults : List Fault) (count : Nat) : Prop :=
  ∀ handles : Handles, handles.isActive = true → handles.HasRoom count →
    ∃ after, conversion handles = (settled value faults, after) ∧ handles.Passed count after

theorem bind_of_ok {handles after : Handles} (h : conversion handles = (.ok value, after)) :
    (conversion >>= next) handles = next value after := by
  change ExceptT.bindCont next (conversion handles).1 (conversion handles).2 = _
  rw [h]
  rfl

theorem bind_of_error {handles after : Handles} {fault : Fault} (h : conversion handles = (.error fault, after)) :
    (conversion >>= next) handles = (.error fault, after) := by
  change ExceptT.bindCont next (conversion handles).1 (conversion handles).2 = _
  rw [h]
  rfl

theorem Gives.pure (value : α) : Gives (Pure.pure value) value [] 0 :=
  fun handles _ _ ↦ ⟨handles, rfl, .refl handles⟩

/-- After a fault nothing counts. -/
theorem Gives.throw (value : α) (fault : Fault) (faults : List Fault) (count : Nat) :
    Gives (MonadExcept.throw fault) value (fault :: faults) count :=
  fun handles _ _ ↦ ⟨handles, rfl, (Handles.Passed.refl handles).mono (Nat.zero_le count)⟩

/-- Parts are met one after the other, so that the faults of the first come first. -/
theorem Gives.bind (h : Gives conversion value faults count) (hnext : faults = [] → Gives (next value) result others more) :
    Gives (conversion >>= next) result (faults ++ others) (count + more) := by
  intro handles hactive hroom
  obtain ⟨between, hfirst, hpassed⟩ := h handles hactive (hroom.mono (Nat.le_add_right ..))
  cases faults with
  | nil =>
    obtain ⟨after, hsecond, hpassed'⟩ := hnext rfl between (hpassed.isActive.trans hactive) (hpassed.hasRoom hroom)
    exact ⟨after, (bind_of_ok hfirst).trans hsecond, hpassed.trans hpassed'⟩
  | cons fault rest => exact ⟨between, bind_of_error hfirst, hpassed.mono (Nat.le_add_right ..)⟩

theorem Gives.map (h : Gives conversion value faults count) (f : α → β) :
    Gives (conversion >>= fun value ↦ Pure.pure (f value)) (f value) faults count := by
  have hmapped : Gives (conversion >>= fun value ↦ Pure.pure (f value)) (f value) (faults ++ []) (count + 0) :=
    h.bind fun _ ↦ .pure (f value)
  rwa [List.append_nil] at hmapped

theorem Gives.lift_bind (h : outcome = settled value faults)
    (hnext : faults = [] → Gives (next value) result others more) :
    Gives (liftM outcome >>= next) result (faults ++ others) more := by
  subst h
  cases faults with
  | nil => exact hnext rfl
  | cons fault rest => exact .throw result fault (rest ++ others) more

/-- A variant of a host is its name. -/
theorem Gives.unitVariant (enumeration : Enumeration) (place : Nat) (name : String) :
    Gives (Conversion.unitVariant enumeration.name place name) (.string name) [] 0 := by
  have hhost : ¬(enumeration.name == handleName && name == handleName) = true := by simp [enumeration.isHost]
  rw [Conversion.unitVariant, if_neg hhost]
  exact .pure _

/-- A variant of the reserved name is the value that was put into the table. -/
theorem unitVariant_handleName {handles : Handles} {place : Nat} {value : Value}
    (h : handles.values.find? place = some value) :
    Conversion.unitVariant handleName place handleName handles = (.ok value, (handles.withdraw place).2) := by
  have hname : (handleName == handleName && handleName == handleName) = true := by simp
  have hwithdraw : (modifyGet (Handles.withdraw place) : Conversion (Option Value)) handles =
      (.ok (some value), (handles.withdraw place).2) := by
    rw [← h]
    rfl
  rw [Conversion.unitVariant, if_pos hname, bind_of_ok hwithdraw]
  rfl

/-- A value that is passed by a handle is given back. -/
theorem Gives.passed (value : Value) : Gives (Conversion.passed value) value [] 1 := by
  intro handles hactive hroom
  have hfree : handles.values.find? ((handles.last + 1) % Handles.capacity) = none := hroom 0 Nat.one_pos
  have hrun : Conversion.passed value handles =
      Conversion.unitVariant handleName (handles.deposit value).1 handleName (handles.deposit value).2 := by
    have hget : (get : Conversion Handles) handles = (.ok handles, handles) := rfl
    rw [Conversion.passed, bind_of_ok hget, if_pos hactive]
    rfl
  refine ⟨_, hrun.trans (unitVariant_handleName (Entries.find?_put_self ..)), ?_, rfl, ?_⟩
  · exact Entries.erase_put_self hfree value
  · intro more hmore step hstep
    have hlater := hmore (1 + step) (by omega)
    change Entries.find? (((handles.last + 1) % Handles.capacity + 1 + step) % Handles.capacity)
      (Entries.erase ((handles.last + 1) % Handles.capacity) (handles.values.put _ value)) = none
    rw [Entries.erase_put_self hfree, Nat.add_assoc, Nat.mod_add_mod]
    exact hlater

/-- The flag is set within a conversion, whatever it was. -/
theorem Gives.guarded (h : Gives conversion value faults count) (handles : Handles) (hroom : handles.HasRoom count) :
    ∃ after, conversion.guarded handles = (settled value faults, after) ∧ handles.Passed count after := by
  obtain ⟨after, hrun, hpassed⟩ := h { handles with isActive := true } rfl hroom
  refine ⟨if handles.isActive then after else { after with isActive := false }, ?_, ?_⟩
  · rw [Conversion.guarded, hrun]
  · split
    · next hactive => exact ⟨hpassed.values, hpassed.isActive.trans hactive.symm, hpassed.hasRoom⟩
    · next hinactive => exact ⟨hpassed.values, (Bool.eq_false_iff.2 hinactive).symm, hpassed.hasRoom⟩

/-- A conversion within another one gives its result and does not fail. -/
theorem Gives.observed (h : Gives conversion value faults count) :
    Gives conversion.guarded.observed (settled value faults) [] count := by
  intro handles _ hroom
  obtain ⟨after, hrun, hpassed⟩ := h.guarded handles hroom
  refine ⟨after, ?_, hpassed⟩
  rw [Conversion.observed, hrun]
  rfl

end Conversion

namespace Data

open Conversion

/-- The key of a map is the text of a value that can be one. -/
theorem keyOf_eq (key : Value) : keyOf key = settled (key.text []) (defectsOfKey key) := by
  cases key <;> rfl

mutual

theorem gives_convert : (data : Data) → Gives data.convert data.translation data.defects data.embeddings
  | bool _ => .pure _
  | integer _ => .pure _
  | float _ => .pure _
  | text _ => .pure _
  | bytes _ => .pure _
  | nothing => .pure _
  | unitVariant enumeration place name => .unitVariant enumeration place name
  | wrapped content => gives_convert content
  | variant name content => (gives_convert content).map fun value ↦ Value.map [(name, value)]
  | sequence items => (gives_convertItems items).map Value.seq
  | mapping parts => (gives_convertParts [] none parts).map Value.map
  | record fields => (gives_convertFields [] fields).map Value.map
  | embedded value => .passed value
  | converting other next => (gives_convert other).observed.bind fun _ ↦ gives_convert (next _)
  | failing _ => .throw _ _ [] 0

theorem gives_convertItems : (items : List Data) →
    Gives (convertItems items) (translations items) (defectsOfItems items) (embeddingsOfItems items)
  | [] => .pure _
  | item :: rest => (gives_convert item).bind fun _ ↦ (gives_convertItems rest).map (translation item :: ·)

/-- The entries already known come first, and a key may wait for its value. -/
theorem gives_convertParts (known : Entries String Value) : (waiting : Option String) → (parts : List MapPart) →
    Gives (convertParts known waiting parts) (known.putAll (pairsOfParts waiting parts))
      (defectsOfParts waiting.isSome parts) (embeddingsOfParts parts)
  | _, [] => .pure _
  | _, .key key :: rest =>
    (gives_convert key).bind fun _ ↦ .lift_bind (keyOf_eq _) fun _ ↦ gives_convertParts known (some _) rest
  | some name, .value content :: rest =>
    (gives_convert content).bind fun _ ↦ gives_convertParts (known.put name _) none rest
  | none, .value _ :: _ => .throw _ _ _ _

theorem gives_convertFields (known : Entries String Value) : (fields : List (String × Data)) →
    Gives (convertFields known fields) (known.putAll (pairsOfFields fields)) (defectsOfFields fields)
      (embeddingsOfFields fields)
  | [] => .pure _
  | (name, content) :: rest => (gives_convert content).bind fun _ ↦ gives_convertFields (known.put name _) rest

end

/-- A conversion gives the translation of its data or the first of its faults, and leaves table and flag as they are,
if none of the handles that it gives is in the table. -/
theorem transform_of_hasRoom (data : Data) {handles : Handles} (h : handles.HasRoom data.embeddings) :
    ∃ last, data.transform handles = (settled data.translation data.defects, { handles with last := last }) := by
  obtain ⟨after, hrun, hpassed⟩ := (gives_convert data).guarded handles h
  exact ⟨after.last, hpassed.eq ▸ hrun⟩

end Data

/-- The states in which a conversion may be called on a thread. -/
inductive Handles.Reachable : Handles → Prop
  /-- Nothing has been converted yet. -/
  | empty : Reachable .empty
  /-- A conversion has come to its end. -/
  | transformed {handles : Handles} (h : Reachable handles) (data : Data) : Reachable (data.transform handles).2
  /-- A conversion has begun, -/
  | begun {handles : Handles} (h : Reachable handles) : Reachable { handles with isActive := true }
  /-- and a part of its data has been described. -/
  | described {handles : Handles} (h : Reachable handles) (hactive : handles.isActive = true) (data : Data) :
      Reachable (data.convert handles).2

/-- No value waits in the table where a conversion may be called. -/
theorem Handles.Reachable.values_eq_nil {handles : Handles} (h : handles.Reachable) : handles.values = [] := by
  induction h with
  | empty => rfl
  | @transformed handles h data ih =>
    obtain ⟨last, hrun⟩ := data.transform_of_hasRoom (hasRoom_of_values_eq_nil ih _)
    rw [hrun]
    exact ih
  | begun h ih => exact ih
  | @described handles h hactive data ih =>
    obtain ⟨after, hrun, hpassed⟩ := data.gives_convert handles hactive (hasRoom_of_values_eq_nil ih _)
    rw [hrun, hpassed.values]
    exact ih

namespace Data

/-- Wherever data is converted, within another conversion or not, the result is its translation, or the first of its
faults if it has any, and table and flag are as they were. -/
theorem transform_eq_translation (data : Data) {handles : Handles} (h : handles.Reachable) :
    ∃ last, data.transform handles = (settled data.translation data.defects, { handles with last := last }) :=
  data.transform_of_hasRoom (Handles.hasRoom_of_values_eq_nil h.values_eq_nil _)

/-- A map whose value is what becomes of other data, which has no translation. -/
def recovered : Data :=
  .map [(.text "state", .converting (.keyless (.embedded (.int 1))) fun result ↦
    match result with
    | .ok value => .embedded value
    | .error _ => .embedded .empty)]

/-- The handles within a conversion that has passed a value. -/
def withinConversion : Handles := ((embedded (.range 1 3)).convert { Handles.empty with isActive := true }).2

theorem transform_eq_translation_recovered :
    ∃ last, recovered.transform withinConversion =
      (.ok (.map [("state", .empty)]), { withinConversion with last := last }) :=
  transform_eq_translation recovered (.described (.begun .empty) rfl (embedded (.range 1 3)))

end Data

end Liquid
