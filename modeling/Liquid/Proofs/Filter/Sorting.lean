import Liquid.Environment
import Liquid.Host.Objects
import Liquid.Proofs.Value.Order
import Mathlib.Data.List.Sort
import Mathlib.Data.String.Basic
import Mathlib.Order.WithBot

/-!
# Sorting

Items whose keys are integers or nothing, or texts or nothing, are sorted by a rank: the rank of nothing is above all others.
As long as reading a key counts nothing, a comparison of two items compares their ranks, and to put each item behind all that
it is not before is an insertion sort. It is stable. A member that counts its readings is another one for every comparison, and
items that are alike before the sort and after it may still be moved.
-/

namespace Liquid

namespace Filter

/-! ## Insertion by rank -/

section Rank

variable {α β σ : Type} [LinearOrder β] {rank : α → β} {isBefore : α → α → StateM σ Bool} {items sorted : List α}
  {item : α} {state : σ}

/-- The order of items from the back to the front. -/
def NotBelow (rank : α → β) (item other : α) : Prop := rank other ≤ rank item

instance : DecidableRel (NotBelow rank) := fun item other ↦ inferInstanceAs (Decidable (rank other ≤ rank item))

instance : Std.Total (NotBelow rank) := ⟨fun item other ↦ le_total (rank other) (rank item)⟩

instance : IsTrans α (NotBelow rank) := ⟨fun _ _ _ h h' ↦ le_trans h' h⟩

/-- A test compares items by their ranks, and leaves the state as it is. -/
def ComparesBy (rank : α → β) (isBefore : α → α → StateM σ Bool) (items : List α) (state : σ) : Prop :=
  ∀ item ∈ items, ∀ other ∈ items, isBefore item other state = (decide (rank item < rank other), state)

/-- To put an item in front of the first one that it is not before is to insert it by its rank. -/
theorem insertBack_eq (h : ∀ other ∈ sorted, isBefore item other state = (decide (rank item < rank other), state)) :
    insertBack isBefore item sorted state = (sorted.orderedInsert (NotBelow rank) item, state) := by
  induction sorted with
  | nil => rfl
  | cons last earlier ih =>
    rw [List.forall_mem_cons] at h
    have hstep : insertBack isBefore item (last :: earlier) state =
        (if decide (rank item < rank last) then (last :: ·) <$> insertBack isBefore item earlier
          else return item :: last :: earlier : StateM σ (List α)) state :=
      congrArg (fun answer : Bool × σ ↦ (if answer.1 then (last :: ·) <$> insertBack isBefore item earlier
        else return item :: last :: earlier : StateM σ (List α)) answer.2) h.1
    rw [hstep]
    by_cases hlt : rank item < rank last
    · have hkeeps : ¬ NotBelow rank item last := not_le.2 hlt
      rw [if_pos (decide_eq_true hlt), List.orderedInsert_of_not_le _ _ hkeeps]
      exact congrArg (fun result : List α × σ ↦ (last :: result.1, result.2)) (ih h.2)
    · have hstops : NotBelow rank item last := not_lt.1 hlt
      rw [if_neg (by rwa [decide_eq_true_iff]), List.orderedInsert_cons_of_le _ _ hstops]
      rfl

theorem foldlM_insertBack_eq (h : ∀ item ∈ items, ∀ other, other ∈ sorted ∨ other ∈ items →
      isBefore item other state = (decide (rank item < rank other), state)) :
    items.foldlM (fun sorted item ↦ insertBack isBefore item sorted) sorted state =
      (items.foldl (fun sorted item ↦ sorted.orderedInsert (NotBelow rank) item) sorted, state) := by
  induction items generalizing sorted with
  | nil => rfl
  | cons item rest ih =>
    rw [List.forall_mem_cons] at h
    have hfirst := insertBack_eq fun other hother ↦ h.1 other (.inl hother)
    have hstep : (item :: rest).foldlM (fun sorted item ↦ insertBack isBefore item sorted) sorted state =
        rest.foldlM (fun sorted item ↦ insertBack isBefore item sorted) (sorted.orderedInsert (NotBelow rank) item) state :=
      congrArg (fun result : List α × σ ↦
        rest.foldlM (fun sorted item ↦ insertBack isBefore item sorted) result.1 result.2) hfirst
    rw [hstep, List.foldl_cons]
    -- What has been inserted already is compared with the items that follow, and so it has to be covered too.
    refine ih fun next hnext other hother ↦ h.2 next hnext other ?_
    obtain hsorted | hrest := hother
    · obtain rfl | hsorted := (List.mem_orderedInsert _).1 hsorted
      · exact .inr List.mem_cons_self
      · exact .inl hsorted
    · exact .inr (List.mem_cons_of_mem _ hrest)

/-- Sorting by a test that compares ranks is an insertion sort, from the last place to the first. -/
theorem sortBy_eq (h : ComparesBy rank isBefore items state) :
    sortBy isBefore items state = ((items.reverse.insertionSort (NotBelow rank)).reverse, state) := by
  have hfold : items.foldlM (fun sorted item ↦ insertBack isBefore item sorted) [] state =
      (items.foldl (fun sorted item ↦ sorted.orderedInsert (NotBelow rank) item) [], state) :=
    foldlM_insertBack_eq fun item hitem other hother ↦ h item hitem other (hother.resolve_left List.not_mem_nil)
  rw [← List.foldr_reverse] at hfold
  exact congrArg (fun result : List α × σ ↦ (result.1.reverse, result.2)) hfold

/-- A sort by rank is a permutation in which ranks ascend and items of one rank keep their order. -/
theorem exists_sortBy_eq (h : ComparesBy rank isBefore items state) :
    ∃ sorted, sortBy isBefore items state = (sorted, state) ∧
      sorted.Perm items ∧ sorted.Pairwise (fun item other ↦ rank item ≤ rank other) ∧
      ∀ key, sorted.filter (fun item ↦ rank item = key) = items.filter (fun item ↦ rank item = key) := by
  have hperm : (items.reverse.insertionSort (NotBelow rank)).reverse.Perm items :=
    (List.reverse_perm _).trans ((List.perm_insertionSort _ _).trans (List.reverse_perm _))
  refine ⟨_, sortBy_eq h, hperm, List.pairwise_reverse.2 (List.pairwise_insertionSort _ _), fun key ↦ ?_⟩
  -- Items of one rank are in order whichever way they stand, and so the sort keeps them as a sublist. It has as many of them.
  have halike : (items.filter fun item ↦ rank item = key).reverse.Pairwise (NotBelow rank) := by
    refine List.pairwise_of_forall_mem_list fun item hitem other hother ↦ ?_
    rw [List.mem_reverse, List.mem_filter, decide_eq_true_iff] at hitem hother
    exact (hother.2.trans hitem.2.symm).le
  have hkept := List.sublist_insertionSort halike (List.filter_sublist.reverse)
  have hsublist := (List.reverse_sublist.2 hkept).filter fun item ↦ rank item = key
  rw [List.reverse_reverse, List.filter_filter] at hsublist
  simp only [Bool.and_self] at hsublist
  exact (hsublist.eq_of_length (hperm.filter _).length_eq.symm).symm

end Rank

/-! ## Keys -/

/-- The key of an item at a time when objects have counted as given. -/
def keyAt (context : Context) (member? : Option String) (tallies : Tallies) (item : Value) : Value :=
  (sortKey context member? item tallies).1

/-- To read the key of an item counts nothing. -/
def ReadsSteadily (context : Context) (member? : Option String) (tallies : Tallies) (item : Value) : Prop :=
  (sortKey context member? item tallies).2 = tallies

/-- Items themselves, and what is not an object, are read without counting. -/
theorem readsSteadily_of_not_object {context : Context} {member? : Option String} {tallies : Tallies} {item : Value}
    (h : member? = none ∨ item.kind ≠ .object) : ReadsSteadily context member? tallies item := by
  cases member? with
  | none => rfl
  | some name =>
    cases item with
    | object => exact absurd rfl (h.resolve_left nofun)
    | _ => rfl

/-- A key that is made from something of a type, or nothing. -/
inductive IsKey {α : Type} (make : α → Value) : Value → Prop where
  | nothing {key : Value} (h : key.isNil = true) : IsKey make key
  | made (x : α) : IsKey make (make x)

/-- One key may stand in front of another one. -/
inductive Ascends : Value → Value → Prop where
  | ints {i j : Int64} (h : i.toInt ≤ j.toInt) : Ascends (.int i) (.int j)
  | texts {s t : String} (h : s ≤ t) : Ascends (.string s) (.string t)
  | nothing {key other : Value} (h : other.isNil = true) : Ascends key other

/-- The order that sorting uses is, among some keys, that of a rank. -/
structure Ranks {β : Type} [LinearOrder β] (holds : Value → Prop) (rank : Value → β) : Prop where
  sortOrder_eq_lt_iff {key other : Value} (hkey : holds key) (hother : holds other) :
    key.sortOrder other = .lt ↔ rank key < rank other
  ascends {key other : Value} (hkey : holds key) (hother : holds other) (h : rank key ≤ rank other) : Ascends key other
  same_iff {key other : Value} (hkey : holds key) (hother : holds other) : key.same other = true ↔ rank key = rank other

/-- The rank of an integer, that of everything else behind all integers. -/
def intRank : Value → WithTop Int
  | .int i => i.toInt
  | _ => ⊤

/-- The rank of a text, that of everything else behind all texts. -/
def textRank : Value → WithTop String
  | .string s => s
  | _ => ⊤

theorem sortOrder_of_isNil {key other : Value} (h : key.isNil = true) :
    key.sortOrder other = if other.isNil then .eq else .gt := by
  cases key with
  | undefined | nil => cases other <;> rfl
  | _ => cases h

theorem same_of_isNil_left {key other : Value} (h : key.isNil = true) : key.same other = other.isNil := by
  cases key with
  | undefined | nil => rfl
  | _ => cases h

theorem same_of_isNil_right {key other : Value} (h : other.isNil = true) : key.same other = key.isNil := by
  cases other with
  | undefined | nil => cases key <;> rfl
  | _ => cases h

/-- What is there has an order of its own, and nothing comes behind it. -/
theorem Ranks.of_made {α β : Type} [LinearOrder β] {make : α → Value} {place : α → β} {rank : Value → WithTop β}
    (hnothing : ∀ key, key.isNil = true → rank key = ⊤) (hmade : ∀ x, rank (make x) = place x)
    (hthere : ∀ x, (make x).isNil = false)
    (horder : ∀ x y, (make x).sortOrder (make y) = compare (place x) (place y))
    (hascends : ∀ x y, place x ≤ place y → Ascends (make x) (make y))
    (hsame : ∀ x y, (make x).same (make y) = true ↔ place x = place y) : Ranks (IsKey make) rank where
  sortOrder_eq_lt_iff hkey hother := by
    cases hkey with
    | nothing hnil =>
      rw [sortOrder_of_isNil hnil, hnothing _ hnil]
      split
      · exact iff_of_false nofun not_top_lt
      · exact iff_of_false nofun not_top_lt
    | made x =>
      cases hother with
      | nothing hnil =>
        rw [Value.sortOrder_swap, sortOrder_of_isNil hnil, hthere x, hmade x, hnothing _ hnil]
        exact iff_of_true rfl (WithTop.coe_lt_top _)
      | made y => rw [horder, compare_lt_iff_lt, hmade, hmade, WithTop.coe_lt_coe]
  ascends hkey hother h := by
    cases hother with
    | nothing hnil => exact .nothing hnil
    | made y =>
      rw [hmade y] at h
      cases hkey with
      | nothing hnil =>
        rw [hnothing _ hnil] at h
        exact absurd h (not_le.2 (WithTop.coe_lt_top _))
      | made x =>
        rw [hmade x] at h
        exact hascends x y (WithTop.coe_le_coe.1 h)
  same_iff hkey hother := by
    cases hkey with
    | nothing hnil =>
      rw [same_of_isNil_left hnil, hnothing _ hnil]
      cases hother with
      | nothing hnil' => exact iff_of_true hnil' (hnothing _ hnil').symm
      | made y =>
        rw [hthere y, hmade y]
        exact iff_of_false nofun WithTop.top_ne_coe
    | made x =>
      cases hother with
      | nothing hnil =>
        rw [same_of_isNil_right hnil, hthere x, hmade x, hnothing _ hnil]
        exact iff_of_false nofun WithTop.coe_ne_top
      | made y => rw [hsame, hmade, hmade, WithTop.coe_inj]

theorem eq_top_of_isNil {β : Type} {rank : Value → WithTop β} (hundefined : rank .undefined = ⊤) (hnil : rank .nil = ⊤)
    (key : Value) (h : key.isNil = true) : rank key = ⊤ := by
  cases key with
  | undefined => exact hundefined
  | nil => exact hnil
  | _ => cases h

theorem ranks_ints : Ranks (IsKey .int) intRank :=
  .of_made (eq_top_of_isNil rfl rfl) (fun _ ↦ rfl) (fun _ ↦ rfl) (fun _ _ ↦ rfl) (fun _ _ ↦ .ints)
    fun _ _ ↦ beq_iff_eq.trans Int64.toInt_inj.symm

theorem ranks_texts : Ranks (IsKey .string) textRank :=
  .of_made (eq_top_of_isNil rfl rfl) (fun _ ↦ rfl) (fun _ ↦ rfl) (fun _ _ ↦ rfl) (fun _ _ ↦ .texts)
    fun _ _ ↦ beq_iff_eq

/-! ## The filter -/

section Reading

variable {context : Context} {member? : Option String} {tallies : Tallies} {items : List Value} {holds : Value → Prop}

theorem sortKey_eq {item : Value} (h : ReadsSteadily context member? tallies item) :
    sortKey context member? item tallies = (keyAt context member? tallies item, tallies) :=
  Prod.ext rfl h

theorem comparesBy_keyIsBefore {β : Type} [LinearOrder β] {rank : Value → β} (hranks : Ranks holds rank)
    (hsteady : ∀ item ∈ items, ReadsSteadily context member? tallies item)
    (hkeys : ∀ item ∈ items, holds (keyAt context member? tallies item)) :
    ComparesBy (fun item ↦ rank (keyAt context member? tallies item)) (keyIsBefore context member?) items tallies := by
  intro item hitem other hother
  have hreads : keyIsBefore context member? item other tallies =
      ((keyAt context member? tallies item).sortOrder (keyAt context member? tallies other) == .lt, tallies) := by
    simp only [keyIsBefore, bind, StateT.bind, sortKey_eq (hsteady item hitem), sortKey_eq (hsteady other hother)]
    rfl
  rw [hreads]
  refine congrArg (·, tallies) (Bool.eq_iff_iff.2 ?_)
  rw [beq_iff_eq, decide_eq_true_iff]
  exact hranks.sortOrder_eq_lt_iff (hkeys item hitem) (hkeys other hother)

/-- Items in the order of their keys, nothing last, those with the same key in the order in which they stood. -/
structure IsSortedBy (key : Value → Value) (items sorted : List Value) : Prop where
  perm : sorted.Perm items
  ascends : sorted.Pairwise fun item other ↦ Ascends (key item) (key other)
  stable : ∀ item ∈ items,
    sorted.filter (fun other ↦ (key other).same (key item)) = items.filter fun other ↦ (key other).same (key item)

theorem exists_sortItems_eq {β : Type} [LinearOrder β] {rank : Value → β} (hranks : Ranks holds rank)
    (hsteady : ∀ item ∈ items, ReadsSteadily context member? tallies item)
    (hkeys : ∀ item ∈ items, holds (keyAt context member? tallies item)) :
    ∃ sorted, sortItems context member? items tallies = (sorted, tallies) ∧
      IsSortedBy (keyAt context member? tallies) items sorted := by
  obtain ⟨sorted, hsorted, hperm, hascends, hstable⟩ := exists_sortBy_eq (comparesBy_keyIsBefore hranks hsteady hkeys)
  have hkeys' : ∀ item ∈ sorted, holds (keyAt context member? tallies item) := fun item hitem ↦
    hkeys item (hperm.mem_iff.1 hitem)
  refine ⟨sorted, hsorted, hperm, ?_, fun item hitem ↦ ?_⟩
  · exact hascends.imp_of_mem fun hitem hother ↦ hranks.ascends (hkeys' _ hitem) (hkeys' _ hother)
  · have hsame (other : Value) (hother : holds (keyAt context member? tallies other)) :
        (keyAt context member? tallies other).same (keyAt context member? tallies item) =
          decide (rank (keyAt context member? tallies other) = rank (keyAt context member? tallies item)) := by
      rw [Bool.eq_iff_iff, decide_eq_true_iff]
      exact hranks.same_iff hother (hkeys item hitem)
    rw [List.filter_congr fun other hother ↦ hsame other (hkeys' other hother),
      List.filter_congr fun other hother ↦ hsame other (hkeys other hother)]
    exact hstable _

end Reading

/-- The filter that sorts gives a value's items in the order of their keys, those with the same key in the order in which they
stood and nothing last, where the keys are integers or nothing, or texts or nothing. It has to be that reading a key counts
nothing, and then sorting counts nothing. -/
theorem sort_stable (context : Context) (member? : Option String) (value : Value) (counts : Counts) {items : List Value}
    (hitems : value.items? = some items)
    (hsteady : ∀ item ∈ items, ReadsSteadily context member? counts.tallies item)
    (hkeys : (∀ item ∈ items, IsKey .int (keyAt context member? counts.tallies item)) ∨
      ∀ item ∈ items, IsKey .string (keyAt context member? counts.tallies item)) :
    (FilterSet.ofList builtins).get? "sort" = some [sort] ∧
      ∃ sorted, sort.run (value, member?, ()) context counts = (.ok (.seq sorted), counts) ∧
        IsSortedBy (keyAt context member? counts.tallies) items sorted := by
  refine ⟨rfl, ?_⟩
  obtain ⟨sorted, hrun, hsorted⟩ : ∃ sorted, sortItems context member? items counts.tallies = (sorted, counts.tallies) ∧
      IsSortedBy (keyAt context member? counts.tallies) items sorted := by
    obtain hints | htexts := hkeys
    · exact exists_sortItems_eq ranks_ints hsteady hints
    · exact exists_sortItems_eq ranks_texts hsteady htexts
  have hcounting : Query.counting (fun context ↦ sortItems context member? items) context counts = (.ok sorted, counts) :=
    congrArg (fun result : List Value × Tallies ↦
      ((.ok result.1, { counts with tallies := result.2 }) : Except Fault (List Value) × Counts)) hrun
  refine ⟨sorted, ?_, hsorted⟩
  simp only [sort, atOnce, hitems]
  exact congrArg (fun result : Except Fault (List Value) × Counts ↦ (result.1.map Value.seq, result.2)) hcounting

/-- Crates, one of them without a weight. -/
def crates : List Value :=
  [.map [("weight", .int 2)], .map [("label", .string "lost")], .map [("weight", .int (-1))],
    .map [("weight", .int 2), ("label", .string "late")]]

theorem sort_stable_crates :
    (∀ item ∈ crates, ReadsSteadily (Environment.standard.context .nil) (some "weight") [] item) ∧
      (∀ item ∈ crates, IsKey .int (keyAt (Environment.standard.context .nil) (some "weight") [] item)) ∧
      ∃ sorted, sort.run (.seq crates, some "weight", ()) (Environment.standard.context .nil) ⟨[], none⟩ =
          (.ok (.seq sorted), ⟨[], none⟩) ∧
        IsSortedBy (keyAt (Environment.standard.context .nil) (some "weight") []) crates sorted := by
  have hplain : ∀ item ∈ crates, item.kind ≠ .object := by decide
  have hsteady : ∀ item ∈ crates, ReadsSteadily (Environment.standard.context .nil) (some "weight") [] item :=
    fun item hitem ↦ readsSteadily_of_not_object (.inr (hplain item hitem))
  have hkeys : ∀ item ∈ crates, IsKey .int (keyAt (Environment.standard.context .nil) (some "weight") [] item) := by
    simp only [crates, List.forall_mem_cons, List.not_mem_nil, false_implies, implies_true, and_true]
    exact ⟨.made 2, .nothing rfl, .made (-1), .made 2⟩
  exact ⟨hsteady, hkeys, (sort_stable _ (some "weight") (.seq crates) ⟨[], none⟩ rfl hsteady (.inl hkeys)).2⟩

/-- Objects whose next member is one more at every reading. -/
def counters : List Value := [.object 0 Host.counter, .object 1 Host.counter, .object 2 Host.counter]

/-- The objects with the last two of them exchanged. -/
def countersMoved : List Value := [.object 0 Host.counter, .object 2 Host.counter, .object 1 Host.counter]

/-- All items have the same key before the sort, and all have the same key after it, but not at each comparison. -/
theorem sort_moves_counters :
    (∀ item ∈ counters, keyAt (Environment.standard.context .nil) (some "next") [] item = .int 1) ∧
      sort.run (.seq counters, some "next", ()) (Environment.standard.context .nil) ⟨[], none⟩ =
        (.ok (.seq countersMoved), ⟨[(1, 2), (0, 2), (2, 2)], none⟩) ∧
      (∀ item ∈ counters,
        keyAt (Environment.standard.context .nil) (some "next") [(1, 2), (0, 2), (2, 2)] item = .int 3) ∧
      ¬ IsSortedBy (keyAt (Environment.standard.context .nil) (some "next") []) counters countersMoved := by
  refine ⟨?_, rfl, ?_, fun h ↦ ?_⟩
  · simp only [counters, List.forall_mem_cons, List.not_mem_nil, false_implies, implies_true, and_true]
    exact ⟨rfl, rfl, rfl⟩
  · simp only [counters, List.forall_mem_cons, List.not_mem_nil, false_implies, implies_true, and_true]
    exact ⟨rfl, rfl, rfl⟩
  · have hunmoved : countersMoved = counters := h.stable (.object 0 Host.counter) List.mem_cons_self
    cases hunmoved

end Filter

end Liquid
