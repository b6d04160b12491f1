import Liquid.Proofs.Render.Run

/-!
# Ranges as sequences of integers

A range is never expanded to answer how long it is, which item has an index, or which items lie in a window; each answer is
computed from its bounds. As long as its integers can be counted, the answers are those of the sequence of its integers,
and a loop or a table over the range does what it does over that sequence. The bounds are integers of 64 bits, and every
number that comes up on the way fits 128 bits.
-/

namespace Liquid

/-- Integers in a row, beginning with the given one. -/
def integersFrom (first : Int) : (count : Nat) → List Value
  | 0 => []
  | count + 1 => .int (Int64.ofInt first) :: integersFrom (first + 1) count

/-- The integers from the first one to the last one, none if the last one is smaller. -/
def integers (first last : Int64) : List Value := integersFrom first.toInt (last.toInt - first.toInt + 1).toNat

@[simp] theorem length_integersFrom (first : Int) (count : Nat) : (integersFrom first count).length = count := by
  induction count generalizing first with
  | zero => rfl
  | succ count ih => rw [integersFrom, List.length_cons, ih]

theorem length_integers (first last : Int64) :
    (integers first last).length = (last.toInt - first.toInt + 1).toNat :=
  length_integersFrom _ _

theorem getElem?_integersFrom (first : Int) (count index : Nat) :
    (integersFrom first count)[index]? = if index < count then some (.int (Int64.ofInt (first + index))) else none := by
  induction count generalizing first index with
  | zero => rfl
  | succ count ih =>
    cases index with
    | zero => simp [integersFrom]
    | succ index =>
      have hsum : first + 1 + index = first + (index + 1 : Nat) := by omega
      rw [integersFrom, List.getElem?_cons_succ, ih, hsum]
      simp only [Nat.add_lt_add_iff_right]

theorem drop_integersFrom (first : Int) (count skipped : Nat) :
    (integersFrom first count).drop skipped = integersFrom (first + skipped) (count - skipped) := by
  apply List.ext_getElem?
  intro index
  have hsum : first + (skipped + index : Nat) = first + skipped + index := by omega
  rw [List.getElem?_drop, getElem?_integersFrom, getElem?_integersFrom, hsum]
  have hlt : skipped + index < count ↔ index < count - skipped := by omega
  simp only [hlt]

theorem take_integersFrom (first : Int) (count limit : Nat) :
    (integersFrom first count).take limit = integersFrom first (min count limit) := by
  apply List.ext_getElem?
  intro index
  rw [List.getElem?_take, getElem?_integersFrom, getElem?_integersFrom]
  by_cases hlimit : index < limit
  · have hlt : index < min count limit ↔ index < count := by omega
    simp only [hlt, if_pos hlimit]
  · rw [if_neg hlimit, if_neg (by omega)]

theorem rangeItems_eq_integersFrom (first : Int64) (skipped count : Nat) :
    rangeItems first skipped count = integersFrom (first.toInt + skipped) count := by
  apply List.ext_getElem?
  intro index
  rw [getElem?_integersFrom, rangeItems, List.getElem?_map]
  by_cases hindex : index < count
  · rw [List.getElem?_range hindex, if_pos hindex]
    rfl
  · rw [List.getElem?_eq_none (by simpa using hindex), if_neg hindex]
    rfl

namespace Value

variable {first last : Int64}

/-! ## The accessors of values -/

theorem items?_range (first last : Int64) : (range first last).items? = some (integers first last) := by
  rw [items?, rangeItems_eq_integersFrom, integers, Int.natCast_zero, Int.add_zero]

theorem index?_range (first last : Int64) (index : Int) :
    (range first last).index? index = (seq (integers first last)).index? index := by
  simp only [index?, normalizeIndex, length_integers]
  by_cases hnegative : index < 0
  · rw [if_pos hnegative, if_pos hnegative]
    by_cases hinside : 0 ≤ ((last.toInt - first.toInt + 1).toNat : Int) + index
    · rw [if_pos hinside, Option.bind_some, integers, getElem?_integersFrom]
      by_cases hcount : last.toInt - first.toInt + 1 ≤ 0
      · rw [if_neg (by omega), if_neg (by omega)]
      · rw [if_pos (by omega), if_pos (by omega)]
        congr 3
        omega
    · rw [if_neg hinside, if_neg (by omega)]
      rfl
  · rw [if_neg hnegative, if_neg hnegative, Option.bind_some, integers, getElem?_integersFrom]
    by_cases hinside : first.toInt ≤ first.toInt + index ∧ first.toInt + index ≤ last.toInt
    · rw [if_pos hinside, if_pos (by omega)]
      congr 3
      omega
    · rw [if_neg hinside, if_neg (by omega)]

theorem isEmpty_range (first last : Int64) : (range first last).isEmpty = (seq (integers first last)).isEmpty := by
  rw [isEmpty, isEmpty, Bool.eq_iff_iff, decide_eq_true_iff, List.isEmpty_iff_length_eq_zero, length_integers]
  omega

/-- As long as the integers of a range can be counted, its length is their number. -/
theorem rangeLength_eq (hcount : (integers first last).length ≤ maxCount) :
    rangeLength first last = (integers first last).length := by
  rw [length_integers] at hcount
  rw [rangeLength, length_integers, Nat.min_eq_left hcount]

theorem length?_range (hcount : (integers first last).length ≤ maxCount) :
    (range first last).length? = (seq (integers first last)).length? :=
  congrArg some (rangeLength_eq hcount)

theorem window?_range (hcount : (integers first last).length ≤ maxCount) (offset : Nat) (limit : Option Nat) :
    (range first last).window? offset limit = (seq (integers first last)).window? offset limit := by
  simp only [window?, items?, Option.map_some, rangeLength_eq hcount, rangeItems_eq_integersFrom]
  rw [integers, drop_integersFrom, take_integersFrom, length_integersFrom]

end Value

/-! ## The numbers on the way -/

/-- The largest number that 128 bits with a sign hold. -/
def maxWide : Int := 170141183460469231731687303715884105727

/-- A number that 128 bits with a sign hold. -/
def wide? (n : Int) : Option Int := if -maxWide - 1 ≤ n ∧ n ≤ maxWide then some n else none

/-- A number that is a count. -/
def count? (n : Int) : Option Nat := if 0 ≤ n ∧ n ≤ maxCount then some n.toNat else none

theorem wide?_eq_some {n : Int} (hlow : -170141183460469231731687303715884105728 ≤ n)
    (hhigh : n ≤ 170141183460469231731687303715884105727) : wide? n = some n :=
  if_pos ⟨hlow, hhigh⟩

/-- The length of a range, with every number on the way in 128 bits. -/
def wideLength? (first last : Int64) : Option Nat :=
  if last.toInt < first.toInt then some 0
  else do
    let span ← wide? (last.toInt - first.toInt)
    let length ← wide? (span + 1)
    return (count? length).getD maxCount

/-- A window of a range, with every number on the way in 128 bits and every item in 64. -/
def wideWindow? (first last : Int64) (offset : Nat) (limit : Option Nat) : Option (List Value) := do
  let length ← wideLength? first last
  let start ← wide? (first.toInt + offset)
  (List.range (min (length - offset) (limit.getD maxCount))).mapM fun (step : Nat) ↦ do
    return .int (← integer? (← wide? (start + step)))

/-- The integer that a range would have at an index if it went on, with every number on the way in 128 bits. -/
def wideFound? (first last index : Int64) : Option Int :=
  if index.toInt < 0 then do wide? ((← wide? (last.toInt + 1)) + index.toInt)
  else wide? (first.toInt + index.toInt)

/-- The item of a range of an index, with every number on the way in 128 bits and the item in 64. -/
def wideIndex? (first last index : Int64) : Option (Option Value) := do
  let found ← wideFound? first last index
  if first.toInt ≤ found ∧ found ≤ last.toInt then return some (.int (← integer? found)) else return none

/-- The place that an index stands for among counted items, with every number on the way in 128 bits. -/
def widePlace? (index : Int64) (length : Nat) : Option (Option Nat) :=
  if index.toInt < 0 then do return count? (← wide? (length + index.toInt))
  else return count? index.toInt

theorem integer?_eq_some {n : Int} (hlow : minInteger ≤ n) (hhigh : n ≤ maxInteger) : integer? n = some (Int64.ofInt n) :=
  if_pos ⟨hlow, hhigh⟩

theorem toInt_bounds (n : Int64) : minInteger ≤ n.toInt ∧ n.toInt ≤ maxInteger := by
  have hlow := n.le_toInt
  have hhigh := n.toInt_lt
  unfold minInteger maxInteger
  omega

/-- The length of a range is computed without overflow. -/
theorem wideLength?_eq (first last : Int64) : wideLength? first last = some (rangeLength first last) := by
  have hfirst := toInt_bounds first
  have hlast := toInt_bounds last
  unfold minInteger maxInteger at hfirst hlast
  unfold wideLength? rangeLength
  by_cases hempty : last.toInt < first.toInt
  · rw [if_pos hempty]
    congr 1
    omega
  · rw [if_neg hempty, wide?_eq_some (by omega) (by omega)]
    change (wide? (last.toInt - first.toInt + 1) >>= fun length ↦ some ((count? length).getD maxCount)) = _
    rw [wide?_eq_some (by omega) (by omega)]
    change some ((count? (last.toInt - first.toInt + 1)).getD maxCount) = _
    congr 1
    unfold count?
    split
    · rw [Option.getD_some]
      omega
    · rw [Option.getD_none]
      omega

/-- Where a computation has a result for every element, so it has for all of them. -/
theorem mapM_eq_some {α β : Type} {compute : α → Option β} {result : α → β} :
    ∀ {list : List α}, (∀ a ∈ list, compute a = some (result a)) → list.mapM compute = some (list.map result)
  | [], _ => rfl
  | a :: rest, h => by
    rw [List.forall_mem_cons] at h
    rw [List.mapM_cons, h.1, mapM_eq_some h.2]
    rfl

/-- Every item of a window of a range is computed without overflow. -/
theorem wideWindow?_eq (first last : Int64) {offset : Nat} (hoffset : offset ≤ maxCount) (limit : Option Nat) :
    wideWindow? first last offset limit = (Value.range first last).window? offset limit := by
  have hfirst := toInt_bounds first
  have hlast := toInt_bounds last
  unfold minInteger maxInteger at hfirst hlast
  unfold maxCount at hoffset
  unfold wideWindow?
  rw [wideLength?_eq]
  change (wide? (first.toInt + offset) >>= fun start ↦ _) = _
  rw [wide?_eq_some (by omega) (by omega)]
  refine mapM_eq_some fun step hstep ↦ ?_
  have hinside : first.toInt + offset + step ≤ last.toInt := by
    have hlt := List.mem_range.1 hstep
    unfold rangeLength at hlt
    omega
  rw [wide?_eq_some (by omega) (by omega)]
  change (integer? (first.toInt + offset + step) >>= fun item ↦ some (Value.int item)) = _
  rw [integer?_eq_some (by unfold minInteger; omega) (by unfold maxInteger; omega)]
  rfl

/-- The item of an index is computed without overflow. -/
theorem wideIndex?_eq (first last index : Int64) :
    wideIndex? first last index = some ((Value.range first last).index? index.toInt) := by
  have hfirst := toInt_bounds first
  have hlast := toInt_bounds last
  have hindex := toInt_bounds index
  unfold minInteger maxInteger at hfirst hlast hindex
  have hfound : wideFound? first last index =
      some (if index.toInt < 0 then last.toInt + 1 + index.toInt else first.toInt + index.toInt) := by
    unfold wideFound?
    split
    · rw [wide?_eq_some (by omega) (by omega)]
      exact wide?_eq_some (by omega) (by omega)
    · exact wide?_eq_some (by omega) (by omega)
  unfold wideIndex?
  rw [hfound]
  simp only [Value.index?]
  generalize (if index.toInt < 0 then last.toInt + 1 + index.toInt else first.toInt + index.toInt) = found
  by_cases hinside : first.toInt ≤ found ∧ found ≤ last.toInt
  · rw [if_pos hinside]
    change (if first.toInt ≤ found ∧ found ≤ last.toInt then
      integer? found >>= fun item ↦ some (some (Value.int item)) else some none) = _
    rw [if_pos hinside, integer?_eq_some (by unfold minInteger; omega) (by unfold maxInteger; omega)]
    rfl
  · rw [if_neg hinside]
    exact if_neg hinside

/-- The place that an index stands for among counted items is computed without overflow. -/
theorem widePlace?_eq (index : Int64) {length : Nat} (hlength : length ≤ maxCount) :
    widePlace? index length = some (normalizeIndex index.toInt length) := by
  have hindex := toInt_bounds index
  unfold minInteger maxInteger at hindex
  unfold maxCount at hlength
  unfold widePlace? normalizeIndex
  by_cases hnegative : index.toInt < 0
  · rw [if_pos hnegative, if_pos hnegative, wide?_eq_some (by omega) (by omega)]
    change some (count? (length + index.toInt)) = _
    unfold count? maxCount
    by_cases hinside : 0 ≤ length + index.toInt
    · rw [if_pos hinside, if_pos ⟨hinside, by omega⟩]
    · rw [if_neg hinside, if_neg fun h ↦ hinside h.1]
  · rw [if_neg hnegative, if_neg hnegative]
    exact congrArg some (if_pos (by unfold maxCount; omega))

/-! ## Loops and tables -/

namespace Render

variable {first last : Int64} {drive : Drive} {state next : RenderState}

theorem loopItems_range (hcount : (integers first last).length ≤ maxCount) (offset : Nat) (limit : Option Int64) :
    loopItems (.range first last) offset limit = loopItems (.seq (integers first last)) offset limit := by
  simp only [loopItems, Value.window?_range hcount]

/-- A loop over a range does what it does over the sequence of its integers, whatever its other arguments are. -/
theorem loop_range (hcount : (integers first last).length ≤ maxCount) {tools : Toolbox} {header : LoopHeader} {other : Expr}
    (hrange : evaluate (header.collection.eval tools) drive state = (.ok (.range first last), next))
    (hother : evaluate (other.eval tools) drive state = (.ok (.seq (integers first last)), next))
    (body otherwise : Render Flow) :
    loop tools header body otherwise drive state =
      loop tools { header with collection := other } body otherwise drive state := by
  unfold loop
  rw [run_bind_ok hrange, run_bind_ok hother]
  simp only [loopItems_range hcount]
  rfl

/-- A table over a range has the cells that it has over the sequence of its integers. -/
theorem table_range (hcount : (integers first last).length ≤ maxCount) {tools : Toolbox} {header : TableHeader} {other : Expr}
    (hrange : evaluate (header.collection.eval tools) drive state = (.ok (.range first last), next))
    (hother : evaluate (other.eval tools) drive state = (.ok (.seq (integers first last)), next)) (body : Render Flow) :
    table tools header body drive state = table tools { header with collection := other } body drive state := by
  unfold table
  rw [run_bind_ok hrange, run_bind_ok hother]
  simp only [loopItems_range hcount]

end Render

open Render in
/-- As long as the integers of a range can be counted, the range has the length, the items and the windows of the sequence of
its integers, and it is empty where that is. All this is computed without overflow. A loop or a table does the same over
both, whatever its limit, its offset and its direction. -/
theorem range_behaves_as_integers {first last : Int64} (hcount : (integers first last).length ≤ maxCount) :
    let range := Value.range first last
    let sequence := Value.seq (integers first last)
    (range.length? = sequence.length? ∧ range.isEmpty = sequence.isEmpty ∧ range.items? = sequence.items? ∧
      (∀ index, range.index? index = sequence.index? index) ∧
      ∀ offset limit, range.window? offset limit = sequence.window? offset limit) ∧
    (wideLength? first last = range.length? ∧
      (∀ index, wideIndex? first last index = some (range.index? index.toInt) ∧
        widePlace? index (integers first last).length =
          some (normalizeIndex index.toInt (integers first last).length)) ∧
      ∀ offset limit, offset ≤ maxCount → wideWindow? first last offset limit = range.window? offset limit) ∧
    ∀ (tools : Toolbox) (other : Expr) (drive : Drive) (state next : RenderState),
      evaluate (other.eval tools) drive state = (.ok sequence, next) →
      (∀ (header : LoopHeader) (body otherwise : Render Flow),
        evaluate (header.collection.eval tools) drive state = (.ok range, next) →
        loop tools header body otherwise drive state =
          loop tools { header with collection := other } body otherwise drive state) ∧
      ∀ (header : TableHeader) (body : Render Flow),
        evaluate (header.collection.eval tools) drive state = (.ok range, next) →
        table tools header body drive state = table tools { header with collection := other } body drive state := by
  intro range sequence
  refine ⟨⟨Value.length?_range hcount, Value.isEmpty_range first last, Value.items?_range first last,
    Value.index?_range first last, Value.window?_range hcount⟩, ⟨wideLength?_eq first last, fun index ↦ ?_, ?_⟩, ?_⟩
  · exact ⟨wideIndex?_eq first last index, widePlace?_eq index hcount⟩
  · intro offset limit hoffset
    exact wideWindow?_eq first last hoffset limit
  · intro tools other drive state next hother
    refine ⟨fun header body otherwise hrange ↦ ?_, fun header body hrange ↦ ?_⟩
    · exact loop_range hcount hrange hother body otherwise
    · exact table_range hcount hrange hother body

/-- A range at the largest integer goes no further, and a loop over it visits the integers that it has. -/
theorem range_behaves_as_integers_largest :
    let first : Int64 := 9223372036854775806
    let last : Int64 := 9223372036854775807
    (integers first last).length ≤ maxCount ∧
    (Value.range first last).window? 1 none = some [.int last] ∧
    wideWindow? first last 1 none = some [.int last] ∧
    ∀ tools (header : LoopHeader) body otherwise drive state,
      Render.loop tools { header with collection := .range (.literal (.int first)) (.literal (.int last)) } body otherwise
          drive state =
        Render.loop tools { header with collection := .literal (.seq (integers first last)) } body otherwise drive state := by
  intro first last
  have hcount : (integers first last).length ≤ maxCount := by decide
  have h := range_behaves_as_integers hcount
  have hitems : integers first last = [.int first, .int last] := by
    have htwo : (last.toInt - first.toInt + 1).toNat = 2 := by decide
    have hlast : Int64.ofInt (first.toInt + 1) = last := by decide
    rw [integers, htwo, integersFrom, integersFrom, integersFrom, Int64.ofInt_toInt, hlast]
  have hwindow : (Value.range first last).window? 1 none = some [.int last] := by
    rw [h.1.2.2.2.2 1 none, hitems]
    simp [Value.window?, Value.items?, maxCount]
  refine ⟨hcount, hwindow, (h.2.1.2.2 1 none (by decide)).trans hwindow, ?_⟩
  intro tools header body otherwise drive state
  exact (h.2.2 tools (.literal (.seq (integers first last))) drive state state rfl).1
    { header with collection := .range (.literal (.int first)) (.literal (.int last)) } body otherwise rfl

end Liquid
