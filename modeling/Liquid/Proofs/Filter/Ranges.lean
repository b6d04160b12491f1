import Liquid.Environment
import Liquid.Proofs.Evaluation.Composition
import Liquid.Proofs.Value.Ranges

/-!
# Filters on ranges

Most filters on sequences reach the items of a value through what all values with items have in common, so that a range is
to them what the sequence of its integers is. A slice is taken of sequences that are written out and of texts only: a range
is sliced as its text, at every level of the rules.
-/

namespace Liquid

namespace Filter

variable {first last : Int64}

/-- Whether a filter does the same to two values, whatever its other arguments are and wherever it is called. -/
def SameOn (filter : Filter) (a b : Value) : Prop :=
  ∀ name values, filter.invoke name (a :: values) = filter.invoke name (b :: values)

/-- The first value is handed on as it is; what becomes of the others does not depend on it. -/
theorem convert_value (tallies : Tallies) (hasContext : Bool) (parameters : List Parameter) (value : Value)
    (values : List Value) :
    Arguments.convert tallies hasContext (.one .value :: parameters) (value :: values) =
      (Arguments.convert tallies hasContext parameters values).map fun others ↦ (value, others) := by
  change (Arguments.convert tallies hasContext parameters values >>= fun others ↦ .ok (value, others)) = _
  cases Arguments.convert tallies hasContext parameters values <;> rfl

/-- A call of a filter converts the values, waits as long as it has to, and computes with what they are converted to. -/
theorem run_invoke (filter : Filter) (name : String) (values : List Value) (drive : Drive) (context : Context)
    (shared : Shared) :
    filter.invoke name values drive context shared =
      match Arguments.convert shared.counts.tallies (!filter.isAsync) filter.parameters values with
      | .ok arguments =>
        (Eval.wait (filter.waits arguments) >>= fun _ ↦ Eval.query (invocationError name) (filter.run arguments)) drive context
          shared
      | .error fault => (.error (.error (invocationError name fault)), shared) := by
  have hcounts : Eval.counting (fun _ ↦ get) drive context shared = (.ok shared.counts.tallies, shared) := rfl
  unfold invoke
  rw [Eval.run_bind, hcounts]
  dsimp only
  rw [Eval.run_bind, Eval.run_query]
  cases Arguments.convert shared.counts.tallies (!filter.isAsync) filter.parameters values <;> rfl

/-- A filter does the same to two values if the other values are converted alike beside both of them, and if it then waits as
long and computes the same. -/
theorem sameOn_of_convert {filter : Filter} {rest : List Parameter} {a b : Value}
    (first second : Arguments rest → Arguments filter.parameters)
    (ha : ∀ tallies values, Arguments.convert tallies (!filter.isAsync) filter.parameters (a :: values) =
      (Arguments.convert tallies (!filter.isAsync) rest values).map first)
    (hb : ∀ tallies values, Arguments.convert tallies (!filter.isAsync) filter.parameters (b :: values) =
      (Arguments.convert tallies (!filter.isAsync) rest values).map second)
    (hwaits : ∀ others, filter.waits (first others) = filter.waits (second others))
    (hrun : ∀ others, filter.run (first others) = filter.run (second others)) : filter.SameOn a b := by
  intro name values
  funext drive context shared
  rw [run_invoke, run_invoke, ha, hb]
  cases Arguments.convert shared.counts.tallies (!filter.isAsync) rest values with
  | error fault => rfl
  | ok others =>
    dsimp only [Except.map]
    rw [hwaits, hrun]

/-- A filter whose first parameter is any value does the same to two values if its computation does. -/
theorem sameOn_of_value {parameters : List Parameter} {run : Arguments (.one .value :: parameters) → Query Value}
    {a b : Value} (h : ∀ others : Arguments parameters, run (a, others) = run (b, others)) :
    (atOnce (.one .value :: parameters) run).SameOn a b :=
  sameOn_of_convert (fun others ↦ (a, others)) (fun others ↦ (b, others))
    (fun tallies values ↦ convert_value tallies true parameters a values)
    (fun tallies values ↦ convert_value tallies true parameters b values) (fun _ ↦ rfl) h

/-- So does one that takes the context in front of it. -/
theorem sameOn_of_context {parameters : List Parameter}
    {run : Arguments (.context :: .one .value :: parameters) → Query Value} {a b : Value}
    (h : ∀ others : Arguments parameters, run (a, others) = run (b, others)) :
    (atOnce (.context :: .one .value :: parameters) run).SameOn a b :=
  sameOn_of_convert (fun others ↦ (a, others)) (fun others ↦ (b, others))
    (fun tallies values ↦ convert_value tallies true parameters a values)
    (fun tallies values ↦ convert_value tallies true parameters b values) (fun _ ↦ rfl) h

/-! ## Filters that see a range as a sequence -/

theorem ofCount_of_maxInteger_lt {count : Nat} (hlarge : maxInteger < count) :
    Value.ofCount count = .float (Float.ofNat count) := by
  have hnone : integer? count = none := if_neg fun h ↦ absurd h.2 (by omega)
  rw [Value.ofCount, hnone]

/-- The size of the one range that has more integers than can be counted is a float, and the float of their number is the
same. -/
theorem ofCount_rangeLength (first last : Int64) :
    Value.ofCount (rangeLength first last) = Value.ofCount (integers first last).length := by
  by_cases hcount : (integers first last).length ≤ maxCount
  · rw [Value.rangeLength_eq hcount]
  · have hall : (integers first last).length = 18446744073709551616 := by
      have hfirst := toInt_bounds first
      have hlast := toInt_bounds last
      unfold minInteger maxInteger at hfirst hlast
      rw [length_integers] at hcount ⊢
      unfold maxCount at hcount
      omega
    have hlength : rangeLength first last = maxCount := by
      rw [length_integers] at hcount
      exact Nat.min_eq_right (by omega)
    have hfloat : Float.ofNat maxCount = Float.ofNat 18446744073709551616 := by decide
    rw [hall, hlength, ofCount_of_maxInteger_lt (by decide), ofCount_of_maxInteger_lt (by decide), hfloat]

theorem size_sameOn :
    (direct [.one .value] fun (value, ()) ↦ .ofCount (value.length?.getD 0)).SameOn (.range first last)
      (.seq (integers first last)) :=
  sameOn_of_value fun _ ↦ congrArg (fun size ↦ (return size : Query Value)) (ofCount_rangeLength first last)

theorem itemAt_sameOn (index : Int) (ofText : List Char → Option Char) :
    (itemAt index ofText).SameOn (.range first last) (.seq (integers first last)) :=
  sameOn_of_value fun _ ↦
    congrArg (fun item ↦ (return Option.getD item .nil : Query Value)) (Value.index?_range first last index)

theorem onItems_sameOn (change : List Value → List Value) :
    (onItems change).SameOn (.range first last) (.seq (integers first last)) := by
  refine sameOn_of_value fun _ ↦ ?_
  simp only [Value.items?_range]
  rfl

theorem reverse_sameOn : reverse.SameOn (.range first last) (.seq (integers first last)) := by
  refine sameOn_of_value fun _ ↦ ?_
  simp only [Value.items?_range]
  rfl

theorem join_sameOn : join.SameOn (.range first last) (.seq (integers first last)) := by
  refine sameOn_of_value fun _ ↦ ?_
  simp only [Value.items?_range]
  rfl

theorem sort_sameOn : sort.SameOn (.range first last) (.seq (integers first last)) := by
  refine sameOn_of_context fun _ ↦ ?_
  simp only [Value.items?_range]
  rfl

theorem map_sameOn : map.SameOn (.range first last) (.seq (integers first last)) := by
  refine sameOn_of_context fun _ ↦ ?_
  simp only [Value.items?_range]
  rfl

/-! ## Slices -/

/-- A range is sliced as its text. -/
theorem slice_sameOn (first last : Int64) :
    slice.SameOn (.range first last) (.string (toString first.toInt ++ ".." ++ toString last.toInt)) :=
  sameOn_of_context fun _ ↦ rfl

/-- What a slice of a value is converted to has a start and perhaps a length. -/
theorem run_slice (name : String) (value : Value) (values : List Value) (drive : Drive) (context : Context) (shared : Shared) :
    slice.invoke name (value :: values) drive context shared =
      match Arguments.convert shared.counts.tallies true
          [.one (.integer .signed64), .one (.option (.integer .signed64))] values with
      | .ok (start, length, ()) =>
        Eval.query (invocationError name) (slice.run (value, start, length, ())) drive context shared
      | .error fault => (.error (.error (invocationError name fault)), shared) := by
  have hconvert : Arguments.convert shared.counts.tallies (!slice.isAsync) slice.parameters (value :: values) = _ :=
    convert_value shared.counts.tallies true _ value values
  rw [run_invoke, hconvert]
  cases Arguments.convert shared.counts.tallies true
    [.one (.integer .signed64), .one (.option (.integer .signed64))] values <;> rfl

/-- Where sequences are sliced, a slice of a sequence has its items. -/
theorem slice_run_seq {context : Context} (hlevel : context.level.includes .liquid22a = true) (items : List Value)
    (start : Int) (length : Option Int) (counts : Counts) :
    slice.run (.seq items, start, length, ()) context counts =
      (.ok (.seq ((slice? start (length.getD 1) items).getD [])), counts) := by
  unfold slice atOnce
  simp only [hlevel]
  rfl

/-- Where sequences are sliced, a slice of a sequence is a sequence. -/
theorem kind_of_slice_seq {context : Context} (hlevel : context.level.includes .liquid22a = true) {name : String}
    {items values : List Value} {drive : Drive} {shared : Shared} {result : Value}
    (h : (slice.invoke name (.seq items :: values) drive context shared).1 = .ok result) : result.kind = .seq := by
  rw [run_slice] at h
  split at h
  · rw [Eval.run_query, slice_run_seq hlevel] at h
    cases h
    rfl
  · cases h

/-- A slice of a text is a text. -/
theorem kind_of_slice_string {context : Context} {name text : String} {values : List Value} {drive : Drive}
    {shared : Shared} {result : Value}
    (h : (slice.invoke name (.string text :: values) drive context shared).1 = .ok result) : result.kind = .string := by
  rw [run_slice] at h
  split at h
  · rw [Eval.run_query] at h
    cases h
    rfl
  · cases h

/-- Nine of the ten filters on sequences do to a range what they do to the sequence of its integers, whatever their other
arguments are and wherever they are called. The slice does to it what it does to its text; where sequences are sliced, that
is never the same. -/
theorem sequence_filters_on_ranges (first last : Int64) :
    (∀ name ∈ ["size", "first", "last", "reverse", "sort", "uniq", "map", "compact", "join"],
      ∃ filter, (FilterSet.ofList builtins).get? name = some [filter] ∧
        filter.SameOn (.range first last) (.seq (integers first last))) ∧
    (FilterSet.ofList builtins).get? "slice" = some [slice] ∧
      slice.SameOn (.range first last) (.string (toString first.toInt ++ ".." ++ toString last.toInt)) ∧
      ∀ name values drive context shared result, context.level.includes .liquid22a = true →
        (slice.invoke name (.seq (integers first last) :: values) drive context shared).1 = .ok result →
        (slice.invoke name (.range first last :: values) drive context shared).1 ≠ .ok result := by
  refine ⟨?_, rfl, slice_sameOn first last, ?_⟩
  · simp only [List.forall_mem_cons, List.not_mem_nil, false_implies, implies_true, and_true]
    exact ⟨⟨_, rfl, size_sameOn⟩, ⟨_, rfl, itemAt_sameOn _ _⟩, ⟨_, rfl, itemAt_sameOn _ _⟩, ⟨_, rfl, reverse_sameOn⟩,
      ⟨_, rfl, sort_sameOn⟩, ⟨_, rfl, onItems_sameOn _⟩, ⟨_, rfl, map_sameOn⟩, ⟨_, rfl, onItems_sameOn _⟩,
      ⟨_, rfl, join_sameOn⟩⟩
  · intro name values drive context shared result hlevel hsequence hrange
    rw [slice_sameOn first last name values] at hrange
    have hkind := (kind_of_slice_string hrange).symm.trans (kind_of_slice_seq hlevel hsequence)
    cases hkind

/-- A context of the level from which on sequences are sliced. -/
def slicingContext : Context := { Environment.standard.context .nil with level := .liquid22a }

/-- What is shared at the start of a render that cannot be cancelled. -/
def unshared : Shared := ⟨⟨[], none⟩, 0, 0⟩

theorem sequence_filters_on_ranges_joined :
    "join" ∈ ["size", "first", "last", "reverse", "sort", "uniq", "map", "compact", "join"] ∧
      ∃ filter, (FilterSet.ofList builtins).get? "join" = some [filter] ∧
        (filter.invoke "join" [.range 1 3, .string ","] .blocking slicingContext unshared).1 = .ok (.string "1,2,3") := by
  have hname : "join" ∈ ["size", "first", "last", "reverse", "sort", "uniq", "map", "compact", "join"] := by decide
  obtain ⟨filter, hget, hsame⟩ := (sequence_filters_on_ranges 1 3).1 "join" hname
  obtain rfl : join = filter := by
    have hjoin : (FilterSet.ofList builtins).get? "join" = some [join] := rfl
    exact List.head_eq_of_cons_eq (Option.some.inj (hjoin.symm.trans hget))
  refine ⟨hname, join, hget, ?_⟩
  rw [hsame]
  rfl

/-- A range from one to five is sliced to the dots of its text, its integers to the second and the third one. -/
theorem slice_range_ne_integers :
    slicingContext.level.includes .liquid22a = true ∧
      (slice.invoke "slice" [.range 1 5, .int 1, .int 2] .blocking slicingContext unshared).1 = .ok (.string "..") ∧
      (slice.invoke "slice" [.seq (integers 1 5), .int 1, .int 2] .blocking slicingContext unshared).1 =
        .ok (.seq [.int 2, .int 3]) :=
  ⟨rfl, rfl, rfl⟩

end Filter

end Liquid
