import Liquid.Proofs.Evaluation.Composition

/-!
# Evaluations that agree

Two runs of a render may differ in the error mode, in what they have recorded, in the tags that are disabled, in the
registers and in how often they had to wait. A viewpoint says which contexts count as alike in spite of that. An evaluation
agrees if it gives the same result in alike contexts, with the same counts and after the same waits. Evaluations whose
filters agree agree.
-/

namespace Liquid

/-- A context without what only tags and some filters look at. -/
def Context.bare (context : Context) : Context :=
  { context with errorMode := .suppress, registers := [], disabled := [], recorded := [], reported := [] }

/-- A context without the disabled tags, the errors that were recorded or reported, and the source in its registers. -/
def Context.unmarked (context : Context) : Context :=
  { context with
    disabled := [], recorded := [], reported := [], registers := context.registers.erase Registers.sourceKey }

/-- Which contexts count as alike, which counts are met and which kinds of errors are raised. -/
structure Viewpoint where
  alike : Context → Context → Prop
  meets : Counts → Prop
  raises : ErrorKind → Prop
  bare_eq : ∀ {left right}, alike left right → right.bare = left.bare
  meets_tallies : ∀ {counts}, meets counts → ∀ tallies, meets { counts with tallies := tallies }
  /-- Only the refusal of a tag may be out of the question. -/
  raises_of_ne : ∀ {kind}, kind ≠ .disabledTag → raises kind

namespace Viewpoint

/-- The viewpoint from which only equal contexts are alike. -/
def same : Viewpoint where
  alike left right := right = left
  meets _ := True
  raises _ := True
  bare_eq h := by rw [h]
  meets_tallies _ _ := trivial
  raises_of_ne _ := trivial

/-- What two runs share, but for how often they had to wait. -/
structure Level (view : Viewpoint) (left right : Shared) : Prop where
  counts : right.counts = left.counts
  met : view.meets left.counts
  nextObject : right.nextObject = left.nextObject

/-- Two runs of an evaluation ended alike. -/
structure Agreed (view : Viewpoint) {α : Type} (left right : Shared) (leftEnd rightEnd : Except Failure α × Shared) :
    Prop where
  result : rightEnd.1 = leftEnd.1
  raised : ∀ error, leftEnd.1 = .error (.error error) → view.raises error.kind
  level : view.Level leftEnd.2 rightEnd.2
  waited : ∃ times, leftEnd.2.suspensions = left.suspensions + times ∧ rightEnd.2.suspensions = right.suspensions + times

end Viewpoint

/-- Whether a filter gives the same result in alike contexts. -/
def Filter.Agrees (view : Viewpoint) (filter : Filter) : Prop :=
  ∀ arguments {left right counts}, view.alike left right → view.meets counts →
    filter.run arguments right counts = filter.run arguments left counts ∧
      view.meets (filter.run arguments left counts).2

/-- Whether all filters give the same results in alike contexts. -/
def Toolbox.Agrees (view : Viewpoint) (tools : Toolbox) : Prop :=
  tools.localFilters.All (Filter.Agrees view) ∧ tools.filters.All (Filter.Agrees view)

/-- All filters give the same results in equal contexts. -/
theorem Toolbox.agrees_same (tools : Toolbox) : tools.Agrees .same := by
  have hfilter (filter : Filter) : filter.Agrees .same := by
    intro arguments left right counts halike _
    have hsame : right = left := halike
    exact ⟨by rw [hsame], trivial⟩
  exact ⟨fun _ _ filter _ ↦ hfilter filter, fun _ _ filter _ ↦ hfilter filter⟩

namespace Eval

variable {α β : Type} {view : Viewpoint}

/-- Whether an evaluation gives the same result in alike contexts. -/
def Agrees (view : Viewpoint) (computation : Eval α) : Prop :=
  ∀ drive {left right : Context} {first second : Shared}, view.alike left right → view.Level first second →
    view.Agreed first second (computation drive left first) (computation drive right second)

namespace Agrees

theorem pure (value : α) : Agrees view (Pure.pure value : Eval α) :=
  fun _ _ _ _ _ _ hlevel ↦ ⟨rfl, nofun, hlevel, 0, rfl, rfl⟩

theorem fail {fault : Fault} (h : fault.kind ≠ .disabledTag) : Agrees view (Eval.fail fault : Eval α) := by
  intro _ _ _ _ _ _ hlevel
  refine ⟨rfl, fun error herror ↦ ?_, hlevel, 0, rfl, rfl⟩
  cases herror
  exact view.raises_of_ne h

theorem wait (times : Nat) : Agrees view (Eval.wait times) := by
  intro drive left right first second _ hlevel
  cases times with
  | zero => exact ⟨rfl, nofun, hlevel, 0, rfl, rfl⟩
  | succ times =>
    cases drive with
    | blocking => exact ⟨rfl, nofun, hlevel, 0, rfl, rfl⟩
    | cooperative => exact ⟨rfl, nofun, ⟨hlevel.counts, hlevel.met, hlevel.nextObject⟩, times + 1, rfl, rfl⟩

theorem bind {computation : Eval α} {next : α → Eval β} (h : Agrees view computation)
    (hnext : ∀ value, Agrees view (next value)) : Agrees view (computation >>= next) := by
  intro drive left right first second halike hlevel
  have hagreed := h drive halike hlevel
  rw [run_bind, run_bind]
  rcases hleft : computation drive left first with ⟨leftEnd, leftAfter⟩
  rcases hright : computation drive right second with ⟨rightEnd, rightAfter⟩
  rw [hleft, hright] at hagreed
  obtain ⟨hresult, hraised, hafter, times, hwaited, hwaited'⟩ := hagreed
  obtain rfl : rightEnd = leftEnd := hresult
  cases rightEnd with
  | error failure => exact ⟨rfl, fun error herror ↦ hraised error (by simpa using herror), hafter, times, hwaited, hwaited'⟩
  | ok value =>
    obtain ⟨hresult, hraised, hlast, more, hmore, hmore'⟩ := hnext value drive halike hafter
    dsimp only at hwaited hwaited'
    refine ⟨hresult, hraised, hlast, times + more, ?_, ?_⟩
    · rw [hmore, hwaited, Nat.add_assoc]
    · rw [hmore', hwaited', Nat.add_assoc]

theorem ite {condition : Prop} [Decidable condition] {first second : Eval α} (hfirst : Agrees view first)
    (hsecond : Agrees view second) : Agrees view (if condition then first else second) := by
  split
  · exact hfirst
  · exact hsecond

/-- What is done with the context must not look at what alike contexts may differ in. -/
theorem context_bind {next : Context → Eval β} (hbare : ∀ context, next context = next context.bare)
    (hnext : ∀ context, Agrees view (next context)) : Agrees view (Eval.context >>= next) := by
  intro drive left right first second halike hlevel
  have hsame : next right = next left := by rw [hbare right, view.bare_eq halike, ← hbare left]
  rw [run_bind, run_bind]
  change view.Agreed first second (next left drive left first) (next right drive right second)
  rw [hsame]
  exact hnext left drive halike hlevel

theorem query {explain : Fault → Error} {query : Query α}
    (hsame : ∀ {left right counts}, view.alike left right → view.meets counts →
      query right counts = query left counts ∧ view.meets (query left counts).2)
    (hraises : ∀ context counts fault, (query context counts).1 = .error fault → (explain fault).kind ≠ .disabledTag) :
    Agrees view (Eval.query explain query) := by
  intro drive left right first second halike hlevel
  obtain ⟨hquery, hmet⟩ := hsame halike hlevel.met
  rw [run_query, run_query, hlevel.counts, hquery]
  refine ⟨rfl, fun error herror ↦ ?_, ⟨rfl, hmet, hlevel.nextObject⟩, 0, rfl, rfl⟩
  cases hresult : (query left first.counts).1 with
  | ok value =>
    rw [hresult] at herror
    cases herror
  | error fault =>
    rw [hresult] at herror
    cases herror
    exact view.raises_of_ne (hraises left first.counts fault hresult)

theorem counting {action : Context → StateM Tallies α} (h : ∀ context, action context = action context.bare) :
    Agrees view (Eval.counting action) := by
  have hrun (context : Context) (counts : Counts) : Query.counting action context counts =
      (.ok (action context counts.tallies).1, { counts with tallies := (action context counts.tallies).2 }) := rfl
  refine .query (fun {left right counts} halike hmet ↦ ?_) fun context counts fault hfault ↦ ?_
  · rw [hrun, hrun, h right, view.bare_eq halike, ← h left]
    exact ⟨rfl, view.meets_tallies hmet _⟩
  · rw [hrun] at hfault
    cases hfault

theorem textOf (value : Value) : Agrees view (Eval.textOf value) := by
  have hrun (context : Context) (counts : Counts) : Query.textOf value context counts =
      (.ok (value.text counts.tallies), counts) := rfl
  refine .query (fun _ hmet ↦ ⟨rfl, hmet⟩) fun context counts fault hfault ↦ ?_
  rw [hrun] at hfault
  cases hfault

end Agrees

end Eval

variable {view : Viewpoint} {tools : Toolbox}

/-- What a filter fails with is no refusal of a tag: the error of a filter that fails names the filter. -/
theorem Filter.kind_invocationError (name : String) (fault : Fault) :
    (Filter.invocationError name fault).kind ≠ .disabledTag := by
  rw [Filter.invocationError]
  split
  · next h =>
    intro hkind
    rw [show fault.kind = .disabledTag from hkind] at h
    cases h
  · exact nofun

/-- Every construct of the language agrees if its parts do. -/
theorem Toolbox.Agrees.compositional (h : tools.Agrees view) :
    Eval.Compositional tools fun _ computation ↦ computation.Agrees view where
  pure := .pure
  fail := .fail
  bind := .bind
  context_bind hvisible := .context_bind fun context ↦ by rw [hvisible context, hvisible context.bare]; rfl
  counting hvisible := .counting fun context ↦ by rw [hvisible context, hvisible context.bare]; rfl
  textOf := .textOf
  wait := .wait
  converts name result := by
    refine .query (fun {left right counts} _ hmet ↦ ?_) fun _ _ fault _ ↦ Filter.kind_invocationError name fault
    cases result with
    | ok value => exact ⟨rfl, hmet⟩
    | error fault => exact ⟨rfl, hmet⟩
  calls hchosen arguments := by
    have hfilter : Filter.Agrees view _ := Toolbox.filter_holds h.1 h.2 hchosen
    exact .query (hfilter arguments) fun _ _ fault _ ↦ Filter.kind_invocationError _ fault
  misses name := by
    unfold missingPath
    exact .context_bind (fun _ ↦ rfl) fun _ ↦ .ite (.fail nofun) (.pure _)

end Liquid
