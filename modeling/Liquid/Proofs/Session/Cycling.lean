import Liquid.Proofs.Render.Cycling
import Liquid.Proofs.Session.Recursion

/-!
# Cycles of a template

The values of a key take turns over the whole render of a template, through loops, branches and included templates. They begin
with the first one, unless the host hands places in.
-/

namespace Liquid

open Render Template

theorem Entries.of_find?_putAll {κ α : Type} [DecidableEq κ] {key : κ} {value : α} {entries more : Entries κ α}
    (h : find? key (entries.putAll more) = some value) : find? key entries = some value ∨ (key, value) ∈ more := by
  induction more generalizing entries with
  | nil => exact .inl h
  | cons entry rest ih =>
    obtain ⟨other, given⟩ := entry
    rcases ih h with hput | hrest
    · rw [find?_put] at hput
      split at hput
      · next hkey =>
        obtain rfl := Option.some.inj hput
        exact .inr (hkey ▸ List.mem_cons_self)
      · exact .inl hput
    · exact .inr (List.mem_cons_of_mem _ hrest)

namespace Session

/-- The cycles of a key at which a render arrives, in their order. A template of built-in tags asks for no others. -/
def cyclesOf (session : Session) (template : Template) (drive : Drive) (inputs : Value) (options : RenderOptions)
    (key : String) : List Arrival :=
  let engine := session.environment.engine options.filters
  Render.cyclesOf engine.tools key
    ((Traced.block engine.withoutTags template.root).arrivals drive (session.renderState template inputs options))

/-- The place that the host hands in for the cycles of a key. -/
def handedPlace (session : Session) (template : Template) (inputs : Value) (options : RenderOptions) (key : String) : Nat :=
  ((session.renderState template inputs options).context.places.cycles.find? key).getD 0

theorem handedPlace_eq_zero (session : Session) (template : Template) (inputs : Value) {options : RenderOptions}
    (h : ∀ places, (Registers.cycleKey, .places places) ∉ options.registers) (key : String) :
    session.handedPlace template inputs options key = 0 := by
  have hplaces : (session.renderState template inputs options).context.places.cycles = [] := by
    change Registers.places (Entries.putAll [] options.registers) Registers.cycleKey = []
    rw [Registers.places]
    split
    · next places hfound =>
      obtain hnone | hgiven := Entries.of_find?_putAll hfound
      · cases hnone
      · exact absurd hgiven (h places)
    · rfl
  rw [handedPlace, hplaces]
  rfl

/-- The values of a key take turns: of the cycles with the key, which have equally many values, each one evaluates and writes
the next value and begins again behind the last one, whatever cycles with other keys are executed in between and whichever
values cannot be evaluated. The first one writes the first value unless the host hands a place in. -/
theorem cycles_take_turns (session : Session) (template : Template) (drive : Drive) (inputs : Value)
    (options : RenderOptions) (hroot : AllTags Tag.IsBuiltin template.root)
    (hincludes : IncludesOnly (session.environment.engine options.filters) Tag.IsBuiltin
      (session.renderState template inputs options))
    (key : String) {count : Nat}
    (hcount : ∀ arrival ∈ session.cyclesOf template drive inputs options key, arrival.values.length = count) :
    let engine := session.environment.engine options.filters
    let handed := session.handedPlace template inputs options key
    (Traced.block engine.withoutTags template.root).run drive (session.renderState template inputs options) =
      session.rendering template drive inputs options ∧
    ((∀ places, (Registers.cycleKey, .places places) ∉ options.registers) → handed = 0) ∧
    ∀ (number : Nat) arrival, (session.cyclesOf template drive inputs options key)[number]? = some arrival →
      ∃ group value keyed, arrival.tag = .cycle group arrival.values ∧
        Render.evaluate (cycleKey engine.tools group arrival.values) arrival.drive arrival.state = (.ok key, keyed) ∧
        arrival.values[(handed + number) % count]? = some value ∧
        cycle engine.tools group arrival.values arrival.drive arrival.state =
          writeEvaluated engine.tools value arrival.drive (takeTurn key arrival.values arrival.drive keyed).2 := by
  intro engine handed
  obtain ⟨hrun, hturns⟩ := block_cycles hroot hincludes drive hcount
  exact ⟨hrun, fun hregisters ↦ session.handedPlace_eq_zero template inputs hregisters key, hturns⟩

/-- A page that visits a cycle with a value that cannot be evaluated and another cycle in turn. -/
def cycledPage : Template where
  name := "page"
  source := "\x7b% for x in (1..3) %\x7d\x7b% cycle 'a', ('x'..2) %\x7d\x7b% cycle 'g': 1, 2, 3 %\x7d\x7b% endfor %\x7d"
  root :=
    [.tag "for" "x in (1..3)" ⟨.first, .first⟩
      (.loop ⟨"x", .range (.literal (.int 1)) (.literal (.int 3)), "x-(1..3)", false, none, none⟩
        [.tag "cycle" "'a', ('x'..2)" ⟨.first, .first⟩
          (.cycle none [.literal (.string "a"), .range (.literal (.string "x")) (.literal (.int 2))]),
        .tag "cycle" "'g': 1, 2, 3" ⟨.first, .first⟩
          (.cycle (some (.literal (.string "g"))) [.literal (.int 1), .literal (.int 2), .literal (.int 3)])] none)]
  assigned := []
  isThreadSafe := false

/-- A session in the standard environment with the page. -/
def cycledSession : Session := { start Environment.standard 0 with templates := [cycledPage] }

/-- The third time it is the turn of the first of two values again, although the second one could not be evaluated. -/
theorem cycles_take_turns_cycled :
    let engine := cycledSession.environment.engine RenderOptions.none.filters
    let key := "[Literal(\"a\"), Range(Literal(\"x\"), Literal(2))]"
    let cycles := cycledSession.cyclesOf cycledPage .blocking .nil .none key
    (render .blocking 0 .nil .none cycledSession).1.toOption.map Rendered.output =
        some "a1Liquid error: invalid range bound \"x\"2a3" ∧
      (∀ arrival ∈ cycles, arrival.values.length = 2) ∧
      ∃ arrival group value keyed, cycles[2]? = some arrival ∧ arrival.values[0]? = some value ∧
        cycle engine.tools group arrival.values arrival.drive arrival.state =
          writeEvaluated engine.tools value arrival.drive (takeTurn key arrival.values arrival.drive keyed).2 := by
  intro engine key cycles
  have hroot : AllTags Tag.IsBuiltin cycledPage.root := by
    simp only [cycledPage, AllTags, AllTagsOfNode, AllTagsOfTag, AllTagsOfOption, Tag.IsBuiltin, and_self]
  have hincludes : IncludesOnly engine Tag.IsBuiltin (cycledSession.renderState cycledPage .nil .none) :=
    includesOnly_of_no_tags rfl (fun _ _ hkept ↦ by cases hkept) cycledPage .nil .none
  have hlengths : cycles.map (·.values.length) = [2, 2, 2] := by decide +kernel
  have hcount : ∀ arrival ∈ cycles, arrival.values.length = 2 := by
    intro arrival harrival
    have hmem : arrival.values.length ∈ cycles.map (·.values.length) := List.mem_map_of_mem harrival
    rw [hlengths] at hmem
    simpa using hmem
  have hthird : 2 < cycles.length := by
    rw [← List.length_map (·.values.length), hlengths]
    decide
  obtain ⟨-, hfresh, hturns⟩ := cycles_take_turns cycledSession cycledPage .blocking .nil .none hroot hincludes key
    hcount
  have hnone : cycledSession.handedPlace cycledPage .nil .none key = 0 := hfresh fun _ hmem ↦ by cases hmem
  obtain ⟨group, value, keyed, -, -, hvalue, hcycle⟩ := hturns 2 _ (List.getElem?_eq_getElem hthird)
  rw [hnone] at hvalue
  exact ⟨by decide +kernel, hcount, _, group, value, keyed, List.getElem?_eq_getElem hthird, hvalue, hcycle⟩

end Session

end Liquid
