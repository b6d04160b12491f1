import Liquid.Proofs.Render.Lockstep
import Liquid.Proofs.Render.Restoration

/-!
# Rendering as a recursion through includes

An include renders a tree that is read while rendering, so that rendering is a recursion that does not follow the tree. It can
be unrolled a number of times; what stands for the includes beyond may be anything. With more levels than includes may
nest, nothing beyond is ever reached: all unrollings are the same, and they are what rendering does.
-/

namespace Liquid.Render

open Template

/-- Renders a block in which includes are rendered through the given number of levels; beyond them something else is
done. -/
def unrolled (engine : Engine) (beyond : Block → Render Flow) : (levels : Nat) → Block → Render Flow
  | 0, body => beyond body
  | levels + 1, body => nodes engine (included engine (unrolled engine beyond levels)) body

/-- Rendering is an unrolling that refuses everything beyond. -/
theorem blockWithin_eq_unrolled (engine : Engine) (remaining : Nat) :
    blockWithin engine remaining =
      unrolled engine (fun _ ↦ do fail (.tooDeep (← context).maxDepth)) (remaining + 1) := by
  induction remaining with
  | zero =>
    funext body
    rw [blockWithin, unrolled]
    congr
  | succ remaining ih =>
    funext body
    rw [blockWithin, unrolled, ← ih]

/-- Every tree that an include can lead to from the marks has a property in all its tags. -/
def LeadOnlyTo (engine : Engine) (holds : Tag → Prop) (marks : Marks) : Prop :=
  (∀ path block, marks.includes.find? path = some block → AllTags holds block) ∧
    ∀ source, marks.source? = some source ∨ engine.source = some source →
      ∀ name text block, source.fetch name = .ok text → Template.parse engine.grammar name text = .ok block →
        AllTags holds block

theorem leadOnlyTo_marks {engine : Engine} {holds : Tag → Prop} {state : RenderState} :
    LeadOnlyTo engine holds state.marks ↔ IncludesOnly engine holds state := Iff.rfl

/-- Two renders from the same state, whose depth is the level of includes. -/
def nested (engine : Engine) (limit : Nat) : Coupling where
  toViewpoint := .same
  rel level left right :=
    right = left ∧ left.depth = level ∧ left.maxDepth = limit ∧ LeadOnlyTo engine Tag.IsBuiltin left
  drives _ := True
  removed := []
  unmarked_eq h := congrArg Context.unmarked h
  alike_change change _ _ _ h := congrArg change h
  rel_wait := by
    rintro level left _ ⟨rfl, hdepth, hlimit, hleads⟩ times
    exact ⟨rfl, hdepth, hlimit, hleads⟩
  rel_report := by
    rintro level left _ ⟨rfl, hdepth, hlimit, hleads⟩ error _
    exact ⟨rfl, hdepth, hlimit, hleads⟩
  rel_record := by
    rintro level left _ ⟨rfl, hdepth, hlimit, hleads⟩ error _
    exact ⟨rfl, hdepth, hlimit, hleads⟩
  rel_enter := by
    rintro level left _ ⟨rfl, hdepth, hlimit, hleads⟩ _
    exact ⟨rfl, congrArg (· + 1) hdepth, hlimit, hleads⟩
  rel_leave := by
    rintro level left _ ⟨rfl, hdepth, hlimit, hleads⟩
    exact ⟨rfl, congrArg (· - 1) hdepth, hlimit, hleads⟩
  refuses := by
    rintro level left _ ⟨rfl, -⟩ name _
    exact ⟨rfl, fun _ ↦ trivial⟩
  loses _ name hname := by cases hname
  alike_lose := Viewpoint.alike_lose_nil
  uncancelled := Viewpoint.uncancelled_nil

variable {engine : Engine} {limit level : Nat}

theorem Coupled.eq_of_nested {left right : RenderState} (h : Coupled (nested engine limit) level left right) :
    right = left := by
  have hcontext : right.context = left.context := h.alike
  have hmarks : right.marks = left.marks := h.marks.1
  have hsuspensions := congrArg Marks.suspensions hmarks
  have hincludes := congrArg Marks.includes hmarks
  have hreads := congrArg Marks.reads hmarks
  have hshared : right.shared = left.shared := by
    have hcounts := h.shared.counts
    have hnext := h.shared.nextObject
    change right.shared.suspensions = left.shared.suspensions at hsuspensions
    cases hright : right.shared
    cases hleft : left.shared
    simp_all
  have houtput := h.output
  change right.includes = left.includes at hincludes
  change right.reads = left.reads at hreads
  cases right
  cases left
  simp_all

/-- Two renders from the same state that ended alike are the same. -/
theorem Met.eq_of_nested {α : Type} {left right : Except Failure α × RenderState}
    (h : Met (nested engine limit) level Eq left right) : right = left := by
  obtain ⟨hended, _, hcoupled⟩ := h.ended
  exact Prod.ext hended hcoupled.eq_of_nested

theorem Coupled.nested_self {state : RenderState} (hdepth : state.context.depth = level)
    (hlimit : state.context.maxDepth = limit) (hincludes : IncludesOnly engine Tag.IsBuiltin state) :
    Coupled (nested engine limit) level state state :=
  ⟨rfl, rfl, ⟨rfl, trivial, rfl⟩, rfl, hdepth, hlimit, leadOnlyTo_marks.2 hincludes⟩

/-- Both renders load the same tree, one of built-in tags. -/
theorem Paired.nested_load (name : String) :
    Paired (nested engine limit) level (fun block block' ↦ block' = block ∧ AllTags Tag.IsBuiltin block)
      (load engine name) (load engine name) := by
  intro drive left right _ hcoupled
  obtain rfl := hcoupled.eq_of_nested
  obtain ⟨-, hdepth, hlimit, hleads⟩ := hcoupled.marks
  have hincludes : IncludesOnly engine Tag.IsBuiltin right := leadOnlyTo_marks.1 hleads
  have hkept : Kept (IncludesOnly engine Tag.IsBuiltin) Restored right (load engine name drive right) :=
    Keeps.load name drive right hincludes
  have hloaded (block : Block) (h : (load engine name drive right).1 = .ok block) : AllTags Tag.IsBuiltin block :=
    load_allTags hincludes h
  have hafter : (load engine name drive right).2.context.maxDepth = limit := by
    have hmaxDepth := congrArg Context.maxDepth hkept.steady.settings
    exact hmaxDepth.trans hlimit
  rcases hrun : load engine name drive right with ⟨(error | _) | block, after⟩
  · rw [hrun] at hkept hafter
    exact .error trivial (.nested_self ((hkept.related (.error error)).depth.trans hdepth) hafter hkept.inv)
  · rw [hrun] at hkept hafter
    exact .suspended (.nested_self rfl hafter hkept.inv)
  · rw [hrun] at hkept hafter hloaded
    exact .value ⟨rfl, hloaded block rfl⟩
      (.nested_self ((hkept.related (.value block)).depth.trans hdepth) hafter hkept.inv)

/-- A block is rendered alike from equal states by engines that only differ in the tags of the host, if the trees of its
includes are, where includes may still nest. -/
theorem Paired.nested_nodes {other : Engine} (htools : other.tools = engine.tools)
    (hload : ∀ name, load other name = load engine name) {deeper deeper' : Block → Render Flow}
    (hdeeper : level < limit → ∀ block, AllTags Tag.IsBuiltin block →
      Paired (nested engine limit) (level + 1) Eq (deeper block) (deeper' block))
    {body : Block} (hbody : AllTags Tag.IsBuiltin body) :
    Paired (nested engine limit) level Eq (nodes engine (Render.included engine deeper) body)
      (nodes other (Render.included other deeper') body) := by
  have hloads (name : String) : Paired (nested engine limit) level
      (fun block block' ↦ block' = block ∧ AllTags Tag.IsBuiltin block) (load engine name) (load other name) := by
    rw [hload]
    exact .nested_load name
  have hincludes (inclusion : Inclusion) : Paired (nested engine limit) level Eq
      (Render.included engine deeper inclusion) (Render.included other deeper' inclusion) := by
    refine .included htools (Toolbox.agrees_same _) hloads (fun block block' htrees left right hrel hshallow ↦ ?_) inclusion
    obtain ⟨rfl, hblock⟩ := htrees
    obtain ⟨-, hdepth, hlimit, -⟩ := hrel
    rw [hdepth, hlimit] at hshallow
    exact hdeeper hshallow _ hblock
  have hleads : Leads (nested engine limit) level engine other Tag.IsBuiltin (Render.included engine deeper)
      (Render.included other deeper') :=
    ⟨htools, Toolbox.agrees_same _, hincludes, fun _ _ _ _ _ _ hholds ↦ hholds.elim⟩
  have hnodes := hleads.nodes body hbody
  rwa [show (nested engine limit).removed = [] from rfl, without_nil] at hnodes

/-- Two unrollings that go on for more levels than includes may still nest render alike, whatever they do beyond. -/
theorem Paired.unrolled {beyond beyond' : Block → Render Flow} :
    ∀ {levels levels' level}, limit - level < levels → limit - level < levels' →
      ∀ {body}, AllTags Tag.IsBuiltin body →
        Paired (nested engine limit) level Eq (Render.unrolled engine beyond levels body)
          (Render.unrolled engine beyond' levels' body) := by
  intro levels
  induction levels with
  | zero => omega
  | succ levels ih =>
    intro levels' level hlevels hlevels' body hbody
    cases levels' with
    | zero => omega
    | succ levels' =>
      rw [Render.unrolled, Render.unrolled]
      exact .nested_nodes rfl (fun _ ↦ rfl) (fun hshallow block hblock ↦ ih (by omega) (by omega) hblock) hbody

/-- Rendering is like each unrolling that goes on for more levels than includes may still nest. -/
theorem Paired.block_unrolled {beyond : Block → Render Flow} {levels : Nat} (hlevels : limit - level < levels)
    {body : Block} (hbody : AllTags Tag.IsBuiltin body) :
    Paired (nested engine limit) level Eq (Render.block engine body) (Render.unrolled engine beyond levels body) := by
  intro drive left right hdrive hcoupled
  obtain ⟨-, hdepth, hlimit, -⟩ := hcoupled.marks
  change left.context.depth = level at hdepth
  change left.context.maxDepth = limit at hlimit
  unfold Render.block
  rw [run_bind_ok (run_context drive left), blockWithin_eq_unrolled, hdepth, hlimit]
  exact Paired.unrolled (Nat.lt_succ_self _) hlevels hbody drive left right hdrive hcoupled

variable {state : RenderState}

/-- Rendering is each unrolling that goes on for more levels than includes may nest. -/
theorem block_eq_unrolled {body : Block} (hbody : AllTags Tag.IsBuiltin body)
    (hincludes : IncludesOnly engine Tag.IsBuiltin state) {levels : Nat}
    (hlevels : state.context.maxDepth - state.context.depth < levels) (beyond : Block → Render Flow) (drive : Drive) :
    block engine body drive state = unrolled engine beyond levels body drive state := by
  have hpaired : Paired (nested engine state.context.maxDepth) state.context.depth Eq (block engine body)
      (unrolled engine beyond levels body) := .block_unrolled hlevels hbody
  exact (hpaired drive state state trivial (.nested_self rfl rfl hincludes)).eq_of_nested.symm

/-- What stands for the trees of includes only matters where no more includes are active than may be: there it has to do
what rendering a block does. -/
theorem block_eq_nodes {deeper : Block → Render Flow}
    (hdeeper : ∀ block drive state, state.context.depth ≤ state.context.maxDepth →
      deeper block drive state = Render.block engine block drive state)
    {body : Block} (hbody : AllTags Tag.IsBuiltin body) (hincludes : IncludesOnly engine Tag.IsBuiltin state)
    (drive : Drive) : block engine body drive state = nodes engine (included engine deeper) body drive state := by
  have hunrolled (hshallow : state.context.depth < state.context.maxDepth) (block : Block)
      (hblock : AllTags Tag.IsBuiltin block) :
      Paired (nested engine state.context.maxDepth) (state.context.depth + 1) Eq (deeper block)
        (unrolled engine deeper (state.context.maxDepth - state.context.depth) block) := by
    intro drive left right hdrive hcoupled
    obtain ⟨-, hdepth, hlimit, -⟩ := hcoupled.marks
    have hsame : deeper block drive left = Render.block engine block drive left := by
      apply hdeeper
      change left.marks.depth ≤ left.marks.maxDepth
      rw [hdepth, hlimit]
      exact hshallow
    rw [hsame]
    exact Paired.block_unrolled (by omega) hblock drive left right hdrive hcoupled
  have hpaired : Paired (nested engine state.context.maxDepth) state.context.depth Eq
      (nodes engine (included engine deeper) body)
      (unrolled engine deeper (state.context.maxDepth - state.context.depth + 1) body) :=
    .nested_nodes rfl (fun _ ↦ rfl) hunrolled hbody
  calc block engine body drive state
    _ = unrolled engine deeper (state.context.maxDepth - state.context.depth + 1) body drive state :=
      block_eq_unrolled hbody hincludes (Nat.lt_succ_self _) deeper drive
    _ = nodes engine (included engine deeper) body drive state :=
      (hpaired drive state state trivial (.nested_self rfl rfl hincludes)).eq_of_nested

end Liquid.Render
