import Liquid.Environment
import Liquid.Proofs.Render.Composition
import Liquid.Proofs.Render.Frame

/-!
# Rendering restores its context

Each construct that opens a scope, a loop, an include or a capture closes it again however its body ends, unless the render
stops because it would have to wait. So a block of built-in tags leaves the scopes, the counts of loops and includes and the
name of the template as they were, and of the output it only extends the innermost text.
-/

namespace Liquid.Render

open Template

variable {α : Type} {engine : Engine} {holds : Tag → Prop} {rel : RenderState → RenderState → Prop} [Frame rel]

namespace Keeps

/-! ## Basic actions -/

/-- An action that changes nothing but what is shared, the names that were read and the assigned variables. -/
theorem of_quiet {action : Render α}
    (h : ∀ drive before, ∃ assigned shared reads, (action drive before).2 =
      { before with context := { before.context with assigned := assigned }, shared := shared, reads := reads }) :
    Keeps (IncludesOnly engine holds) rel action := by
  intro drive before hinv
  obtain ⟨assigned, shared, reads, hafter⟩ := h drive before
  constructor
  · rw [hafter]
    exact hinv
  · rw [hafter]
    exact ⟨rfl, List.suffix_rfl, List.suffix_rfl⟩
  · rw [hafter]
    exact fun _ ↦ Frame.of_restored (.of_same rfl rfl rfl rfl rfl)

theorem evaluate (computation : Eval α) : Keeps (IncludesOnly engine holds) rel (Render.evaluate computation) :=
  of_quiet fun _ before ↦ ⟨before.context.assigned, _, before.reads, by rw [run_evaluate]⟩

theorem assign (name : String) (value : Value) :
    Keeps (IncludesOnly engine holds) rel (modifyContext fun context ↦ context.assign name value) :=
  of_quiet fun _ before ↦ ⟨_, before.shared, before.reads, rfl⟩

theorem newObject (object : Object) : Keeps (IncludesOnly engine holds) rel (Render.newObject object) :=
  of_quiet fun _ before ↦ ⟨before.context.assigned, _, before.reads, rfl⟩

theorem advance (id index : Nat) : Keeps (IncludesOnly engine holds) rel (Render.advance id index) :=
  of_quiet fun _ before ↦ ⟨before.context.assigned, _, before.reads, rfl⟩

theorem write (text : String) : Keeps (IncludesOnly engine holds) rel (Render.write text) := by
  intro drive before hinv
  rw [run_write]
  refine ⟨hinv, ⟨rfl, List.suffix_rfl, List.suffix_rfl⟩, fun _ ↦ Frame.of_restored ?_⟩
  exact ⟨⟨rfl, rfl, rfl, rfl, rfl, text, rfl⟩, rfl⟩

theorem record (error : Error) : Keeps (IncludesOnly engine holds) rel (Render.record error) :=
  fun _ _ hinv ↦ ⟨hinv, ⟨rfl, List.suffix_cons _ _, List.suffix_rfl⟩, fun _ ↦
    Frame.of_restored (.of_same rfl rfl rfl rfl rfl)⟩

theorem noteReported (error : Error) :
    Keeps (IncludesOnly engine holds) rel (modifyContext fun context ↦ context.noteReported error) :=
  fun _ _ hinv ↦ ⟨hinv, ⟨rfl, List.suffix_rfl, List.suffix_cons _ _⟩, fun _ ↦
    Frame.of_restored (.of_same rfl rfl rfl rfl rfl)⟩

/-- A register other than that of the source may be set. -/
theorem setRegister {key : String} (hkey : key ≠ Registers.sourceKey) (register : Context → Register) :
    Keeps (IncludesOnly engine holds) rel
      (modifyContext fun context ↦ context.setRegister key (register context)) := by
  intro drive before hinv
  refine ⟨⟨hinv.1, ?_⟩, ⟨rfl, List.suffix_rfl, List.suffix_rfl⟩, fun _ ↦
    Frame.of_restored (.of_same rfl rfl rfl rfl rfl)⟩
  simpa [Context.setRegister, Registers.source?, Entries.find?_put_of_ne hkey] using hinv.2

/-- Setting a variable of the innermost scope leaves everything around that scope alone. -/
theorem set (name : String) (value : Value) :
    Keeps (IncludesOnly engine holds) RestoredAround (modifyContext fun context ↦ context.set name value) :=
  fun _ _ hinv ↦ ⟨hinv, ⟨rfl, List.suffix_rfl, List.suffix_rfl⟩, fun _ ↦
    ⟨rfl, rfl, rfl, rfl, rfl, "", String.append_empty.symm⟩⟩

theorem checkCancelled : Keeps (IncludesOnly engine holds) rel Render.checkCancelled := by
  unfold Render.checkCancelled
  exact .bind .get fun _ ↦ .ite (.fail _) (.pure _)

theorem counter (name : String) : Keeps (IncludesOnly engine holds) rel (Render.counter name) := by
  unfold Render.counter
  exact .bind .context fun _ ↦ .pure _

/-! ## Errors and outputs -/

theorem report (error : Error) : Keeps (IncludesOnly engine holds) rel (Render.report error) := by
  unfold Render.report
  refine .bind (.noteReported error) fun _ ↦ .ite (.raise error) (.bind .context fun context ↦ ?_)
  cases context.errorMode with
  | suppress => exact .record error
  | display => exact .bind (.write _) fun _ ↦ .record error
  | rethrow => exact .raise error

theorem guarded (span : Span) {action : Render Flow} (h : Keeps (IncludesOnly engine holds) rel action) :
    Keeps (IncludesOnly engine holds) rel (Render.guarded span action) := by
  unfold Render.guarded
  refine .bind h.attempt fun ended ↦ ?_
  cases ended with
  | ok flow => exact .pure flow
  | error error =>
    exact .bind (.located error span) fun located ↦ .bind (.report located) fun _ ↦ .pure _

theorem output (tools : Toolbox) (markup : Markup) (span : Span) :
    Keeps (IncludesOnly engine holds) rel (Render.output tools markup span) := by
  unfold Render.output
  have hwritten (value : Value) : Keeps (IncludesOnly engine holds) rel (do
      let state ← MonadState.get
      Render.write (state.context.formatValue state.shared.counts.tallies value)
      return Flow.completed) :=
    .bind .get fun _ ↦ .bind (.write _) fun _ ↦ .pure _
  refine .bind (.evaluate _) fun value ↦ .bind .context fun context ↦ .ite ?_ (hwritten value)
  exact .bind (.located _ span) fun error ↦ .bind (.record error) fun _ ↦ hwritten value

theorem cycle (tools : Toolbox) (group : Option Expr) (values : List Expr) :
    Keeps (IncludesOnly engine holds) rel (Render.cycle tools group values) := by
  unfold Render.cycle
  refine .ite (.pure _) ?_
  refine .bind (.evaluate _) fun key ↦ .bind .context fun context ↦ ?_
  refine .bind (.setRegister (by decide) fun _ ↦ _) fun _ ↦ ?_
  split
  · exact .pure _
  · exact .bind (.evaluate _) fun _ ↦ .bind .get fun _ ↦ .bind (.write _) fun _ ↦ .pure _

/-! ## Captures and branches -/

/-- Whatever happens in a capture, it is closed again and the text around it stays. -/
theorem captured {body : Render Flow} (h : Keeps (IncludesOnly engine holds) Restored body) :
    Keeps (IncludesOnly engine holds) rel (Render.captured body) := by
  intro drive before hinv
  unfold Render.captured
  rw [run_bind_ok (run_modifyOutput _ drive before)]
  refine h.bracket hinv ⟨rfl, List.suffix_rfl, List.suffix_rfl⟩ ?_
  intro ended after hafter hsteady hrestored
  have hbelow : after.output.below = before.output.top :: before.output.below := hrestored.captures
  have houtput : after.output.endCapture.2 = before.output := by simp [Output.endCapture, hbelow]
  have hclosed : Restored before { after with output := after.output.endCapture.2 } :=
    .of_same hrestored.scopes hrestored.loops hrestored.depth hrestored.name houtput
  rw [run_bind_ok (run_endCapture drive after)]
  cases ended with
  | ok flow => exact ⟨hafter, ⟨hsteady.settings, hsteady.recorded, hsteady.reported⟩, fun _ ↦ Frame.of_restored hclosed⟩
  | error error => exact ⟨hafter, ⟨hsteady.settings, hsteady.recorded, hsteady.reported⟩, fun _ ↦ Frame.of_restored hclosed⟩

theorem ifChanged (text : String) : Keeps (IncludesOnly engine holds) rel (Render.ifChanged text) := by
  have hnoted : Keeps (IncludesOnly engine holds) rel
      (modifyContext fun context ↦ context.setRegister Registers.changeKey (.text text)) :=
    .setRegister (by decide) fun _ ↦ .text text
  unfold Render.ifChanged
  exact .bind .context fun context ↦ .ite (.bind (.write _) fun _ ↦ hnoted) hnoted

theorem branches (tools : Toolbox) {otherwise : Render Flow}
    (hotherwise : Keeps (IncludesOnly engine holds) rel otherwise) :
    ∀ (negated : Bool) (conditions : List (Condition × Render Flow)),
      (∀ branch ∈ conditions, Keeps (IncludesOnly engine holds) rel branch.2) →
        Keeps (IncludesOnly engine holds) rel (Render.branches tools otherwise negated conditions)
  | negated, [], _ => by
    rw [Render.branches]
    exact hotherwise
  | negated, (condition, body) :: rest, h => by
    rw [List.forall_mem_cons] at h
    rw [Render.branches]
    exact .bind (.evaluate _) fun _ ↦ .ite h.1 (branches tools hotherwise false rest h.2)

theorem cases (tools : Toolbox) (subject : Value) {otherwise : Render Flow}
    (hotherwise : Keeps (IncludesOnly engine holds) rel otherwise) :
    ∀ (matched : Bool) (whens : List (List Expr × Render Flow)),
      (∀ branch ∈ whens, Keeps (IncludesOnly engine holds) rel branch.2) →
        Keeps (IncludesOnly engine holds) rel (Render.cases tools subject otherwise matched whens)
  | matched, [], _ => by
    rw [Render.cases]
    exact .ite (.pure _) hotherwise
  | matched, (values, body) :: rest, h => by
    rw [List.forall_mem_cons] at h
    rw [Render.cases]
    refine .bind (.evaluate _) fun _ ↦ .ite (.bind h.1 fun flow ↦ ?_) (cases tools subject hotherwise matched rest h.2)
    cases flow with
    | completed => exact cases tools subject hotherwise true rest h.2
    | breakLoop => exact .pure _
    | continueLoop => exact .pure _

/-! ## Loops -/

theorem eachItem {visit : Nat → Value → Render Flow}
    (h : ∀ index item, Keeps (IncludesOnly engine holds) rel (visit index item)) :
    ∀ index items, Keeps (IncludesOnly engine holds) rel (Render.eachItem visit index items)
  | index, [] => by
    rw [Render.eachItem]
    exact .pure _
  | index, item :: rest => by
    rw [Render.eachItem]
    refine .bind (h index item) fun flow ↦ ?_
    cases flow with
    | breakLoop => exact .pure _
    | completed => exact eachItem h (index + 1) rest
    | continueLoop => exact eachItem h (index + 1) rest

/-- The scope and the loop that are opened for visits are closed behind them. -/
theorem inLoop (objectName : String) (object : Value) {visits : Render Unit}
    (h : Keeps (IncludesOnly engine holds) RestoredAround visits) :
    Keeps (IncludesOnly engine holds) rel (Render.inLoop objectName object visits) := by
  intro drive before hinv
  unfold Render.inLoop
  rw [run_bind_ok (run_modifyContext _ drive before)]
  refine h.bracket hinv ⟨rfl, List.suffix_rfl, List.suffix_rfl⟩ ?_
  intro ended after hafter hsteady haround
  have hscopes : after.context.leaveLoop.scopes = before.context.scopes.push after.context.scopes.top :=
    haround.scopes_eq_push rfl
  have hloops : after.context.loops - 1 = before.context.loops := by
    have hinside : after.context.loops = before.context.loops + 1 := haround.loops
    omega
  have hpop := run_popScope_push drive { after with context := after.context.leaveLoop } hscopes
  rw [run_bind_ok (run_modifyContext _ drive after), run_bind_ok hpop]
  refine ⟨hafter, ⟨hsteady.settings, hsteady.recorded, hsteady.reported⟩, fun _ ↦ Frame.of_restored ?_⟩
  exact ⟨⟨rfl, hloops, haround.depth, haround.name, haround.captures, haround.written⟩, rfl⟩

theorem visitLoop (header : LoopHeader) (items : List Value) {body : Render Flow}
    (h : Keeps (IncludesOnly engine holds) Restored body) :
    Keeps (IncludesOnly engine holds) rel (Render.visitLoop header items body) := by
  have hvisit (id index : Nat) (item : Value) : Keeps (IncludesOnly engine holds) RestoredAround (do
      Render.advance id index
      modifyContext fun context ↦ context.set header.item item
      body) :=
    .bind (.advance id index) fun _ ↦ .bind (.set header.item item) fun _ ↦ h.mono Restored.toRestoredAround
  unfold Render.visitLoop
  refine .bind (.evaluate _) fun parent ↦ .bind (.newObject _) fun made ↦ ?_
  exact .bind (.inLoop _ _ (.eachItem (hvisit made.1) 0 items)) fun ended ↦ .bind (.settle ended) fun _ ↦ .pure _

theorem loopOffset (tools : Toolbox) (header : LoopHeader) :
    Keeps (IncludesOnly engine holds) rel (Render.loopOffset tools header) := by
  unfold Render.loopOffset
  split
  · exact .bind .context fun _ ↦ .pure _
  · exact .evaluate _
  · exact .pure _

theorem loop (tools : Toolbox) (header : LoopHeader) {body otherwise : Render Flow}
    (hbody : Keeps (IncludesOnly engine holds) Restored body)
    (hotherwise : Keeps (IncludesOnly engine holds) Restored otherwise) :
    Keeps (IncludesOnly engine holds) Restored (Render.loop tools header body otherwise) := by
  unfold Render.loop
  refine .bind (.evaluate _) fun collection ↦ .bind (.loopOffset tools header) fun offset ↦
    .bind (.evaluate _) fun limit ↦ .bind (.setRegister (by decide) fun _ ↦ _) fun _ ↦ .ite hotherwise ?_
  exact .visitLoop header _ hbody

theorem table (tools : Toolbox) (header : TableHeader) {body : Render Flow}
    (h : Keeps (IncludesOnly engine holds) Restored body) :
    Keeps (IncludesOnly engine holds) rel (Render.table tools header body) := by
  unfold Render.table
  refine .bind (.evaluate _) fun collection ↦ .bind (.evaluate _) fun offset ↦ .bind (.evaluate _) fun limit ↦
    .bind (.evaluate _) fun columns ↦ .bind (.newObject _) fun made ↦ .bind (.write _) fun _ ↦ ?_
  refine .bind (.inLoop _ _ (.eachItem (fun index item ↦ ?_) 0 _)) fun ended ↦
    .bind (.write _) fun _ ↦ .bind (.settle ended) fun _ ↦ .pure _
  refine .bind (.advance _ index) fun _ ↦ .bind (.set header.item item) fun _ ↦ .bind (.write _) fun _ ↦
    .bind (h.mono Restored.toRestoredAround).attempt fun ended ↦ .bind (.write _) fun _ ↦ ?_
  exact .ite (.bind (.write _) fun _ ↦ .settle ended) (.settle ended)

/-! ## Includes -/

theorem fetch (source : Source) (name : String) :
    Keeps (IncludesOnly engine holds) rel (Render.fetch source name) := by
  have hread : Keeps (IncludesOnly engine holds) rel
      (modify fun state ↦ { state with reads := name :: state.reads } : Render PUnit) :=
    of_quiet fun _ before ↦ ⟨before.context.assigned, before.shared, _, rfl⟩
  unfold Render.fetch
  refine .ite (.bind hread fun _ ↦ ?_) ?_
  · exact .bind (.evaluate _) fun _ ↦ .ofExcept _
  · exact .bind (.evaluate _) fun _ ↦ .ofExcept _

end Keeps

theorem ofExcept_eq_ok {α : Type} {result : Except Fault α} {value : α} {drive : Drive} {before : RenderState}
    (h : (ofExcept result drive before).1 = .ok value) : result = .ok value := by
  rw [run_ofExcept] at h
  cases result with
  | ok given => exact congrArg _ (Except.ok.inj h)
  | error fault => cases h

/-- A text that is fetched is one that the source gives. -/
theorem fetch_eq_ok {source : Source} {name text : String} {drive : Drive} {before : RenderState}
    (h : (fetch source name drive before).1 = .ok text) : source.fetch name = .ok text := by
  rw [run_fetch] at h
  obtain ⟨_, waited, _, h⟩ := of_run_bind_eq_ok h
  exact ofExcept_eq_ok h

theorem parse_eq_ok {name text : String} {drive : Drive} {before : RenderState} {block : Block}
    (h : (parse engine name text drive before).1 = .ok block) :
    Template.parse engine.grammar name text = .ok block := by
  rw [parse, run_settle] at h
  cases hparsed : Template.parse engine.grammar name text with
  | ok tree =>
    rw [hparsed] at h
    exact congrArg _ (Except.ok.inj h)
  | error error =>
    rw [hparsed] at h
    cases h

namespace Keeps

theorem parse (name text : String) : Keeps (IncludesOnly engine holds) rel (Render.parse engine name text) :=
  .settle _

/-- A tree that may be reached may be kept. -/
theorem keepInclude {block : Block} (hblock : AllTags holds block) (path : String) :
    Keeps (IncludesOnly engine holds) rel
      (modify fun state ↦ { state with includes := state.includes.put path block } : Render PUnit) := by
  intro drive before hinv
  refine ⟨⟨?_, hinv.2⟩, ⟨rfl, List.suffix_rfl, List.suffix_rfl⟩, fun _ ↦
    Frame.of_restored (.of_same rfl rfl rfl rfl rfl)⟩
  intro other kept hkept
  rw [run_modify, Entries.find?_put] at hkept
  split at hkept
  · obtain rfl := Option.some.inj hkept
    exact hblock
  · exact hinv.1 other kept hkept

theorem loadCached {source : Source} (hsource : engine.source = some source) (name : String) :
    Keeps (IncludesOnly engine holds) rel (Render.loadCached engine source name) := by
  unfold Render.loadCached
  refine .bind (.ofExcept _) fun path ↦ .bind .get fun state ↦ ?_
  split
  · exact .pure _
  · refine .bind_of (fun text ↦ source.fetch name = .ok text) (.fetch source name)
      (fun _ _ _ _ htext ↦ fetch_eq_ok htext) fun text htext ↦ ?_
    refine .bind_of (AllTags holds) (.parse name text)
      (fun _ _ hinv block hblock ↦ hinv.2 source (.inr hsource) name text block htext (parse_eq_ok hblock))
      fun block hblock ↦ ?_
    exact .bind (.keepInclude hblock path) fun _ ↦ .pure block

theorem load (name : String) : Keeps (IncludesOnly engine holds) rel (Render.load engine name) := by
  unfold Render.load
  refine .bind .context fun context ↦ ?_
  split
  · exact .bind (.fetch _ name) fun text ↦ .parse name text
  · split
    · next hsource => exact .loadCached hsource name
    · exact .fail _

end Keeps

/-- A tree of the environment's source was kept, or it is read from the source. -/
theorem loadCached_allTags {source : Source} {name : String} {drive : Drive} {before : RenderState} {block : Block}
    (hsource : engine.source = some source) (hinv : IncludesOnly engine holds before)
    (h : (loadCached engine source name drive before).1 = .ok block) : AllTags holds block := by
  unfold loadCached at h
  obtain ⟨path, after, hpath, hlooked⟩ := of_run_bind_eq_ok h
  have hafter : after = before := by simpa using (congrArg Prod.snd hpath).symm
  rw [hafter, run_bind_ok (run_get drive before)] at hlooked
  cases hkept : before.includes.find? path with
  | some kept =>
    rw [hkept] at hlooked
    obtain rfl := Except.ok.inj hlooked
    exact hinv.1 path _ hkept
  | none =>
    rw [hkept] at hlooked
    obtain ⟨text, fetched, hfetched, hread⟩ := of_run_bind_eq_ok hlooked
    obtain ⟨tree, parsed, hparsed, hstored⟩ := of_run_bind_eq_ok hread
    obtain ⟨_, stored, _, hreturned⟩ := of_run_bind_eq_ok hstored
    obtain rfl := Except.ok.inj hreturned
    exact hinv.2 source (.inr hsource) name text _ (fetch_eq_ok (by rw [hfetched])) (parse_eq_ok (by rw [hparsed]))

/-- A tree that is loaded is among those that an include can lead to. -/
theorem load_allTags {name : String} {drive : Drive} {before : RenderState} {block : Block}
    (hinv : IncludesOnly engine holds before) (h : (load engine name drive before).1 = .ok block) :
    AllTags holds block := by
  unfold load at h
  rw [run_bind_ok (run_context drive before)] at h
  cases hregister : before.context.registers.source? Registers.sourceKey with
  | some source =>
    rw [hregister] at h
    obtain ⟨text, fetched, hfetched, h⟩ := of_run_bind_eq_ok h
    exact hinv.2 source (.inl hregister) name text block (fetch_eq_ok (by rw [hfetched])) (parse_eq_ok h)
  | none =>
    rw [hregister] at h
    cases hsource : engine.source with
    | none =>
      rw [hsource] at h
      cases h
    | some source =>
      rw [hsource] at h
      exact loadCached_allTags hsource hinv h

namespace Keeps

theorem eachBound {bind : Value → Render Flow} (h : ∀ item, Keeps (IncludesOnly engine holds) rel (bind item)) :
    ∀ items, Keeps (IncludesOnly engine holds) rel (Render.eachBound bind items)
  | [] => by
    rw [Render.eachBound]
    exact .pure _
  | item :: rest => by
    rw [Render.eachBound]
    refine .bind (h item) fun flow ↦ ?_
    cases flow with
    | completed => exact eachBound h rest
    | breakLoop => exact .pure _
    | continueLoop => exact .pure _

theorem bound (binding : Option Binding) (name : String) (value : Option Value) {body : Render Flow}
    (h : Keeps (IncludesOnly engine holds) Restored body) :
    Keeps (IncludesOnly engine holds) RestoredAround (Render.bound binding name value body) := by
  have haround : Keeps (IncludesOnly engine holds) RestoredAround body := h.mono Restored.toRestoredAround
  have hbind (value : Value) : Keeps (IncludesOnly engine holds) RestoredAround (do
      modifyContext fun context ↦ context.set name value
      body) :=
    .bind (.set name value) fun _ ↦ haround
  unfold Render.bound
  split
  · exact .ite (.eachBound hbind _) (hbind _)
  · exact hbind _
  · exact haround

/-- The scope and the name of an included template are given up behind it, and the include is left. -/
theorem inInclude (name : String) (frame : Entries String Value) {body : Render Flow}
    (h : Keeps (IncludesOnly engine holds) RestoredAround body) :
    Keeps (IncludesOnly engine holds) rel (Render.inInclude name frame body) := by
  intro drive before hinv
  rw [run_inInclude]
  split
  · exact ⟨hinv, .refl before, fun _ ↦ Frame.refl before⟩
  · refine h.bracket hinv ⟨rfl, List.suffix_rfl, List.suffix_rfl⟩ ?_
    intro ended after hafter hsteady haround
    have hscopes : after.context.scopes = before.context.scopes.push after.context.scopes.top :=
      haround.scopes_eq_push rfl
    have hdepth : after.context.depth - 1 = before.context.depth := by
      have hinside : after.context.depth = before.context.depth + 1 := haround.depth
      omega
    rw [run_leaveInclude hscopes]
    refine ⟨hafter, ⟨hsteady.settings, hsteady.recorded, hsteady.reported⟩, fun _ ↦ Frame.of_restored ?_⟩
    exact ⟨⟨rfl, haround.loops, hdepth, rfl, haround.captures, haround.written⟩, rfl⟩

theorem included {deeper : Block → Render Flow}
    (h : ∀ block, AllTags holds block → Keeps (IncludesOnly engine holds) Restored (deeper block))
    (inclusion : Inclusion) : Keeps (IncludesOnly engine holds) Restored (Render.included engine deeper inclusion) := by
  unfold Render.included
  refine .bind (.evaluate _) fun name ↦ .bind_of (AllTags holds) (.load name)
    (fun _ _ hinv _ ↦ load_allTags hinv) fun block hblock ↦ ?_
  refine .bind (.evaluate _) fun value ↦ .bind (.evaluate _) fun frame ↦ ?_
  exact .inInclude name frame (.bound _ _ value (h block hblock))

/-- Every construct of the language restores its context if its parts do. -/
theorem compositional {deeper : Block → Render Flow} (hbuiltin : ∀ tag, holds tag → tag.IsBuiltin)
    (hdeeper : ∀ block, AllTags holds block → Keeps (IncludesOnly engine holds) Restored (deeper block)) :
    Compositional engine (Render.included engine deeper) holds (Keeps (IncludesOnly engine holds) Restored) where
  nothing := .pure _
  writes content := .bind (.write content) fun _ ↦ .pure _
  prints markup span := .output _ markup span
  guards span action h := .guarded span h
  refuses name span action h := .bind .context fun _ ↦ .ite (.guarded span (.fail _)) h
  inOrder first rest hfirst hrest := by
    refine .bind .checkCancelled fun _ ↦ .bind hfirst fun flow ↦ ?_
    cases flow with
    | completed => exact hrest
    | breakLoop => exact .pure _
    | continueLoop => exact .pure _
  assigns target value := .bind (.evaluate _) fun _ ↦ .bind (.assign _ _) fun _ ↦ .pure _
  captures target body _ h := .bind (.captured h) fun _ ↦ .bind (.assign _ _) fun _ ↦ .pure _
  selects subject whens otherwise hwhens hotherwise :=
    .bind (.evaluate _) fun value ↦ .cases _ value hotherwise false whens hwhens
  cycles group values := .cycle _ group values
  increments name :=
    .bind (.counter name) fun _ ↦ .bind (.write _) fun _ ↦ .bind (.assign _ _) fun _ ↦ .pure _
  decrements name :=
    .bind (.counter name) fun _ ↦ .bind (.write _) fun _ ↦ .bind (.assign _ _) fun _ ↦ .pure _
  repeats header body otherwise hbody hotherwise := .loop _ header hbody hotherwise
  leaves flow := .bind .context fun _ ↦ .ite (.pure _) (.pure _)
  decides negated conditions otherwise hconditions hotherwise := .branches _ hotherwise negated conditions hconditions
  detects body h := .bind (.captured h) fun _ ↦ .bind (.ifChanged _) fun _ ↦ .pure _
  includes inclusion := .included hdeeper inclusion
  tabulates header body h := .table _ header h
  runs registration name markup body hholds _ := (hbuiltin _ hholds).elim

/-- However deep includes may nest, a block restores its context. -/
theorem blockWithin (hbuiltin : ∀ tag, holds tag → tag.IsBuiltin) :
    ∀ (remaining : Nat) (body : Block), AllTags holds body →
      Keeps (IncludesOnly engine holds) Restored (Render.blockWithin engine remaining body)
  | 0, body, hbody => by
    rw [Render.blockWithin]
    exact (compositional hbuiltin fun _ _ ↦ .bind .context fun _ ↦ .fail _).nodes body hbody
  | remaining + 1, body, hbody => by
    rw [Render.blockWithin]
    exact (compositional hbuiltin fun block hblock ↦ blockWithin hbuiltin remaining block hblock).nodes body hbody

theorem block (hbuiltin : ∀ tag, holds tag → tag.IsBuiltin) {body : Block} (hbody : AllTags holds body) :
    Keeps (IncludesOnly engine holds) Restored (Render.block engine body) := by
  unfold Render.block
  exact .bind .context fun context ↦ .blockWithin hbuiltin _ body hbody

end Keeps

/-- Whatever a render of built-in tags returns, the scopes, the counts of active loops and includes, the name of the
template and the captures around the innermost one are as before, and the innermost text has only been extended. -/
theorem block_restores (engine : Engine) (body : Block) (drive : Drive) (before after : RenderState)
    (ended : Except Failure Flow) (hbody : AllTags Tag.IsBuiltin body)
    (hincludes : IncludesOnly engine Tag.IsBuiltin before) (hrun : block engine body drive before = (ended, after))
    (hreturned : Returned ended) :
    after.context.scopes = before.context.scopes ∧ after.context.loops = before.context.loops ∧
      after.context.depth = before.context.depth ∧ after.context.name = before.context.name ∧
      after.output.depth = before.output.depth ∧ after.output.below = before.output.below ∧
      before.output.top.toList <+: after.output.top.toList := by
  have hkept := Keeps.block (fun _ h ↦ h) hbody drive before hincludes
  rw [hrun] at hkept
  have hrestored : Restored before after := hkept.related hreturned
  have hcaptures : after.output.below = before.output.below := hrestored.captures
  have hdepth : after.output.depth = before.output.depth := by rw [Output.depth, Output.depth, hcaptures]
  obtain ⟨more, hmore⟩ := hrestored.written
  have hprefix : before.output.top.toList <+: after.output.top.toList := by
    rw [hmore, String.toList_append]
    exact List.prefix_append _ _
  exact ⟨hrestored.scopes, hrestored.loops, hrestored.depth, hrestored.name, hdepth, hcaptures, hprefix⟩

/-- A loop over one and two that writes a letter and includes a template. -/
def brokenLoop : Block :=
  [.tag "for" "x in (1..2)" ⟨.first, .first⟩
    (.loop ⟨"x", .range (.literal (.int 1)) (.literal (.int 2)), "x-(1..2)", false, none, none⟩
      [.text "a", .tag "include" "'stop'" ⟨.first, .first⟩ (.include ⟨.literal (.string "stop"), none, []⟩)] none)]

/-- A state in an open capture; the template that it keeps breaks the loop that includes it. -/
def brokenLoopState : RenderState where
  context := { Environment.standard.context .nil with name := "page" }
  output := ⟨"b", ["c"]⟩
  shared := ⟨⟨[], none⟩, 0, 0⟩
  includes := [("stop", [.tag "break" "" ⟨.first, .first⟩ .breakLoop])]
  reads := []

/-- The engine of the standard environment with a source that has no texts. -/
def brokenLoopEngine : Engine :=
  { Environment.standard.engine Registry.empty with source := some (.ofTexts []) }

theorem brokenLoop_allTags : AllTags Tag.IsBuiltin brokenLoop :=
  ⟨⟨trivial, ⟨trivial, ⟨trivial, trivial⟩⟩, trivial⟩, trivial⟩

theorem brokenLoopState_includesOnly : IncludesOnly brokenLoopEngine Tag.IsBuiltin brokenLoopState := by
  constructor
  · intro path block hkept
    rw [brokenLoopState, Entries.find?] at hkept
    split at hkept
    · obtain rfl := Option.some.inj hkept
      exact ⟨trivial, trivial⟩
    · cases hkept
  · intro source hsource name text block hfetched
    obtain hregister | hown := hsource
    · cases hregister
    · obtain rfl := Option.some.inj hown
      cases hfetched

theorem block_restores_brokenLoop :
    let before := brokenLoopState
    let after := (block brokenLoopEngine brokenLoop .blocking before).2
    after.context.scopes = before.context.scopes ∧ after.context.loops = before.context.loops ∧
      after.context.depth = before.context.depth ∧ after.context.name = before.context.name ∧
      after.output.depth = before.output.depth ∧ after.output.below = before.output.below ∧
      before.output.top.toList <+: after.output.top.toList := by
  have hreturned : Returned (block brokenLoopEngine brokenLoop .blocking brokenLoopState).1 := by decide +kernel
  exact block_restores brokenLoopEngine brokenLoop .blocking brokenLoopState _ _ brokenLoop_allTags
    brokenLoopState_includesOnly (Prod.eta _).symm hreturned

end Liquid.Render
