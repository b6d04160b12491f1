import Liquid.Proofs.Filter.Tokens
import Liquid.Proofs.Markup.Identifiers
import Liquid.Proofs.Render.Leaving
import Liquid.Proofs.Render.Redirecting
import Liquid.Proofs.Session.Cancellation
import Liquid.Proofs.Session.History
import Liquid.Proofs.Template.Spelling

/-!
# Captures are transparent

To capture a whole template into a variable and to print the variable comes to the same as to render the template. What is
captured is what would have been written; where the template fails, its error passes through the tag as it is, because
it already has a place and is either fatal or to be rethrown; and behind the tag nothing hides the variable, because the
scopes are those of the start. Only the variable itself is left over.
-/

namespace Liquid

open Render Template

namespace Template

/-- A body that is captured into a variable, and an output of the variable. -/
def captureAndPrint (name : String) (opening printing : Span) (body : Block) : Block :=
  [.tag "capture" name opening (.capture name body), .output ⟨name, .path [.member name], []⟩ printing]

/-- A body is captured and printed by a tag with its end tag around the body and an output behind them. -/
theorem Spelled.captureAndPrint {maxTerms depth : Nat} {name : String} (hname : Lexeme.IsIdent name.toList)
    (hkeyword : Cursor.keyword? name = none) {body : Block} {tokens : List PlacedToken} {opening ending : PlacedToken}
    (hdepth : depth < maxNesting) (hopening : opening.tag? = some ("capture", name)) (hending : ending.IsTag "endcapture")
    (hbody : Spelled maxTerms (depth + 1) (.block body) tokens) (printing : Span) (trimLeft trimRight : Bool) :
    Spelled maxTerms depth (.block (captureAndPrint name opening.span printing body))
      (opening :: tokens ++ [ending] ++ [⟨.output name trimLeft trimRight, printing⟩]) := by
  have hcapture : Spelled maxTerms depth (.node (.tag "capture" name opening.span (.capture name body)))
      (opening :: tokens ++ [ending]) :=
    .tag hopening hdepth hbody (.capture (Header.captureTarget_ident hname) hending)
  have houtput : Spelled maxTerms depth (.node (.output ⟨name, .path [.member name], []⟩ printing))
      [⟨.output name trimLeft trimRight, printing⟩] :=
    .output (Markup.parse_ident hname hkeyword)
  exact .cons hcapture (.cons houtput .nil)

end Template

/-! ## Renders that cannot be cancelled -/

/-- Both renders do the same, and a render that cannot be cancelled stays so. -/
def Contrast.uncancellable : Contrast :=
  { Contrast.cancellation with
    token := fun before after ↦ before = none → after = none
    token_refl := fun _ ↦ id
    token_trans := fun earlier later h ↦ later (earlier h) }

theorem Filter.BringsNoToken.suits {filter : Filter} (h : filter.BringsNoToken) : filter.Suits .uncancellable where
  run_eq _ _ _ _ habreast := by rw [habreast.eq_of_aside habreast.together]
  token arguments context := h arguments context

namespace Render

variable {engine : Engine} {inclusions : Inclusion → Render Flow} {holds : Tag → Prop} {drive : Drive} {body : Block}
  {state after : RenderState} {flow : Flow} {error : Error} {name : String} {opening printing : Span}

theorem ne_some_of_eq_none {token : Option Bool} (h : token = none) : token ≠ some true := by
  rintro rfl
  cases h

/-- A block leaves a render alone that cannot be cancelled. -/
theorem block_bringsNoToken (hsuit : engine.tools.Suit .uncancellable) (hbody : AllTags Tag.IsBuiltin body) (drive : Drive)
    (hincludes : IncludesOnly engine Tag.IsBuiltin state) (htoken : state.shared.counts.cancelled = none) :
    (block engine body drive state).2.shared.counts.cancelled = none :=
  (Alongside.block hsuit (fun _ h ↦ h) (fun _ ↦ .checkCancelled) hbody).token drive state hincludes htoken

/-! ## Errors on their way out -/

theorem report_error {raised : Error} (h : (report error drive state).1 = .error (.error raised)) : raised = error := by
  rw [run_report] at h
  dsimp only at h
  split at h
  · cases h
    rfl
  · split at h <;> cases h
    rfl

/-- An error that leaves a node has a place. -/
theorem guarded_error {span : Span} {action : Render Flow}
    (h : (guarded span action drive state).1 = .error (.error error)) : error.location.isSome = true := by
  unfold guarded at h
  rw [run_attempt_bind] at h
  rcases hrun : action drive state with ⟨(raised | _) | flow, left⟩
  · rw [hrun] at h
    dsimp only at h
    rw [run_bind_ok (run_located raised span drive left), run_bind] at h
    rcases hreport : report (raised.locate ⟨left.context.name, span.start.line⟩) drive left with ⟨failure | _, reported⟩
    · rw [hreport] at h
      obtain rfl := Except.error.inj h
      rw [report_error (congrArg Prod.fst hreport), Error.isSome_location_locate]
    · rw [hreport] at h
      cases h
  · rw [hrun] at h
    cases h
  · rw [hrun] at h
    cases h

theorem node_error {node : Node} (h : (Render.node engine inclusions node drive state).1 = .error (.error error)) :
    error.location.isSome = true := by
  cases node with
  | text content =>
    rw [Render.node] at h
    cases h
  | output markup span =>
    rw [Render.node] at h
    exact guarded_error h
  | tag name markup span action =>
    rw [Render.node, run_bind_ok (run_context drive state)] at h
    split at h
    · exact guarded_error h
    · exact guarded_error h

/-- An error that leaves a block has a place, unless the render has been cancelled. -/
theorem nodes_error (h : nodes engine inclusions body drive state = (.error (.error error), after)) :
    error.location.isSome = true ∨ after.shared.counts.cancelled = some true := by
  induction body generalizing state with
  | nil =>
    rw [nodes] at h
    cases h
  | cons first rest ih =>
    rw [run_nodes_cons] at h
    split at h
    · next hcancelled =>
      obtain ⟨-, rfl⟩ := Prod.mk.inj h
      exact .inr hcancelled
    · split at h
      · exact ih h
      · exact .inl (node_error (congrArg Prod.fst h))

/-- A block does what its nodes do, with includes as deep as the context allows. -/
theorem run_block (engine : Engine) (body : Block) (drive : Drive) (state : RenderState) :
    block engine body drive state =
      nodes engine (inclusionsWithin engine (state.context.maxDepth - state.context.depth)) body drive state := by
  rw [block, run_bind_ok (run_context drive state), run_blockWithin]

/-- An error that ends a render that cannot be cancelled has a place, and it is fatal or to be rethrown. -/
theorem block_error (hsuit : engine.tools.Suit .uncancellable) (hbody : AllTags Tag.IsBuiltin body)
    (hincludes : IncludesOnly engine Tag.IsBuiltin state) (htoken : state.shared.counts.cancelled = none)
    (hrun : block engine body drive state = (.error (.error error), after)) :
    error.location.isSome = true ∧ (error.kind.isFatal = true ∨ after.context.errorMode = .rethrow) := by
  have hkeeps : Keeps (IncludesOnly engine Tag.IsBuiltin) Restored (block engine body) := .block (fun _ h ↦ h) hbody
  have hkept := hkeeps drive state hincludes
  have hfree := block_bringsNoToken hsuit hbody drive hincludes htoken
  rw [hrun] at hkept hfree
  constructor
  · rw [run_block] at hrun
    exact (nodes_error hrun).resolve_right (ne_some_of_eq_none hfree)
  · rw [show after.context.errorMode = state.context.errorMode from hkept.steady.errorMode]
    by_cases hmode : state.context.errorMode = .rethrow
    · exact .inr hmode
    · exact .inl (block_failsFatally (fun _ h ↦ h) hbody drive state error hincludes hmode (congrArg Prod.fst hrun))

/-- An error with a place that is fatal or to be rethrown leaves a node as it is. -/
theorem run_guarded_of_error {action : Render Flow} (hrun : action drive state = (.error (.error error), after))
    (hplaced : error.location.isSome = true)
    (hends : error.kind.isFatal = true ∨ after.context.errorMode = .rethrow) (span : Span) :
    guarded span action drive state =
      (.error (.error error), { after with context := after.context.noteReported error }) := by
  unfold guarded
  rw [run_attempt_bind, hrun]
  dsimp only
  rw [run_bind_ok (run_located error span drive after), Error.locate_of_isSome hplaced, run_bind, run_report]
  dsimp only
  by_cases hfatal : error.kind.isFatal = true
  · rw [if_pos hfatal]
  · rw [if_neg hfatal, hends.resolve_left hfatal]

/-! ## The capture -/

theorem run_captureTag (henabled : state.context.isDisabled "capture" = false) (opening : Span) :
    node engine inclusions (.tag "capture" name opening (.capture name body)) drive state = guarded opening (do
      let (text, flow) ← captured (nodes engine inclusions body)
      modifyContext fun context ↦ context.assign name (.string text)
      return flow) drive state := by
  rw [run_node_tag henabled, tag]

/-- A capture assigns what its body would have written. -/
theorem run_capture_of_ok (hbody : Redirects engine holds (nodes engine inclusions body))
    (hincludes : IncludesOnly engine holds state) (henabled : state.context.isDisabled "capture" = false)
    (hrun : nodes engine inclusions body drive state = (.ok flow, after)) (name : String) (opening : Span) :
    ∃ text, after.output = state.output.write text ∧
      node engine inclusions (.tag "capture" name opening (.capture name body)) drive state =
        (.ok flow, { after with output := state.output, context := after.context.assign name (.string text) }) := by
  have hcaptured := hbody.captured_eq drive hincludes
  rw [hrun] at hcaptured
  obtain ⟨text, hwritten, hcaptured⟩ := hcaptured
  have hhere : captured (nodes engine inclusions body) drive state = _ := hcaptured state.output
  refine ⟨text, hwritten, ?_⟩
  rw [run_captureTag henabled, guarded, run_attempt_bind, run_bind, hhere]
  rfl

/-- A capture passes on the error of its body. -/
theorem run_capture_of_error (hbody : Redirects engine holds (nodes engine inclusions body))
    (hincludes : IncludesOnly engine holds state) (henabled : state.context.isDisabled "capture" = false)
    (hrun : nodes engine inclusions body drive state = (.error (.error error), after))
    (hplaced : error.location.isSome = true)
    (hends : error.kind.isFatal = true ∨ after.context.errorMode = .rethrow) (name : String) (opening : Span) :
    (node engine inclusions (.tag "capture" name opening (.capture name body)) drive state).1 = .error (.error error) := by
  have hcaptured := hbody.captured_eq drive hincludes
  rw [hrun] at hcaptured
  have hhere : captured (nodes engine inclusions body) drive state = _ := hcaptured state.output
  have hfailed : (do
      let (text, flow) ← captured (nodes engine inclusions body)
      modifyContext fun context ↦ context.assign name (.string text)
      return flow : Render Flow) drive state = (.error (.error error), { after with output := state.output }) := by
    rw [run_bind, hhere]
  rw [run_captureTag henabled, run_guarded_of_error hfailed hplaced hends]

theorem run_capture_of_suspended (hbody : Redirects engine holds (nodes engine inclusions body))
    (hincludes : IncludesOnly engine holds state) (henabled : state.context.isDisabled "capture" = false)
    (hrun : nodes engine inclusions body drive state = (.error .suspended, after)) (name : String) (opening : Span) :
    (node engine inclusions (.tag "capture" name opening (.capture name body)) drive state).1 = .error .suspended := by
  have hcaptured := hbody.captured_eq drive hincludes
  rw [hrun] at hcaptured
  obtain ⟨unfinished, hcaptured⟩ := hcaptured state.output
  have hhere : captured (nodes engine inclusions body) drive state = _ := hcaptured
  rw [run_captureTag henabled, guarded, run_attempt_bind, run_bind, hhere]

/-! ## The output -/

/-- A variable that no scope hides has the value that it was assigned. -/
theorem eval_assigned {tools : Toolbox} {context : Context} {shared : Shared} {value : Value}
    (hscopes : context.scopes.find? name = none) (hassigned : context.assigned.find? name = some value) :
    Markup.eval tools ⟨name, .path [.member name], []⟩ drive context shared = (.ok value, shared) := by
  have hlookup : context.lookup name shared.counts.tallies = (some value, shared.counts.tallies) := by
    rw [Context.lookup, Context.variableWith, hscopes, hassigned]
    rfl
  have hpath : Expr.eval tools (.path [.member name]) drive context shared = (.ok value, shared) := by
    rw [Expr.eval, evalPath, Eval.run_bind, Eval.run_counting]
    dsimp only
    rw [hlookup]
    dsimp only
    rw [evalPath]
    rfl
  rw [Markup.eval, Eval.run_bind, hpath]
  dsimp only
  rw [evalFilters]
  rfl

/-- The output of a variable that has been assigned a text. -/
theorem run_printing {text : String} (hscopes : state.context.scopes.find? name = none)
    (hassigned : state.context.assigned.find? name = some (.string text)) (printing : Span) :
    node engine inclusions (.output ⟨name, .path [.member name], []⟩ printing) drive state =
      (.ok .completed, { state with output := state.output.write text }) := by
  have hprinted (tallies : Tallies) : state.context.formatValue tallies (.string text) = text := by
    unfold Context.formatValue
    cases state.context.format <;> rfl
  have houtput : output engine.tools ⟨name, .path [.member name], []⟩ printing drive state =
      (.ok .completed, { state with output := state.output.write text }) := by
    unfold output
    rw [run_bind, run_evaluate, eval_assigned hscopes hassigned]
    dsimp only
    rw [run_bind_ok (run_context drive state)]
    have hwritten := congrArg state.output.write (hprinted state.shared.counts.tallies)
    exact congrArg (fun output ↦ (Except.ok Flow.completed, { state with output := output })) hwritten
  rw [node, guarded, run_attempt_bind, houtput]
  rfl

/-! ## The template -/

theorem nodes_cons_of_error {first : Node} {rest : Block} {failure : Failure}
    (huncancelled : state.shared.counts.cancelled ≠ some true)
    (h : (node engine inclusions first drive state).1 = .error failure) :
    (nodes engine inclusions (first :: rest) drive state).1 = .error failure := by
  rw [run_nodes_cons, if_neg huncancelled]
  rcases hnode : node engine inclusions first drive state with ⟨ended, left⟩
  rw [hnode] at h
  obtain rfl : ended = .error failure := h
  rfl

/-- If a body is completed in the scopes of the start, capturing and printing it only leaves the variable over. -/
theorem run_captureAndPrint_of_completed (hbody : Redirects engine holds (nodes engine inclusions body))
    (hincludes : IncludesOnly engine holds state) (henabled : state.context.isDisabled "capture" = false)
    (huncancelled : state.shared.counts.cancelled ≠ some true)
    (hrun : nodes engine inclusions body drive state = (.ok .completed, after))
    (huncancelledAfter : after.shared.counts.cancelled ≠ some true) (hscopes : after.context.scopes.find? name = none)
    (opening printing : Span) :
    ∃ text, nodes engine inclusions (captureAndPrint name opening printing body) drive state =
      (.ok .completed, { after with context := after.context.assign name (.string text) }) := by
  obtain ⟨text, hwritten, hcapture⟩ := run_capture_of_ok hbody hincludes henabled hrun name opening
  have hassigned : (after.context.assign name (.string text)).assigned.find? name = some (.string text) :=
    Entries.find?_put_self ..
  have hprinting := @run_printing engine inclusions drive
    { after with output := state.output, context := after.context.assign name (.string text) } name text hscopes hassigned
    printing
  refine ⟨text, ?_⟩
  rw [captureAndPrint, run_nodes_cons, if_neg huncancelled, hcapture]
  dsimp only
  rw [run_nodes_cons, if_neg huncancelledAfter, hprinting]
  dsimp only
  rw [nodes, ← hwritten]
  rfl

/-- How a template is rendered and how it is rendered if it is captured and printed: they end alike, and if that is with a
result, only the variable of the capture tells them apart. -/
structure Transparent (name : String) (plain enclosed : Except Failure Flow × RenderState) : Prop where
  ended : enclosed.1 = plain.1
  assigned : ∀ flow, plain.1 = .ok flow →
    ∃ value, enclosed.2 = { plain.2 with context := plain.2.context.assign name value }

theorem Transparent.of_error {plain enclosed : Except Failure Flow × RenderState} {failure : Failure}
    (hplain : plain.1 = .error failure) (henclosed : enclosed.1 = .error failure) : Transparent name plain enclosed where
  ended := henclosed.trans hplain.symm
  assigned flow hended := by
    rw [hplain] at hended
    cases hended

/-- Outside of scopes and loops, a render that cannot be cancelled does the same if it is captured and printed. -/
theorem block_captureAndPrint (hsuit : engine.tools.Suit .uncancellable) (hbody : AllTags Tag.IsBuiltin body)
    (name : String) (opening printing : Span) (drive : Drive) (hincludes : IncludesOnly engine Tag.IsBuiltin state)
    (hscopes : state.context.scopes.find? name = none) (hloops : state.context.loops = 0)
    (henabled : state.context.isDisabled "capture" = false) (htoken : state.shared.counts.cancelled = none) :
    Transparent name (block engine body drive state)
      (block engine (captureAndPrint name opening printing body) drive state) := by
  have hkeeps : Keeps (IncludesOnly engine Tag.IsBuiltin) Restored (block engine body) := .block (fun _ h ↦ h) hbody
  have hkept := hkeeps drive state hincludes
  have hfree := block_bringsNoToken hsuit hbody drive hincludes htoken
  have hpasses (error : Error) (after : RenderState) :=
    @block_error engine drive body state after error hsuit hbody hincludes htoken
  have huncancelled : state.shared.counts.cancelled ≠ some true := ne_some_of_eq_none htoken
  simp only [run_block] at hkept hfree hpasses ⊢
  generalize state.context.maxDepth - state.context.depth = levels at hkept hfree hpasses ⊢
  have hredirects : Redirects engine Tag.IsBuiltin (nodes engine (inclusionsWithin engine levels) body) := by
    rw [← blockWithin_eq_nodes]
    exact .blockWithin (fun _ h ↦ h) levels body hbody
  rcases hrun : nodes engine (inclusionsWithin engine levels) body drive state with ⟨(error | _) | flow, after⟩
  · obtain ⟨hplaced, hends⟩ := hpasses error after hrun
    have hcapture := run_capture_of_error hredirects hincludes henabled hrun hplaced hends name opening
    exact .of_error rfl (nodes_cons_of_error huncancelled hcapture)
  · have hcapture := run_capture_of_suspended hredirects hincludes henabled hrun name opening
    exact .of_error rfl (nodes_cons_of_error huncancelled hcapture)
  · rw [hrun] at hkept hfree
    have hscopesAfter : after.context.scopes = state.context.scopes := (hkept.related (.value flow)).scopes
    have hfreeAfter : after.shared.counts.cancelled ≠ some true := ne_some_of_eq_none hfree
    have hended : (blockWithin engine levels body drive state).1 = .ok flow := by rw [run_blockWithin, hrun]
    obtain rfl := completed_of_no_loop hloops hbody hincludes hended
    obtain ⟨text, henclosed⟩ := run_captureAndPrint_of_completed hredirects hincludes henabled huncancelled hrun
      hfreeAfter (hscopesAfter ▸ hscopes) opening printing
    rw [henclosed]
    exact ⟨rfl, fun _ _ ↦ ⟨.string text, rfl⟩⟩

end Render

namespace Session

variable {name : String} {plain enclosed : Except Failure Flow × RenderState}

theorem outcome_of_transparent (h : Transparent name plain enclosed) : outcome enclosed = outcome plain := by
  obtain ⟨hended, hassigned⟩ := h
  rcases plain with ⟨(error | _) | flow, after⟩
  · exact outcome_of_error hended
  · exact outcome_of_suspended hended
  · obtain ⟨value, hstate⟩ := hassigned flow rfl
    exact outcome_eq_of_eq hended (by rw [hstate]) (by rw [hstate]; rfl)

/-- The assigned variables that a template keeps behind a render, but for the variable of the capture. -/
theorem erase_assigned?_of_transparent (h : Transparent name plain enclosed) :
    (assigned? enclosed).map (Entries.erase name) = (assigned? plain).map (Entries.erase name) := by
  obtain ⟨hended, hassigned⟩ := h
  obtain ⟨ended, left⟩ := enclosed
  rcases plain with ⟨failure | flow, after⟩
  · obtain rfl : ended = .error failure := hended
    rfl
  · obtain rfl : ended = .ok flow := hended
    obtain ⟨value, hstate⟩ := hassigned flow rfl
    obtain rfl : left = { after with context := after.context.assign name value } := hstate
    exact congrArg some (Entries.erase_put name value after.context.assigned)

/-- What a template keeps behind its render, but for one variable. -/
theorem erase_conclude_template? {session : Session} {number : Nat} {template : Template}
    (h : session.template? number = some template) (name : String) (run : Except Failure Flow × RenderState) :
    ((session.conclude number template run).2.template? number).map (fun template ↦ template.assigned.erase name) =
      some (if template.isThreadSafe then template.assigned.erase name
        else ((assigned? run).map (Entries.erase name)).getD (template.assigned.erase name)) := by
  rw [conclude_template? h]
  cases assigned? run with
  | none => simp
  | some assigned => cases hsafe : template.isThreadSafe <;> simp

/-- Capturing and printing a template of built-in tags comes to the same as rendering it, whatever the inputs and the error
mode are: a render that cannot be cancelled gives the same output, diagnostics or error, and it leaves the same assigned
variables except for the variable of the capture. Any identifier that is no keyword can be this variable. -/
theorem render_captureAndPrint (session : Session) (number : Nat) (template : Template) (drive : Drive) (name : String)
    (opening printing : Span) (inputs : Value) (options : RenderOptions)
    (htemplate : session.template? number = some template) (hname : Lexeme.IsIdent name.toList)
    (hkeyword : Cursor.keyword? name = none) (henabled : "capture" ∉ options.disabled) (htoken : options.cancelled = none)
    (hfilters : session.environment.filters.All Filter.BringsNoToken) (hlocal : options.filters.All Filter.BringsNoToken)
    (hroot : AllTags Tag.IsBuiltin template.root)
    (hincludes : IncludesOnly (session.environment.engine options.filters) Tag.IsBuiltin
      (session.renderState template inputs options)) :
    let enclosing := session.modifyTemplate number fun template ↦
      { template with root := captureAndPrint name opening printing template.root }
    let plain := render drive number inputs options session
    let enclosed := render drive number inputs options enclosing
    enclosed.1 = plain.1 ∧
    (enclosed.2.template? number).map (fun template ↦ template.assigned.erase name) =
      (plain.2.template? number).map (fun template ↦ template.assigned.erase name) ∧
    ∀ maxTerms tokens ending captureLeft captureRight printLeft printRight,
      Spelled maxTerms 1 (.block template.root) tokens → ending.IsTag "endcapture" →
        Spelled maxTerms 0 (.block (captureAndPrint name opening printing template.root))
          (⟨.tag "capture" name captureLeft captureRight, opening⟩ :: tokens ++ [ending] ++
            [⟨.output name printLeft printRight, printing⟩]) := by
  intro enclosing plain enclosed
  have hmodified : enclosing.template? number =
      some { template with root := captureAndPrint name opening printing template.root } := by
    rw [template?_modifyTemplate htemplate, if_pos rfl]
  have hplain : plain = _ := render_eq_conclude htemplate drive inputs options
  have henclosed : enclosed = _ := render_eq_conclude hmodified drive inputs options
  have hsuit : (session.environment.engine options.filters).tools.Suit .uncancellable :=
    ⟨hlocal.mono fun _ h ↦ h.suits, hfilters.mono fun _ h ↦ h.suits⟩
  have hdisabled : (session.renderState template inputs options).context.isDisabled "capture" = false := by
    change ([] ++ options.disabled).contains "capture" = false
    simpa using henabled
  have htransparent : Transparent name (session.rendering template drive inputs options)
      (enclosing.rendering { template with root := captureAndPrint name opening printing template.root } drive inputs
        options) :=
    block_captureAndPrint hsuit hroot name opening printing drive hincludes rfl rfl hdisabled htoken
  refine ⟨?_, ?_, fun maxTerms tokens ending captureLeft captureRight printLeft printRight htokens hending ↦ ?_⟩
  · rw [hplain, henclosed]
    exact outcome_of_transparent htransparent
  · rw [hplain, henclosed, erase_conclude_template? htemplate, erase_conclude_template? hmodified,
      erase_assigned?_of_transparent htransparent]
  · have hopening : (PlacedToken.mk (.tag "capture" name captureLeft captureRight) opening).tag? = some ("capture", name) :=
      rfl
    exact .captureAndPrint hname hkeyword (by decide) hopening hending htokens printing printLeft printRight

/-- A page with a text, a counter and an output that fails. -/
def countedPage : Template where
  name := "page"
  source := "a\x7b% increment n %\x7d\x7b\x7b ('x'..2) \x7d\x7d"
  root :=
    [.text "a", .tag "increment" "n" ⟨.first, .first⟩ (.increment "n"),
      .output ⟨"('x'..2)", .range (.literal (.string "x")) (.literal (.int 2)), []⟩ ⟨.first, .first⟩]
  assigned := []
  isThreadSafe := false

/-- A session in the standard environment with the page. -/
def countedSession : Session := { start Environment.standard 0 with templates := [countedPage] }

theorem render_captureAndPrint_counted :
    let enclosing := countedSession.modifyTemplate 0 fun template ↦
      { template with root := captureAndPrint "page-text?" ⟨.first, .first⟩ ⟨.first, .first⟩ template.root }
    let enclosed := render .blocking 0 .nil .none enclosing
    enclosed.1 = (render .blocking 0 .nil .none countedSession).1 ∧
      enclosed.1.toOption.map Rendered.output = some "a0Liquid error: invalid range bound \"x\"" ∧
      (enclosed.2.template? 0).map (fun template ↦ (template.assigned.erase "page-text?").map Prod.fst) = some ["n"] := by
  intro enclosing enclosed
  have hname : Lexeme.IsIdent "page-text?".toList := by
    change Lexeme.IsIdent ('p' :: "age-text".toList ++ ['?'])
    exact .mk (by decide) (List.all_eq_true.1 (by decide)) (.inr rfl)
  have hfilters : countedSession.environment.filters.All Filter.BringsNoToken :=
    Environment.standard_filters_isBuiltin.mono fun _ h ↦ h.bringsNoToken
  have hroot : AllTags Tag.IsBuiltin countedPage.root := ⟨trivial, trivial, trivial, trivial⟩
  have hincludes : IncludesOnly (countedSession.environment.engine RenderOptions.none.filters) Tag.IsBuiltin
      (countedSession.renderState countedPage .nil .none) :=
    includesOnly_of_no_tags rfl (fun _ _ hkept ↦ by cases hkept) countedPage .nil .none
  have hplain : (render .blocking 0 .nil .none countedSession).1.toOption.map Rendered.output =
      some "a0Liquid error: invalid range bound \"x\"" := by
    decide +kernel
  have hassigned : ((render .blocking 0 .nil .none countedSession).2.template? 0).map
      (fun template ↦ (template.assigned.erase "page-text?").map Prod.fst) = some ["n"] := by
    decide +kernel
  obtain ⟨hsame, hkept, -⟩ := render_captureAndPrint countedSession 0 countedPage .blocking "page-text?" ⟨.first, .first⟩
    ⟨.first, .first⟩ .nil .none rfl hname (by decide) (by decide) rfl hfilters (fun _ hentry ↦ by cases hentry) hroot
    hincludes
  refine ⟨hsame, (congrArg (fun result ↦ result.toOption.map Rendered.output) hsame).trans hplain, ?_⟩
  have hnames := congrArg (Option.map (List.map Prod.fst)) hkept
  rw [Option.map_map, Option.map_map] at hnames
  exact hnames.trans hassigned

end Session

end Liquid
