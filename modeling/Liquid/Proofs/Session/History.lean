import Liquid.Proofs.Session.Caching

/-!
# Histories

In a session one thing is done after the other: its environment is changed, what is kept is dropped, templates are parsed,
read from the source, rendered and made thread safe. What has been done up to some point is a history. Templates that are
there stay there, with their trees, whatever is done.
-/

namespace Liquid.Session

open Render

/-- A change of what an environment holds besides its source. -/
structure Setting where
  change : Environment → Environment
  source_change : ∀ environment, (change environment).source = environment.source

namespace Setting

/-- Registers a tag, with or without a body, under a name. -/
def tag (name : String) (tag : CustomTag) : Setting := ⟨fun environment ↦ environment.addTag name tag, fun _ ↦ rfl⟩

/-- Installs what changes or refuses the markup of outputs. -/
def factory (factory : Markup → Except Fault Markup) : Setting :=
  ⟨fun environment ↦ { environment with factory := some factory }, fun _ ↦ rfl⟩

/-- Limits the number of terms in a condition. -/
def maxTerms (limit : Nat) : Setting := ⟨fun environment ↦ { environment with maxTerms := limit }, fun _ ↦ rfl⟩

/-- Whether texts are parsed as before. -/
def KeepsGrammar (setting : Setting) : Prop :=
  ∀ environment, (setting.change environment).grammar = environment.grammar

end Setting

/-- Something done in a session, whether it succeeds or not. -/
inductive Operation where
  | configure (setting : Setting)
  | setSource (source : Source)
  | clearCache
  | addTemplate (name source : String)
  | getTemplate (name : String)
  | render (drive : Drive) (request : Request)
  | makeThreadSafe (number : Nat)

namespace Operation

/-- The session in which an operation has been done. -/
def perform : Operation → Session → Session
  | configure setting, session => { session with environment := setting.change session.environment }
  | setSource source, session => session.setSource source
  | clearCache, session => session.clearCache
  | addTemplate name source, session => (Session.addTemplate name source session).2
  | getTemplate name, session => (Session.getTemplate name session).2
  | render drive request, session => (Session.render drive request.number request.inputs request.options session).2
  | makeThreadSafe number, session => session.makeThreadSafe number

/-- What an operation makes of the environment. -/
def configured : Operation → Environment → Environment
  | configure setting, environment => setting.change environment
  | setSource source, environment => { environment with source := some source }
  | _, environment => environment

/-- Whether an operation drops all that is kept. -/
def Drops : Operation → Prop
  | setSource _ | clearCache => True
  | _ => False

end Operation

/-- The session after a history. -/
def after (history : List Operation) (session : Session) : Session :=
  history.foldl (fun session operation ↦ operation.perform session) session

@[simp] theorem after_nil (session : Session) : after [] session = session := rfl

theorem after_append (earlier later : List Operation) (session : Session) :
    after (earlier ++ later) session = after later (after earlier session) :=
  List.foldl_append

theorem after_cons (operation : Operation) (later : List Operation) (session : Session) :
    after (operation :: later) session = after later (operation.perform session) := rfl

theorem after_concat (earlier : List Operation) (operation : Operation) (session : Session) :
    after (earlier ++ [operation]) session = operation.perform (after earlier session) := by
  rw [after_append, after_cons, after_nil]

/-! ## Templates that are added -/

/-- A template is added if its text can be parsed, and else nothing changes. -/
theorem run_addTemplate (name source : String) (session : Session) :
    addTemplate name source session =
      match session.environment.parse name source with
      | .ok root =>
        (.ok session.templates.length,
          { session with templates := session.templates ++ [⟨name, source, root, [], false⟩] })
      | .error error => (.error error, session) := by
  unfold addTemplate
  rw [run_get_bind]
  cases session.environment.parse name source <;> rfl

theorem addTemplate_templates (name source : String) (session : Session) :
    ∃ templates, (addTemplate name source session).2 = { session with templates := templates } := by
  rw [run_addTemplate]
  cases session.environment.parse name source with
  | ok root => exact ⟨_, rfl⟩
  | error error => exact ⟨session.templates, rfl⟩

/-- What follows an action starts where that ended, unless it failed. -/
theorem SessionM.run_bind {α β : Type} (action : SessionM α) (next : α → SessionM β) (session : Session) :
    (action >>= next) session =
      match action session with
      | (.ok value, after) => next value after
      | (.error error, after) => (.error error, after) := by
  change ExceptT.bindCont next (action session).1 (action session).2 = _
  rcases action session with ⟨_ | _, _⟩ <;> rfl

theorem SessionM.run_ofExcept {α : Type} (result : Except Fault α) (session : Session) :
    ofExcept result session = (result.mapError Error.of, session) := by
  cases result <;> rfl

/-- Reads and adds a template of the source, and keeps it by its path. -/
def readTemplate (source : Source) (path name : String) : SessionM Nat := do
  let number ← addTemplate name (← ofExcept (source.read name))
  modify fun session ↦ { session with kept := session.kept.put path number }
  return number

theorem run_readTemplate (source : Source) (path name : String) (session : Session) :
    readTemplate source path name session =
      match source.read name with
      | .error fault => (.error (.of fault), session)
      | .ok text =>
        match session.environment.parse name text with
        | .error error => (.error error, session)
        | .ok root => (.ok session.templates.length, { session with
            templates := session.templates ++ [⟨name, text, root, [], false⟩]
            kept := session.kept.put path session.templates.length }) := by
  unfold readTemplate
  rw [SessionM.run_bind, SessionM.run_ofExcept]
  cases source.read name with
  | error fault => rfl
  | ok text =>
    dsimp only [Except.mapError]
    rw [SessionM.run_bind, run_addTemplate]
    cases session.environment.parse name text <;> rfl

/-- A session in which the source has been asked for a template. -/
def asking (session : Session) (source : Source) (name : String) : Session :=
  { session with reads := if source.isLogged then name :: session.reads else session.reads }

theorem run_getTemplate (name : String) (session : Session) :
    getTemplate name session =
      match session.environment.source with
      | none => (.error (.of (.templateNotFound name)), session)
      | some source =>
        match source.resolve name with
        | .error fault => (.error (.of fault), session)
        | .ok path =>
          match session.kept.find? path with
          | some number => (.ok number, session)
          | none => readTemplate source path name (session.asking source name) := by
  unfold getTemplate
  rw [run_get_bind]
  cases session.environment.source with
  | none => rfl
  | some source =>
    dsimp only
    rw [SessionM.run_bind, SessionM.run_ofExcept]
    cases source.resolve name with
    | error fault => rfl
    | ok path =>
      dsimp only [Except.mapError]
      rw [run_get_bind]
      cases session.kept.find? path with
      | some number => rfl
      | none =>
        unfold asking
        cases source.isLogged <;> rfl

/-- What reading a template leaves: it adds and keeps one that has just been parsed, or it changes at most what the source
was asked for. -/
inductive Reading (name : String) (session : Session) : Session → Prop
  | asked (reads : List String) : Reading name session { session with reads := reads }
  | added {source : Source} {path text : String} {root : Block} (reads : List String)
      (source_eq : session.environment.source = some source) (path_eq : source.resolve name = .ok path)
      (text_eq : source.read name = .ok text) (root_eq : session.environment.parse name text = .ok root) :
      Reading name session { session with
        reads := reads
        templates := session.templates ++ [⟨name, text, root, [], false⟩]
        kept := session.kept.put path session.templates.length }

theorem getTemplate_reading (name : String) (session : Session) : Reading name session (getTemplate name session).2 := by
  have hsame : Reading name session session := .asked session.reads
  rw [run_getTemplate]
  cases hsource : session.environment.source with
  | none => exact hsame
  | some source =>
    dsimp only
    cases hpath : source.resolve name with
    | error fault => exact hsame
    | ok path =>
      dsimp only
      cases session.kept.find? path with
      | some number => exact hsame
      | none =>
        have henvironment : (session.asking source name).environment = session.environment := rfl
        dsimp only
        rw [run_readTemplate]
        cases htext : source.read name with
        | error fault => exact .asked _
        | ok text =>
          dsimp only
          rw [henvironment]
          cases hroot : session.environment.parse name text with
          | error error => exact .asked _
          | ok root => exact .added _ hsource hpath htext hroot

/-! ## What stays -/

theorem perform_environment (operation : Operation) (session : Session) :
    (operation.perform session).environment = operation.configured session.environment := by
  cases operation with
  | configure setting => rfl
  | setSource source => rfl
  | clearCache => rfl
  | addTemplate name source =>
    obtain ⟨templates, hadded⟩ := addTemplate_templates name source session
    rw [Operation.perform, hadded]
    rfl
  | getTemplate name =>
    have hreading := getTemplate_reading name session
    rw [Operation.perform]
    generalize (getTemplate name session).2 = next at hreading
    cases hreading <;> rfl
  | render drive request =>
    rw [Operation.perform]
    cases htemplate : session.template? request.number with
    | none =>
      rw [render_of_template?_eq_none htemplate]
      rfl
    | some template =>
      rw [render_eq_conclude htemplate, conclude_environment]
      rfl
  | makeThreadSafe number => rfl

/-- Unless everything that is kept is dropped, the source stays. -/
theorem perform_source {operation : Operation} (h : ¬operation.Drops) (session : Session) :
    (operation.perform session).environment.source = session.environment.source := by
  rw [perform_environment]
  cases operation with
  | configure setting => exact setting.source_change _
  | setSource source => exact absurd trivial h
  | _ => rfl

/-- Texts are parsed as before unless a setting changes that. -/
theorem perform_grammar {operation : Operation} (h : ∀ setting, operation = .configure setting → setting.KeepsGrammar)
    (session : Session) : (operation.perform session).environment.grammar = session.environment.grammar := by
  rw [perform_environment]
  cases operation with
  | configure setting => exact h setting rfl _
  | _ => rfl

theorem after_source {later : List Operation} (h : ∀ operation ∈ later, ¬operation.Drops) (session : Session) :
    (after later session).environment.source = session.environment.source := by
  induction later generalizing session with
  | nil => rfl
  | cons operation rest ih =>
    rw [List.forall_mem_cons] at h
    rw [after_cons, ih h.2, perform_source h.1]

theorem after_grammar {later : List Operation} (h : ∀ setting, .configure setting ∈ later → setting.KeepsGrammar)
    (session : Session) : (after later session).environment.grammar = session.environment.grammar := by
  induction later generalizing session with
  | nil => rfl
  | cons operation rest ih =>
    rw [after_cons, ih fun setting hsetting ↦ h setting (.tail _ hsetting), perform_grammar]
    rintro setting rfl
    exact h setting (.head _)

/-! ## What becomes of a template -/

/-- The variables with which a run ends that succeeds. -/
def assigned? : Except Failure Flow × RenderState → Option (Entries String Value)
  | (.ok _, state) => some state.context.assigned
  | (.error _, _) => none

/-- The variables with which an operation ends that renders the template of a number successfully. -/
def finalAssigned? (number : Nat) (session : Session) : Operation → Option (Entries String Value)
  | .render drive request =>
    if request.number = number then do
      assigned? (session.rendering (← session.template? number) drive request.inputs request.options)
    else none
  | _ => none

/-- What an operation makes of the template of a number. -/
def renew (number : Nat) (session : Session) (operation : Operation) (template : Template) : Template :=
  match operation with
  | .makeThreadSafe other => if other = number then { template with isThreadSafe := true } else template
  | .render drive request =>
    match finalAssigned? number session (.render drive request) with
    | some assigned => if template.isThreadSafe then template else { template with assigned := assigned }
    | none => template
  | _ => template

/-- A thread-safe template stays as it is. -/
theorem renew_of_isThreadSafe {template : Template} (h : template.isThreadSafe = true) (number : Nat) (session : Session)
    (operation : Operation) : renew number session operation template = template := by
  cases operation with
  | makeThreadSafe other =>
    rw [renew, ← h]
    exact ite_self _
  | render drive request =>
    rw [renew]
    cases finalAssigned? number session (.render drive request) with
    | none => rfl
    | some assigned => exact if_pos h
  | _ => rfl

/-- A template that is not and does not become thread safe takes over what a successful render assigned. -/
theorem renew_of_not_isThreadSafe {template : Template} (h : template.isThreadSafe = false) {number : Nat}
    {operation : Operation} (hoperation : operation ≠ .makeThreadSafe number) (session : Session) :
    renew number session operation template =
      { template with assigned := (finalAssigned? number session operation).getD template.assigned } := by
  cases operation with
  | makeThreadSafe other => exact if_neg fun hother ↦ hoperation (congrArg _ hother)
  | render drive request =>
    rw [renew]
    cases finalAssigned? number session (.render drive request) with
    | none => rfl
    | some assigned => exact if_neg fun hsafe ↦ Bool.noConfusion (h.symm.trans hsafe)
  | _ => rfl

/-- The tree of a template stays. -/
theorem renew_root (number : Nat) (session : Session) (operation : Operation) (template : Template) :
    (renew number session operation template).root = template.root := by
  unfold renew
  repeat' split
  all_goals rfl

theorem template?_append {session : Session} {number : Nat} {template : Template}
    (h : session.template? number = some template) (more : List Template) :
    (session.templates ++ more)[number]? = some template := by
  obtain ⟨hnumber, -⟩ := List.getElem?_eq_some_iff.1 h
  rw [List.getElem?_append_left hnumber]
  exact h

theorem template?_modifyTemplate {session : Session} {number : Nat} {template : Template}
    (h : session.template? number = some template) (other : Nat) (change : Template → Template) :
    (session.modifyTemplate other change).template? number =
      some (if other = number then change template else template) := by
  have hfound : session.templates[number]? = some template := h
  change (session.templates.modify other change)[number]? = _
  rw [List.getElem?_modify, hfound]
  rfl

/-- A render that has ended changes at most its own template, and only if that is not thread safe and it succeeded. -/
theorem conclude_template? {session : Session} {number : Nat} {template : Template}
    (h : session.template? number = some template) (other : Nat) (rendered : Template)
    (run : Except Failure Flow × RenderState) :
    (session.conclude other rendered run).2.template? number =
      some (match assigned? run with
        | some assigned =>
          if rendered.isThreadSafe = false ∧ other = number then { template with assigned := assigned } else template
        | none => template) := by
  rcases run with ⟨failure | flow, state⟩
  · exact h
  · have hafter : (session.afterRender state).template? number = some template := h
    rw [conclude]
    dsimp only [assigned?]
    cases rendered.isThreadSafe with
    | true => exact h
    | false =>
      rw [if_neg Bool.false_ne_true, template?_modifyTemplate hafter]
      simp only [true_and]

/-- What becomes of the template of a number when an operation is performed. -/
theorem perform_template? {session : Session} {number : Nat} {template : Template}
    (h : session.template? number = some template) (operation : Operation) :
    (operation.perform session).template? number = some (renew number session operation template) := by
  cases operation with
  | configure setting => exact h
  | setSource source => exact h
  | clearCache => exact h
  | addTemplate name source =>
    rw [Operation.perform, run_addTemplate]
    cases session.environment.parse name source with
    | ok root => exact template?_append h _
    | error error => exact h
  | getTemplate name =>
    have hreading := getTemplate_reading name session
    rw [Operation.perform]
    generalize (getTemplate name session).2 = next at hreading
    cases hreading with
    | asked reads => exact h
    | added reads hsource hpath htext hroot => exact template?_append h _
  | makeThreadSafe other => exact template?_modifyTemplate h other _
  | render drive request =>
    rw [Operation.perform, renew, finalAssigned?]
    by_cases hnumber : request.number = number
    · subst hnumber
      rw [render_eq_conclude h, conclude_template? h, if_pos rfl, h]
      change _ = some (match assigned? (session.rendering template drive request.inputs request.options) with
        | some assigned => if template.isThreadSafe then template else { template with assigned := assigned }
        | none => template)
      cases assigned? (session.rendering template drive request.inputs request.options) with
      | none => rfl
      | some assigned => by_cases hsafe : template.isThreadSafe = true <;> simp [hsafe]
    · rw [if_neg hnumber]
      cases hrendered : session.template? request.number with
      | none =>
        rw [render_of_template?_eq_none hrendered]
        exact h
      | some rendered =>
        rw [render_eq_conclude hrendered, conclude_template? h]
        cases assigned? (session.rendering rendered drive request.inputs request.options) with
        | none => rfl
        | some assigned => simp only [hnumber, and_false, if_false]

end Liquid.Session
