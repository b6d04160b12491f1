import Mathlib.Data.List.Induction
import Liquid.Host.Sources
import Liquid.Proofs.Render.Closure
import Liquid.Proofs.Session.History

/-!
# Where kept trees come from

A tree that is kept has been parsed from a text of the present source when a render included it or a template was read, with
the settings of that time. Nothing was dropped since then, and a setting that was changed since then does not reach it.
-/

namespace Liquid

open Template

namespace Render

variable {engine : Engine}

/-- Whether a tree is the one of a text that the source gives for a path. -/
def IsLoaded (engine : Engine) (path : String) (tree : Block) : Prop :=
  ∃ source name text, engine.source = some source ∧ source.resolve name = .ok path ∧ source.fetch name = .ok text ∧
    Template.parse engine.grammar name text = .ok tree

/-- Whatever an action adds to the kept trees, it has loaded. -/
def KeepsLoaded (engine : Engine) (α : Type) (action : Render α) : Prop :=
  ∀ drive state path tree, (action drive state).2.includes.find? path = some tree →
    state.includes.find? path = some tree ∨ IsLoaded engine path tree

namespace KeepsLoaded

variable {α β : Type}

/-- An action that leaves the kept trees alone. -/
theorem of_includes_eq {action : Render α} (h : ∀ drive state, (action drive state).2.includes = state.includes) :
    KeepsLoaded engine α action := by
  intro drive state path tree hkept
  rw [h] at hkept
  exact .inl hkept

theorem quiet {action : Render α} (h : IsQuiet action) : KeepsLoaded engine α action := by
  refine of_includes_eq fun drive state ↦ ?_
  obtain ⟨ended, after, hrun, hincludes, -⟩ := h state
  rw [hrun]
  exact hincludes

/-- What comes next may rely on what the results of an action have in common. -/
theorem bind_of (given : α → Prop) {action : Render α} {next : α → Render β} (h : KeepsLoaded engine α action)
    (hgiven : ∀ drive state value, (action drive state).1 = .ok value → given value)
    (hnext : ∀ value, given value → KeepsLoaded engine β (next value)) : KeepsLoaded engine β (action >>= next) := by
  intro drive state path tree hkept
  have hfirst := h drive state path tree
  have hvalue := hgiven drive state
  rw [run_bind] at hkept
  rcases hrun : action drive state with ⟨failure | value, after⟩
  · rw [hrun] at hkept hfirst
    exact hfirst hkept
  · rw [hrun] at hkept hfirst hvalue
    exact (hnext value (hvalue value rfl) drive after path tree hkept).elim hfirst .inr

theorem bind {action : Render α} {next : α → Render β} (h : KeepsLoaded engine α action)
    (hnext : ∀ value, KeepsLoaded engine β (next value)) : KeepsLoaded engine β (action >>= next) :=
  h.bind_of (fun _ ↦ True) (fun _ _ _ _ ↦ trivial) fun value _ ↦ hnext value

theorem attempt {action : Render α} (h : KeepsLoaded engine α action) :
    KeepsLoaded engine (Except Error α) (Render.attempt action) := by
  intro drive state path tree hkept
  have hrun := h drive state path tree
  rw [run_attempt] at hkept
  rcases hended : action drive state with ⟨(error | _) | value, after⟩
  all_goals
    rw [hended] at hkept hrun
    exact hrun hkept

theorem atOnce {action : Render α} (h : KeepsLoaded engine α action) : KeepsLoaded engine α (Render.atOnce action) := by
  intro drive state path tree hkept
  have hrun := h .blocking state path tree
  unfold Render.atOnce at hkept
  rcases hended : action .blocking state with ⟨(error | _) | value, after⟩
  all_goals
    rw [hended] at hkept hrun
    exact hrun hkept

theorem evaluate (computation : Eval α) : KeepsLoaded engine α (Render.evaluate computation) :=
  of_includes_eq fun drive state ↦ by rw [run_evaluate]

theorem fetch (source : Source) (name : String) : KeepsLoaded engine String (Render.fetch source name) := by
  have hread : KeepsLoaded engine String (do
      Render.evaluate (Eval.wait (source.waits name))
      Render.ofExcept (source.fetch name)) :=
    (evaluate _).bind fun _ ↦ of_includes_eq fun drive state ↦ by rw [run_ofExcept]
  intro drive state path tree hkept
  rw [run_fetch] at hkept
  exact hread drive { state with reads := if source.isLogged then name :: state.reads else state.reads } path tree hkept

theorem parse (name text : String) : KeepsLoaded engine Block (Render.parse engine name text) :=
  of_includes_eq fun drive state ↦ by rw [Render.parse, run_settle]

theorem loadCached {source : Source} (hsource : engine.source = some source) (name : String) :
    KeepsLoaded engine Block (Render.loadCached engine source name) := by
  unfold Render.loadCached
  refine bind_of (fun path ↦ source.resolve name = .ok path) (of_includes_eq fun drive state ↦ by rw [run_ofExcept])
    (fun _ _ _ hpath ↦ ofExcept_eq_ok hpath) fun path hpath ↦ (quiet .get).bind fun state ↦ ?_
  split
  · exact quiet (.pure _)
  · refine bind_of (fun text ↦ source.fetch name = .ok text) (fetch source name) (fun _ _ _ ↦ fetch_eq_ok) fun text htext ↦
      bind_of (fun tree ↦ Template.parse engine.grammar name text = .ok tree) (parse name text) (fun _ _ _ ↦ parse_eq_ok)
        fun tree htree ↦ bind (fun drive state asked kept hkept ↦ ?_) fun _ ↦ quiet (.pure tree)
    rw [run_modify, Entries.find?_put] at hkept
    split at hkept
    · next hsame =>
      obtain rfl := Option.some.inj hkept
      exact .inr ⟨source, name, text, hsource, hsame ▸ hpath, htext, htree⟩
    · exact .inl hkept

theorem load (name : String) : KeepsLoaded engine Block (Render.load engine name) := by
  unfold Render.load
  refine ((quiet .get).bind fun _ ↦ quiet (.pure _)).bind fun context ↦ ?_
  split
  · exact (fetch _ name).bind fun text ↦ parse name text
  · split
    · next hsource => exact loadCached hsource name
    · exact quiet (.raise _)

theorem isClosed (engine : Engine) : IsClosed engine (KeepsLoaded engine) where
  quiet := quiet
  bind := bind
  attempt := attempt
  atOnce := atOnce
  wait _ := evaluate _
  load := load

end KeepsLoaded

end Render

namespace Session

open Render

variable {initial session : Session} {operation : Operation} {history : List Operation} {path : String}

/-! ## What one operation keeps -/

/-- After an operation a tree that an include has kept was kept before, or a render has loaded it. -/
theorem perform_includes {tree : Block} (h : (operation.perform session).includes.find? path = some tree) :
    ¬operation.Drops ∧ session.includes.find? path = some tree ∨
      (∃ drive request, operation = .render drive request) ∧
        IsLoaded (session.environment.engine Registry.empty) path tree := by
  cases operation with
  | configure setting => exact .inl ⟨id, h⟩
  | setSource source => cases h
  | clearCache => cases h
  | addTemplate name source =>
    obtain ⟨templates, hadded⟩ := addTemplate_templates name source session
    rw [Operation.perform, hadded] at h
    exact .inl ⟨id, h⟩
  | getTemplate name =>
    have hreading := getTemplate_reading name session
    rw [Operation.perform] at h
    generalize (getTemplate name session).2 = next at hreading h
    cases hreading with
    | asked reads => exact .inl ⟨id, h⟩
    | added reads hsource hpath htext hroot => exact .inl ⟨id, h⟩
  | makeThreadSafe number => exact .inl ⟨id, h⟩
  | render drive request =>
    rw [Operation.perform] at h
    cases htemplate : session.template? request.number with
    | none =>
      rw [render_of_template?_eq_none htemplate] at h
      exact .inl ⟨id, h⟩
    | some template =>
      rw [render_eq_conclude htemplate, conclude_includes] at h
      have hloaded := (KeepsLoaded.isClosed (session.environment.engine request.options.filters)).block template.root
        drive (session.renderState template request.inputs request.options) path tree h
      exact hloaded.imp (fun hkept ↦ ⟨id, hkept⟩) fun hfresh ↦ ⟨⟨drive, request, rfl⟩, hfresh⟩

/-- After an operation a template that is kept was kept before, or it has just been read and parsed. -/
theorem perform_kept {number : Nat} (h : (operation.perform session).kept.find? path = some number) :
    ¬operation.Drops ∧ session.kept.find? path = some number ∨
      ∃ name source text root, operation = .getTemplate name ∧ session.environment.source = some source ∧
        source.resolve name = .ok path ∧ source.read name = .ok text ∧ session.environment.parse name text = .ok root ∧
        (operation.perform session).template? number = some ⟨name, text, root, [], false⟩ := by
  cases operation with
  | configure setting => exact .inl ⟨id, h⟩
  | setSource source => cases h
  | clearCache => cases h
  | addTemplate name source =>
    obtain ⟨templates, hadded⟩ := addTemplate_templates name source session
    rw [Operation.perform, hadded] at h
    exact .inl ⟨id, h⟩
  | getTemplate name =>
    have hreading := getTemplate_reading name session
    rw [Operation.perform] at h ⊢
    generalize (getTemplate name session).2 = next at hreading h
    cases hreading with
    | asked reads => exact .inl ⟨id, h⟩
    | @added source path text root reads hsource hpath htext hroot =>
      rw [Entries.find?_put] at h
      split at h
      · next hsame =>
        subst hsame
        obtain rfl := Option.some.inj h
        exact .inr ⟨name, source, text, root, rfl, hsource, hpath, htext, hroot, List.getElem?_concat_length⟩
      · exact .inl ⟨id, h⟩
  | makeThreadSafe other => exact .inl ⟨id, h⟩
  | render drive request =>
    rw [Operation.perform] at h
    cases htemplate : session.template? request.number with
    | none =>
      rw [render_of_template?_eq_none htemplate] at h
      exact .inl ⟨id, h⟩
    | some template =>
      rw [render_eq_conclude htemplate, conclude_kept] at h
      exact .inl ⟨id, h⟩

/-! ## Origins -/

/-- Where a tree that is kept by a path comes from: the operation of a history that read a text of the path from the source
and parsed it, after which nothing was dropped. -/
structure Origin (initial : Session) (history : List Operation) (read : Source → String → Except Fault String)
    (path : String) (tree : Block) where
  earlier : List Operation
  operation : Operation
  later : List Operation
  split : history = earlier ++ operation :: later
  undropped : ∀ other ∈ later, ¬other.Drops
  source : Source
  name : String
  text : String
  /-- The source is still the same. -/
  source_eq : (after history initial).environment.source = some source
  path_eq : source.resolve name = .ok path
  text_eq : read source name = .ok text
  /-- The tree is the one that the settings of that time give. -/
  tree_eq : (after earlier initial).environment.parse name text = .ok tree

namespace Origin

variable {read : Source → String → Except Fault String} {tree : Block}

/-- An operation that has just read a text is the origin of its tree. -/
def here {source : Source} {name text : String} (hdrops : ¬operation.Drops)
    (hsource : (after history initial).environment.source = some source) (hpath : source.resolve name = .ok path)
    (htext : read source name = .ok text) (htree : (after history initial).environment.parse name text = .ok tree) :
    Origin initial (history ++ [operation]) read path tree where
  earlier := history
  operation := operation
  later := []
  split := rfl
  undropped := nofun
  source := source
  name := name
  text := text
  source_eq := by rw [after_concat, perform_source hdrops, hsource]
  path_eq := hpath
  text_eq := htext
  tree_eq := htree

/-- The origin of a tree stays its origin until everything is dropped. -/
def extend (origin : Origin initial history read path tree) (hdrops : ¬operation.Drops) :
    Origin initial (history ++ [operation]) read path tree where
  earlier := origin.earlier
  operation := origin.operation
  later := origin.later ++ [operation]
  split := (congrArg (· ++ [operation]) origin.split).trans (by simp)
  undropped := by
    intro other hother
    obtain hlater | hlast := List.mem_append.1 hother
    · exact origin.undropped other hlater
    · rwa [List.mem_singleton.1 hlast]
  source := origin.source
  name := origin.name
  text := origin.text
  source_eq := by rw [after_concat, perform_source hdrops, origin.source_eq]
  path_eq := origin.path_eq
  text_eq := origin.text_eq
  tree_eq := origin.tree_eq

/-- As long as no setting changes how texts are parsed, the tree is the one that the present settings give. -/
theorem parse_eq (origin : Origin initial history read path tree)
    (hkeeps : ∀ setting, .configure setting ∈ origin.operation :: origin.later → setting.KeepsGrammar) :
    (after history initial).environment.parse origin.name origin.text = .ok tree := by
  have hafter : after history initial = after (origin.operation :: origin.later) (after origin.earlier initial) :=
    (congrArg (after · initial) origin.split).trans (after_append ..)
  have hparsed := origin.tree_eq
  unfold Environment.parse at hparsed ⊢
  rw [hafter, after_grammar hkeeps, hparsed]

end Origin

/-- A tree that an include has kept comes from a render. -/
theorem includes_origin (environment : Environment) (nextObject : Nat) (history : List Operation) {tree : Block}
    (h : (after history (start environment nextObject)).includes.find? path = some tree) :
    ∃ origin : Origin (start environment nextObject) history Source.fetch path tree,
      ∃ drive request, origin.operation = .render drive request := by
  induction history using List.reverseRecOn with
  | nil => cases h
  | append_singleton history operation ih =>
    rw [after_concat] at h
    obtain ⟨hdrops, hkept⟩ | ⟨⟨drive, request, rfl⟩, source, name, text, hsource, hpath, htext, htree⟩ := perform_includes h
    · obtain ⟨origin, hrender⟩ := ih hkept
      exact ⟨origin.extend hdrops, hrender⟩
    · exact ⟨.here id hsource hpath htext htree, drive, request, rfl⟩

/-- A template that is kept comes from its having been read. -/
theorem kept_origin (environment : Environment) (nextObject : Nat) (history : List Operation) {number : Nat}
    (h : (after history (start environment nextObject)).kept.find? path = some number) :
    ∃ template, (after history (start environment nextObject)).template? number = some template ∧
      ∃ origin : Origin (start environment nextObject) history Source.read path template.root,
        origin.operation = .getTemplate origin.name := by
  induction history using List.reverseRecOn with
  | nil => cases h
  | append_singleton history operation ih =>
    rw [after_concat] at h ⊢
    obtain ⟨hdrops, hkept⟩ | ⟨name, source, text, root, rfl, hsource, hpath, htext, hroot, htemplate⟩ := perform_kept h
    · obtain ⟨template, htemplate, origin, hread⟩ := ih hkept
      refine ⟨_, perform_template? htemplate operation, ?_⟩
      rw [renew_root]
      exact ⟨origin.extend hdrops, hread⟩
    · exact ⟨_, htemplate, .here id hsource hpath htext hroot, rfl⟩

/-- Each tree that is kept has an origin: the tree of an include a render, and the tree of a template its having been read.
If no setting has changed since then how texts are parsed, the tree is the one that the present settings give. -/
theorem kept_trees_origin (environment : Environment) (nextObject : Nat) (history : List Operation) :
    let session := after history (start environment nextObject)
    (∀ path tree, session.includes.find? path = some tree →
      ∃ origin : Origin (start environment nextObject) history Source.fetch path tree,
        (∃ drive request, origin.operation = .render drive request) ∧
        ((∀ setting, .configure setting ∈ origin.later → setting.KeepsGrammar) →
          session.environment.parse origin.name origin.text = .ok tree)) ∧
    (∀ path number, session.kept.find? path = some number →
      ∃ template, session.template? number = some template ∧
        ∃ origin : Origin (start environment nextObject) history Source.read path template.root,
          origin.operation = .getTemplate origin.name ∧
          ((∀ setting, .configure setting ∈ origin.later → setting.KeepsGrammar) →
            session.environment.parse origin.name origin.text = .ok template.root)) := by
  intro session
  refine ⟨fun path tree hkept ↦ ?_, fun path number hkept ↦ ?_⟩
  · obtain ⟨origin, drive, request, hrender⟩ := includes_origin environment nextObject history hkept
    refine ⟨origin, ⟨drive, request, hrender⟩, fun hkeeps ↦ origin.parse_eq fun setting hsetting ↦ ?_⟩
    rw [hrender] at hsetting
    exact hkeeps setting ((List.mem_cons.1 hsetting).resolve_left nofun)
  · obtain ⟨template, htemplate, origin, hread⟩ := kept_origin environment nextObject history hkept
    refine ⟨template, htemplate, origin, hread, fun hkeeps ↦ origin.parse_eq fun setting hsetting ↦ ?_⟩
    rw [hread] at hsetting
    exact hkeeps setting ((List.mem_cons.1 hsetting).resolve_left nofun)

/-- The text that a source whose texts are all known gives for a path. -/
theorem ofTexts_text {texts : Entries String String} {name path text : String}
    (hpath : (Source.ofTexts texts).resolve name = .ok path) (htext : (Source.ofTexts texts).fetch name = .ok text) :
    name = path ∧ texts.find? path = some text := by
  obtain rfl : name = path := Except.ok.inj hpath
  have hfetched : Source.ofTexts.text texts name = .ok text := htext
  unfold Source.ofTexts.text at hfetched
  cases hfound : texts.find? name with
  | none =>
    rw [hfound] at hfetched
    cases hfetched
  | some found =>
    rw [hfound] at hfetched
    exact ⟨rfl, congrArg _ (Except.ok.inj hfetched)⟩

/-- An environment whose source has a part that prints a variable. -/
def printing : Environment :=
  { Environment.standard with source := some (.ofTexts [("part", "\x7b\x7b x \x7d\x7d")]) }

/-- A request for a page with a text that can be escaped. -/
def angleRequest : Request := ⟨0, .map [("x", .string "<")], .none⟩

/-- The part is read and included, then all outputs are to be escaped. -/
def escapedLate : List Operation :=
  [.addTemplate "page" "\x7b% include 'part' %\x7d", .getTemplate "part", .render .blocking angleRequest,
    .configure (.factory Host.protect)]

/-- The numbers of filters in the outputs of a block. -/
def filterCounts (block : Block) : List Nat :=
  block.map fun
    | .output markup _ => markup.filters.length
    | _ => 0

theorem escapedLate_source : (after escapedLate (start printing 0)).environment.source = printing.source := by
  refine after_source (fun operation hoperation ↦ ?_) _
  simp only [escapedLate, List.mem_cons, List.not_mem_nil, or_false] at hoperation
  obtain rfl | rfl | rfl | rfl := hoperation <;> exact id

theorem kept_trees_origin_escapedLate :
    let session := after escapedLate (start printing 0)
    ∃ tree, session.includes.find? "part" = some tree ∧
      ∃ origin : Origin (start printing 0) escapedLate Source.fetch "part" tree,
        origin.text = "\x7b\x7b x \x7d\x7d" ∧ ∃ drive request, origin.operation = .render drive request := by
  intro session
  obtain ⟨tree, htree⟩ : ∃ tree, session.includes.find? "part" = some tree :=
    Option.isSome_iff_exists.1 (by decide +kernel)
  obtain ⟨origin, hrender, -⟩ := (kept_trees_origin printing 0 escapedLate).1 "part" tree htree
  have hsame : some origin.source = printing.source := origin.source_eq.symm.trans escapedLate_source
  have hpath := origin.path_eq
  have htext := origin.text_eq
  rw [Option.some.inj hsame] at hpath htext
  exact ⟨tree, htree, origin, (Option.some.inj (ofTexts_text hpath htext).2).symm, hrender⟩

/-- A tree that is kept need not be the one that the present settings give: the part is still printed as it is. -/
theorem kept_trees_ne_present :
    (¬∀ history path tree,
      (after history (start printing 0)).includes.find? path = some tree →
        IsLoaded ((after history (start printing 0)).environment.engine Registry.empty) path tree) ∧
      outputs [(render .blocking 0 angleRequest.inputs .none (after escapedLate (start printing 0))).1] = [some "<"] ∧
      outputs [(render .blocking 0 angleRequest.inputs .none (after escapedLate (start printing 0)).clearCache).1] =
        [some "&lt;"] := by
  refine ⟨fun h ↦ ?_, by decide +kernel, by decide +kernel⟩
  obtain ⟨tree, htree⟩ : ∃ tree, (after escapedLate (start printing 0)).includes.find? "part" = some tree :=
    Option.isSome_iff_exists.1 (by decide +kernel)
  obtain ⟨source, name, text, hsource, hpath, htext, hparsed⟩ := h escapedLate "part" tree htree
  have hsame : some source = printing.source := hsource.symm.trans escapedLate_source
  rw [Option.some.inj hsame] at hpath htext
  obtain ⟨rfl, htexts⟩ := ofTexts_text hpath htext
  obtain rfl : "\x7b\x7b x \x7d\x7d" = text := Option.some.inj htexts
  have hfresh := congrArg (fun parsed ↦ parsed.toOption.map filterCounts) hparsed
  have hstale := congrArg (Option.map filterCounts) htree
  have hcounts : ((after escapedLate (start printing 0)).includes.find? "part").map filterCounts =
      ((after escapedLate (start printing 0)).environment.parse "part" "\x7b\x7b x \x7d\x7d").toOption.map filterCounts :=
    hstale.trans hfresh.symm
  revert hcounts
  decide +kernel

end Session

end Liquid
