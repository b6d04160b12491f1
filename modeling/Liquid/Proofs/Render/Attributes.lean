import Liquid.Proofs.Render.Closure
import Liquid.Proofs.Render.Opening
import Liquid.Session

/-!
# What an included template finds of its attributes

The attributes of an include are evaluated where it stands, and their values are the scope of the included template. If
nothing else is bound to the template, the variable that has its name comes in as well, and it is put on top of the
attributes: an attribute of that name is lost wherever the surrounding context has such a variable. All other attributes
arrive.
-/

namespace Liquid

namespace Entries

variable {κ α : Type} [DecidableEq κ]

theorem putAll_append (entries first second : Entries κ α) :
    entries.putAll (first ++ second) = (entries.putAll first).putAll second :=
  List.foldl_append

theorem find?_putAll_of_not_mem {key : κ} {more : Entries κ α} (hkey : key ∉ more.map Prod.fst) (entries : Entries κ α) :
    find? key (entries.putAll more) = find? key entries := by
  induction more generalizing entries with
  | nil => rfl
  | cons entry rest ih =>
    rw [List.map_cons, List.mem_cons, not_or] at hkey
    have happart : entry.1 ≠ key := fun hsame ↦ hkey.1 hsame.symm
    change find? key ((put entry.1 entry.2 entries).putAll rest) = _
    rw [ih hkey.2, find?_put_of_ne happart]

/-- Of several values of a key the last one counts. -/
theorem find?_putAll_last {key : κ} {value : α} {before behind : Entries κ α} (hlast : key ∉ behind.map Prod.fst)
    (entries : Entries κ α) : find? key (entries.putAll (before ++ (key, value) :: behind)) = some value := by
  rw [putAll_append]
  change find? key ((put key value (entries.putAll before)).putAll behind) = _
  rw [find?_putAll_of_not_mem hlast, find?_put_self]

end Entries

/-- What the innermost scope has is found there. -/
theorem Context.lookup_of_top {context : Context} {name : String} {value : Value}
    (h : context.scopes.top.find? name = some value) (tallies : Tallies) :
    context.lookup name tallies = (some value, tallies) := by
  have hfound : context.scopes.find? name = some value := by
    rw [Scopes.find?, Scopes.toList, List.findSome?_cons, h]
  unfold lookup variableWith
  rw [hfound]
  rfl

namespace Render

variable {engine : Engine} {inclusion : Inclusion} {drive : Drive} {state named loaded searched ready : RenderState}
  {name : String} {block : Block} {surrounding : Option Value} {values : List (String × Value)}

/-- The keys of attributes with the values of their expressions, one after the other. -/
def attributeValues (tools : Toolbox) : List (String × Expr) → Eval (List (String × Value))
  | [] => return []
  | (key, expr) :: rest => do
    let value ← expr.eval tools
    return (key, value) :: (← attributeValues tools rest)

theorem attributeFrame_eq_putAll (tools : Toolbox) (attributes : List (String × Expr)) (frame : Entries String Value) :
    attributeFrame tools frame attributes = (do return frame.putAll (← attributeValues tools attributes)) := by
  induction attributes generalizing frame with
  | nil => rfl
  | cons first rest ih =>
    obtain ⟨key, expr⟩ := first
    rw [attributeFrame, attributeValues, bind_assoc]
    congr 1
    funext value
    rw [ih, bind_assoc]
    rfl

/-- The scope of the included template has the values of the attributes. -/
theorem run_attributeFrame
    (hvalues : evaluate (attributeValues engine.tools inclusion.attributes) drive searched = (.ok values, ready)) :
    evaluate (attributeFrame engine.tools [] inclusion.attributes) drive searched = (.ok (Entries.putAll [] values), ready) := by
  rw [attributeFrame_eq_putAll, evaluate_bind, run_bind_ok hvalues]
  rfl

/-- The state in which an included template starts to render that nothing is bound to, with the scope and the variable of its
name that it gets. -/
def startIncluded (name : String) (surrounding : Option Value) (values : List (String × Value)) (state : RenderState) :
    RenderState :=
  { state with context :=
    { state.context.push
        (match surrounding with
          | some value => Entries.put (boundName name) value (Entries.putAll [] values)
          | none => Entries.putAll [] values) with
      name := name, depth := state.context.depth + 1 } }

/-- An include that has its template, its variable and its attributes renders the template in a scope that has them. -/
theorem run_included (hbinding : inclusion.binding = none)
    (hname : evaluate (do Eval.textOf (← inclusion.template.eval engine.tools)) drive state = (.ok name, named))
    (hload : load engine name drive named = (.ok block, loaded))
    (hsearch : evaluate (Eval.counting fun context ↦ context.lookup (boundName name)) drive loaded =
      (.ok surrounding, searched))
    (hvalues : evaluate (attributeValues engine.tools inclusion.attributes) drive searched = (.ok values, ready))
    (hdepth : ready.context.depth < ready.context.maxDepth) (deeper : Block → Render Flow) :
    included engine deeper inclusion drive state =
      (attempt (deeper block) >>= leaveInclude ready.context.name) drive
        (startIncluded name surrounding values ready) := by
  unfold included
  rw [run_bind_ok hname, run_bind_ok hload, hbinding, boundValue, run_bind_ok hsearch,
    run_bind_ok (run_attributeFrame hvalues), run_inInclude, if_neg (by omega)]
  cases surrounding with
  | none => rfl
  | some value =>
    change (attempt (givenThen (boundName name) (deeper block) value) >>= leaveInclude ready.context.name) drive _ = _
    rw [run_attempt_bind, run_attempt_bind, run_givenThen]
    rfl

/-- What the included template finds under the key of an attribute: the last value of the key, or the variable of the
template's name if it has that key and there is one. -/
theorem lookup_startIncluded {key : String} {value : Value} {before behind : List (String × Value)}
    (hlast : key ∉ behind.map Prod.fst) (tallies : Tallies) :
    (startIncluded name surrounding (before ++ (key, value) :: behind) state).context.lookup key tallies =
      (some (if key = boundName name then surrounding.getD value else value), tallies) := by
  have hattribute : Entries.find? key (Entries.putAll [] (before ++ (key, value) :: behind)) = some value :=
    Entries.find?_putAll_last hlast []
  refine Context.lookup_of_top ?_ tallies
  cases surrounding with
  | none =>
    rw [Option.getD_none, ite_self]
    exact hattribute
  | some outer =>
    change Entries.find? key (Entries.put (boundName name) outer _) = _
    rw [Entries.find?_put, Option.getD_some, hattribute]
    by_cases hsame : boundName name = key
    · rw [if_pos hsame, if_pos hsame.symm]
    · rw [if_neg hsame, if_neg fun h ↦ hsame h.symm]

/-- When a template that is included with attributes alone starts to render, the key of an attribute stands for the last
value that was given to it, evaluated where the include stands, unless the key is the name of the template's own variable and
the surrounding context has a variable of that name; then it stands for that. -/
theorem included_attributes_arrive (hbinding : inclusion.binding = none)
    (hname : evaluate (do Eval.textOf (← inclusion.template.eval engine.tools)) drive state = (.ok name, named))
    (hload : load engine name drive named = (.ok block, loaded))
    (hsearch : evaluate (Eval.counting fun context ↦ context.lookup (boundName name)) drive loaded =
      (.ok surrounding, searched))
    (hvalues : evaluate (attributeValues engine.tools inclusion.attributes) drive searched = (.ok values, ready))
    (hdepth : state.context.depth < state.context.maxDepth) (deeper : Block → Render Flow) :
    searched.context = state.context ∧ ∃ start : RenderState,
      included engine deeper inclusion drive state =
        (attempt (deeper block) >>= leaveInclude state.context.name) drive start ∧
      ∀ before key value behind, values = before ++ (key, value) :: behind → key ∉ behind.map Prod.fst → ∀ tallies,
        (key ≠ boundName name ∨ surrounding = none → start.context.lookup key tallies = (some value, tallies)) ∧
        (∀ outer, key = boundName name → surrounding = some outer →
          start.context.lookup key tallies = (some outer, tallies)) := by
  have hnamed : named.context = state.context := by
    rw [run_evaluate] at hname
    exact (congrArg (·.2.context) hname).symm
  have hloaded : loaded.context = state.context := by
    have hkept : (load engine name drive named).2.context = named.context := load_context name drive named
    rw [← hnamed, ← hkept, hload]
  have hsearched : searched.context = state.context := by
    rw [run_evaluate] at hsearch
    exact (congrArg (·.2.context) hsearch).symm.trans hloaded
  have hready : ready.context = state.context := by
    rw [run_evaluate] at hvalues
    exact (congrArg (·.2.context) hvalues).symm.trans hsearched
  have hrun := run_included hbinding hname hload hsearch hvalues (by rwa [hready]) deeper
  rw [hready] at hrun
  refine ⟨hsearched, startIncluded name surrounding values ready, hrun, ?_⟩
  rintro before key value behind rfl hlast tallies
  have hlookup : (startIncluded name surrounding (before ++ (key, value) :: behind) ready).context.lookup key tallies =
      (some (if key = boundName name then surrounding.getD value else value), tallies) :=
    lookup_startIncluded hlast tallies
  refine ⟨fun harrives ↦ ?_, fun outer hkey houter ↦ ?_⟩
  · rw [hlookup]
    obtain hkey | hnone := harrives
    · rw [if_neg hkey]
    · rw [hnone, Option.getD_none, ite_self]
  · rw [hlookup, if_pos hkey, houter, Option.getD_some]

/-- An environment whose source has a card, which prints the variable of its name. -/
def cardEnvironment : Environment :=
  { Environment.standard with source := some (.ofTexts [("shop/card", "\x7b\x7b card \x7d\x7d")]) }

/-- An include of the card that gives it two values, the second one to count. -/
def cardInclusion : Inclusion :=
  ⟨.literal (.string "shop/card"), none, [("card", .literal (.int 4)), ("card", .literal (.int 5))]⟩

/-- A render without variables in which the card has been read. -/
def cardState : RenderState where
  context := cardEnvironment.context (.map [])
  output := .empty
  shared := ⟨⟨[], none⟩, 0, 0⟩
  includes := [("shop/card", [.output ⟨"card", .path [.member "card"], []⟩ ⟨.first, .first⟩])]
  reads := []

theorem included_attributes_arrive_card :
    cardInclusion.binding = none ∧ boundName "shop/card" = "card" ∧ ∀ deeper drive, ∃ start : RenderState,
      included (cardEnvironment.engine Registry.empty) deeper cardInclusion drive cardState =
        (attempt (deeper [.output ⟨"card", .path [.member "card"], []⟩ ⟨.first, .first⟩]) >>= leaveInclude "") drive start ∧
      start.context.lookup "card" [] = (some (.int 5), []) := by
  have hbound : boundName "shop/card" = "card" := by decide
  refine ⟨rfl, hbound, fun deeper drive ↦ ?_⟩
  have hsearch : evaluate (Eval.counting fun context ↦ context.lookup (boundName "shop/card")) drive cardState =
      (.ok none, cardState) := by
    rw [hbound]
    rfl
  have hname : evaluate (do Eval.textOf (← cardInclusion.template.eval (cardEnvironment.engine Registry.empty).tools)) drive
      cardState = (.ok "shop/card", cardState) := rfl
  have hvalues : evaluate (attributeValues (cardEnvironment.engine Registry.empty).tools cardInclusion.attributes) drive
      cardState = (.ok [("card", .int 4), ("card", .int 5)], cardState) := rfl
  obtain ⟨-, start, hrun, harrives⟩ := included_attributes_arrive rfl hname rfl hsearch hvalues (by decide) deeper
  exact ⟨start, hrun, ((harrives [("card", .int 4)] "card" (.int 5) [] rfl (by decide) []).1 (.inr rfl))⟩

/-- A page that includes the card with an attribute of its name. -/
def cardPage : Template where
  name := "page"
  source := "\x7b% include 'shop/card', card: 5 %\x7d"
  root := (cardEnvironment.parse "page" "\x7b% include 'shop/card', card: 5 %\x7d").toOption.getD []
  assigned := []
  isThreadSafe := false

/-- Where the page has a variable of the card's name, the attribute of that name does not arrive. -/
theorem included_attribute_lost :
    let session := { Session.start cardEnvironment 0 with templates := [cardPage] }
    let printed (inputs : Value) :=
      (Session.render .blocking 0 inputs .none session).1.toOption.map fun rendered ↦ rendered.output
    printed (.map []) = some "5" ∧ printed (.map [("card", .int 1)]) = some "1" := by
  decide +kernel

end Render

end Liquid
