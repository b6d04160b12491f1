import Liquid.Proofs.Template.ParserSteps

/-!
# What a token can do

Each token that the parser takes adds a node to the innermost body, opens a tag, divides or closes the innermost open tag,
or belongs to a comment. A token that divides or closes a tag stands where the grammar allows it: with what finishes the
tag behind it, it finishes the tag in front of it.
-/

namespace Liquid.Template

open Partial

variable {maxTerms depth : Nat} {opened : OpenTag} {body : Block} {action : Tag} {name markup : String}
  {placed ending : PlacedToken} {inside rest : List PlacedToken}

/-! ## Finishing an open tag -/

/-- At the end of a body of an open tag, the tokens finish the tag. -/
inductive Finishes (maxTerms depth : Nat) (opened : OpenTag) (body : Block) : Tag → List PlacedToken → Prop where
  | last {action : Tag} {closing : String} {ending : PlacedToken} (hclosed : opened.closed? body = some action)
      (hendings : opened.endings = [closing]) (hend : ending.IsTag closing) :
      Finishes maxTerms depth opened body action [ending]
  | loop {header : LoopHeader} {first : Block} {otherwise : Option Block} {rest : List PlacedToken}
      (hunfinished : opened.unfinished? body = some (.loop header first))
      (hrest : Spelled maxTerms depth (.ending "endfor" otherwise) rest) :
      Finishes maxTerms depth opened body (.loop header first otherwise) rest
  | case {subject : Expr} {finished whens : List (List Expr × Block)} {otherwise : Option Block}
      {rest : List PlacedToken} (hunfinished : opened.unfinished? body = some (.case subject finished))
      (hrest : Spelled maxTerms depth (.whens whens otherwise) rest) :
      Finishes maxTerms depth opened body (.case subject (finished ++ whens) otherwise) rest
  | branch {negated : Bool} {finished branches : List (Condition × Block)} {otherwise : Option Block}
      {rest : List PlacedToken} (hunfinished : opened.unfinished? body = some (.branch negated finished))
      (hrest : Spelled maxTerms depth (.branches (branchEnd negated) branches otherwise) rest) :
      Finishes maxTerms depth opened body (.branch negated (finished ++ branches) otherwise) rest

/-- An end tag, or an `else` with its body and an end tag, finishes every tag that may go on with an `else`. -/
theorem Finishes.of_ending {unfinished : Unfinished} {otherwise : Option Block}
    (hunfinished : opened.unfinished? body = some unfinished)
    (hrest : Spelled maxTerms depth (.ending unfinished.closing otherwise) rest) :
    Finishes maxTerms depth opened body (unfinished.finish otherwise) rest := by
  cases unfinished with
  | loop header first => exact .loop hunfinished hrest
  | case subject finished =>
    have h := Finishes.case hunfinished (.lastWhen hrest)
    rwa [List.append_nil] at h
  | branch negated finished =>
    have h := Finishes.branch hunfinished (.lastBranch hrest)
    rwa [List.append_nil] at h

/-- Behind the last body of a tag only its end tag is left. -/
theorem Finishes.of_closed {expected : Tag} {closing : String} (hclosed : opened.closed? body = some expected)
    (hendings : opened.endings = [closing]) (h : Finishes maxTerms depth opened body action rest) :
    action = expected ∧ ∃ ending, rest = [ending] ∧ ending.IsTag closing := by
  cases h with
  | last hsame hclosing hend =>
    rw [hclosed] at hsame
    rw [hendings] at hclosing
    cases hsame
    cases hclosing
    exact ⟨rfl, _, rfl, hend⟩
  | _ hunfinished => cases opened <;> cases hunfinished <;> cases hclosed

/-- A tag that is opened by a token and finished by others is spelled by all of them. -/
theorem spelled_of_opens (hopens : Opens maxTerms markup name opened)
    (h : Finishes maxTerms depth opened body action rest) :
    Spelled maxTerms depth (.rest name markup body action) rest := by
  cases hopens with
  | capture hmarkup =>
    obtain ⟨rfl, ending, rfl, hend⟩ := h.of_closed rfl rfl
    exact .capture hmarkup hend
  | ifChanged =>
    obtain ⟨rfl, ending, rfl, hend⟩ := h.of_closed rfl rfl
    exact .ifChanged hend
  | table hmarkup =>
    obtain ⟨rfl, ending, rfl, hend⟩ := h.of_closed rfl rfl
    exact .table hmarkup hend
  | case hmarkup =>
    cases h with
    | last hclosed => cases hclosed
    | case hunfinished hrest =>
      cases hunfinished
      exact .case hmarkup hrest
    | _ hunfinished => cases hunfinished
  | loop hmarkup =>
    cases h with
    | last hclosed => cases hclosed
    | loop hunfinished hrest =>
      cases hunfinished
      exact .loop hmarkup hrest
    | _ hunfinished => cases hunfinished
  | branch hname hmarkup =>
    cases h with
    | last hclosed => cases hclosed
    | branch hunfinished hrest =>
      cases hunfinished
      exact .branch hname hmarkup hrest
    | _ hunfinished => cases hunfinished
  | comment =>
    -- A comment has no body that anything could finish.
    cases h with
    | last hclosed => cases hclosed
    | _ hunfinished => cases hunfinished

/-! ## Tags that end a body -/

theorem closed_or_unfinished (hopened : opened.HasBody) (body : Block) :
    (∃ action closing, opened.closed? body = some action ∧ opened.endings = [closing]) ∨
      ∃ unfinished, opened.unfinished? body = some unfinished := by
  cases opened with
  | comment depth => exact hopened.elim
  | custom registration ending => exact hopened.elim
  | caseStart subject => exact .inr ⟨_, rfl⟩
  | caseWhen subject whens values => exact .inr ⟨_, rfl⟩
  | loop header => exact .inr ⟨_, rfl⟩
  | branch negated branches condition => exact .inr ⟨_, rfl⟩
  | _ => exact .inl ⟨_, _, rfl, rfl⟩

/-- An open tag is divided into another one: what finishes that one finishes the first with the token and a body. -/
def Continues (maxTerms depth : Nat) (opened : OpenTag) (body : Block) (placed : PlacedToken) (next : OpenTag) : Prop :=
  ∀ {more action inside rest}, Spelled maxTerms (depth + 1) (.block more) inside →
    Finishes maxTerms depth next more action rest →
      Finishes maxTerms depth opened body action (placed :: inside ++ rest)

theorem continues_else {unfinished : Unfinished} (hunfinished : opened.unfinished? body = some unfinished)
    (htag : placed.IsTag "else") : Continues maxTerms depth opened body placed unfinished.behindElse := by
  intro more action inside rest hinside hrest
  obtain ⟨rfl, ending, rfl, hend⟩ := hrest.of_closed (unfinished.closed?_behindElse more) unfinished.endings_behindElse
  exact .of_ending hunfinished (.otherwise htag hinside hend)

theorem continues_when {subject : Expr} {finished : List (List Expr × Block)} {values : List Expr}
    (hunfinished : opened.unfinished? body = some (.case subject finished)) (htag : placed.tag? = some ("when", markup))
    (hmarkup : Header.whenValues markup = .ok values) :
    Continues maxTerms depth opened body placed (.caseWhen subject finished values) := by
  intro more action inside rest hinside hrest
  cases hrest with
  | last hclosed => cases hclosed
  | case hnext hwhens =>
    cases hnext
    rw [List.append_assoc]
    exact .case hunfinished (.when htag hmarkup hinside hwhens)
  | _ hnext => cases hnext

theorem continues_elsif {negated : Bool} {finished : List (Condition × Block)} {condition : Condition} {terms : Nat}
    (hunfinished : opened.unfinished? body = some (.branch negated finished))
    (htag : placed.tag? = some ("elsif", markup))
    (hmarkup : Condition.parse markup "elsif" maxTerms = .ok (condition, terms)) :
    Continues maxTerms depth opened body placed (.branch negated finished condition) := by
  intro more action inside rest hinside hrest
  cases hrest with
  | last hclosed => cases hclosed
  | branch hnext hbranches =>
    cases hnext
    rw [List.append_assoc]
    exact .branch hunfinished (.elsif htag hmarkup hinside hbranches)
  | _ hnext => cases hnext

/-- The names of the tags that divide an open tag. -/
def dividers : List String := ["when", "else", "elsif"]

/-- A tag that ends a body closes its tag or divides it. -/
theorem endTag_cases (depth : Nat) {tree after : Partial} {frame : Frame} {frames : List Frame} (hopened : frame.opened.HasBody)
    (htag : placed.tag? = some (name, markup)) (hname : name ∈ frame.opened.endings)
    (h : endTag (.builtin maxTerms) tree frame frames name markup = .ok after) :
    (∃ action, after = close action frame frames ∧ frame.opened.endings.getLast? = some name ∧
      Finishes maxTerms depth frame.opened tree.block action [placed]) ∨
    ∃ next, after = divide next frame frames ∧ name ∈ dividers ∧ next.HasBody ∧
      Continues maxTerms depth frame.opened tree.block placed next := by
  have hplaced : placed.IsTag name := PlacedToken.isTag_of_tag? htag
  rcases closed_or_unfinished hopened tree.block with ⟨action, closing, hclosed, hendings⟩ | ⟨unfinished, hunfinished⟩
  · obtain rfl : name = closing := List.mem_singleton.mp (hendings ▸ hname)
    rw [endTag_closed tree hclosed] at h
    exact .inl ⟨action, (Except.ok.inj h).symm, by rw [hendings]; rfl, .last hclosed hendings hplaced⟩
  rcases ending_of_unfinished hunfinished hname with rfl | rfl | ⟨rfl, subject, whens, rfl⟩ |
    ⟨rfl, negated, branches, rfl⟩
  · rw [endTag_closing tree hunfinished] at h
    exact .inl ⟨_, (Except.ok.inj h).symm, getLast?_endings_of_unfinished hunfinished,
      .of_ending hunfinished (.close hplaced)⟩
  · rw [endTag_else tree hunfinished] at h
    have hnext : unfinished.behindElse.HasBody := hasBody_of_closed (unfinished.closed?_behindElse [])
    exact .inr ⟨_, (Except.ok.inj h).symm, by decide, hnext, continues_else hunfinished hplaced⟩
  · rw [endTag_when tree hunfinished] at h
    obtain ⟨values, hmarkup, hafter⟩ := of_bind_eq_ok h
    exact .inr ⟨_, (Except.ok.inj hafter).symm, by decide, trivial, continues_when hunfinished htag hmarkup⟩
  · rw [endTag_elsif tree hunfinished] at h
    obtain ⟨⟨condition, terms⟩, hmarkup, hafter⟩ := of_bind_eq_ok h
    exact .inr ⟨_, (Except.ok.inj hafter).symm, by decide, trivial, continues_elsif hunfinished htag hmarkup⟩

/-! ## Every token -/

/-- Whether an open tag can come about: the host has no tags, and a comment counts itself. -/
def OpenTag.IsProper : OpenTag → Prop
  | .comment depth => 1 ≤ depth
  | .custom _ _ => False
  | _ => True

theorem OpenTag.HasBody.isProper (h : opened.HasBody) : opened.IsProper := by
  cases opened <;> trivial

/-- Whether all open tags can come about. -/
def Proper (tree : Partial) : Prop := ∀ frame ∈ tree.frames, frame.opened.IsProper

/-- What a token that is taken does to a tree. -/
inductive Transition (maxTerms : Nat) : Partial → PlacedToken → Partial → Prop where
  | node {tree : Partial} {placed : PlacedToken} {node : Node} (htakes : tree.TakesNodes)
      (hnode : Spelled maxTerms tree.depth (.node node) [placed]) : Transition maxTerms tree placed (tree.add node)
  | opens {tree : Partial} {placed : PlacedToken} {name markup : String} {opened : OpenTag} (htakes : tree.TakesNodes)
      (htag : placed.tag? = some (name, markup)) (hopens : Opens maxTerms markup name opened)
      (hdepth : opened.isBlock = true → tree.depth < maxNesting) :
      Transition maxTerms tree placed ⟨[], ⟨opened, name, markup, placed.span, tree.nodes⟩ :: tree.frames⟩
  | closes {nodes : List Node} {frame : Frame} {frames : List Frame} {placed : PlacedToken} {action : Tag}
      (hopened : frame.opened.HasBody)
      (hfinishes : Finishes maxTerms (Partial.depth ⟨[], frames⟩) frame.opened nodes.reverse action [placed]) :
      Transition maxTerms ⟨nodes, frame :: frames⟩ placed (close action frame frames)
  | divides {nodes : List Node} {frame : Frame} {frames : List Frame} {placed : PlacedToken} {next : OpenTag}
      (hopened : frame.opened.HasBody) (hnext : next.HasBody)
      (hcontinues : Continues maxTerms (Partial.depth ⟨[], frames⟩) frame.opened nodes.reverse placed next) :
      Transition maxTerms ⟨nodes, frame :: frames⟩ placed (divide next frame frames)
  | commentOpens {nodes : List Node} {frame : Frame} {frames : List Frame} {placed : PlacedToken} {depth : Nat}
      (htag : placed.IsTag "comment") :
      Transition maxTerms ⟨nodes, commentFrame frame depth :: frames⟩ placed
        ⟨[], commentFrame frame (depth + 1) :: frames⟩
  | commentEnds {nodes : List Node} {frame : Frame} {frames : List Frame} {placed : PlacedToken} {depth : Nat}
      (htag : placed.IsTag "endcomment") (hdepth : 1 ≤ depth) :
      Transition maxTerms ⟨nodes, commentFrame frame (depth + 1) :: frames⟩ placed
        ⟨[], commentFrame frame depth :: frames⟩
  | commentCloses {nodes : List Node} {frame : Frame} {frames : List Frame} {placed : PlacedToken}
      (htag : placed.IsTag "endcomment") :
      Transition maxTerms ⟨nodes, commentFrame frame 1 :: frames⟩ placed (close .comment frame frames)
  | commented {nodes : List Node} {frame : Frame} {frames : List Frame} {placed : PlacedToken} {depth : Nat}
      (hopen : ¬placed.IsTag "comment") (hend : ¬placed.IsTag "endcomment") :
      Transition maxTerms ⟨nodes, commentFrame frame depth :: frames⟩ placed
        ⟨nodes, commentFrame frame depth :: frames⟩

variable {tree after : Partial} {nodes : List Node} {frame : Frame} {frames : List Frame}

/-- In a comment only comments and their end tags count. -/
theorem comment_cases {grammar : Grammar} (hdepth : 1 ≤ depth)
    (h : step grammar ⟨nodes, commentFrame frame depth :: frames⟩ placed = .ok after) :
    (placed.IsTag "comment" ∧ after = ⟨[], commentFrame frame (depth + 1) :: frames⟩) ∨
    (placed.IsTag "endcomment" ∧ depth = 1 ∧ after = close .comment frame frames) ∨
    (placed.IsTag "endcomment" ∧ ∃ outer, depth = outer + 1 ∧ 1 ≤ outer ∧
      after = ⟨[], commentFrame frame outer :: frames⟩) ∨
    (¬placed.IsTag "comment" ∧ ¬placed.IsTag "endcomment" ∧ after = ⟨nodes, commentFrame frame depth :: frames⟩) := by
  by_cases hopen : placed.IsTag "comment"
  · exact .inl ⟨hopen, (Except.ok.inj ((step_comment hopen).symm.trans h)).symm⟩
  by_cases hend : placed.IsTag "endcomment"
  · rcases Nat.eq_or_lt_of_le hdepth with rfl | houter
    · exact .inr (.inl ⟨hend, rfl, (Except.ok.inj ((step_endcomment_last hend).symm.trans h)).symm⟩)
    · obtain ⟨outer, rfl⟩ : ∃ outer, depth = outer + 1 := ⟨depth - 1, by omega⟩
      have houter : 1 ≤ outer := by omega
      have hafter := Except.ok.inj ((step_endcomment_nested hend houter).symm.trans h)
      exact .inr (.inr (.inl ⟨hend, outer, rfl, houter, hafter.symm⟩))
  · exact .inr (.inr (.inr ⟨hopen, hend, (Except.ok.inj ((step_commented hopen hend).symm.trans h)).symm⟩))

theorem transition_of_comment (hdepth : 1 ≤ depth)
    (h : step (.builtin maxTerms) ⟨nodes, commentFrame frame depth :: frames⟩ placed = .ok after) :
    Transition maxTerms ⟨nodes, commentFrame frame depth :: frames⟩ placed after := by
  rcases comment_cases hdepth h with ⟨hopen, rfl⟩ | ⟨hend, rfl, rfl⟩ | ⟨hend, outer, rfl, houter, rfl⟩ |
    ⟨hopen, hend, rfl⟩
  · exact .commentOpens hopen
  · exact .commentCloses hend
  · exact .commentEnds hend houter
  · exact .commented hopen hend

/-- A tag that neither divides nor ends the innermost open tag is a node or opens one. -/
theorem transition_of_otherTag (htakes : tree.TakesNodes) (htag : placed.tag? = some (name, markup))
    (h : otherTag (.builtin maxTerms) tree name markup placed.span = .ok after) :
    Transition maxTerms tree placed after := by
  obtain ⟨meant, hmeaning, hafter⟩ := of_bind_eq_ok h
  cases meant with
  | leaf action =>
    cases hafter
    exact .node htakes (.leaf htag hmeaning)
  | opening opened =>
    have hopens : Opens maxTerms markup name opened := means_of_builtinMeaning hmeaning
    by_cases hfull : (opened.isBlock && decide (tree.depth ≥ maxNesting)) = true
    · simp [hfull, bind, Except.bind, throw, throwThe, MonadExceptOf.throw] at hafter
    · simp only [hfull] at hafter
      cases hafter
      refine .opens htakes htag hopens fun hblock ↦ ?_
      simpa [hblock] using hfull

theorem comment_or_takesNodes (hproper : Proper tree) :
    (∃ nodes frame frames depth, tree = ⟨nodes, commentFrame frame depth :: frames⟩ ∧ 1 ≤ depth) ∨
      tree.TakesNodes := by
  obtain ⟨nodes, frames⟩ := tree
  cases frames with
  | nil => exact .inr (takesNodes_nil nodes)
  | cons frame frames =>
    have hframe : frame.opened.IsProper := hproper frame List.mem_cons_self
    obtain ⟨opened, name, markup, span, before⟩ := frame
    cases opened with
    | comment depth => exact .inl ⟨nodes, ⟨.comment depth, name, markup, span, before⟩, frames, depth, rfl, hframe⟩
    | custom registration ending => exact hframe.elim
    | _ => exact .inr (takesNodes_cons trivial)

/-- A tag outside of comments ends or divides the innermost open tag if it can, and starts something otherwise. -/
theorem ending_or_other (grammar : Grammar) (htakes : tree.TakesNodes) (htag : placed.tag? = some (name, markup)) :
    (∃ nodes frame frames, tree = ⟨nodes, frame :: frames⟩ ∧ frame.opened.HasBody ∧ name ∈ frame.opened.endings ∧
      tree.step grammar placed = endTag grammar tree frame frames name markup) ∨
    tree.step grammar placed = tree.otherTag grammar name markup placed.span := by
  obtain ⟨nodes, frames⟩ := tree
  cases frames with
  | nil => exact .inr (step_other htakes htag fun frame h ↦ by cases h)
  | cons frame frames =>
    have hopened : frame.opened.HasBody := htakes frame rfl
    by_cases hname : name ∈ frame.opened.endings
    · exact .inl ⟨nodes, frame, frames, rfl, hopened, hname, step_ending hopened htag hname⟩
    · exact .inr (step_other htakes htag fun _ h ↦ Option.some.inj h ▸ hname)

theorem transition_of_tag (htakes : tree.TakesNodes) (htag : placed.tag? = some (name, markup))
    (h : tree.step (.builtin maxTerms) placed = .ok after) : Transition maxTerms tree placed after := by
  rcases ending_or_other (.builtin maxTerms) htakes htag with ⟨nodes, frame, frames, rfl, hopened, hname, hstep⟩ | hstep
  · rcases endTag_cases (Partial.depth ⟨[], frames⟩) hopened htag hname (hstep.symm.trans h) with
      ⟨action, rfl, _, hfinishes⟩ | ⟨next, rfl, _, hnext, hcontinues⟩
    · exact .closes hopened hfinishes
    · exact .divides hopened hnext hcontinues
  · exact transition_of_otherTag htakes htag (hstep.symm.trans h)

/-- Every token that is taken does one of these things. -/
theorem transition_of_step (hproper : Proper tree) (h : tree.step (.builtin maxTerms) placed = .ok after) :
    Transition maxTerms tree placed after := by
  rcases comment_or_takesNodes hproper with ⟨nodes, frame, frames, depth, rfl, hdepth⟩ | htakes
  · exact transition_of_comment hdepth h
  obtain ⟨token, span⟩ := placed
  cases token with
  | data text =>
    rw [step_of_takesNodes htakes] at h
    cases h
    exact .node htakes .data
  | raw text =>
    rw [step_of_takesNodes htakes] at h
    cases h
    exact .node htakes .raw
  | output content trimLeft trimRight =>
    rw [step_of_takesNodes htakes] at h
    obtain ⟨markup, hmarkup, hafter⟩ := of_bind_eq_ok h
    cases hafter
    exact .node htakes (.output hmarkup)
  | tag name markup trimLeft trimRight =>
    exact transition_of_tag htakes rfl h

end Liquid.Template
