import Liquid.Proofs.Template.Spelling

/-!
# Steps of the parser

What a token does to a tree in the making, for the tokens that the parser can meet there: nodes and opening tags where
nodes are collected, the tags that divide or end the innermost open tag, and the contents of a comment.
-/

namespace Liquid.Template

/-! ## Open tags -/

/-- Whether an open tag is a built-in one that has a body. -/
def OpenTag.HasBody : OpenTag → Prop
  | .comment _ | .custom _ _ => False
  | _ => True

theorem OpenTag.HasBody.isBlock {opened : OpenTag} (h : opened.HasBody) : opened.isBlock = true := by
  cases opened with
  | comment depth => exact h.elim
  | _ => rfl

/-- The tags that divide or end the built-in block tags. -/
def sectionTags : List String :=
  ["when", "else", "elsif", "endcapture", "endcase", "endfor", "endif", "endunless", "endifchanged", "endtablerow"]

theorem OpenTag.HasBody.endings_subset {opened : OpenTag} (h : opened.HasBody) : opened.endings ⊆ sectionTags := by
  cases opened with
  | comment depth => exact h.elim
  | custom registration ending => exact h.elim
  | branch negated branches condition => cases negated <;> simp [endings, branchEnd, sectionTags]
  | branchElse negated branches => cases negated <;> simp [endings, branchEnd, sectionTags]
  | _ => simp [endings, sectionTags]

/-- A tag that divides or ends a block means nothing on its own. -/
theorem builtinMeaning_sectionTag (grammar : Grammar) {name : String} (markup : String) (h : name ∈ sectionTags) :
    builtinMeaning grammar name markup = .error (strayTag name) := by
  simp only [sectionTags, List.mem_cons, List.not_mem_nil, or_false] at h
  rcases h with rfl | rfl | rfl | rfl | rfl | rfl | rfl | rfl | rfl | rfl <;> rfl

/-! ## Meanings of tags -/

/-- Whether a tag consists of one token. -/
def StandsAlone : Tag → Prop
  | .assign _ _ | .cycle _ _ | .increment _ | .decrement _ | .breakLoop | .continueLoop | .include _ => True
  | _ => False

/-- A tag with a name and a markup opens a built-in tag. -/
inductive Opens (maxTerms : Nat) (markup : String) : (name : String) → OpenTag → Prop where
  | capture {target : String} (hmarkup : Header.captureTarget markup = .ok target) :
      Opens maxTerms markup "capture" (.capture target)
  | case {subject : Expr} (hmarkup : Header.subject markup = .ok subject) :
      Opens maxTerms markup "case" (.caseStart subject)
  | comment : Opens maxTerms markup "comment" (.comment 1)
  | loop {header : LoopHeader} (hmarkup : Header.loop markup = .ok header) :
      Opens maxTerms markup "for" (.loop header)
  | branch {name : String} {negated : Bool} {condition : Condition} {terms : Nat}
      (hname : name = if negated then "unless" else "if")
      (hmarkup : Condition.parse markup name maxTerms = .ok (condition, terms)) :
      Opens maxTerms markup name (.branch negated [] condition)
  | ifChanged : Opens maxTerms markup "ifchanged" .ifChanged
  | table {header : TableHeader} (hmarkup : Header.table markup = .ok header) :
      Opens maxTerms markup "tablerow" (.table header)

theorem builtinMeaning_of_opens {maxTerms : Nat} {name markup : String} {opened : OpenTag}
    (h : Opens maxTerms markup name opened) :
    builtinMeaning (.builtin maxTerms) name markup = .ok (.opening opened) := by
  cases h with
  | capture hmarkup | case hmarkup | loop hmarkup | table hmarkup =>
    rw [builtinMeaning, hmarkup]
    rfl
  | comment | ifChanged => rfl
  | @branch _ negated condition terms hname hmarkup =>
    have hmeaning : builtinMeaning (.builtin maxTerms) name markup =
        Condition.parse markup name maxTerms >>= fun parsed ↦ .ok (.opening (.branch negated [] parsed.1)) := by
      cases negated <;> subst hname <;> rfl
    rw [hmeaning, hmarkup]
    rfl

/-- What a tag with a name and a markup can mean. -/
def Means (maxTerms : Nat) (name markup : String) : Meaning → Prop
  | .leaf action => StandsAlone action
  | .opening opened => Opens maxTerms markup name opened

theorem means_of_builtinMeaning {maxTerms : Nat} {name markup : String} {meant : Meaning}
    (h : builtinMeaning (.builtin maxTerms) name markup = .ok meant) : Means maxTerms name markup meant := by
  unfold builtinMeaning at h
  split at h
  -- The cases that read their markup, in the order of the names.
  case h_1 | h_5 | h_6 | h_7 | h_14 =>
    obtain ⟨value, _, hmeant⟩ := of_bind_eq_ok h
    cases hmeant
    trivial
  case h_2 =>
    obtain ⟨target, hmarkup, hmeant⟩ := of_bind_eq_ok h
    cases hmeant
    exact .capture hmarkup
  case h_3 =>
    obtain ⟨subject, hmarkup, hmeant⟩ := of_bind_eq_ok h
    cases hmeant
    exact .case hmarkup
  case h_8 =>
    obtain ⟨header, hmarkup, hmeant⟩ := of_bind_eq_ok h
    cases hmeant
    exact .loop hmarkup
  case h_11 =>
    obtain ⟨⟨condition, terms⟩, hmarkup, hmeant⟩ := of_bind_eq_ok h
    cases hmeant
    exact .branch rfl hmarkup
  case h_12 =>
    obtain ⟨⟨condition, terms⟩, hmarkup, hmeant⟩ := of_bind_eq_ok h
    cases hmeant
    exact .branch rfl hmarkup
  case h_15 =>
    obtain ⟨header, hmarkup, hmeant⟩ := of_bind_eq_ok h
    cases hmeant
    exact .table hmarkup
  -- The cases that ignore it.
  case h_4 =>
    cases h
    exact .comment
  case h_13 =>
    cases h
    exact .ifChanged
  case h_9 | h_10 =>
    cases h
    trivial
  -- An unknown name means nothing.
  case h_16 => split at h <;> cases h

namespace Partial

/-- Whether the nodes of a tree are collected in a body or outside of all tags. -/
def TakesNodes (tree : Partial) : Prop := ∀ frame ∈ tree.frames.head?, frame.opened.HasBody

variable {grammar : Grammar} {tree after : Partial} {frame : Frame} {frames : List Frame} {nodes : List Node}
  {placed : PlacedToken} {name markup : String} {front back : List PlacedToken}

theorem depth_cons (hbody : frame.opened.HasBody) : depth ⟨nodes, frame :: frames⟩ = depth ⟨[], frames⟩ + 1 := by
  simp [depth, hbody.isBlock]

theorem TakesNodes.add (h : tree.TakesNodes) (node : Node) : (tree.add node).TakesNodes := h

theorem takesNodes_nil (nodes : List Node) : TakesNodes ⟨nodes, []⟩ := fun _ h ↦ by cases h

theorem takesNodes_cons (hbody : frame.opened.HasBody) : TakesNodes ⟨nodes, frame :: frames⟩ :=
  fun _ h ↦ Option.some.inj h ▸ hbody

theorem run_append (front back : List PlacedToken) (tree : Partial) :
    run grammar tree (front ++ back) = (run grammar tree front).bind fun after ↦ run grammar after back := by
  induction front generalizing tree with
  | nil => rfl
  | cons placed front ih =>
    rw [List.cons_append, run, run]
    cases tree.step grammar placed with
    | ok after => exact ih after
    | error fault => rfl

theorem run_append_of_ok (h : run grammar tree front = .ok after) :
    run grammar tree (front ++ back) = run grammar after back := by
  rw [run_append, h]
  rfl

theorem run_cons_of_ok (h : tree.step grammar placed = .ok after) :
    run grammar tree (placed :: back) = run grammar after back := by
  rw [run, h]

theorem of_run_cons_eq_ok {last : Partial} (h : run grammar tree (placed :: back) = .ok last) :
    ∃ next, tree.step grammar placed = .ok next ∧ run grammar next back = .ok last := by
  rw [run] at h
  cases hstep : tree.step grammar placed with
  | ok next =>
    rw [hstep] at h
    exact ⟨next, rfl, h⟩
  | error fault =>
    rw [hstep] at h
    cases h

theorem run_singleton_of_ok (h : tree.step grammar placed = .ok after) :
    run grammar tree [placed] = .ok after := run_cons_of_ok h

theorem step_of_takesNodes (h : tree.TakesNodes) (placed : PlacedToken) :
    tree.step grammar placed = tree.outsideComment grammar placed := by
  obtain ⟨nodes, frames⟩ := tree
  cases frames with
  | nil => rfl
  | cons frame frames =>
    have hbody : frame.opened.HasBody := h frame rfl
    obtain ⟨opened, name, markup, span, before⟩ := frame
    cases opened with
    | comment depth => exact hbody.elim
    | _ => rfl

/-- A tag that divides or ends the innermost open tag belongs to it. -/
theorem step_ending (hbody : frame.opened.HasBody) (htag : placed.tag? = some (name, markup))
    (hending : name ∈ frame.opened.endings) :
    step grammar ⟨nodes, frame :: frames⟩ placed = endTag grammar ⟨nodes, frame :: frames⟩ frame frames name markup := by
  rw [step_of_takesNodes (takesNodes_cons hbody), outsideComment]
  obtain ⟨token, span⟩ := placed
  cases token with
  | tag other text trimLeft trimRight =>
    cases htag
    simp [hending]
  | _ => simp [PlacedToken.tag?] at htag

/-- Any other tag starts something. -/
theorem step_other (htakes : tree.TakesNodes) (htag : placed.tag? = some (name, markup))
    (hname : ∀ frame ∈ tree.frames.head?, name ∉ frame.opened.endings) :
    tree.step grammar placed = tree.otherTag grammar name markup placed.span := by
  rw [step_of_takesNodes htakes, outsideComment]
  obtain ⟨token, span⟩ := placed
  obtain ⟨nodes, frames⟩ := tree
  cases token with
  | tag other text trimLeft trimRight =>
    cases htag
    cases frames with
    | nil => rfl
    | cons frame frames =>
      have hending : name ∉ frame.opened.endings := hname frame rfl
      simp [hending]
  | _ => simp [PlacedToken.tag?] at htag

/-- A tag that means something where no open tag expects it is taken as that. -/
theorem step_meaning {maxTerms : Nat} {meant : Meaning} (htakes : tree.TakesNodes)
    (htag : placed.tag? = some (name, markup)) (hmeaning : builtinMeaning (.builtin maxTerms) name markup = .ok meant) :
    tree.step (.builtin maxTerms) placed = tree.otherTag (.builtin maxTerms) name markup placed.span := by
  refine step_other htakes htag fun frame hframe hname ↦ ?_
  have hsection : name ∈ sectionTags := (htakes frame hframe).endings_subset hname
  rw [builtinMeaning_sectionTag _ _ hsection] at hmeaning
  cases hmeaning

theorem step_leaf {maxTerms : Nat} {action : Tag} (htakes : tree.TakesNodes)
    (htag : placed.tag? = some (name, markup))
    (hmeaning : builtinMeaning (.builtin maxTerms) name markup = .ok (.leaf action)) :
    tree.step (.builtin maxTerms) placed = .ok (tree.add (.tag name markup placed.span action)) := by
  have hother : meaning (.builtin maxTerms) name markup = .ok (.leaf action) := hmeaning
  rw [step_meaning htakes htag hmeaning, otherTag, hother]
  rfl

theorem step_opening {maxTerms : Nat} {opened : OpenTag} (htakes : tree.TakesNodes)
    (htag : placed.tag? = some (name, markup))
    (hmeaning : builtinMeaning (.builtin maxTerms) name markup = .ok (.opening opened))
    (hdepth : opened.isBlock = true → tree.depth < maxNesting) :
    tree.step (.builtin maxTerms) placed =
      .ok ⟨[], ⟨opened, name, markup, placed.span, tree.nodes⟩ :: tree.frames⟩ := by
  have hother : meaning (.builtin maxTerms) name markup = .ok (.opening opened) := hmeaning
  have hfits : (opened.isBlock && decide (tree.depth ≥ maxNesting)) = false := by
    cases hblock : opened.isBlock with
    | false => rfl
    | true => simpa using hdepth hblock
  rw [step_meaning htakes htag hmeaning, otherTag, hother]
  simp [bind, Except.bind, hfits, pure, Except.pure]

end Partial

/-! ## Comments -/

namespace Partial

variable {grammar : Grammar} {frame : Frame} {frames : List Frame} {nodes : List Node} {placed : PlacedToken}
  {depth : Nat}

theorem token_of_isTag {name : String} (h : placed.IsTag name) :
    ∃ markup trimLeft trimRight, placed.token = .tag name markup trimLeft trimRight := by
  obtain ⟨token, span⟩ := placed
  cases token with
  | tag other markup trimLeft trimRight =>
    cases h
    exact ⟨markup, trimLeft, trimRight, rfl⟩
  | _ => cases h

/-- A frame whose tag is a comment with a number of comments open in it. -/
def commentFrame (frame : Frame) (depth : Nat) : Frame := { frame with opened := .comment depth }

theorem step_comment (h : placed.IsTag "comment") :
    step grammar ⟨nodes, commentFrame frame depth :: frames⟩ placed =
      .ok ⟨[], commentFrame frame (depth + 1) :: frames⟩ := by
  obtain ⟨token, span⟩ := placed
  obtain ⟨markup, trimLeft, trimRight, rfl⟩ := token_of_isTag h
  rfl

theorem step_endcomment_nested (h : placed.IsTag "endcomment") (hdepth : 1 ≤ depth) :
    step grammar ⟨nodes, commentFrame frame (depth + 1) :: frames⟩ placed =
      .ok ⟨[], commentFrame frame depth :: frames⟩ := by
  obtain ⟨token, span⟩ := placed
  obtain ⟨markup, trimLeft, trimRight, rfl⟩ := token_of_isTag h
  have hback : ¬depth + 1 ≤ 1 := by omega
  exact congrArg Except.ok (if_neg hback)

theorem step_endcomment_last (h : placed.IsTag "endcomment") :
    step grammar ⟨nodes, commentFrame frame 1 :: frames⟩ placed = .ok (close .comment frame frames) := by
  obtain ⟨token, span⟩ := placed
  obtain ⟨markup, trimLeft, trimRight, rfl⟩ := token_of_isTag h
  rfl

theorem step_commented (hopen : ¬placed.IsTag "comment") (hend : ¬placed.IsTag "endcomment") :
    step grammar ⟨nodes, commentFrame frame depth :: frames⟩ placed =
      .ok ⟨nodes, commentFrame frame depth :: frames⟩ := by
  obtain ⟨token, span⟩ := placed
  cases token with
  | tag name markup trimLeft trimRight =>
    have hopen : name ≠ "comment" := fun h ↦ hopen (congrArg some h)
    have hend : name ≠ "endcomment" := fun h ↦ hend (congrArg some h)
    simp [step, commentFrame, insideComment, hopen, hend, pure, Except.pure]
  | _ => rfl

/-- What stands in a comment leaves it as it is. -/
theorem run_commented {inside : List PlacedToken} (h : Commented inside) (hdepth : 1 ≤ depth) :
    run grammar ⟨[], commentFrame frame depth :: frames⟩ inside =
      .ok ⟨[], commentFrame frame depth :: frames⟩ := by
  induction h generalizing depth with
  | nil => rfl
  | skip hopen hend hrest ih =>
    rw [run_cons_of_ok (step_commented hopen hend)]
    exact ih hdepth
  | nested hopen hinside hend hrest ihInside ihRest =>
    rw [List.cons_append, run_cons_of_ok (step_comment hopen)]
    rw [run_append_of_ok (ihInside (Nat.le_add_left 1 depth))]
    rw [run_cons_of_ok (step_endcomment_nested hend hdepth)]
    exact ihRest hdepth

end Partial

/-! ## Ends of bodies -/

/-- The tag that an open tag comes to at the end of a body, if that was its last one. -/
def OpenTag.closed? : OpenTag → Block → Option Tag
  | .capture target, body => some (.capture target body)
  | .caseElse subject whens, body => some (.case subject whens (some body))
  | .loopElse header first, body => some (.loop header first (some body))
  | .branchElse negated branches, body => some (.branch negated branches (some body))
  | .ifChanged, body => some (.ifChanged body)
  | .table header, body => some (.table header body)
  | _, _ => none

/-- A tag that may end here or go on with an `else`: what its sections so far make of it. -/
inductive Unfinished where
  | loop (header : LoopHeader) (body : Block)
  | case (subject : Expr) (whens : List (List Expr × Block))
  | branch (negated : Bool) (branches : List (Condition × Block))

namespace Unfinished

/-- The tag without an `else` or with the body of one. -/
def finish : Unfinished → Option Block → Tag
  | loop header body => .loop header body
  | case subject whens => .case subject whens
  | branch negated branches => .branch negated branches

/-- The name of the end tag. -/
def closing : Unfinished → String
  | loop _ _ => "endfor"
  | case _ _ => "endcase"
  | branch negated _ => branchEnd negated

/-- The open tag behind its `else`. -/
def behindElse : Unfinished → OpenTag
  | loop header body => .loopElse header body
  | case subject whens => .caseElse subject whens
  | branch negated branches => .branchElse negated branches

theorem closed?_behindElse (unfinished : Unfinished) (body : Block) :
    unfinished.behindElse.closed? body = some (unfinished.finish (some body)) := by
  cases unfinished <;> rfl

theorem endings_behindElse (unfinished : Unfinished) : unfinished.behindElse.endings = [unfinished.closing] := by
  cases unfinished <;> rfl

end Unfinished

/-- What an open tag comes to at the end of a body, if it may go on with an `else`. -/
def OpenTag.unfinished? : OpenTag → Block → Option Unfinished
  | .caseStart subject, _ => some (.case subject [])
  | .caseWhen subject whens values, body => some (.case subject (whens ++ [(values, body)]))
  | .loop header, body => some (.loop header body)
  | .branch negated branches condition, body => some (.branch negated (branches ++ [(condition, body)]))
  | _, _ => none

namespace Partial

variable {grammar : Grammar} {frame : Frame} {frames : List Frame} {unfinished : Unfinished} {name markup : String}

theorem hasBody_of_closed {opened : OpenTag} {body : Block} {action : Tag} (h : opened.closed? body = some action) :
    opened.HasBody := by
  cases opened <;> trivial

theorem hasBody_of_unfinished {opened : OpenTag} {body : Block} (h : opened.unfinished? body = some unfinished) :
    opened.HasBody := by
  cases opened <;> trivial

theorem endings_of_unfinished {opened : OpenTag} {body : Block} (h : opened.unfinished? body = some unfinished) :
    "else" ∈ opened.endings ∧ unfinished.closing ∈ opened.endings := by
  cases opened <;> cases h <;> simp [OpenTag.endings, Unfinished.closing]

theorem when_mem_endings {opened : OpenTag} {body : Block} {subject : Expr} {whens : List (List Expr × Block)}
    (h : opened.unfinished? body = some (.case subject whens)) : "when" ∈ opened.endings := by
  cases opened <;> cases h <;> simp [OpenTag.endings]

theorem elsif_mem_endings {opened : OpenTag} {body : Block} {negated : Bool} {branches : List (Condition × Block)}
    (h : opened.unfinished? body = some (.branch negated branches)) : "elsif" ∈ opened.endings := by
  cases opened <;> cases h
  simp [OpenTag.endings]

/-- The tags that may follow a body of a tag that may go on with an `else`. -/
theorem ending_of_unfinished {opened : OpenTag} {body : Block} (h : opened.unfinished? body = some unfinished)
    (hname : name ∈ opened.endings) :
    name = unfinished.closing ∨ name = "else" ∨ (name = "when" ∧ ∃ subject whens, unfinished = .case subject whens) ∨
      (name = "elsif" ∧ ∃ negated branches, unfinished = .branch negated branches) := by
  cases opened <;> cases h <;> simp only [OpenTag.endings, List.mem_cons, List.not_mem_nil, or_false] at hname <;>
    rcases hname with rfl | rfl | rfl <;> simp [Unfinished.closing]

theorem getLast?_endings_of_unfinished {opened : OpenTag} {body : Block}
    (h : opened.unfinished? body = some unfinished) : opened.endings.getLast? = some unfinished.closing := by
  cases opened <;> cases h <;> rfl

theorem endTag_closing (tree : Partial) (h : frame.opened.unfinished? tree.block = some unfinished) :
    endTag grammar tree frame frames unfinished.closing markup = .ok (close (unfinished.finish none) frame frames) := by
  obtain ⟨opened, title, text, span, before⟩ := frame
  cases opened with
  | branch negated branches condition =>
    cases h
    cases negated <;> rfl
  | _ => cases h <;> rfl

theorem endTag_else (tree : Partial) (h : frame.opened.unfinished? tree.block = some unfinished) :
    endTag grammar tree frame frames "else" markup = .ok (divide unfinished.behindElse frame frames) := by
  obtain ⟨opened, title, text, span, before⟩ := frame
  cases opened <;> cases h <;> rfl

theorem endTag_closed (tree : Partial) {action : Tag} (h : frame.opened.closed? tree.block = some action) :
    endTag grammar tree frame frames name markup = .ok (close action frame frames) := by
  obtain ⟨opened, title, text, span, before⟩ := frame
  cases opened <;> cases h <;> rfl

theorem endTag_when (tree : Partial) {subject : Expr} {whens : List (List Expr × Block)}
    (h : frame.opened.unfinished? tree.block = some (.case subject whens)) :
    endTag grammar tree frame frames "when" markup = do
      return divide (.caseWhen subject whens (← Header.whenValues markup)) frame frames := by
  obtain ⟨opened, title, text, span, before⟩ := frame
  cases opened <;> cases h <;> rfl

theorem endTag_elsif (tree : Partial) {negated : Bool} {branches : List (Condition × Block)}
    (h : frame.opened.unfinished? tree.block = some (.branch negated branches)) :
    endTag grammar tree frame frames "elsif" markup = do
      let (condition, _) ← Condition.parse markup "elsif" grammar.maxTerms
      return divide (.branch negated branches condition) frame frames := by
  obtain ⟨opened, title, text, span, before⟩ := frame
  cases opened <;> cases h
  rfl

end Partial

end Liquid.Template
