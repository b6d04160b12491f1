import Liquid.Proofs.Template.ParserSteps

/-!
# What the parser accepts

The parser takes the tokens of every phrase, whatever is open around it: the phrase becomes a part of the tree, and the
open tags around it stay as they are.
-/

namespace Liquid.Template

open Partial

/-- The parser takes the tokens of a phrase inside a number of open blocks. -/
def Taken (maxTerms depth : Nat) : Phrase → List PlacedToken → Prop
  | .block nodes, tokens => ∀ tree : Partial, tree.TakesNodes → tree.depth = depth →
    tree.run (.builtin maxTerms) tokens = .ok ⟨nodes.reverse ++ tree.nodes, tree.frames⟩
  | .node node, tokens => ∀ tree : Partial, tree.TakesNodes → tree.depth = depth →
    tree.run (.builtin maxTerms) tokens = .ok (tree.add node)
  | .rest name markup body action, tokens => ∃ opened : OpenTag,
    builtinMeaning (.builtin maxTerms) name markup = .ok (.opening opened) ∧ opened.HasBody ∧
      ∀ frame frames, depth = Partial.depth ⟨[], frames⟩ → frame.opened = opened →
        run (.builtin maxTerms) ⟨body.reverse, frame :: frames⟩ tokens = .ok (close action frame frames)
  | .whens whens otherwise, tokens => ∀ subject finished nodes frame frames, depth = Partial.depth ⟨[], frames⟩ →
    frame.opened.unfinished? nodes.reverse = some (.case subject finished) →
      run (.builtin maxTerms) ⟨nodes, frame :: frames⟩ tokens =
        .ok (close (.case subject (finished ++ whens) otherwise) frame frames)
  | .branches closing branches otherwise, tokens => ∀ negated finished nodes frame frames,
    depth = Partial.depth ⟨[], frames⟩ → closing = branchEnd negated →
    frame.opened.unfinished? nodes.reverse = some (.branch negated finished) →
      run (.builtin maxTerms) ⟨nodes, frame :: frames⟩ tokens =
        .ok (close (.branch negated (finished ++ branches) otherwise) frame frames)
  | .ending closing otherwise, tokens => ∀ unfinished nodes frame frames, depth = Partial.depth ⟨[], frames⟩ →
    closing = unfinished.closing → frame.opened.unfinished? nodes.reverse = some unfinished →
      run (.builtin maxTerms) ⟨nodes, frame :: frames⟩ tokens =
        .ok (close (unfinished.finish otherwise) frame frames)

variable {maxTerms depth : Nat} {frame : Frame} {frames : List Frame} {opening placed ending : PlacedToken}
  {name markup : String} {body nodes : Block} {inside rest front back : List PlacedToken}

/-! ## Bodies and sections -/

/-- The body of a section is collected from its first node on. -/
theorem Taken.run_body (h : Taken maxTerms (depth + 1) (.block body) inside) (hbody : frame.opened.HasBody)
    (hdepth : depth = Partial.depth ⟨[], frames⟩) :
    run (.builtin maxTerms) ⟨[], frame :: frames⟩ inside = .ok ⟨body.reverse, frame :: frames⟩ := by
  have hdeeper : Partial.depth ⟨[], frame :: frames⟩ = depth + 1 := by rw [depth_cons hbody, hdepth]
  rw [h ⟨[], frame :: frames⟩ (takesNodes_cons hbody) hdeeper, List.append_nil]

/-- A tag that divides the innermost open tag begins a section, whose body is then collected. -/
theorem Taken.run_section {opened : OpenTag} (h : Taken maxTerms (depth + 1) (.block body) inside)
    (hopened : opened.HasBody) (hdepth : depth = Partial.depth ⟨[], frames⟩)
    (hstep : step (.builtin maxTerms) ⟨nodes, frame :: frames⟩ placed = .ok (divide opened frame frames)) :
    run (.builtin maxTerms) ⟨nodes, frame :: frames⟩ (placed :: inside) =
      .ok ⟨body.reverse, { frame with opened := opened } :: frames⟩ := by
  rw [run_cons_of_ok hstep]
  have hbody : Frame.opened { frame with opened := opened } |>.HasBody := hopened
  exact h.run_body hbody hdepth

theorem close_with_opened (action : Tag) (frame : Frame) (opened : OpenTag) (frames : List Frame) :
    close action { frame with opened := opened } frames = close action frame frames := rfl

theorem taken_close (hend : ending.IsTag name) : Taken maxTerms depth (.ending name none) [ending] := by
  intro unfinished nodes frame frames _ hclosing hunfinished
  subst hclosing
  obtain ⟨markup, htag⟩ := hend.exists_markup
  apply run_singleton_of_ok
  rw [step_ending (hasBody_of_unfinished hunfinished) htag (endings_of_unfinished hunfinished).2]
  exact endTag_closing _ hunfinished

theorem taken_otherwise (htag : placed.IsTag "else") (hbody : Taken maxTerms (depth + 1) (.block body) inside)
    (hend : ending.IsTag name) : Taken maxTerms depth (.ending name (some body)) (placed :: inside ++ [ending]) := by
  intro unfinished nodes frame frames hdepth hclosing hunfinished
  subst hclosing
  obtain ⟨markup, htag⟩ := htag.exists_markup
  obtain ⟨endMarkup, hend⟩ := hend.exists_markup
  have hstep : step (.builtin maxTerms) ⟨nodes, frame :: frames⟩ placed =
      .ok (divide unfinished.behindElse frame frames) := by
    rw [step_ending (hasBody_of_unfinished hunfinished) htag (endings_of_unfinished hunfinished).1]
    exact endTag_else _ hunfinished
  have hclosed : unfinished.behindElse.closed? (block ⟨body.reverse, frame :: frames⟩) =
      some (unfinished.finish (some body)) := by
    rw [unfinished.closed?_behindElse, block, List.reverse_reverse]
  have hopened : unfinished.behindElse.HasBody := hasBody_of_closed hclosed
  have hending : unfinished.closing ∈ unfinished.behindElse.endings := by simp [unfinished.endings_behindElse]
  rw [run_append_of_ok (hbody.run_section hopened hdepth hstep)]
  apply run_singleton_of_ok
  rw [step_ending hopened hend hending]
  exact endTag_closed _ hclosed

theorem taken_when {values : List Expr} {whens : List (List Expr × Block)} {otherwise : Option Block}
    (htag : placed.tag? = some ("when", markup)) (hmarkup : Header.whenValues markup = .ok values)
    (hbody : Taken maxTerms (depth + 1) (.block body) inside)
    (hrest : Taken maxTerms depth (.whens whens otherwise) rest) :
    Taken maxTerms depth (.whens ((values, body) :: whens) otherwise) (placed :: inside ++ rest) := by
  intro subject finished nodes frame frames hdepth hunfinished
  have hstep : step (.builtin maxTerms) ⟨nodes, frame :: frames⟩ placed =
      .ok (divide (.caseWhen subject finished values) frame frames) := by
    rw [step_ending (hasBody_of_unfinished hunfinished) htag (when_mem_endings hunfinished)]
    rw [endTag_when _ hunfinished, hmarkup]
    rfl
  let next : Frame := { frame with opened := .caseWhen subject finished values }
  have hopened : next.opened.HasBody := trivial
  have hnext : next.opened.unfinished? body.reverse.reverse =
      some (.case subject (finished ++ [(values, body)])) := by
    rw [List.reverse_reverse]
    rfl
  calc
    run (.builtin maxTerms) ⟨nodes, frame :: frames⟩ (placed :: inside ++ rest)
    _ = run (.builtin maxTerms) ⟨body.reverse, next :: frames⟩ rest :=
      run_append_of_ok (hbody.run_section hopened hdepth hstep)
    _ = .ok (close (.case subject (finished ++ [(values, body)] ++ whens) otherwise) next frames) :=
      hrest subject _ _ next frames hdepth hnext
    _ = .ok (close (.case subject (finished ++ (values, body) :: whens) otherwise) frame frames) := by
      rw [close_with_opened, List.append_assoc, List.singleton_append]

theorem taken_elsif {terms : Nat} {condition : Condition} {branches : List (Condition × Block)}
    {otherwise : Option Block} (htag : placed.tag? = some ("elsif", markup))
    (hmarkup : Condition.parse markup "elsif" maxTerms = .ok (condition, terms))
    (hbody : Taken maxTerms (depth + 1) (.block body) inside)
    (hrest : Taken maxTerms depth (.branches name branches otherwise) rest) :
    Taken maxTerms depth (.branches name ((condition, body) :: branches) otherwise) (placed :: inside ++ rest) := by
  intro negated finished nodes frame frames hdepth hclosing hunfinished
  have hstep : step (.builtin maxTerms) ⟨nodes, frame :: frames⟩ placed =
      .ok (divide (.branch negated finished condition) frame frames) := by
    rw [step_ending (hasBody_of_unfinished hunfinished) htag (elsif_mem_endings hunfinished)]
    rw [endTag_elsif _ hunfinished, Grammar.builtin, hmarkup]
    rfl
  let next : Frame := { frame with opened := .branch negated finished condition }
  have hopened : next.opened.HasBody := trivial
  have hnext : next.opened.unfinished? body.reverse.reverse =
      some (.branch negated (finished ++ [(condition, body)])) := by
    rw [List.reverse_reverse]
    rfl
  calc
    run (.builtin maxTerms) ⟨nodes, frame :: frames⟩ (placed :: inside ++ rest)
    _ = run (.builtin maxTerms) ⟨body.reverse, next :: frames⟩ rest :=
      run_append_of_ok (hbody.run_section hopened hdepth hstep)
    _ = .ok (close (.branch negated (finished ++ [(condition, body)] ++ branches) otherwise) next frames) :=
      hrest negated _ _ next frames hdepth hclosing hnext
    _ = .ok (close (.branch negated (finished ++ (condition, body) :: branches) otherwise) frame frames) := by
      rw [close_with_opened, List.append_assoc, List.singleton_append]

theorem taken_lastWhen {otherwise : Option Block} (h : Taken maxTerms depth (.ending "endcase" otherwise) rest) :
    Taken maxTerms depth (.whens [] otherwise) rest := by
  intro subject finished nodes frame frames hdepth hunfinished
  rw [h (.case subject finished) nodes frame frames hdepth rfl hunfinished, List.append_nil]
  rfl

theorem taken_lastBranch {otherwise : Option Block} (h : Taken maxTerms depth (.ending name otherwise) rest) :
    Taken maxTerms depth (.branches name [] otherwise) rest := by
  intro negated finished nodes frame frames hdepth hclosing hunfinished
  rw [h (.branch negated finished) nodes frame frames hdepth hclosing hunfinished, List.append_nil]
  rfl

/-! ## Block tags -/

/-- A tag with one body and nothing but its end tag behind it. -/
theorem taken_single {opened : OpenTag} {closing : String} {action : Tag} (hopens : Opens maxTerms markup name opened)
    (hclosed : opened.closed? body = some action) (hending : opened.endings = [closing])
    (hend : ending.IsTag closing) : Taken maxTerms depth (.rest name markup body action) [ending] := by
  have hopened : opened.HasBody := hasBody_of_closed hclosed
  refine ⟨opened, builtinMeaning_of_opens hopens, hopened, ?_⟩
  rintro frame frames hdepth rfl
  obtain ⟨text, htag⟩ := hend.exists_markup
  apply run_singleton_of_ok
  rw [step_ending hopened htag (hending ▸ List.mem_singleton_self _)]
  apply endTag_closed
  rw [block, List.reverse_reverse, hclosed]

theorem taken_capture {target : String} (hmarkup : Header.captureTarget markup = .ok target)
    (hend : ending.IsTag "endcapture") :
    Taken maxTerms depth (.rest "capture" markup body (.capture target body)) [ending] :=
  taken_single (.capture hmarkup) rfl rfl hend

theorem taken_ifChanged (hend : ending.IsTag "endifchanged") :
    Taken maxTerms depth (.rest "ifchanged" markup body (.ifChanged body)) [ending] :=
  taken_single .ifChanged rfl rfl hend

theorem taken_table {header : TableHeader} (hmarkup : Header.table markup = .ok header)
    (hend : ending.IsTag "endtablerow") :
    Taken maxTerms depth (.rest "tablerow" markup body (.table header body)) [ending] :=
  taken_single (.table hmarkup) rfl rfl hend

theorem taken_loop {header : LoopHeader} {otherwise : Option Block} (hmarkup : Header.loop markup = .ok header)
    (hrest : Taken maxTerms depth (.ending "endfor" otherwise) rest) :
    Taken maxTerms depth (.rest "for" markup body (.loop header body otherwise)) rest := by
  refine ⟨.loop header, builtinMeaning_of_opens (.loop hmarkup), trivial, fun frame frames hdepth hframe ↦ ?_⟩
  apply hrest (.loop header body) body.reverse frame frames hdepth rfl
  rw [hframe, List.reverse_reverse]
  rfl

theorem taken_case {subject : Expr} {whens : List (List Expr × Block)} {otherwise : Option Block}
    (hmarkup : Header.subject markup = .ok subject) (hrest : Taken maxTerms depth (.whens whens otherwise) rest) :
    Taken maxTerms depth (.rest "case" markup body (.case subject whens otherwise)) rest := by
  refine ⟨.caseStart subject, builtinMeaning_of_opens (.case hmarkup), trivial, fun frame frames hdepth hframe ↦ ?_⟩
  apply hrest subject [] body.reverse frame frames hdepth
  rw [hframe]
  rfl

theorem taken_branch {terms : Nat} {negated : Bool} {condition : Condition} {branches : List (Condition × Block)}
    {otherwise : Option Block} (hname : name = if negated then "unless" else "if")
    (hmarkup : Condition.parse markup name maxTerms = .ok (condition, terms))
    (hrest : Taken maxTerms depth (.branches (branchEnd negated) branches otherwise) rest) :
    Taken maxTerms depth (.rest name markup body (.branch negated ((condition, body) :: branches) otherwise)) rest := by
  refine ⟨.branch negated [] condition, builtinMeaning_of_opens (.branch hname hmarkup), trivial, fun frame frames hdepth hframe ↦ ?_⟩
  apply hrest negated [(condition, body)] body.reverse frame frames hdepth rfl
  rw [hframe, List.reverse_reverse]
  rfl

/-! ## Nodes -/

theorem taken_tag {action : Tag} (hopen : opening.tag? = some (name, markup)) (hdepth : depth < maxNesting)
    (hbody : Taken maxTerms (depth + 1) (.block body) inside)
    (hrest : Taken maxTerms depth (.rest name markup body action) rest) :
    Taken maxTerms depth (.node (.tag name markup opening.span action)) (opening :: inside ++ rest) := by
  obtain ⟨opened, hmeaning, hopened, hclose⟩ := hrest
  rintro tree htakes rfl
  let frame : Frame := ⟨opened, name, markup, opening.span, tree.nodes⟩
  have hopening : tree.step (.builtin maxTerms) opening = .ok ⟨[], frame :: tree.frames⟩ :=
    step_opening htakes hopen hmeaning fun _ ↦ hdepth
  have hinside : run (.builtin maxTerms) ⟨[], frame :: tree.frames⟩ inside = .ok ⟨body.reverse, frame :: tree.frames⟩ :=
    hbody.run_body hopened rfl
  calc
    tree.run (.builtin maxTerms) (opening :: inside ++ rest)
    _ = run (.builtin maxTerms) ⟨[], frame :: tree.frames⟩ (inside ++ rest) := run_cons_of_ok hopening
    _ = run (.builtin maxTerms) ⟨body.reverse, frame :: tree.frames⟩ rest := run_append_of_ok hinside
    _ = .ok (close action frame tree.frames) := hclose frame tree.frames rfl rfl

theorem taken_comment (hopen : opening.tag? = some ("comment", markup)) (hinside : Commented inside)
    (hend : ending.IsTag "endcomment") :
    Taken maxTerms depth (.node (.tag "comment" markup opening.span .comment)) (opening :: inside ++ [ending]) := by
  intro tree htakes hdepth
  let frame : Frame := ⟨.comment 1, "comment", markup, opening.span, tree.nodes⟩
  have hopening : tree.step (.builtin maxTerms) opening = .ok ⟨[], commentFrame frame 1 :: tree.frames⟩ := by
    apply step_opening htakes hopen rfl
    intro hblock
    cases hblock
  calc
    tree.run (.builtin maxTerms) (opening :: inside ++ [ending])
    _ = run (.builtin maxTerms) ⟨[], commentFrame frame 1 :: tree.frames⟩ (inside ++ [ending]) := run_cons_of_ok hopening
    _ = run (.builtin maxTerms) ⟨[], commentFrame frame 1 :: tree.frames⟩ [ending] :=
      run_append_of_ok (run_commented hinside (Nat.le_refl 1))
    _ = .ok (close .comment frame tree.frames) := run_singleton_of_ok (step_endcomment_last hend)

theorem taken_cons {node : Node} (hnode : Taken maxTerms depth (.node node) front)
    (hnodes : Taken maxTerms depth (.block nodes) back) :
    Taken maxTerms depth (.block (node :: nodes)) (front ++ back) := by
  intro tree htakes hdepth
  calc
    tree.run (.builtin maxTerms) (front ++ back)
    _ = (tree.add node).run (.builtin maxTerms) back := run_append_of_ok (hnode tree htakes hdepth)
    _ = .ok ⟨nodes.reverse ++ (tree.add node).nodes, tree.frames⟩ := hnodes (tree.add node) (htakes.add node) hdepth
    _ = .ok ⟨(node :: nodes).reverse ++ tree.nodes, tree.frames⟩ := by simp [add]

theorem taken_output {content : String} {trimLeft trimRight : Bool} {parsed : Markup} {span : Span}
    (hmarkup : Markup.parse content = .ok parsed) :
    Taken maxTerms depth (.node (.output parsed span)) [⟨.output content trimLeft trimRight, span⟩] := by
  intro tree htakes hdepth
  apply run_singleton_of_ok
  rw [step_of_takesNodes htakes]
  simp [outsideComment, hmarkup, Grammar.builtin, bind, Except.bind, pure, Except.pure]

/-- What the grammar spells, the parser takes. -/
theorem taken_of_spelled {phrase : Phrase} {tokens : List PlacedToken} (h : Spelled maxTerms depth phrase tokens) :
    Taken maxTerms depth phrase tokens := by
  -- The trees that a phrase is taken in are in `Taken`, so the induction on the derivation needs nothing more general.
  induction h with
  | nil => exact fun tree _ _ ↦ rfl
  | cons _ _ hnode hnodes => exact taken_cons hnode hnodes
  | data | raw => exact fun tree htakes _ ↦ run_singleton_of_ok (step_of_takesNodes htakes _)
  | output hmarkup => exact taken_output hmarkup
  | leaf htag hleaf => exact fun tree htakes _ ↦ run_singleton_of_ok (step_leaf htakes htag hleaf)
  | comment hopen hinside hend => exact taken_comment hopen hinside hend
  | tag hopen hdepth _ _ hbody hrest => exact taken_tag hopen hdepth hbody hrest
  | capture hmarkup hend => exact taken_capture hmarkup hend
  | ifChanged hend => exact taken_ifChanged hend
  | table hmarkup hend => exact taken_table hmarkup hend
  | loop hmarkup _ hrest => exact taken_loop hmarkup hrest
  | case hmarkup _ hrest => exact taken_case hmarkup hrest
  | branch hname hmarkup _ hrest => exact taken_branch hname hmarkup hrest
  | lastWhen _ hrest => exact taken_lastWhen hrest
  | when htag hmarkup _ _ hbody hrest => exact taken_when htag hmarkup hbody hrest
  | lastBranch _ hrest => exact taken_lastBranch hrest
  | elsif htag hmarkup _ _ hbody hrest => exact taken_elsif htag hmarkup hbody hrest
  | close hend => exact taken_close hend
  | otherwise htag _ hend hbody => exact taken_otherwise htag hbody hend

end Liquid.Template
