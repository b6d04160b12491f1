import Liquid.Proofs.Template.Acceptance
import Liquid.Proofs.Template.Listing
import Liquid.Proofs.Template.Transitions

/-!
# The parser and the grammar

The parser accepts the tokens that spell a block, and no others. A tree in the making is read from behind: the tokens that
are left complete it if they finish its open tags one after the other, the innermost first, and every token that is taken
can be put in front of them.
-/

namespace Liquid.Template

open Partial

/-! ## Completing a tree -/

/-- The tokens end a number of comments, one inside the other. -/
inductive EndsComments : (depth : Nat) → List PlacedToken → Prop where
  | last {inside : List PlacedToken} {ending : PlacedToken} (hinside : Commented inside)
      (hend : ending.IsTag "endcomment") : EndsComments 1 (inside ++ [ending])
  | outer {depth : Nat} {inside rest : List PlacedToken} {ending : PlacedToken} (hinside : Commented inside)
      (hend : ending.IsTag "endcomment") (hrest : EndsComments depth rest) :
      EndsComments (depth + 1) (inside ++ ending :: rest)

/-- The tokens end the innermost open tag, of which the given nodes are collected. -/
inductive Ends (maxTerms depth : Nat) : OpenTag → List Node → Tag → List PlacedToken → Prop where
  | comment {count : Nat} {nodes : List Node} {tokens : List PlacedToken} (h : EndsComments count tokens) :
      Ends maxTerms depth (.comment count) nodes .comment tokens
  | body {opened : OpenTag} {nodes more : List Node} {action : Tag} {inside rest : List PlacedToken}
      (hopened : opened.HasBody) (hinside : Spelled maxTerms (depth + 1) (.block more) inside)
      (hrest : Finishes maxTerms depth opened (nodes.reverse ++ more) action rest) :
      Ends maxTerms depth opened nodes action (inside ++ rest)

/-- The tokens complete a tree to a block. -/
inductive Completes (maxTerms : Nat) (block : Block) : Partial → List PlacedToken → Prop where
  | document {nodes more : List Node} {tokens : List PlacedToken} (hblock : block = nodes.reverse ++ more)
      (hmore : Spelled maxTerms 0 (.block more) tokens) : Completes maxTerms block ⟨nodes, []⟩ tokens
  | frame {nodes : List Node} {frame : Frame} {frames : List Frame} {action : Tag} {inside rest : List PlacedToken}
      (hinside : Ends maxTerms (Partial.depth ⟨[], frames⟩) frame.opened nodes action inside)
      (hrest : Completes maxTerms block (close action frame frames) rest) :
      Completes maxTerms block ⟨nodes, frame :: frames⟩ (inside ++ rest)

variable {maxTerms depth : Nat} {block : Block} {tree after : Partial} {nodes : List Node} {frame : Frame}
  {frames : List Frame} {placed : PlacedToken} {tokens front : List PlacedToken}

theorem EndsComments.skip (h : EndsComments depth tokens) (hopen : ¬placed.IsTag "comment")
    (hend : ¬placed.IsTag "endcomment") : EndsComments depth (placed :: tokens) := by
  cases h with
  | last hinside hlast => exact .last (.skip hopen hend hinside) hlast
  | outer hinside hlast hrest => exact .outer (.skip hopen hend hinside) hlast hrest

/-- A comment in a comment and its end belong to what stands in the outer one. -/
theorem EndsComments.nest (h : EndsComments (depth + 1) tokens) (hdepth : 1 ≤ depth)
    (hopen : placed.IsTag "comment") : EndsComments depth (placed :: tokens) := by
  cases h with
  | last => omega
  | @outer _ inside _ ending hinside hend hrest =>
    cases hrest with
    | @last more last hmore hlast =>
      have h := EndsComments.last (.nested hopen hinside hend hmore) hlast
      rwa [List.append_assoc] at h
    | @outer depth more rest last hmore hlast hrest =>
      have h := EndsComments.outer (.nested hopen hinside hend hmore) hlast hrest
      rwa [List.append_assoc] at h

/-- What ends an open tag with a body is the rest of the body and what finishes the tag. -/
theorem Ends.of_hasBody {opened : OpenTag} {action : Tag} (h : Ends maxTerms depth opened nodes action tokens)
    (hopened : opened.HasBody) : ∃ more inside rest, tokens = inside ++ rest ∧
      Spelled maxTerms (depth + 1) (.block more) inside ∧
      Finishes maxTerms depth opened (nodes.reverse ++ more) action rest := by
  cases h with
  | comment => exact hopened.elim
  | body _ hinside hrest => exact ⟨_, _, _, rfl, hinside, hrest⟩

/-- What completes a tree inside a comment ends the comment and completes the tree with it. -/
theorem completes_comment_iff : Completes maxTerms block ⟨nodes, commentFrame frame depth :: frames⟩ tokens ↔
    ∃ inside rest, tokens = inside ++ rest ∧ EndsComments depth inside ∧
      Completes maxTerms block (close .comment frame frames) rest := by
  constructor
  · intro h
    cases h with
    | frame hends hrest =>
      cases hends with
      | comment hends => exact ⟨_, _, rfl, hends, hrest⟩
      | body hopened => exact hopened.elim
  · rintro ⟨inside, rest, rfl, hends, hrest⟩
    have hinside : Ends maxTerms (Partial.depth ⟨[], frames⟩) (commentFrame frame depth).opened nodes .comment inside :=
      .comment hends
    exact .frame hinside hrest

/-! ## Putting a token in front -/

theorem proper_cons_iff : Proper ⟨nodes, frame :: frames⟩ ↔ frame.opened.IsProper ∧ Proper ⟨[], frames⟩ :=
  List.forall_mem_cons

/-- What spells a node can be put in front of the tokens that complete the tree with the node. -/
theorem Completes.of_add {node : Node} (htakes : tree.TakesNodes)
    (hnode : Spelled maxTerms tree.depth (.node node) front) (h : Completes maxTerms block (tree.add node) tokens) :
    Completes maxTerms block tree (front ++ tokens) := by
  obtain ⟨nodes, frames⟩ := tree
  cases h with
  | document hblock hmore =>
    refine .document ?_ (.cons hnode hmore)
    rw [hblock, List.reverse_cons, List.append_assoc, List.singleton_append]
  | @frame _ frame frames action _ rest hends hrest =>
    have hopened : frame.opened.HasBody := htakes frame rfl
    rw [depth_cons hopened] at hnode
    obtain ⟨more, inside, finish, rfl, hinside, hfinish⟩ := hends.of_hasBody hopened
    rw [List.reverse_cons, List.append_assoc, List.singleton_append] at hfinish
    have hends := Ends.body hopened (.cons hnode hinside) hfinish
    rw [← List.append_assoc, ← List.append_assoc]
    exact .frame hends hrest

/-- What ends a tag spells it together with its opening token. -/
theorem spelled_of_ends {opened : OpenTag} {name markup : String} {action : Tag}
    (htag : placed.tag? = some (name, markup)) (hopens : Opens maxTerms markup name opened)
    (hdepth : opened.isBlock = true → depth < maxNesting) (h : Ends maxTerms depth opened [] action tokens) :
    Spelled maxTerms depth (.node (.tag name markup placed.span action)) (placed :: tokens) := by
  cases h with
  | comment h =>
    cases hopens
    cases h with
    | last hinside hend => exact .comment htag hinside hend
    | outer _ _ hrest => cases hrest
  | body hopened hinside hrest => exact .tag htag (hdepth hopened.isBlock) hinside (spelled_of_opens hopens hrest)

/-- A token that is taken can be put in front of the tokens that complete the tree behind it. -/
theorem Completes.of_transition (hproper : Proper tree) (h : Transition maxTerms tree placed after)
    (hafter : Completes maxTerms block after tokens) : Completes maxTerms block tree (placed :: tokens) := by
  cases h with
  | node htakes hnode => exact hafter.of_add htakes hnode
  | opens htakes htag hopens hdepth =>
    cases hafter with
    | frame hends hrest =>
      exact hrest.of_add htakes (spelled_of_ends htag hopens hdepth hends)
  | closes hopened hfinishes =>
    rw [← List.append_nil (List.reverse _)] at hfinishes
    exact .frame (.body hopened .nil hfinishes) hafter
  | divides hopened hnext hcontinues =>
    cases hafter with
    | frame hends hrest =>
      obtain ⟨more, inside, finish, rfl, hinside, hfinish⟩ := hends.of_hasBody hnext
      have hfinishes := hcontinues hinside hfinish
      rw [← List.append_nil (List.reverse _)] at hfinishes
      exact .frame (.body hopened .nil hfinishes) hrest
  | commentOpens htag =>
    obtain ⟨inside, rest, rfl, hends, hrest⟩ := completes_comment_iff.mp hafter
    exact completes_comment_iff.mpr ⟨_, rest, rfl, hends.nest (proper_cons_iff.mp hproper).1 htag, hrest⟩
  | commentEnds htag hdepth =>
    obtain ⟨inside, rest, rfl, hends, hrest⟩ := completes_comment_iff.mp hafter
    exact completes_comment_iff.mpr ⟨_, rest, rfl, .outer .nil htag hends, hrest⟩
  | commentCloses htag => exact completes_comment_iff.mpr ⟨_, _, rfl, .last .nil htag, hafter⟩
  | commented hopen hend =>
    obtain ⟨inside, rest, rfl, hends, hrest⟩ := completes_comment_iff.mp hafter
    exact completes_comment_iff.mpr ⟨_, rest, rfl, hends.skip hopen hend, hrest⟩

/-! ## Runs -/

theorem Transition.proper (h : Transition maxTerms tree placed after) (hproper : Proper tree) : Proper after := by
  cases h with
  | node | commented => exact hproper
  | opens htakes htag hopens =>
    apply proper_cons_iff.mpr
    refine ⟨?_, hproper⟩
    cases hopens with
    | comment => exact Nat.le_refl 1
    | _ => trivial
  | closes | commentCloses => exact (proper_cons_iff.mp hproper).2
  | divides _ hnext => exact proper_cons_iff.mpr ⟨hnext.isProper, (proper_cons_iff.mp hproper).2⟩
  | @commentOpens _ _ _ _ depth => exact proper_cons_iff.mpr ⟨Nat.le_add_left 1 depth, (proper_cons_iff.mp hproper).2⟩
  | commentEnds _ hdepth => exact proper_cons_iff.mpr ⟨hdepth, (proper_cons_iff.mp hproper).2⟩

/-- The tokens of a run to a finished tree complete the tree that the run begins with. -/
theorem completes_of_run (hproper : Proper tree) (h : tree.run (.builtin maxTerms) tokens = .ok after)
    (hfinish : after.finish = .ok block) : Completes maxTerms block tree tokens := by
  -- The tree changes with every token, so the statement has to hold for all proper ones.
  induction tokens generalizing tree with
  | nil =>
    cases h
    obtain ⟨nodes, frames⟩ := after
    cases frames with
    | nil =>
      cases hfinish
      exact .document (List.append_nil _).symm .nil
    | cons frame frames => cases hfinish
  | cons placed tokens ih =>
    obtain ⟨next, hstep, hrest⟩ := of_run_cons_eq_ok h
    have htransition := transition_of_step hproper hstep
    exact .of_transition hproper htransition (ih (htransition.proper hproper) hrest)

theorem proper_empty : Proper empty := fun _ h ↦ (List.not_mem_nil h).elim

/-- The parser makes a block of the tokens that spell it, and of no others. -/
theorem ofTokens_eq_ok_iff :
    ofTokens (.builtin maxTerms) ⟨tokens, none⟩ = .ok block ↔ Spelled maxTerms 0 (.block block) tokens := by
  constructor
  · intro h
    obtain ⟨after, hrun, hended⟩ := of_bind_eq_ok h
    have hfinish : after.finish = .ok block := by
      cases hresult : after.finish <;> rw [hresult] at hended <;> cases hended
      rfl
    have hcompletes := completes_of_run proper_empty hrun hfinish
    cases hcompletes with
    | document hblock hmore =>
      rw [hblock]
      exact hmore
  · intro h
    have htakes : empty.TakesNodes := takesNodes_nil []
    have hrun := taken_of_spelled h empty htakes rfl
    rw [ofTokens, hrun]
    change Except.ok (block.reverse ++ []).reverse = _
    rw [List.append_nil, List.reverse_reverse]

example : (ofTokens (.builtin 50) ⟨List.replicate 200 ⟨.tag "ifchanged" "" false false, ⟨.first, .first⟩⟩ ++
    List.replicate 200 ⟨.tag "endifchanged" "" false false, ⟨.first, .first⟩⟩, none⟩).isOk = true := by decide +kernel

example : (ofTokens (.builtin 50) ⟨List.replicate 201 ⟨.tag "ifchanged" "" false false, ⟨.first, .first⟩⟩ ++
    List.replicate 201 ⟨.tag "endifchanged" "" false false, ⟨.first, .first⟩⟩, none⟩).isOk = false := by decide +kernel

/-! ## End tags -/

/-- Whether a name is that of an end tag. -/
def IsEndTag (name : String) : Prop := (dropBeginning? "end" name).isSome = true

instance (name : String) : Decidable (IsEndTag name) := inferInstanceAs (Decidable (_ = true))

/-- An end tag means nothing on its own. -/
theorem not_means_of_isEndTag {name markup : String} {meant : Meaning} (hend : IsEndTag name) :
    builtinMeaning (.builtin maxTerms) name markup ≠ .ok meant := by
  unfold builtinMeaning
  split
  case h_16 =>
    have hend : (dropBeginning? "end" name).isSome = true := hend
    simp [hend]
  all_goals exact absurd hend (by decide)

/-- What an end tag does that is taken: it closes the innermost open tag, of which it is the end tag. In a comment only the
ends of comments count, and they close the innermost comment. -/
inductive ClosesInnermost (name : String) : Partial → Partial → Prop where
  | body {nodes : List Node} {frame : Frame} {frames : List Frame} {action : Tag} (hopened : frame.opened.HasBody)
      (hname : frame.opened.endings.getLast? = some name) :
      ClosesInnermost name ⟨nodes, frame :: frames⟩ (close action frame frames)
  | comment {nodes : List Node} {frame : Frame} {frames : List Frame} (hname : name = "endcomment") :
      ClosesInnermost name ⟨nodes, commentFrame frame 1 :: frames⟩ (close .comment frame frames)
  | nestedComment {nodes : List Node} {frame : Frame} {frames : List Frame} {depth : Nat} (hname : name = "endcomment")
      (hdepth : 1 ≤ depth) :
      ClosesInnermost name ⟨nodes, commentFrame frame (depth + 1) :: frames⟩ ⟨[], commentFrame frame depth :: frames⟩
  | commented {nodes : List Node} {frame : Frame} {frames : List Frame} {depth : Nat} (hname : name ≠ "endcomment") :
      ClosesInnermost name ⟨nodes, commentFrame frame depth :: frames⟩ ⟨nodes, commentFrame frame depth :: frames⟩

theorem closesInnermost_of_takesNodes {name : String} (htakes : tree.TakesNodes) (hplaced : placed.IsTag name)
    (hend : IsEndTag name) (h : tree.step (.builtin maxTerms) placed = .ok after) : ClosesInnermost name tree after := by
  obtain ⟨markup, htag⟩ := hplaced.exists_markup
  rcases ending_or_other (.builtin maxTerms) htakes htag with ⟨nodes, frame, frames, rfl, hopened, hname, hstep⟩ | hstep
  · rcases endTag_cases (Partial.depth ⟨[], frames⟩) hopened htag hname (hstep.symm.trans h) with
      ⟨action, rfl, hlast, _⟩ | ⟨next, rfl, hdivides, _⟩
    · exact .body hopened hlast
    · simp only [dividers, List.mem_cons, List.not_mem_nil, or_false] at hdivides
      rcases hdivides with rfl | rfl | rfl <;> exact absurd hend (by decide)
  · obtain ⟨meant, hmeaning, _⟩ := of_bind_eq_ok (hstep.symm.trans h)
    exact absurd hmeaning (not_means_of_isEndTag hend)

theorem closesInnermost_of_step {name : String} (hproper : Proper tree) (hplaced : placed.IsTag name)
    (hend : IsEndTag name) (h : tree.step (.builtin maxTerms) placed = .ok after) : ClosesInnermost name tree after := by
  rcases comment_or_takesNodes hproper with ⟨nodes, frame, frames, depth, rfl, hdepth⟩ | htakes
  · rcases comment_cases hdepth h with ⟨hopen, rfl⟩ | ⟨hend, rfl, rfl⟩ | ⟨hend, outer, rfl, houter, rfl⟩ |
      ⟨_, hother, rfl⟩
    · obtain rfl : name = "comment" := Option.some.inj (hplaced.symm.trans hopen)
      exact absurd hend (by decide)
    · exact .comment (Option.some.inj (hplaced.symm.trans hend))
    · exact .nestedComment (Option.some.inj (hplaced.symm.trans hend)) houter
    · refine .commented ?_
      rintro rfl
      exact hother hplaced
  · exact closesInnermost_of_takesNodes htakes hplaced hend h

theorem proper_of_run (hproper : Proper tree) (h : tree.run (.builtin maxTerms) tokens = .ok after) : Proper after := by
  induction tokens generalizing tree with
  | nil =>
    cases h
    exact hproper
  | cons placed tokens ih =>
    obtain ⟨next, hstep, hrest⟩ := of_run_cons_eq_ok h
    exact ih ((transition_of_step hproper hstep).proper hproper) hrest

/-! ## The parser -/

/-- The parser accepts the tokens that spell a block and makes that block of them, the list of the block is what the tokens
say, and wherever the parser meets an end tag and takes it, it closes the innermost open tag with it. -/
theorem parser_accepts_spelled (maxTerms : Nat) (tokens : List PlacedToken) :
    (∀ block, ofTokens (.builtin maxTerms) ⟨tokens, none⟩ = .ok block ↔ Spelled maxTerms 0 (.block block) tokens) ∧
    (∀ block, ofTokens (.builtin maxTerms) ⟨tokens, none⟩ = .ok block → Lists maxTerms (listing block) tokens) ∧
    ∀ tree placed name after, empty.run (.builtin maxTerms) tokens = .ok tree → placed.IsTag name → IsEndTag name →
      tree.step (.builtin maxTerms) placed = .ok after → ClosesInnermost name tree after := by
  refine ⟨fun block ↦ ofTokens_eq_ok_iff, fun block h ↦ ?_, fun tree placed name after hrun hplaced hend hstep ↦ ?_⟩
  · exact listed_of_spelled (ofTokens_eq_ok_iff.mp h)
  · exact closesInnermost_of_step (proper_of_run proper_empty hrun) hplaced hend hstep

end Liquid.Template
