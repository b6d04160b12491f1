import Liquid.Proofs.Template.ParserSteps
import Liquid.Proofs.Template.Tags

/-!
# Trees of the language

If the host has no tags, the parser builds trees of built-in tags only. Every token keeps it so that whatever has been
collected in the open tags consists of built-in tags.
-/

namespace Liquid

/-- What an open tag has collected in its finished blocks consists of built-in tags, and so does the tag. -/
def Template.OpenTag.IsBuiltin : Template.OpenTag → Prop
  | .caseWhen _ whens _ | .caseElse _ whens => Template.AllTagsOfWhens Tag.IsBuiltin whens
  | .loopElse _ body => Template.AllTags Tag.IsBuiltin body
  | .branch _ branches _ | .branchElse _ branches => Template.AllTagsOfBranches Tag.IsBuiltin branches
  | .custom _ _ => False
  | .capture _ | .caseStart _ | .comment _ | .loop _ | .ifChanged | .table _ => True

namespace Template

variable {holds : Tag → Prop}

/-! ## Lists of nodes -/

theorem allTags_iff : ∀ {body : List Node}, AllTags holds body ↔ ∀ node ∈ body, AllTagsOfNode holds node
  | [] => by simp [AllTags]
  | first :: rest => by rw [AllTags, List.forall_mem_cons, allTags_iff]

theorem allTags_reverse {body : List Node} : AllTags holds body.reverse ↔ AllTags holds body := by
  simp only [allTags_iff, List.mem_reverse]

theorem AllTagsOfWhens.concat {values : List Expr} {body : Block} (hbody : AllTags holds body) :
    ∀ {whens : List (List Expr × List Node)}, AllTagsOfWhens holds whens → AllTagsOfWhens holds (whens ++ [(values, body)])
  | [], _ => ⟨hbody, trivial⟩
  | (_, _) :: _, h => ⟨h.1, AllTagsOfWhens.concat hbody h.2⟩

theorem AllTagsOfBranches.concat {condition : Condition} {body : Block} (hbody : AllTags holds body) :
    ∀ {branches : List (Condition × List Node)}, AllTagsOfBranches holds branches →
      AllTagsOfBranches holds (branches ++ [(condition, body)])
  | [], _ => ⟨hbody, trivial⟩
  | (_, _) :: _, h => ⟨h.1, AllTagsOfBranches.concat hbody h.2⟩

/-! ## What a tag means -/

/-- A built-in tag that stands alone is a leaf of the tree. -/
theorem StandsAlone.allTagsOfTag {action : Tag} (h : StandsAlone action) : AllTagsOfTag Tag.IsBuiltin action := by
  cases action <;> first | exact h.elim | trivial

theorem Opens.isBuiltin {maxTerms : Nat} {markup name : String} {opened : OpenTag} (h : Opens maxTerms markup name opened) :
    opened.IsBuiltin := by
  cases h <;> trivial

/-- An open tag and what stands in front of it have collected built-in tags only. -/
structure Frame.IsBuiltin (frame : Frame) : Prop where
  opened : frame.opened.IsBuiltin
  before : AllTags Tag.IsBuiltin frame.before

namespace Partial

variable {grammar : Grammar} {tree after : Partial} {frame : Frame} {frames : List Frame} {placed : PlacedToken}
  {name markup : String} {span : Span}

/-- Everything that a tree in the making has collected consists of built-in tags. -/
structure IsBuiltin (tree : Partial) : Prop where
  nodes : AllTags Tag.IsBuiltin tree.nodes
  frames : ∀ frame ∈ tree.frames, frame.IsBuiltin

theorem IsBuiltin.add (h : tree.IsBuiltin) {node : Node} (hnode : AllTagsOfNode Tag.IsBuiltin node) :
    (tree.add node).IsBuiltin :=
  ⟨⟨hnode, h.nodes⟩, h.frames⟩

theorem isBuiltin_divide {opened : OpenTag} (h : ∀ open_ ∈ frame :: frames, open_.IsBuiltin) (hopened : opened.IsBuiltin) :
    (divide opened frame frames).IsBuiltin := by
  obtain ⟨hframe, hframes⟩ := List.forall_mem_cons.1 h
  exact ⟨trivial, List.forall_mem_cons.2 ⟨⟨hopened, hframe.before⟩, hframes⟩⟩

theorem isBuiltin_close {action : Tag} (h : ∀ open_ ∈ frame :: frames, open_.IsBuiltin)
    (haction : AllTagsOfTag Tag.IsBuiltin action) : (close action frame frames).IsBuiltin := by
  obtain ⟨hframe, hframes⟩ := List.forall_mem_cons.1 h
  exact ⟨⟨haction, hframe.before⟩, hframes⟩

/-- A tag that ends or divides an open tag takes over what has been collected in it. -/
theorem IsBuiltin.endTag (h : tree.IsBuiltin) (hframes : ∀ open_ ∈ frame :: frames, open_.IsBuiltin)
    (hafter : endTag grammar tree frame frames name markup = .ok after) : after.IsBuiltin := by
  have hblock : AllTags Tag.IsBuiltin tree.block := allTags_reverse.2 h.nodes
  have hopened := (hframes frame List.mem_cons_self).opened
  unfold Partial.endTag at hafter
  cases hcase : frame.opened with
  | capture _ | ifChanged | table _ =>
    rw [hcase] at hafter
    cases hafter
    exact isBuiltin_close hframes ⟨trivial, hblock⟩
  | caseElse _ _ | loopElse _ _ | branchElse _ _ =>
    rw [hcase] at hafter hopened
    cases hafter
    exact isBuiltin_close hframes ⟨trivial, hopened, hblock⟩
  | caseStart subject =>
    rw [hcase] at hafter
    dsimp only at hafter
    split at hafter
    · obtain ⟨values, _, hdivided⟩ := of_bind_eq_ok hafter
      cases hdivided
      exact isBuiltin_divide hframes trivial
    · split at hafter
      · cases hafter
        exact isBuiltin_divide hframes trivial
      · cases hafter
        exact isBuiltin_close hframes ⟨trivial, trivial, trivial⟩
  | caseWhen subject whens values =>
    rw [hcase] at hafter hopened
    have hwhens : AllTagsOfWhens Tag.IsBuiltin (whens ++ [(values, tree.block)]) := .concat hblock hopened
    dsimp only at hafter
    split at hafter
    · obtain ⟨values, _, hdivided⟩ := of_bind_eq_ok hafter
      cases hdivided
      exact isBuiltin_divide hframes hwhens
    · split at hafter
      · cases hafter
        exact isBuiltin_divide hframes hwhens
      · cases hafter
        exact isBuiltin_close hframes ⟨trivial, hwhens, trivial⟩
  | comment depth =>
    rw [hcase] at hafter
    cases hafter
    exact isBuiltin_close hframes trivial
  | loop header =>
    rw [hcase] at hafter
    dsimp only at hafter
    split at hafter
    · cases hafter
      exact isBuiltin_divide hframes hblock
    · cases hafter
      exact isBuiltin_close hframes ⟨trivial, hblock, trivial⟩
  | branch negated branches condition =>
    rw [hcase] at hafter hopened
    have hbranches : AllTagsOfBranches Tag.IsBuiltin (branches ++ [(condition, tree.block)]) := .concat hblock hopened
    dsimp only at hafter
    split at hafter
    · obtain ⟨parsed, _, hdivided⟩ := of_bind_eq_ok hafter
      cases hdivided
      exact isBuiltin_divide hframes hbranches
    · split at hafter
      · cases hafter
        exact isBuiltin_divide hframes hbranches
      · cases hafter
        exact isBuiltin_close hframes ⟨trivial, hbranches, trivial⟩
  | custom registration ending =>
    rw [hcase] at hopened
    exact hopened.elim

/-- In a comment nothing is collected. -/
theorem IsBuiltin.insideComment (h : tree.IsBuiltin) {depth : Nat} (hframes : ∀ open_ ∈ frame :: frames, open_.IsBuiltin)
    (token : Token) : (tree.insideComment depth frame frames token).IsBuiltin := by
  unfold Partial.insideComment
  split
  · split
    · exact isBuiltin_divide hframes trivial
    · split
      · split
        · exact isBuiltin_close hframes trivial
        · exact isBuiltin_divide hframes trivial
      · exact h
  · exact h

/-- Without tags of the host, a tag that starts something is built in. -/
theorem IsBuiltin.otherTag (h : tree.IsBuiltin) (hgrammar : ∀ name, grammar.customTag? name = none)
    (hafter : otherTag grammar tree name markup span = .ok after) : after.IsBuiltin := by
  obtain ⟨meant, hmeaning, hafter⟩ := of_bind_eq_ok hafter
  have hbuiltin : builtinMeaning (.builtin grammar.maxTerms) name markup = .ok meant := by
    rw [meaning, hgrammar] at hmeaning
    exact hmeaning
  have hmeans := means_of_builtinMeaning hbuiltin
  cases meant with
  | leaf action =>
    cases hafter
    exact h.add (StandsAlone.allTagsOfTag hmeans)
  | opening opened =>
    dsimp only at hafter
    split at hafter
    · cases hafter
    · cases hafter
      exact ⟨trivial, List.forall_mem_cons.2 ⟨⟨Opens.isBuiltin hmeans, h.nodes⟩, h.frames⟩⟩

theorem IsBuiltin.outsideComment (h : tree.IsBuiltin) (hgrammar : ∀ name, grammar.customTag? name = none)
    (hafter : tree.outsideComment grammar placed = .ok after) : after.IsBuiltin := by
  unfold Partial.outsideComment at hafter
  split at hafter
  · cases hafter
    exact h.add trivial
  · cases hafter
    exact h.add trivial
  · obtain ⟨parsed, _, hafter⟩ := of_bind_eq_ok hafter
    cases hfactory : grammar.factory with
    | none =>
      rw [hfactory] at hafter
      cases hafter
      exact h.add trivial
    | some factory =>
      rw [hfactory] at hafter
      obtain ⟨markup, _, hafter⟩ := of_bind_eq_ok hafter
      cases hafter
      exact h.add trivial
  · cases hframes : tree.frames with
    | nil =>
      rw [hframes] at hafter
      exact h.otherTag hgrammar hafter
    | cons frame frames =>
      rw [hframes] at hafter
      dsimp only at hafter
      split at hafter
      · exact h.endTag (hframes ▸ h.frames) hafter
      · exact h.otherTag hgrammar hafter

/-- Every token keeps it so that only built-in tags are collected. -/
theorem IsBuiltin.step (h : tree.IsBuiltin) (hgrammar : ∀ name, grammar.customTag? name = none)
    (hafter : tree.step grammar placed = .ok after) : after.IsBuiltin := by
  unfold Partial.step at hafter
  split at hafter
  · next hframes =>
    cases hafter
    exact h.insideComment (hframes ▸ h.frames) placed.token
  · exact h.outsideComment hgrammar hafter

theorem IsBuiltin.run (hgrammar : ∀ name, grammar.customTag? name = none) :
    ∀ {tokens : List PlacedToken} {tree : Partial}, tree.IsBuiltin → run grammar tree tokens = .ok after → after.IsBuiltin
  | [], tree, h, hafter => by
    cases hafter
    exact h
  | placed :: rest, tree, h, hafter => by
    obtain ⟨next, hstep, hrest⟩ := of_run_cons_eq_ok hafter
    exact IsBuiltin.run hgrammar (h.step hgrammar hstep) hrest

end Partial

/-- If the host has no tags, every tree that is parsed consists of built-in tags. -/
theorem parse_allTags {grammar : Grammar} (hgrammar : ∀ name, grammar.customTag? name = none) {name source : String}
    {block : Block} (h : parse grammar name source = .ok block) : AllTags Tag.IsBuiltin block := by
  have hempty : Partial.empty.IsBuiltin := ⟨trivial, fun _ hframe ↦ by cases hframe⟩
  rw [parse] at h
  cases htree : ofTokens grammar (.ofSource source) with
  | error failure =>
    rw [htree] at h
    cases h
  | ok root =>
    rw [htree] at h
    cases h
    obtain ⟨tree, hrun, hfinished⟩ := of_bind_eq_ok htree
    have hbuiltin := hempty.run hgrammar hrun
    split at hfinished
    · cases hfinished
    · rw [Partial.finish] at hfinished
      cases hframes : tree.frames with
      | cons frame frames =>
        rw [hframes] at hfinished
        cases hfinished
      | nil =>
        rw [hframes] at hfinished
        cases hfinished
        exact allTags_reverse.2 hbuiltin.nodes

end Template

end Liquid
