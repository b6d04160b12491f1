import Liquid.Proofs.Template.HeaderDepth
import Liquid.Proofs.Template.Nesting
import Liquid.Proofs.Token.Markup

/-!
# How deep trees are nested

A tree that tokens spell opens no block where too many are open. Its conditions have as many terms as the environment
allows, and its expressions are no deeper than the markup of a token is long.
-/

namespace Liquid

/-! ## Trees -/

/-- The outermost expressions in the markup of a tag. -/
def Tag.expressions : Tag → List Expr
  | .assign _ value => value.expressions
  | .case subject whens _ => subject :: whens.flatMap Prod.fst
  | .cycle group values => group.toList ++ values
  | .loop header _ _ => header.expressions
  | .branch _ branches _ => branches.flatMap fun (condition, _) ↦ condition.operands
  | .include inclusion => inclusion.expressions
  | .table header _ => header.expressions
  | .capture _ _ | .comment | .increment _ | .decrement _ | .breakLoop | .continueLoop | .ifChanged _
  | .custom _ _ => []

/-- The conditions in the markup of a tag. -/
def Tag.conditions : Tag → List Condition
  | .branch _ branches _ => branches.map Prod.fst
  | _ => []

/-- The outermost expressions in the markup of a node. -/
def Node.expressions : Node → List Expr
  | .text _ => []
  | .output markup _ => markup.expressions
  | .tag _ _ _ action => action.expressions

/-- The conditions in the markup of a node. -/
def Node.conditions : Node → List Condition
  | .text _ | .output _ _ => []
  | .tag _ _ _ action => action.conditions

namespace Template

mutual

/-- The nodes of a block, those of the blocks in it included. -/
def nodesWithin : List Node → List Node
  | [] => []
  | first :: rest => nodesWithinNode first ++ nodesWithin rest

/-- A node with the nodes of its blocks. -/
def nodesWithinNode : Node → List Node
  | .text content => [.text content]
  | .output markup span => [.output markup span]
  | .tag name markup span action => .tag name markup span action :: nodesWithinTag action

/-- The nodes of the blocks of a tag. -/
def nodesWithinTag : Tag → List Node
  | .capture _ body => nodesWithin body
  | .case _ whens otherwise => nodesWithinWhens whens ++ nodesWithinOption otherwise
  | .loop _ body otherwise => nodesWithin body ++ nodesWithinOption otherwise
  | .branch _ branches otherwise => nodesWithinBranches branches ++ nodesWithinOption otherwise
  | .ifChanged body => nodesWithin body
  | .table _ body => nodesWithin body
  | .custom _ body => nodesWithinOption body
  | _ => []

/-- The nodes of a block, if there is one. -/
def nodesWithinOption : Option (List Node) → List Node
  | none => []
  | some body => nodesWithin body

/-- The nodes of the sections of a case. -/
def nodesWithinWhens : List (List Expr × List Node) → List Node
  | [] => []
  | (_, body) :: rest => nodesWithin body ++ nodesWithinWhens rest

/-- The nodes of branches. -/
def nodesWithinBranches : List (Condition × List Node) → List Node
  | [] => []
  | (_, body) :: rest => nodesWithin body ++ nodesWithinBranches rest

end

mutual

/-- The number of blocks that are nested in one another at the deepest place of a block, itself not counted. -/
def nesting : List Node → Nat
  | [] => 0
  | first :: rest => max (nestingOfNode first) (nesting rest)

/-- The depth of the blocks of a node. -/
def nestingOfNode : Node → Nat
  | .text _ | .output _ _ => 0
  | .tag _ _ _ action => nestingOfTag action

/-- The depth of the blocks of a tag, the outermost ones included. -/
def nestingOfTag : Tag → Nat
  | .capture _ body => nesting body + 1
  | .case _ whens otherwise => max (nestingOfWhens whens) (nestingOfOption otherwise) + 1
  | .loop _ body otherwise => max (nesting body) (nestingOfOption otherwise) + 1
  | .branch _ branches otherwise => max (nestingOfBranches branches) (nestingOfOption otherwise) + 1
  | .ifChanged body => nesting body + 1
  | .table _ body => nesting body + 1
  | .custom _ body => nestingOfOption body + 1
  | _ => 0

/-- The depth of the blocks in a block, if there is one. -/
def nestingOfOption : Option (List Node) → Nat
  | none => 0
  | some body => nesting body

/-- The depth of the blocks in the sections of a case. -/
def nestingOfWhens : List (List Expr × List Node) → Nat
  | [] => 0
  | (_, body) :: rest => max (nesting body) (nestingOfWhens rest)

/-- The depth of the blocks in branches. -/
def nestingOfBranches : List (Condition × List Node) → Nat
  | [] => 0
  | (_, body) :: rest => max (nesting body) (nestingOfBranches rest)

end

variable {maxTerms depth bound : Nat} {tokens : List PlacedToken} {action : Tag} {name markup : String}

/-! ## Blocks -/

theorem StandsAlone.nestingOfTag_eq_zero (h : StandsAlone action) : nestingOfTag action = 0 := by
  cases action with
  | capture | case | comment | loop | branch | ifChanged | table | custom => exact h.elim
  | _ => rfl

theorem StandsAlone.nodesWithinTag_eq_nil (h : StandsAlone action) : nodesWithinTag action = [] := by
  cases action with
  | capture | case | comment | loop | branch | ifChanged | table | custom => exact h.elim
  | _ => rfl

/-- The blocks of a phrase inside a number of open blocks are not nested too deep. -/
def Fits (depth : Nat) : Phrase → Prop
  | .block nodes => depth ≤ maxNesting → depth + nesting nodes ≤ maxNesting
  | .node node => depth ≤ maxNesting → depth + nestingOfNode node ≤ maxNesting
  | .rest _ _ body action => depth + 1 + nesting body ≤ maxNesting → depth + nestingOfTag action ≤ maxNesting
  | .whens whens otherwise => depth + 1 ≤ maxNesting →
    depth + (max (nestingOfWhens whens) (nestingOfOption otherwise) + 1) ≤ maxNesting
  | .branches _ branches otherwise => depth + 1 ≤ maxNesting →
    depth + (max (nestingOfBranches branches) (nestingOfOption otherwise) + 1) ≤ maxNesting
  | .ending _ otherwise => depth + 1 ≤ maxNesting → depth + (nestingOfOption otherwise + 1) ≤ maxNesting

/-- Whatever is spelled opens no block where too many are open. -/
theorem fits_of_spelled {phrase : Phrase} (h : Spelled maxTerms depth phrase tokens) : Fits depth phrase := by
  induction h with
  | nil | data | raw | output | comment => exact id
  | cons _ _ hnode hnodes =>
    intro hdepth
    have hnode := hnode hdepth
    have hnodes := hnodes hdepth
    rw [nesting]
    omega
  | leaf htag hleaf =>
    intro hdepth
    rw [nestingOfNode, (means_of_builtinMeaning hleaf).nestingOfTag_eq_zero]
    exact hdepth
  | tag hopen hdepth _ _ hbody hrest => exact fun _ ↦ hrest (hbody hdepth)
  | capture | ifChanged | table =>
    intro hbody
    rw [nestingOfTag]
    omega
  | loop _ _ hrest =>
    intro hbody
    have hrest := hrest (by omega)
    rw [nestingOfTag]
    omega
  | case _ _ hrest =>
    intro hbody
    exact hrest (by omega)
  | branch _ _ _ hrest =>
    intro hbody
    have hrest := hrest (by omega)
    rw [nestingOfTag, nestingOfBranches]
    omega
  | lastWhen _ hrest | lastBranch _ hrest =>
    intro hdepth
    have hrest := hrest hdepth
    simp only [nestingOfWhens, nestingOfBranches]
    omega
  | when _ _ _ _ hbody hrest =>
    intro hdepth
    have hbody := hbody hdepth
    have hrest := hrest hdepth
    rw [nestingOfWhens]
    omega
  | elsif _ _ _ _ hbody hrest =>
    intro hdepth
    have hbody := hbody hdepth
    have hrest := hrest hdepth
    rw [nestingOfBranches]
    omega
  | close => exact id
  | otherwise _ _ _ hbody =>
    intro hdepth
    have hbody := hbody hdepth
    rw [nestingOfOption]
    omega

/-! ## Expressions -/

theorem markup?_of_tag? {placed : PlacedToken}
    (h : placed.tag? = some (name, markup)) : placed.token.markup? = some markup := by
  obtain ⟨token, span⟩ := placed
  cases token with
  | data | raw | output => cases h
  | tag => exact congrArg (Option.map Prod.snd) h

/-- Expressions are at most as deep as a number, and conditions as the number of terms allowed. -/
structure AreShallow (bound maxTerms : Nat) (exprs : List Expr) (conditions : List Condition) : Prop where
  expressions : NoDeeper bound exprs
  conditions : ∀ condition ∈ conditions, condition.depth ≤ max maxTerms 1

theorem AreShallow.append {exprs others : List Expr} {conditions more : List Condition}
    (h : AreShallow bound maxTerms exprs conditions) (hothers : AreShallow bound maxTerms others more) :
    AreShallow bound maxTerms (exprs ++ others) (conditions ++ more) where
  expressions := noDeeper_append.2 ⟨h.expressions, hothers.expressions⟩
  conditions := List.forall_mem_append.2 ⟨h.conditions, hothers.conditions⟩

theorem areShallow_of_noDeeper {exprs : List Expr} (h : NoDeeper bound exprs) : AreShallow bound maxTerms exprs [] :=
  ⟨h, nofun⟩

theorem areShallow_nil (bound maxTerms : Nat) : AreShallow bound maxTerms [] [] := ⟨nofun, nofun⟩

theorem areShallow_of_condition {name markup : String} {condition : Condition} {terms : Nat}
    (h : Condition.parse markup name maxTerms = .ok (condition, terms)) (hbound : markup.length ≤ bound) :
    AreShallow bound maxTerms condition.operands [condition] := by
  obtain ⟨hoperands, hdepth⟩ := Condition.depth_le_of_parse h hbound
  exact ⟨hoperands, List.forall_mem_singleton.2 hdepth⟩

/-- The markups of nodes are shallow. -/
def ShallowNodes (bound maxTerms : Nat) (nodes : List Node) : Prop :=
  ∀ node ∈ nodes, AreShallow bound maxTerms node.expressions node.conditions

theorem areShallow_of_builtinMeaning (h : builtinMeaning (.builtin maxTerms) name markup = .ok (.leaf action))
    (hbound : markup.length ≤ bound) : AreShallow bound maxTerms action.expressions action.conditions := by
  unfold builtinMeaning at h
  split at h
  -- The tags that read their markup, in the order of the names.
  case h_1 =>
    obtain ⟨⟨target, value⟩, hvalue, h⟩ := of_bind_eq_ok h
    cases h
    exact areShallow_of_noDeeper (Header.noDeeper_of_assignment hvalue hbound)
  case h_5 =>
    obtain ⟨⟨group, values⟩, hvalues, h⟩ := of_bind_eq_ok h
    cases h
    exact areShallow_of_noDeeper (Header.noDeeper_of_cycle hvalues hbound)
  case h_6 | h_7 =>
    obtain ⟨target, -, h⟩ := of_bind_eq_ok h
    cases h
    exact areShallow_nil _ _
  case h_14 =>
    obtain ⟨inclusion, hinclusion, h⟩ := of_bind_eq_ok h
    cases h
    exact areShallow_of_noDeeper (Header.noDeeper_of_inclusion hinclusion hbound)
  case h_9 | h_10 =>
    cases h
    exact areShallow_nil _ _
  case h_16 => split at h <;> cases h
  -- The tags that open blocks.
  case h_4 | h_13 => cases h
  all_goals
    obtain ⟨header, -, h⟩ := of_bind_eq_ok h
    cases h

/-- The nodes of a phrase are shallow, and so is what its own tags read. -/
def IsShallow (bound maxTerms : Nat) : Phrase → Prop
  | .block nodes => ShallowNodes bound maxTerms (nodesWithin nodes)
  | .node node => ShallowNodes bound maxTerms (nodesWithinNode node)
  | .rest _ markup body action => markup.length ≤ bound → ShallowNodes bound maxTerms (nodesWithin body) →
    AreShallow bound maxTerms action.expressions action.conditions ∧ ShallowNodes bound maxTerms (nodesWithinTag action)
  | .whens whens otherwise => AreShallow bound maxTerms (whens.flatMap Prod.fst) [] ∧
    ShallowNodes bound maxTerms (nodesWithinWhens whens ++ nodesWithinOption otherwise)
  | .branches _ branches otherwise =>
    AreShallow bound maxTerms (branches.flatMap fun (condition, _) ↦ condition.operands) (branches.map Prod.fst) ∧
      ShallowNodes bound maxTerms (nodesWithinBranches branches ++ nodesWithinOption otherwise)
  | .ending _ otherwise => ShallowNodes bound maxTerms (nodesWithinOption otherwise)

/-- The markup of every token is shorter than a number. -/
def MarkupsShorter (bound : Nat) (tokens : List PlacedToken) : Prop :=
  ∀ placed ∈ tokens, ∀ markup, placed.token.markup? = some markup → markup.length < bound

theorem markupsShorter_append {others : List PlacedToken} :
    MarkupsShorter bound (tokens ++ others) ↔ MarkupsShorter bound tokens ∧ MarkupsShorter bound others :=
  List.forall_mem_append

/-- Behind a tag whose markup is short stand tokens whose markups are. -/
theorem MarkupsShorter.of_tag {placed : PlacedToken} (h : MarkupsShorter bound (placed :: tokens))
    (htag : placed.tag? = some (name, markup)) : markup.length ≤ bound ∧ MarkupsShorter bound tokens := by
  obtain ⟨hplaced, htokens⟩ := List.forall_mem_cons.1 h
  exact ⟨Nat.le_of_lt (hplaced markup (markup?_of_tag? htag)), htokens⟩

/-- Whatever is spelled by short tokens is shallow. -/
theorem isShallow_of_spelled {phrase : Phrase} (h : Spelled maxTerms depth phrase tokens)
    (htokens : MarkupsShorter bound tokens) : IsShallow bound maxTerms phrase := by
  induction h with
  | nil | close => exact nofun
  | cons _ _ hnode hnodes =>
    obtain ⟨hfront, hback⟩ := markupsShorter_append.1 htokens
    exact List.forall_mem_append.2 ⟨hnode hfront, hnodes hback⟩
  | data | raw | comment => exact List.forall_mem_singleton.2 (areShallow_nil _ _)
  | output hmarkup =>
    have hshort := htokens _ List.mem_cons_self _ rfl
    exact List.forall_mem_singleton.2 (areShallow_of_noDeeper (Markup.noDeeper_expressions hmarkup hshort))
  | leaf htag hleaf =>
    have hshort := (htokens.of_tag htag).1
    refine List.forall_mem_cons.2 ⟨areShallow_of_builtinMeaning hleaf hshort, ?_⟩
    rw [(means_of_builtinMeaning hleaf).nodesWithinTag_eq_nil]
    exact nofun
  | tag hopen _ _ _ hbody hrest =>
    obtain ⟨hinside, hback⟩ := markupsShorter_append.1 htokens
    obtain ⟨hshort, hinside⟩ := hinside.of_tag hopen
    obtain ⟨haction, hnodes⟩ := hrest hback hshort (hbody hinside)
    exact List.forall_mem_cons.2 ⟨haction, hnodes⟩
  | capture | ifChanged => exact fun _ hbody ↦ ⟨areShallow_nil _ _, hbody⟩
  | table hmarkup => exact fun hshort hbody ↦ ⟨areShallow_of_noDeeper (Header.noDeeper_of_table hmarkup hshort), hbody⟩
  | loop hmarkup _ hrest =>
    exact fun hshort hbody ↦ ⟨areShallow_of_noDeeper (Header.noDeeper_of_loop hmarkup hshort),
      List.forall_mem_append.2 ⟨hbody, hrest htokens⟩⟩
  | case hmarkup _ hrest =>
    intro hshort _
    obtain ⟨hvalues, hnodes⟩ := hrest htokens
    have hsubject := Header.depth_le_of_subject hmarkup hshort
    exact ⟨areShallow_of_noDeeper (noDeeper_cons.2 ⟨hsubject, hvalues.expressions⟩), hnodes⟩
  | branch _ hmarkup _ hrest =>
    intro hshort hbody
    obtain ⟨hbranches, hnodes⟩ := hrest htokens
    refine ⟨(areShallow_of_condition hmarkup hshort).append hbranches, ?_⟩
    rw [nodesWithinTag, nodesWithinBranches, List.append_assoc]
    exact List.forall_mem_append.2 ⟨hbody, hnodes⟩
  | lastWhen _ hrest | lastBranch _ hrest => exact ⟨areShallow_nil _ _, hrest htokens⟩
  | when htag hmarkup _ _ hbody hrest =>
    obtain ⟨hinside, hback⟩ := markupsShorter_append.1 htokens
    obtain ⟨hshort, hinside⟩ := hinside.of_tag htag
    obtain ⟨hwhens, hnodes⟩ := hrest hback
    refine ⟨(areShallow_of_noDeeper (Header.noDeeper_of_whenValues hmarkup hshort)).append hwhens, ?_⟩
    rw [nodesWithinWhens, List.append_assoc]
    exact List.forall_mem_append.2 ⟨hbody hinside, hnodes⟩
  | elsif htag hmarkup _ _ hbody hrest =>
    obtain ⟨hinside, hback⟩ := markupsShorter_append.1 htokens
    obtain ⟨hshort, hinside⟩ := hinside.of_tag htag
    obtain ⟨hbranches, hnodes⟩ := hrest hback
    refine ⟨(areShallow_of_condition hmarkup hshort).append hbranches, ?_⟩
    rw [nodesWithinBranches, List.append_assoc]
    exact List.forall_mem_append.2 ⟨hbody hinside, hnodes⟩
  | otherwise htag _ _ hbody =>
    obtain ⟨hinside, -⟩ := markupsShorter_append.1 htokens
    exact hbody (List.forall_mem_cons.1 hinside).2

end Template

end Liquid
