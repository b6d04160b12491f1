import Liquid.Proofs.Template.Tags

/-!
# Removing tags from trees

The tags of some names can be taken out of a tree at every depth, together with their blocks.
-/

namespace Liquid.Template

mutual

/-- A block without the tags of the given names. -/
def without (names : List String) : List Node → List Node
  | [] => []
  | .text content :: rest => .text content :: without names rest
  | .output markup span :: rest => .output markup span :: without names rest
  | .tag name markup span action :: rest =>
    if name ∈ names then without names rest
    else .tag name markup span (withoutTag names action) :: without names rest

/-- A tag whose blocks are without the tags of the given names. -/
def withoutTag (names : List String) : Tag → Tag
  | .capture target body => .capture target (without names body)
  | .case subject whens otherwise => .case subject (withoutWhens names whens) (withoutOption names otherwise)
  | .loop header body otherwise => .loop header (without names body) (withoutOption names otherwise)
  | .branch negated branches otherwise =>
    .branch negated (withoutBranches names branches) (withoutOption names otherwise)
  | .ifChanged body => .ifChanged (without names body)
  | .table header body => .table header (without names body)
  | .custom registration body => .custom registration (withoutOption names body)
  | .assign target value => .assign target value
  | .comment => .comment
  | .cycle group values => .cycle group values
  | .increment name => .increment name
  | .decrement name => .decrement name
  | .breakLoop => .breakLoop
  | .continueLoop => .continueLoop
  | .include inclusion => .include inclusion

/-- A block that may be missing, without the tags of the given names. -/
def withoutOption (names : List String) : Option (List Node) → Option (List Node)
  | none => none
  | some body => some (without names body)

/-- Branches whose blocks are without the tags of the given names. -/
def withoutBranches (names : List String) : List (Condition × List Node) → List (Condition × List Node)
  | [] => []
  | (condition, body) :: rest => (condition, without names body) :: withoutBranches names rest

/-- Blocks behind values, without the tags of the given names. -/
def withoutWhens (names : List String) : List (List Expr × List Node) → List (List Expr × List Node)
  | [] => []
  | (values, body) :: rest => (values, without names body) :: withoutWhens names rest

end

mutual

/-- Without names nothing is removed. -/
theorem without_nil : ∀ body, without [] body = body
  | [] => by rw [without]
  | .text content :: rest => by rw [without, without_nil rest]
  | .output markup span :: rest => by rw [without, without_nil rest]
  | .tag name markup span action :: rest => by
    rw [without, if_neg List.not_mem_nil, withoutTag_nil action, without_nil rest]

theorem withoutTag_nil : ∀ action, withoutTag [] action = action
  | .capture target body => by rw [withoutTag, without_nil body]
  | .case subject whens otherwise => by rw [withoutTag, withoutWhens_nil whens, withoutOption_nil otherwise]
  | .loop header body otherwise => by rw [withoutTag, without_nil body, withoutOption_nil otherwise]
  | .branch negated branches otherwise => by
    rw [withoutTag, withoutBranches_nil branches, withoutOption_nil otherwise]
  | .ifChanged body => by rw [withoutTag, without_nil body]
  | .table header body => by rw [withoutTag, without_nil body]
  | .custom registration body => by rw [withoutTag, withoutOption_nil body]
  | .assign _ _ | .comment | .cycle _ _ | .increment _ | .decrement _ | .breakLoop | .continueLoop | .include _ => by
    rw [withoutTag]

theorem withoutOption_nil : ∀ body, withoutOption [] body = body
  | none => by rw [withoutOption]
  | some body => by rw [withoutOption, without_nil body]

theorem withoutBranches_nil : ∀ branches, withoutBranches [] branches = branches
  | [] => by rw [withoutBranches]
  | (condition, body) :: rest => by rw [withoutBranches, without_nil body, withoutBranches_nil rest]

theorem withoutWhens_nil : ∀ whens, withoutWhens [] whens = whens
  | [] => by rw [withoutWhens]
  | (values, body) :: rest => by rw [withoutWhens, without_nil body, withoutWhens_nil rest]

end

end Liquid.Template
