import Liquid.Template.Basic

/-!
# Properties of all tags of a tree

A property of tags holds throughout a tree if it holds of every tag at every depth. Built-in tags are those that are not
the host's.
-/

namespace Liquid

/-- Whether a tag is one of the language and not of the host. -/
def Tag.IsBuiltin : Tag → Prop
  | .custom _ _ => False
  | _ => True

/-- Whether a tag turns output into a variable. -/
def Tag.IsCapture : Tag → Prop
  | .capture _ _ => True
  | _ => False

namespace Template

mutual

/-- A property holds of every tag in a block. -/
def AllTags (holds : Tag → Prop) : List Node → Prop
  | [] => True
  | first :: rest => AllTagsOfNode holds first ∧ AllTags holds rest

/-- A property holds of every tag in a node. -/
def AllTagsOfNode (holds : Tag → Prop) : Node → Prop
  | .text _ | .output _ _ => True
  | .tag _ _ _ action => AllTagsOfTag holds action

/-- A property holds of a tag and of every tag in its blocks. -/
def AllTagsOfTag (holds : Tag → Prop) : Tag → Prop
  | .capture target body => holds (.capture target body) ∧ AllTags holds body
  | .case subject whens otherwise =>
    holds (.case subject whens otherwise) ∧ AllTagsOfWhens holds whens ∧ AllTagsOfOption holds otherwise
  | .loop header body otherwise =>
    holds (.loop header body otherwise) ∧ AllTags holds body ∧ AllTagsOfOption holds otherwise
  | .branch negated branches otherwise =>
    holds (.branch negated branches otherwise) ∧ AllTagsOfBranches holds branches ∧
      AllTagsOfOption holds otherwise
  | .ifChanged body => holds (.ifChanged body) ∧ AllTags holds body
  | .table header body => holds (.table header body) ∧ AllTags holds body
  | .custom registration body => holds (.custom registration body) ∧ AllTagsOfOption holds body
  | action => holds action

/-- A property holds of every tag in a block that may be missing. -/
def AllTagsOfOption (holds : Tag → Prop) : Option (List Node) → Prop
  | none => True
  | some body => AllTags holds body

/-- A property holds of every tag in the blocks of branches. -/
def AllTagsOfBranches (holds : Tag → Prop) : List (Condition × List Node) → Prop
  | [] => True
  | (_, body) :: rest => AllTags holds body ∧ AllTagsOfBranches holds rest

/-- A property holds of every tag in the blocks behind values. -/
def AllTagsOfWhens (holds : Tag → Prop) : List (List Expr × List Node) → Prop
  | [] => True
  | (_, body) :: rest => AllTags holds body ∧ AllTagsOfWhens holds rest

end

mutual

/-- What holds of every tag holds throughout every tree. -/
theorem allTags_of_forall {holds : Tag → Prop} (h : ∀ action, holds action) : ∀ body, AllTags holds body
  | [] => trivial
  | .text _ :: rest => ⟨trivial, allTags_of_forall h rest⟩
  | .output _ _ :: rest => ⟨trivial, allTags_of_forall h rest⟩
  | .tag _ _ _ action :: rest => ⟨allTagsOfTag_of_forall h action, allTags_of_forall h rest⟩

theorem allTagsOfTag_of_forall {holds : Tag → Prop} (h : ∀ action, holds action) : ∀ action, AllTagsOfTag holds action
  | .capture _ body | .ifChanged body | .table _ body => ⟨h _, allTags_of_forall h body⟩
  | .case _ whens otherwise => ⟨h _, allTagsOfWhens_of_forall h whens, allTagsOfOption_of_forall h otherwise⟩
  | .loop _ body otherwise => ⟨h _, allTags_of_forall h body, allTagsOfOption_of_forall h otherwise⟩
  | .branch _ branches otherwise =>
    ⟨h _, allTagsOfBranches_of_forall h branches, allTagsOfOption_of_forall h otherwise⟩
  | .custom _ body => ⟨h _, allTagsOfOption_of_forall h body⟩
  | .assign _ _ | .comment | .cycle _ _ | .increment _ | .decrement _ | .breakLoop | .continueLoop | .include _ => h _

theorem allTagsOfOption_of_forall {holds : Tag → Prop} (h : ∀ action, holds action) :
    ∀ body, AllTagsOfOption holds body
  | none => trivial
  | some body => allTags_of_forall h body

theorem allTagsOfBranches_of_forall {holds : Tag → Prop} (h : ∀ action, holds action) :
    ∀ branches, AllTagsOfBranches holds branches
  | [] => trivial
  | (_, body) :: rest => ⟨allTags_of_forall h body, allTagsOfBranches_of_forall h rest⟩

theorem allTagsOfWhens_of_forall {holds : Tag → Prop} (h : ∀ action, holds action) :
    ∀ whens, AllTagsOfWhens holds whens
  | [] => trivial
  | (_, body) :: rest => ⟨allTags_of_forall h body, allTagsOfWhens_of_forall h rest⟩

end

end Template

end Liquid
