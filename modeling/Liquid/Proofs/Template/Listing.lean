import Liquid.Proofs.Template.ParserSteps

/-!
# Listing a tree

A tree is listed in document order: each tag with its bodies, the tags between them and its end tag. The tokens that spell a
block say what its list says, one after the other; only what comments hide, and what stands between a case and its first
section, is not in the list.
-/

namespace Liquid.Template

/-- An entry of the list of a tree. -/
inductive Entry where
  | text (content : String)
  | output (markup : Markup) (span : Span)
  /-- A tag that stands alone or opens a block. -/
  | tag (name markup : String) (span : Span)
  | when (values : List Expr)
  | elsif (condition : Condition)
  | otherwise
  | ending (name : String)

mutual

/-- The entries of a block. -/
def listing : List Node → List Entry
  | [] => []
  | first :: rest => listingOfNode first ++ listing rest

/-- The entries of a node. -/
def listingOfNode : Node → List Entry
  | .text content => [.text content]
  | .output markup span => [.output markup span]
  | .tag name markup span action => .tag name markup span :: listingOfTag action

/-- The entries of a tag behind its opening tag. The condition of the first branch stands in the opening tag. -/
def listingOfTag : Tag → List Entry
  | .capture _ body => listing body ++ [.ending "endcapture"]
  | .case _ whens otherwise => listingOfWhens whens ++ listingOfElse otherwise ++ [.ending "endcase"]
  | .comment => [.ending "endcomment"]
  | .loop _ body otherwise => listing body ++ listingOfElse otherwise ++ [.ending "endfor"]
  | .branch negated branches otherwise =>
    (listingOfBranches branches).tail ++ listingOfElse otherwise ++ [.ending (branchEnd negated)]
  | .ifChanged body => listing body ++ [.ending "endifchanged"]
  | .table _ body => listing body ++ [.ending "endtablerow"]
  | .custom _ (some body) => listing body
  | _ => []

/-- The entries of the body of an `else`, if there is one. -/
def listingOfElse : Option (List Node) → List Entry
  | none => []
  | some body => .otherwise :: listing body

/-- The entries of the sections of a case. -/
def listingOfWhens : List (List Expr × List Node) → List Entry
  | [] => []
  | (values, body) :: rest => .when values :: listing body ++ listingOfWhens rest

/-- The entries of branches. -/
def listingOfBranches : List (Condition × List Node) → List Entry
  | [] => []
  | (condition, body) :: rest => .elsif condition :: listing body ++ listingOfBranches rest

end

/-- What a token says on its own. -/
inductive Says (maxTerms : Nat) : PlacedToken → Entry → Prop where
  | data {text : String} {span : Span} : Says maxTerms ⟨.data text, span⟩ (.text text)
  | raw {text : String} {span : Span} : Says maxTerms ⟨.raw text, span⟩ (.text text)
  | output {content : String} {trimLeft trimRight : Bool} {markup : Markup} {span : Span}
      (hmarkup : Markup.parse content = .ok markup) :
      Says maxTerms ⟨.output content trimLeft trimRight, span⟩ (.output markup span)
  | tag {placed : PlacedToken} {name markup : String} (htag : placed.tag? = some (name, markup)) :
      Says maxTerms placed (.tag name markup placed.span)
  | when {placed : PlacedToken} {markup : String} {values : List Expr} (htag : placed.tag? = some ("when", markup))
      (hmarkup : Header.whenValues markup = .ok values) : Says maxTerms placed (.when values)
  | elsif {placed : PlacedToken} {markup : String} {condition : Condition} {terms : Nat}
      (htag : placed.tag? = some ("elsif", markup))
      (hmarkup : Condition.parse markup "elsif" maxTerms = .ok (condition, terms)) :
      Says maxTerms placed (.elsif condition)
  | otherwise {placed : PlacedToken} (htag : placed.IsTag "else") : Says maxTerms placed .otherwise
  | ending {placed : PlacedToken} {name : String} (htag : placed.IsTag name) : Says maxTerms placed (.ending name)

/-- Whether a tag ends what stands in front of the first section of a case. -/
def EndsPrelude (placed : PlacedToken) : Prop :=
  placed.IsTag "when" ∨ placed.IsTag "else" ∨ placed.IsTag "endcase"

/-- The tokens say the entries of a list in their order, with nothing between them but the contents of comments and what stands
in front of the first section of a case. -/
inductive Lists (maxTerms : Nat) : List Entry → List PlacedToken → Prop where
  | nil : Lists maxTerms [] []
  | cons {entry : Entry} {entries : List Entry} {placed : PlacedToken} {tokens : List PlacedToken}
      (hentry : Says maxTerms placed entry) (hrest : Lists maxTerms entries tokens) :
      Lists maxTerms (entry :: entries) (placed :: tokens)
  | comment {entries : List Entry} {opening ending : PlacedToken} {markup : String} {inside tokens : List PlacedToken}
      (hopen : opening.tag? = some ("comment", markup)) (hinside : Commented inside)
      (hend : ending.IsTag "endcomment") (hrest : Lists maxTerms entries tokens) :
      Lists maxTerms (.tag "comment" markup opening.span :: .ending "endcomment" :: entries)
        (opening :: inside ++ ending :: tokens)
  | case {entries : List Entry} {opening first : PlacedToken} {markup : String} {depth : Nat} {dropped : Block}
      {prelude tokens : List PlacedToken} (hopen : opening.tag? = some ("case", markup))
      (hprelude : Spelled maxTerms depth (.block dropped) prelude) (hfirst : EndsPrelude first)
      (hrest : Lists maxTerms entries (first :: tokens)) :
      Lists maxTerms (.tag "case" markup opening.span :: entries) (opening :: prelude ++ first :: tokens)

variable {maxTerms depth : Nat} {entries more : List Entry} {front back tokens : List PlacedToken}

theorem Lists.append (hfront : Lists maxTerms entries front) (hback : Lists maxTerms more back) :
    Lists maxTerms (entries ++ more) (front ++ back) := by
  induction hfront with
  | nil => exact hback
  | cons hentry _ ih => exact .cons hentry ih
  | comment hopen hinside hend _ ih =>
    have h := Lists.comment hopen hinside hend ih
    simpa using h
  | case hopen hprelude hfirst _ ih =>
    have h := Lists.case hopen hprelude hfirst ih
    simpa using h

theorem Lists.singleton {entry : Entry} {placed : PlacedToken} (hentry : Says maxTerms placed entry) :
    Lists maxTerms [entry] [placed] := .cons hentry .nil

theorem StandsAlone.listing_eq_nil {action : Tag} (h : StandsAlone action) : listingOfTag action = [] := by
  cases action with
  | capture | case | comment | loop | branch | ifChanged | table | custom => exact h.elim
  | _ => rfl

/-- What the tokens of a phrase list. -/
def Listed (maxTerms : Nat) : Phrase → List PlacedToken → Prop
  | .block nodes, tokens => Lists maxTerms (listing nodes) tokens
  | .node node, tokens => Lists maxTerms (listingOfNode node) tokens
  | .rest name _ body action, tokens =>
    (∃ entries, listingOfTag action = listing body ++ entries ∧ Lists maxTerms entries tokens) ∨
      (name = "case" ∧ Lists maxTerms (listingOfTag action) tokens ∧ ∃ first rest, tokens = first :: rest ∧ EndsPrelude first)
  | .whens whens otherwise, tokens =>
    Lists maxTerms (listingOfWhens whens ++ listingOfElse otherwise ++ [.ending "endcase"]) tokens ∧
      ∃ first rest, tokens = first :: rest ∧ EndsPrelude first
  | .branches closing branches otherwise, tokens =>
    Lists maxTerms (listingOfBranches branches ++ listingOfElse otherwise ++ [.ending closing]) tokens
  | .ending closing otherwise, tokens => Lists maxTerms (listingOfElse otherwise ++ [.ending closing]) tokens ∧
      ∃ first rest, tokens = first :: rest ∧ (first.IsTag "else" ∨ first.IsTag closing)

/-- The tokens of a phrase list it. -/
theorem listed_of_spelled {phrase : Phrase} (h : Spelled maxTerms depth phrase tokens) :
    Listed maxTerms phrase tokens := by
  induction h with
  | nil => exact .nil
  | cons _ _ hnode hnodes => exact hnode.append hnodes
  | data => exact .singleton .data
  | raw => exact .singleton .raw
  | output hmarkup => exact .singleton (.output hmarkup)
  | leaf htag hleaf =>
    have halone : StandsAlone _ := means_of_builtinMeaning hleaf
    rw [Listed, listingOfNode, halone.listing_eq_nil]
    exact .singleton (.tag htag)
  | comment hopen hinside hend => exact .comment hopen hinside hend .nil
  | tag hopen _ hinside _ hbody hrest =>
    rcases hrest with ⟨entries, hentries, hlists⟩ | ⟨rfl, hlists, first, rest, rfl, hfirst⟩
    · have h := Lists.cons (.tag hopen) (hbody.append hlists)
      rwa [← hentries] at h
    · exact .case hopen hinside hfirst hlists
  | capture _ hend | ifChanged hend | table _ hend => exact .inl ⟨_, rfl, .singleton (.ending hend)⟩
  | loop _ _ hrest =>
    exact .inl ⟨_, by rw [listingOfTag, List.append_assoc], hrest.1⟩
  | case _ _ hrest => exact .inr ⟨rfl, hrest⟩
  | branch _ _ _ hrest =>
    refine .inl ⟨_, ?_, hrest⟩
    simp [listingOfTag, listingOfBranches]
  | lastWhen _ hrest =>
    obtain ⟨hlists, first, rest, htokens, hfirst⟩ := hrest
    exact ⟨hlists, first, rest, htokens, .inr hfirst⟩
  | @when _ placed _ _ _ _ _ inside rest htag hmarkup _ _ hbody hrest =>
    have h := Lists.cons (.when htag hmarkup) (hbody.append hrest.1)
    refine ⟨?_, placed, inside ++ rest, rfl, .inl (PlacedToken.isTag_of_tag? htag)⟩
    simpa [listingOfWhens] using h
  | lastBranch _ hrest => exact hrest.1
  | elsif htag hmarkup _ _ hbody hrest =>
    have h := Lists.cons (.elsif htag hmarkup) (hbody.append hrest)
    simpa [listingOfBranches, Listed] using h
  | @close _ _ ending hend => exact ⟨.singleton (.ending hend), ending, [], rfl, .inr hend⟩
  | @otherwise _ _ placed ending _ inside htag _ hend hbody =>
    have h := Lists.cons (.otherwise htag) (hbody.append (.singleton (.ending hend)))
    exact ⟨h, placed, inside ++ [ending], rfl, .inl htag⟩

end Liquid.Template
