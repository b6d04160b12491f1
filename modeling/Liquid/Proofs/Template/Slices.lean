import Liquid.Proofs.Markup.Slices
import Liquid.Proofs.Token.Slices
import Liquid.Template.Header

/-!
# Slices of a template

Each built-in tag may read its markup from a tape, as an output and a condition may. So a source and all markup in it can be
read with every place checked that something is cut at or moved to, and what is read is what is read without.
-/

namespace Liquid.Header

open Text

/-! ## Reading from a tape -/

/-- A name and nothing else. -/
def name? (markup : String) : Checked String := do
  let tape ← Tape.ofSource markup
  let (name, place) ← tape.ident 0
  tape.finish place
  return name

/-- A name, an equals sign and a value with filters. -/
def assignment? (markup : String) : Checked (String × Markup) :=
  match find? ['='] markup.toList with
  | none => throw (.malformedTag "assign" "'name = value'")
  | some place => do
    let target ← upTo? place markup.toList
    let value ← from? (place + 1) markup.toList
    let target ← name? (String.ofList target)
    let value ← Markup.parse? (String.ofList value)
    return (target, value)

/-- The variable that a capture fills: a name or a text. -/
def captureTarget? (markup : String) : Checked String := do
  let tape ← Tape.ofSource markup
  let after ← tape.pass 0
  match tape.lexeme? 0 with
  | some (.ident name) | some (.text name) =>
    tape.finish after
    return name
  | _ => throw (.malformedTag "capture" "a variable name")

/-- One expression and nothing else. -/
def subject? (markup : String) : Checked Expr := do
  let tape ← Tape.ofSource markup
  let (subject, place) ← tape.expr 0
  tape.finish place
  return subject

/-- Expressions, each behind a separator; `fuel` exceeds the number of lexemes left. -/
def moreValues? (tape : Tape) (separates : Nat → Bool) : (fuel : Nat) → (place : Nat) → Checked (List Expr × Nat)
  | 0, place => return ([], place)
  | fuel + 1, place =>
    if separates place then do
      let place ← tape.pass place
      let (value, place) ← tape.expr place
      let (others, place) ← moreValues? tape separates fuel place
      return (value :: others, place)
    else return ([], place)

/-- Whether the next lexeme is a comma. -/
def commaAt (tape : Tape) (place : Nat) : Bool :=
  match tape.lexeme? place with
  | some .comma => true
  | _ => false

/-- Values separated by commas or the word `or`. -/
def whenValues? (markup : String) : Checked (List Expr) := do
  let tape ← Tape.ofSource markup
  let (first, place) ← tape.expr 0
  let (others, place) ← moreValues? tape (fun place ↦ commaAt tape place || tape.atKeyword place "or") (tape.fuel place) place
  tape.finish place
  return first :: others

/-- Values separated by commas, with a group and a colon in front of them if there is one. -/
def cycle? (markup : String) : Checked (Option Expr × List Expr) := do
  let tape ← Tape.ofSource markup
  let (first, place) ← tape.expr 0
  match tape.lexeme? place with
  | some .colon =>
    let place ← tape.pass place
    let (value, place) ← tape.expr place
    let (others, place) ← moreValues? tape (commaAt tape) (tape.fuel place) place
    tape.finish place
    return (some first, value :: others)
  | _ =>
    let (others, place) ← moreValues? tape (commaAt tape) (tape.fuel place) place
    tape.finish place
    return (none, first :: others)

/-- An item, the word `in` and a collection, with the name that the loop gets from them. -/
def loopStart? (tag : String) (tape : Tape) (place : Nat) : Checked ((String × Expr × String) × Nat) :=
  let malformed : Fault := .malformedTag tag "'item in collection'"
  match tape.lexeme? place with
  | some (.ident item) => do
    let place ← tape.pass place
    if !tape.atKeyword place "in" then throw malformed
    let place ← tape.pass place
    let start := tape.offset place
    let (collection, place) ← tape.expr place
    let text ← tape.textFrom start place
    return ((item, collection, item ++ "-" ++ text), place)
  | _ => throw malformed

/-- The arguments of a loop in any order, commas between them optional. -/
def loopArguments? (tape : Tape) : (fuel : Nat) → LoopHeader → (place : Nat) → Checked LoopHeader
  | 0, header, _ => return header
  | fuel + 1, header, place =>
    if tape.atEnd place then return header
    else if commaAt tape place then do loopArguments? tape fuel header (← tape.pass place)
    else do
      let (argument, place) ← tape.ident place
      if argument == "reversed" then loopArguments? tape fuel { header with reversed := true } place
      else if argument == "limit" then
        let place ← tape.colon place
        let (limit, place) ← tape.expr place
        loopArguments? tape fuel { header with limit := some limit } place
      else if argument == "offset" then
        let place ← tape.colon place
        if tape.atKeyword place "continue" then
          let place ← tape.pass place
          loopArguments? tape fuel { header with offset := some .resume } place
        else
          let (offset, place) ← tape.expr place
          loopArguments? tape fuel { header with offset := some (.expr offset) } place
      else throw (.unknownLoopArgument argument "for")

/-- The header of a loop. -/
def loop? (markup : String) : Checked LoopHeader := do
  let tape ← Tape.ofSource markup
  let ((item, collection, name), place) ← loopStart? "for" tape 0
  loopArguments? tape (tape.fuel place) ⟨item, collection, name, false, none, none⟩ place

/-- The arguments of a table in any order, commas between them optional. -/
def tableArguments? (tape : Tape) : (fuel : Nat) → TableHeader → (place : Nat) → Checked TableHeader
  | 0, header, _ => return header
  | fuel + 1, header, place =>
    if tape.atEnd place then return header
    else if commaAt tape place then do tableArguments? tape fuel header (← tape.pass place)
    else do
      let (argument, place) ← tape.ident place
      if argument != "cols" && argument != "limit" && argument != "offset" then
        throw (.unknownLoopArgument argument "tablerow")
      let place ← tape.colon place
      let (value, place) ← tape.expr place
      let header :=
        if argument == "cols" then { header with columns := some value }
        else if argument == "limit" then { header with limit := some value }
        else { header with offset := some value }
      tableArguments? tape fuel header place

/-- The header of a table. -/
def table? (markup : String) : Checked TableHeader := do
  let tape ← Tape.ofSource markup
  let ((item, collection, name), place) ← loopStart? "tablerow" tape 0
  tableArguments? tape (tape.fuel place) ⟨item, collection, name, none, none, none⟩ place

/-- Keys with values, commas between them optional. -/
def attributes? (tape : Tape) : (fuel : Nat) → (place : Nat) → Checked (List (String × Expr))
  | 0, _ => return []
  | fuel + 1, place =>
    if tape.atEnd place then return []
    else if commaAt tape place then do attributes? tape fuel (← tape.pass place)
    else do
      let (key, place) ← tape.ident place
      let place ← tape.colon place
      let (value, place) ← tape.expr place
      return (key, value) :: (← attributes? tape fuel place)

/-- A template, what its variable is bound to, and attributes. -/
def inclusion? (markup : String) : Checked Inclusion := do
  let tape ← Tape.ofSource markup
  let (template, place) ← tape.expr 0
  if tape.atKeyword place "with" then
    let place ← tape.pass place
    let (value, place) ← tape.expr place
    return ⟨template, some (.value value), ← attributes? tape (tape.fuel place) place⟩
  else if tape.atKeyword place "for" then
    let place ← tape.pass place
    let (items, place) ← tape.expr place
    return ⟨template, some (.each items), ← attributes? tape (tape.fuel place) place⟩
  else return ⟨template, none, ← attributes? tape (tape.fuel place) place⟩

/-! ## Headers -/

open Cursor

variable {source : String} {lexemes : List PlacedLexeme} {least place : Nat} {cursor : Cursor}

/-- Reading a markup starts at the first place of its tape. -/
theorem start_follows (markup : String) :
    Follows (fun tape cursor ↦ ∃ lexemes, InOrder lexemes ∧ tape = tapeOf markup lexemes ∧ StandsAt markup lexemes 0 0 cursor)
      (Tape.ofSource markup) (Cursor.start markup) := by
  rw [← bind_pure (Tape.ofSource markup), Cursor.start]
  refine (Tape.ofSource_follows markup).bind ?_
  rintro _ lexemes ⟨rfl, hordered⟩
  exact .ok ⟨lexemes, hordered, rfl, standsAt_start markup lexemes⟩

theorem name?_follows (markup : String) : Follows Eq (name? markup) (name markup) := by
  refine (start_follows markup).bind ?_
  rintro _ cursor ⟨lexemes, hordered, rfl, hstart⟩
  refine hstart.ident.bind ?_
  rintro ⟨name, place⟩ ⟨_, cursor⟩ ⟨rfl, hend⟩
  exact hend.finish.bind fun _ _ _ ↦ .ok rfl

theorem assignment?_follows (markup : String) : Follows Eq (assignment? markup) (assignment markup) := by
  rw [assignment?, find?, assignment]
  obtain ⟨target, value, hshape, htarget, hfound⟩ | ⟨hwhole, hnone⟩ := Lexeme.quote_cases '=' markup.toList
  · have hequals : size ['='] = 1 := size_eq_length ['='] rfl
    have hdropped : markup.toList.dropWhile (· != '=') = '=' :: value := by
      have hparts := List.takeWhile_append_dropWhile (p := (· != '=')) (l := markup.toList)
      rw [htarget] at hparts
      exact List.append_cancel_left (hparts.trans hshape)
    have hfront : upTo? (size target) markup.toList = some target := by rw [hshape, upTo?_size]
    have hbehind : from? (size target + 1) markup.toList = some value := by
      have hcut := from?_size (target ++ ['=']) value
      rwa [size_append, hequals, List.append_assoc, List.singleton_append, ← hshape] at hcut
    rw [hfound, hdropped, htarget, Option.map_some]
    dsimp only
    rw [hfront, hbehind]
    change Follows Eq (do
      let target ← name? (String.ofList target)
      let value ← Markup.parse? (String.ofList value)
      pure (target, value)) _
    refine (name?_follows _).bind ?_
    rintro name _ rfl
    refine (Markup.parse?_follows _).bind ?_
    rintro markup _ rfl
    exact .ok rfl
  · have hdropped : markup.toList.dropWhile (· != '=') = [] := by
      have hparts := List.takeWhile_append_dropWhile (p := (· != '=')) (l := markup.toList)
      rw [hwhole] at hparts
      exact List.append_right_eq_self.1 hparts
    rw [hnone, hdropped]
    exact .error _

theorem captureTarget?_follows (markup : String) : Follows Eq (captureTarget? markup) (captureTarget markup) := by
  refine (start_follows markup).bind ?_
  rintro _ cursor ⟨lexemes, hordered, rfl, hstart⟩
  rw [hstart.lexeme?_eq]
  cases hlexeme : cursor.lexeme? with
  | none =>
    rw [hstart.pass_of_none hlexeme, pure_bind]
    exact .error _
  | some lexeme =>
    refine hstart.pass hlexeme fun hafter ↦ ?_
    cases lexeme with
    | ident | text => exact hafter.finish.bind fun _ _ _ ↦ .ok rfl
    | _ => exact .error _

theorem subject?_follows (markup : String) : Follows Eq (subject? markup) (subject markup) := by
  refine (start_follows markup).bind ?_
  rintro _ cursor ⟨lexemes, hordered, rfl, hstart⟩
  refine (hstart.expr hordered).bind ?_
  rintro ⟨subject, place⟩ ⟨_, cursor⟩ ⟨rfl, hend⟩
  exact hend.finish.bind fun _ _ _ ↦ .ok rfl

theorem commaAt_eq (h : StandsAt source lexemes least place cursor) :
    commaAt (tapeOf source lexemes) place = atComma cursor := by
  rw [commaAt, h.lexeme?_eq]
  rfl

theorem exists_comma (h : atComma cursor = true) : cursor.lexeme? = some .comma := by
  unfold atComma at h
  split at h
  · next hlexeme => exact hlexeme
  · cases h

theorem moreValues?_follows (hordered : InOrder lexemes) {separatesAt : Nat → Bool} {separates : Cursor → Bool}
    (hseparates : ∀ {least place : Nat} {cursor : Cursor}, StandsAt source lexemes least place cursor →
      separatesAt place = separates cursor)
    (hlexeme : ∀ {cursor : Cursor}, separates cursor = true → ∃ lexeme, cursor.lexeme? = some lexeme) {fuel : Nat}
    (h : StandsAt source lexemes least place cursor) :
    Follows (ReadsTo source lexemes least) (moreValues? (tapeOf source lexemes) separatesAt fuel place)
      (moreValues separates fuel cursor) := by
  induction fuel generalizing least place cursor with
  | zero => exact .ok ⟨rfl, h⟩
  | succ fuel ih =>
    rw [moreValues?, moreValues, hseparates h]
    by_cases hseparated : separates cursor = true
    · obtain ⟨lexeme, hlexeme⟩ := hlexeme hseparated
      rw [if_pos hseparated, if_pos hseparated]
      refine h.pass hlexeme fun hafter ↦ (hafter.expr hordered).bind ?_
      rintro ⟨value, place⟩ ⟨_, cursor⟩ ⟨rfl, hvalue⟩
      have hmoved : StandsAt source lexemes least _ _ := hvalue.mono (by omega)
      refine (ih hmoved).bind ?_
      rintro ⟨others, place⟩ ⟨_, cursor⟩ ⟨rfl, hothers⟩
      exact .ok ⟨rfl, hothers⟩
    · rw [if_neg hseparated, if_neg hseparated]
      exact .ok ⟨rfl, h⟩

/-- Values behind commas. -/
theorem moreValues?_atComma (hordered : InOrder lexemes) {fuel : Nat} (h : StandsAt source lexemes least place cursor) :
    Follows (ReadsTo source lexemes least) (moreValues? (tapeOf source lexemes) (commaAt (tapeOf source lexemes)) fuel place)
      (moreValues atComma fuel cursor) :=
  moreValues?_follows hordered commaAt_eq (fun hcomma ↦ ⟨_, exists_comma hcomma⟩) h

theorem whenValues?_follows (markup : String) : Follows Eq (whenValues? markup) (whenValues markup) := by
  refine (start_follows markup).bind ?_
  rintro _ cursor ⟨lexemes, hordered, rfl, hstart⟩
  refine (hstart.expr hordered).bind ?_
  rintro ⟨first, place⟩ ⟨_, cursor⟩ ⟨rfl, hfirst⟩
  dsimp only
  rw [hfirst.fuel_eq]
  refine (moreValues?_follows hordered (fun h ↦ ?_) (fun hseparated ↦ ?_) hfirst).bind ?_
  · rw [commaAt_eq h, h.atKeyword_eq]
  · obtain hcomma | hor := Bool.or_eq_true _ _ ▸ hseparated
    · exact ⟨_, exists_comma hcomma⟩
    · obtain ⟨name, hname⟩ := StandsAt.exists_ident _ hor
      exact ⟨_, hname⟩
  · rintro ⟨others, place⟩ ⟨_, cursor⟩ ⟨rfl, hend⟩
    exact hend.finish.bind fun _ _ _ ↦ .ok rfl

/-- The values of a cycle are read behind the first of them. -/
theorem cycleValues_follows (hordered : InOrder lexemes) (group : Option Expr) (first : Expr)
    (h : StandsAt source lexemes least place cursor) :
    Follows Eq
      (do
        let (others, place) ← moreValues? (tapeOf source lexemes) (commaAt (tapeOf source lexemes))
          ((tapeOf source lexemes).fuel place) place
        (tapeOf source lexemes).finish place
        return (group, first :: others))
      (do
        let (others, cursor) ← moreValues atComma cursor.fuel cursor
        cursor.finish
        return (group, first :: others)) := by
  rw [h.fuel_eq]
  refine (moreValues?_atComma hordered h).bind ?_
  rintro ⟨others, place⟩ ⟨_, cursor⟩ ⟨rfl, hend⟩
  exact hend.finish.bind fun _ _ _ ↦ .ok rfl

theorem cycle?_follows (markup : String) : Follows Eq (cycle? markup) (cycle markup) := by
  refine (start_follows markup).bind ?_
  rintro _ cursor ⟨lexemes, hordered, rfl, hstart⟩
  refine (hstart.expr hordered).bind ?_
  rintro ⟨first, place⟩ ⟨_, cursor⟩ ⟨rfl, hfirst⟩
  dsimp only
  rw [hfirst.lexeme?_eq]
  cases hlexeme : cursor.lexeme? with
  | none => exact cycleValues_follows hordered none first hfirst
  | some lexeme =>
    cases lexeme with
    | colon =>
      refine hfirst.pass hlexeme fun hafter ↦ (hafter.expr hordered).bind ?_
      rintro ⟨value, place⟩ ⟨_, cursor⟩ ⟨rfl, hvalue⟩
      exact cycleValues_follows hordered (some first) value hvalue
    | _ => exact cycleValues_follows hordered none first hfirst

theorem loopStart?_follows (hordered : InOrder lexemes) (tag : String) (h : StandsAt source lexemes least place cursor) :
    Follows (ReadsTo source lexemes least) (loopStart? tag (tapeOf source lexemes) place) (loopStart tag cursor) := by
  rw [loopStart?, loopStart, h.lexeme?_eq]
  cases hlexeme : cursor.lexeme? with
  | none => exact .error _
  | some lexeme =>
    cases lexeme with
    | ident item =>
      refine h.pass hlexeme fun hafter ↦ ?_
      dsimp only
      rw [hafter.atKeyword_eq]
      by_cases hin : cursor.advance.atKeyword "in" = true
      · obtain ⟨name, hname⟩ := StandsAt.exists_ident _ hin
        rw [hin]
        refine hafter.pass hname fun hbehind ↦ (hbehind.self.expr hordered).bind ?_
        rintro ⟨collection, place⟩ ⟨_, cursor⟩ ⟨rfl, hcollection⟩
        have hle := hafter.least_le
        dsimp only
        rw [StandsAt.textFrom_eq hordered hbehind hcollection, pure_bind]
        exact .ok ⟨rfl, hcollection.mono (by omega)⟩
      · rw [Bool.eq_false_iff.2 hin]
        exact .error _
    | _ => exact .error _

/-- Whatever the arguments of a loop are, reading them is never given up. -/
theorem loopArguments?_follows (hordered : InOrder lexemes) {fuel : Nat} (header : LoopHeader)
    (h : StandsAt source lexemes least place cursor) :
    Follows Eq (loopArguments? (tapeOf source lexemes) fuel header place) (loopArguments fuel header cursor) := by
  induction fuel generalizing header least place cursor with
  | zero => exact .ok rfl
  | succ fuel ih =>
    rw [loopArguments?, loopArguments, h.atEnd_eq, commaAt_eq h]
    by_cases hend : cursor.atEnd = true
    · rw [if_pos hend, if_pos hend]
      exact .ok rfl
    rw [if_neg hend, if_neg hend]
    by_cases hcomma : atComma cursor = true
    · rw [if_pos hcomma, if_pos hcomma]
      exact h.pass (exists_comma hcomma) fun hafter ↦ ih header hafter
    rw [if_neg hcomma, if_neg hcomma]
    refine h.ident.bind ?_
    rintro ⟨argument, place⟩ ⟨_, cursor⟩ ⟨rfl, hname⟩
    refine Follows.ite (ih _ hname) (Follows.ite ?_ (Follows.ite ?_ (.error _)))
    · refine hname.colon.bind fun place cursor hcolon ↦ (hcolon.expr hordered).bind ?_
      rintro ⟨limit, place⟩ ⟨_, cursor⟩ ⟨rfl, hlimit⟩
      exact ih _ hlimit
    · refine hname.colon.bind fun place cursor hcolon ↦ ?_
      dsimp only
      rw [hcolon.atKeyword_eq]
      by_cases hresumes : cursor.atKeyword "continue" = true
      · obtain ⟨name, hlexeme⟩ := StandsAt.exists_ident _ hresumes
        rw [if_pos hresumes, if_pos hresumes]
        exact hcolon.pass hlexeme fun hafter ↦ ih _ hafter
      · rw [if_neg hresumes, if_neg hresumes]
        refine (hcolon.expr hordered).bind ?_
        rintro ⟨offset, place⟩ ⟨_, cursor⟩ ⟨rfl, hoffset⟩
        exact ih _ hoffset

theorem loop?_follows (markup : String) : Follows Eq (loop? markup) (loop markup) := by
  refine (start_follows markup).bind ?_
  rintro _ cursor ⟨lexemes, hordered, rfl, hstart⟩
  refine (loopStart?_follows hordered "for" hstart).bind ?_
  rintro ⟨⟨item, collection, name⟩, place⟩ ⟨_, cursor⟩ ⟨rfl, hcollection⟩
  dsimp only
  rw [hcollection.fuel_eq]
  exact loopArguments?_follows hordered _ hcollection

theorem tableArguments?_follows (hordered : InOrder lexemes) {fuel : Nat} (header : TableHeader)
    (h : StandsAt source lexemes least place cursor) :
    Follows Eq (tableArguments? (tapeOf source lexemes) fuel header place) (tableArguments fuel header cursor) := by
  induction fuel generalizing header least place cursor with
  | zero => exact .ok rfl
  | succ fuel ih =>
    rw [tableArguments?, tableArguments, h.atEnd_eq, commaAt_eq h]
    by_cases hend : cursor.atEnd = true
    · rw [if_pos hend, if_pos hend]
      exact .ok rfl
    rw [if_neg hend, if_neg hend]
    by_cases hcomma : atComma cursor = true
    · rw [if_pos hcomma, if_pos hcomma]
      exact h.pass (exists_comma hcomma) fun hafter ↦ ih header hafter
    rw [if_neg hcomma, if_neg hcomma]
    refine h.ident.bind ?_
    rintro ⟨argument, place⟩ ⟨_, cursor⟩ ⟨rfl, hname⟩
    refine Follows.ite (.error _) ?_
    refine hname.colon.bind fun place cursor hcolon ↦ (hcolon.expr hordered).bind ?_
    rintro ⟨value, place⟩ ⟨_, cursor⟩ ⟨rfl, hvalue⟩
    exact ih _ hvalue

theorem table?_follows (markup : String) : Follows Eq (table? markup) (table markup) := by
  refine (start_follows markup).bind ?_
  rintro _ cursor ⟨lexemes, hordered, rfl, hstart⟩
  refine (loopStart?_follows hordered "tablerow" hstart).bind ?_
  rintro ⟨⟨item, collection, name⟩, place⟩ ⟨_, cursor⟩ ⟨rfl, hcollection⟩
  dsimp only
  rw [hcollection.fuel_eq]
  exact tableArguments?_follows hordered _ hcollection

theorem attributes?_follows (hordered : InOrder lexemes) {fuel : Nat} (h : StandsAt source lexemes least place cursor) :
    Follows Eq (attributes? (tapeOf source lexemes) fuel place) (attributes fuel cursor) := by
  induction fuel generalizing least place cursor with
  | zero => exact .ok rfl
  | succ fuel ih =>
    rw [attributes?, attributes, h.atEnd_eq, commaAt_eq h]
    by_cases hend : cursor.atEnd = true
    · rw [if_pos hend, if_pos hend]
      exact .ok rfl
    rw [if_neg hend, if_neg hend]
    by_cases hcomma : atComma cursor = true
    · rw [if_pos hcomma, if_pos hcomma]
      exact h.pass (exists_comma hcomma) fun hafter ↦ ih hafter
    rw [if_neg hcomma, if_neg hcomma]
    refine h.ident.bind ?_
    rintro ⟨key, place⟩ ⟨_, cursor⟩ ⟨rfl, hname⟩
    refine hname.colon.bind fun place cursor hcolon ↦ (hcolon.expr hordered).bind ?_
    rintro ⟨value, place⟩ ⟨_, cursor⟩ ⟨rfl, hvalue⟩
    refine (ih hvalue).bind ?_
    rintro others _ rfl
    exact .ok rfl

theorem inclusion?_follows (markup : String) : Follows Eq (inclusion? markup) (inclusion markup) := by
  refine (start_follows markup).bind ?_
  rintro _ cursor ⟨lexemes, hordered, rfl, hstart⟩
  refine (hstart.expr hordered).bind ?_
  rintro ⟨template, place⟩ ⟨_, cursor⟩ ⟨rfl, htemplate⟩
  have hattributes {least place : Nat} {cursor : Cursor} (h : StandsAt markup lexemes least place cursor)
      (binding : Option Binding) :
      Follows Eq (do
          let read ← attributes? (tapeOf markup lexemes) ((tapeOf markup lexemes).fuel place) place
          return Inclusion.mk template binding read)
        (do return Inclusion.mk template binding (← attributes cursor.fuel cursor)) := by
    rw [h.fuel_eq]
    refine (attributes?_follows hordered h).bind ?_
    rintro attributes _ rfl
    exact .ok rfl
  dsimp only
  rw [htemplate.atKeyword_eq, htemplate.atKeyword_eq]
  by_cases hwith : cursor.atKeyword "with" = true
  · obtain ⟨name, hlexeme⟩ := StandsAt.exists_ident _ hwith
    rw [if_pos hwith, if_pos hwith]
    refine htemplate.pass hlexeme fun hafter ↦ (hafter.expr hordered).bind ?_
    rintro ⟨value, place⟩ ⟨_, cursor⟩ ⟨rfl, hvalue⟩
    exact hattributes hvalue _
  rw [if_neg hwith, if_neg hwith]
  by_cases hfor : cursor.atKeyword "for" = true
  · obtain ⟨name, hlexeme⟩ := StandsAt.exists_ident _ hfor
    rw [if_pos hfor, if_pos hfor]
    refine htemplate.pass hlexeme fun hafter ↦ (hafter.expr hordered).bind ?_
    rintro ⟨items, place⟩ ⟨_, cursor⟩ ⟨rfl, hitems⟩
    exact hattributes hitems _
  · rw [if_neg hfor, if_neg hfor]
    exact hattributes htemplate none

/-! ## All forms of markup -/

/-- The forms in which markup is read: outputs, conditions with the name of their tag and the largest number of their terms,
and the headers of the built-in tags. -/
inductive Form where
  | output
  | condition (tag : String) (limit : Nat)
  | name
  | assignment
  | captureTarget
  | subject
  | whenValues
  | cycle
  | loop
  | table
  | inclusion

namespace Form

/-- What is read from markup of a form. -/
def Result : Form → Type
  | output => Markup
  | condition _ _ => Condition × Nat
  | name | captureTarget => String
  | assignment => String × Markup
  | subject => Expr
  | whenValues => List Expr
  | cycle => Option Expr × List Expr
  | loop => LoopHeader
  | table => TableHeader
  | inclusion => Inclusion

/-- Reads markup of a form. -/
def read : (form : Form) → (markup : String) → Except Fault form.Result
  | output => Markup.parse
  | condition tag limit => (Condition.parse · tag limit)
  | name => Header.name
  | assignment => Header.assignment
  | captureTarget => Header.captureTarget
  | subject => Header.subject
  | whenValues => Header.whenValues
  | cycle => Header.cycle
  | loop => Header.loop
  | table => Header.table
  | inclusion => Header.inclusion

/-- Reads markup of a form from a tape. -/
def read? : (form : Form) → (markup : String) → Checked form.Result
  | output => Markup.parse?
  | condition tag limit => (Condition.parse? · tag limit)
  | name => name?
  | assignment => assignment?
  | captureTarget => captureTarget?
  | subject => subject?
  | whenValues => whenValues?
  | cycle => cycle?
  | loop => loop?
  | table => table?
  | inclusion => inclusion?

/-- Whatever the form of a markup, reading it from a tape is never given up. -/
theorem read?_follows (form : Form) (markup : String) : Follows Eq (form.read? markup) (form.read markup) := by
  cases form with
  | output => exact Markup.parse?_follows markup
  | condition tag limit => exact Condition.parse?_follows markup tag limit
  | name => exact name?_follows markup
  | assignment => exact assignment?_follows markup
  | captureTarget => exact captureTarget?_follows markup
  | subject => exact subject?_follows markup
  | whenValues => exact whenValues?_follows markup
  | cycle => exact cycle?_follows markup
  | loop => exact loop?_follows markup
  | table => exact table?_follows markup
  | inclusion => exact inclusion?_follows markup

end Form

end Liquid.Header

namespace Liquid.Template

open Lexer Header

/-- A source that is shorter than the limit of offsets, and all markup, can be read with every place checked that a text is cut
at and every move checked: each call of the lexer, also behind what cannot be read, the whole stream of tokens and markup of
every form give what they give without checks. -/
theorem reading_stays_within (source : String) (h : source.utf8ByteSize < offsetLimit) :
    (∀ calls, ((start source).called calls).next? = some ((start source).called calls).next) ∧
    TokenStream.ofSource? source = some (TokenStream.ofSource source) ∧
    ∀ (form : Form) (markup : String), (form.read? markup).run = some (form.read markup) :=
  ⟨next?_called h, TokenStream.ofSource?_eq h, fun form markup ↦ (form.read?_follows markup).eq_mk⟩

/-- A text with an accent, a parenthesis without a partner and a tag without a name. -/
def accented : String := "\x7b\x7b 'é' | f: (x, y[0] \x7d\x7d\x7b% é %\x7d"

theorem reading_stays_within_accented : accented.utf8ByteSize < offsetLimit ∧
    TokenStream.ofSource? accented = some (TokenStream.ofSource accented) ∧
    (Form.output.read? "'é' | f: (x, y[0]").run = some (Form.output.read "'é' | f: (x, y[0]") := by
  have hbelow : accented.utf8ByteSize < offsetLimit := by decide
  obtain ⟨-, htokens, hmarkup⟩ := reading_stays_within accented hbelow
  exact ⟨hbelow, htokens, hmarkup .output _⟩

end Liquid.Template
