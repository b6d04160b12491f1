import Liquid.Proofs.Markup.Acceptance
import Liquid.Proofs.Render.Resuming
import Liquid.Template.Header

/-!
# Loops that share a place

The name of a loop is its item, a hyphen and the source text of its collection, and under this name the loop keeps the
place at which a later one resumes. An item may have hyphens of its own, so that the name does not tell where the item
stops and the text begins. Two loops share their place exactly if item and text are the same, or if one item reaches over
its hyphen into the text of the other loop.
-/

namespace Liquid

/-! ## Names that run together -/

/-- Behind another item and a hyphen an item goes on with what the other text has in front of a hyphen and the item's own
text. -/
def ReachesInto (item text other otherText : String) : Prop :=
  ∃ middle, item = other ++ "-" ++ middle ∧ otherText = middle ++ "-" ++ text

/-- An item and a text read like another item and another text once a hyphen stands between them. -/
def RunsTogether (item text other otherText : String) : Prop :=
  item = other ∧ text = otherText ∨ ReachesInto item text other otherText ∨ ReachesInto other otherText item text

theorem ReachesInto.joined_eq {item text other otherText : String} (h : ReachesInto item text other otherText) :
    item ++ "-" ++ text = other ++ "-" ++ otherText := by
  obtain ⟨middle, rfl, rfl⟩ := h
  simp only [String.append_assoc]

/-- An item that goes on behind another one and its hyphen reaches into the other text. -/
theorem reachesInto_of_toList {item text other otherText : String} {reached : List Char}
    (hitem : item.toList = other.toList ++ '-' :: reached) (htext : otherText.toList = reached ++ '-' :: text.toList) :
    ReachesInto item text other otherText := by
  refine ⟨String.ofList reached, String.toList_inj.1 ?_, String.toList_inj.1 ?_⟩
  · simpa using hitem
  · simpa using htext

theorem runsTogether_iff {item text other otherText : String} :
    RunsTogether item text other otherText ↔ item ++ "-" ++ text = other ++ "-" ++ otherText := by
  refine ⟨?_, fun h ↦ ?_⟩
  · rintro (⟨rfl, rfl⟩ | h | h)
    · rfl
    · exact h.joined_eq
    · exact h.joined_eq.symm
  · -- Whichever item is longer, its rest begins with the hyphen behind the other one.
    have hlists : item.toList ++ '-' :: text.toList = other.toList ++ '-' :: otherText.toList := by
      simpa using congrArg String.toList h
    obtain ⟨reached, hother, hrest⟩ | ⟨reached, hitem, hrest⟩ := List.append_eq_append_iff.1 hlists
    · cases reached with
      | nil =>
        obtain ⟨-, htext⟩ := List.cons.inj hrest
        refine .inl ⟨String.toList_inj.1 ?_, String.toList_inj.1 htext⟩
        rw [hother, List.append_nil]
      | cons c reached =>
        obtain ⟨rfl, htext⟩ := List.cons.inj hrest
        exact .inr (.inr (reachesInto_of_toList hother htext))
    · cases reached with
      | nil =>
        obtain ⟨-, htext⟩ := List.cons.inj hrest
        refine .inl ⟨String.toList_inj.1 ?_, String.toList_inj.1 htext.symm⟩
        rw [hitem, List.append_nil]
      | cons c reached =>
        obtain ⟨rfl, htext⟩ := List.cons.inj hrest
        exact .inr (.inl (reachesInto_of_toList hitem htext))

/-- Items without hyphens reach into no text. -/
theorem RunsTogether.eq_of_no_hyphen {item text other otherText : String} (h : RunsTogether item text other otherText)
    (hitem : '-' ∉ item.toList) (hother : '-' ∉ other.toList) : item = other ∧ text = otherText := by
  obtain h | ⟨middle, rfl, -⟩ | ⟨middle, rfl, -⟩ := h
  · exact h
  · simp at hitem
  · simp at hother

/-! ## The texts of a header -/

namespace LoopHeader

open Markup

/-- A markup begins with the item of a loop, the word `in` and a text that writes the collection. -/
def IsOver (header : LoopHeader) (markup text : String) : Prop :=
  ∃ item word front rest, Lexeme.scan markup = .ok (item :: word :: (front ++ rest)) ∧
    item.lexeme = .ident header.item ∧ word.lexeme = .ident "in" ∧
    Writes markup (.expr header.collection) front ∧ EndsExpr (first? rest) ∧ text = coveredText markup front

/-- A markup has one collection only. -/
theorem IsOver.text_eq {header : LoopHeader} {markup text other : String} (h : header.IsOver markup text)
    (hother : header.IsOver markup other) : text = other := by
  obtain ⟨item, word, front, rest, hscan, -, -, hwrites, hends, rfl⟩ := h
  obtain ⟨item', word', front', rest', hscan', -, -, hwrites', hends', rfl⟩ := hother
  have hsame := (List.cons.inj (List.cons.inj (Except.ok.inj (hscan.symm.trans hscan'))).2).2
  have hread := Cursor.expr_append hwrites none hends
  rw [hsame, Cursor.expr_append hwrites' none hends'] at hread
  have hrest : rest' = rest := congrArg Cursor.rest (Prod.mk.inj (Except.ok.inj hread)).2
  subst hrest
  rw [List.append_cancel_right hsame]

end LoopHeader

namespace Header

open Markup

variable {markup tag : String} {cursor after : Cursor}

theorem of_atKeyword_eq {last : Option PlacedLexeme} {lexemes : List PlacedLexeme} {keyword : String}
    (h : Cursor.atKeyword ⟨markup, last, lexemes⟩ keyword = true) :
    ∃ start stop rest, lexemes = ⟨.ident keyword, start, stop⟩ :: rest := by
  unfold Cursor.atKeyword at h
  split at h
  · next name hnext =>
    obtain rfl : name = keyword := beq_iff_eq.1 h
    exact Cursor.of_first?_eq_some hnext
  · cases h

/-- What a loop begins with, lexeme by lexeme. -/
theorem of_loopStart_eq {last : Option PlacedLexeme} {lexemes : List PlacedLexeme} {item name : String} {collection : Expr}
    (h : loopStart tag ⟨markup, last, lexemes⟩ = .ok ((item, collection, name), after)) :
    ∃ first word front rest, lexemes = first :: word :: (front ++ rest) ∧ first.lexeme = .ident item ∧
      word.lexeme = .ident "in" ∧ Writes markup (.expr collection) front ∧ after.rest = rest ∧
      name = item ++ "-" ++ coveredText markup front := by
  unfold loopStart at h
  dsimp only at h
  split at h
  · next hitem =>
    obtain ⟨start, stop, lexemes, rfl⟩ := Cursor.of_first?_eq_some hitem
    split at h
    · cases h
    · next hword =>
      rw [Bool.not_eq_true, Bool.not_eq_false'] at hword
      obtain ⟨start', stop', lexemes, rfl⟩ := of_atKeyword_eq hword
      obtain ⟨⟨read, final⟩, hread, h⟩ := of_bind_eq_ok h
      obtain ⟨front, rest, rfl, rfl, hwrites⟩ := (Cursor.readsWritten markup _).expr hread
      cases h
      refine ⟨_, _, front, rest, rfl, rfl, rfl, hwrites, rfl, congrArg (_ ++ "-" ++ ·) ?_⟩
      exact Cursor.textFrom_behind hwrites.ne_nil _ _ rest rest
  · cases h

/-- The arguments of a loop change neither its item, its collection nor its name. -/
theorem of_loopArguments_eq {fuel : Nat} {header result : LoopHeader} (h : loopArguments fuel header cursor = .ok result) :
    result.item = header.item ∧ result.collection = header.collection ∧ result.name = header.name := by
  induction fuel generalizing header cursor with
  | zero =>
    obtain rfl := Except.ok.inj h
    exact ⟨rfl, rfl, rfl⟩
  | succ fuel ih =>
    rw [loopArguments] at h
    split at h
    · obtain rfl := Except.ok.inj h
      exact ⟨rfl, rfl, rfl⟩
    split at h
    · exact (ih h :)
    obtain ⟨⟨argument, named⟩, -, h⟩ := of_bind_eq_ok h
    dsimp only at h
    split at h
    · exact (ih h :)
    split at h
    · obtain ⟨valued, -, h⟩ := of_bind_eq_ok h
      obtain ⟨⟨limit, last⟩, -, h⟩ := of_bind_eq_ok h
      exact (ih h :)
    split at h
    · obtain ⟨valued, -, h⟩ := of_bind_eq_ok h
      split at h
      · exact (ih h :)
      · obtain ⟨⟨offset, last⟩, -, h⟩ := of_bind_eq_ok h
        exact (ih h :)
    · cases h

/-- No argument begins with what an expression could go on with. -/
theorem endsExpr_of_loopArguments {header result : LoopHeader}
    (h : loopArguments cursor.fuel header cursor = .ok result) : EndsExpr (first? cursor.rest) := by
  obtain ⟨source, last, _ | ⟨⟨lexeme, start, stop⟩, rest⟩⟩ := cursor
  · trivial
  · cases lexeme with
    | dot | openBracket | colon => cases h
    | _ => trivial

/-- The name of a loop is made of its item and the text of its collection. -/
theorem exists_text_of_loop {header : LoopHeader} (h : loop markup = .ok header) :
    ∃ text, header.IsOver markup text ∧ header.name = header.item ++ "-" ++ text := by
  obtain ⟨start, hstart, h⟩ := of_bind_eq_ok h
  obtain ⟨lexemes, hscan, hstart⟩ := of_bind_eq_ok hstart
  obtain rfl := Except.ok.inj hstart
  obtain ⟨⟨⟨item, collection, name⟩, middle⟩, hread, h⟩ := of_bind_eq_ok h
  obtain ⟨first, word, front, rest, rfl, hitem, hword, hwrites, rfl, rfl⟩ := of_loopStart_eq hread
  obtain ⟨hitem', hcollection, hname⟩ := of_loopArguments_eq h
  refine ⟨coveredText markup front, ⟨first, word, front, middle.rest, hscan, ?_, hword, ?_, ?_, rfl⟩, ?_⟩
  · rw [hitem, hitem']
  · rw [hcollection]
    exact hwrites
  · exact endsExpr_of_loopArguments h
  · rw [hname, hitem']

end Header

/-! ## Places that loops move -/

/-- The place at which a loop resumes. -/
def RenderState.resumesAt (state : RenderState) (header : LoopHeader) : Nat :=
  (state.context.places.loops.find? header.name).getD 0

namespace Render

variable {tools : Toolbox}

/-- A loop that begins moves the place of every loop of its name to where it stops, and no other place. -/
theorem Arrival.resumesAt_moved {arrival : Arrival} {start : LoopStart} (hbegun : arrival.begun? tools = some start)
    (header : LoopHeader) :
    (arrival.moved tools).resumesAt header =
      if start.header.name = header.name then start.place else arrival.state.resumesAt header := by
  rw [RenderState.resumesAt, Arrival.loops_moved, hbegun]
  dsimp only
  rw [Entries.find?_put]
  split
  · rfl
  · rfl

/-- Through a render a place stays where it is as long as no loop of its name begins. -/
theorem Moves.find?_eq {before after : Places} {arrivals : List Arrival} {name : String}
    (h : Moves tools before arrivals after)
    (hother : ∀ arrival ∈ arrivals, ∀ start, arrival.begun? tools = some start → start.header.name ≠ name) :
    after.loops.find? name = before.loops.find? name := by
  induction arrivals generalizing before with
  | nil =>
    obtain rfl : after = before := h
    rfl
  | cons arrival rest ih =>
    obtain ⟨rfl, hrest⟩ := h
    rw [List.forall_mem_cons] at hother
    rw [ih hrest hother.2, Arrival.loops_moved]
    cases hbegun : arrival.begun? tools with
    | none => rfl
    | some start => exact Entries.find?_put_of_ne (hother.1 start hbegun) _ _

/-- The name of a loop is its item, a hyphen and the text of its collection. Two loops have one name, and move the place of
each other, exactly if their items and texts run together: if they are the same, or one item has a hyphen and reaches into
the other text. A render in which no such loop begins leaves the place at which a loop resumes where it is. -/
theorem loops_share_place {engine : Engine} (hkeeps : engine.KeepsPlaces) {markup otherMarkup : String}
    {header other : LoopHeader} (hheader : Header.loop markup = .ok header) (hother : Header.loop otherMarkup = .ok other) :
    ∃ text otherText, header.IsOver markup text ∧ other.IsOver otherMarkup otherText ∧
      header.name = header.item ++ "-" ++ text ∧ other.name = other.item ++ "-" ++ otherText ∧
      (header.name = other.name ↔ RunsTogether header.item text other.item otherText) ∧
      ('-' ∉ header.item.toList → '-' ∉ other.item.toList → header.name = other.name →
        header.item = other.item ∧ text = otherText) ∧
      (∀ (arrival : Arrival) start, arrival.tag = .loop header → arrival.begun? engine.tools = some start →
        (RunsTogether header.item text other.item otherText →
          (arrival.moved engine.tools).resumesAt other = start.place) ∧
        (¬RunsTogether header.item text other.item otherText →
          (arrival.moved engine.tools).resumesAt other = arrival.state.resumesAt other)) ∧
      (∀ body drive state,
        (∀ arrival ∈ (Traced.block engine body).arrivals drive state, ∀ start, arrival.begun? engine.tools = some start →
          ∃ written writtenText, Header.loop written = .ok start.header ∧ start.header.IsOver written writtenText ∧
            ¬RunsTogether start.header.item writtenText other.item otherText) →
        (block engine body drive state).2.resumesAt other = state.resumesAt other) ∧
      ∀ drive state after start, other.offset = some .resume →
        beginning engine.tools other drive state = (.ok start, after) → start.offset = state.resumesAt other := by
  obtain ⟨text, hover, hname⟩ := Header.exists_text_of_loop hheader
  obtain ⟨otherText, hotherOver, hotherName⟩ := Header.exists_text_of_loop hother
  have hnames : header.name = other.name ↔ RunsTogether header.item text other.item otherText := by
    rw [runsTogether_iff, hname, hotherName]
  refine ⟨text, otherText, hover, hotherOver, hname, hotherName, hnames, ?_, ?_, ?_, ?_⟩
  · intro hitem hotherItem hsame
    exact (hnames.1 hsame).eq_of_no_hyphen hitem hotherItem
  · intro arrival start htag hbegun
    obtain ⟨htag', -⟩ := arrival.of_begun?_eq hbegun
    obtain rfl : start.header = header := Placed.loop.inj (htag'.symm.trans htag)
    rw [Arrival.resumesAt_moved hbegun, ← hnames]
    exact ⟨fun hsame ↦ if_pos hsame, fun hsame ↦ if_neg hsame⟩
  · intro body drive state hbegun
    have htraces := Traces.block hkeeps body
    have hmoves := htraces.moves drive state
    rw [htraces.run_eq] at hmoves
    refine congrArg (·.getD 0) (hmoves.find?_eq fun arrival harrival start hstart hsame ↦ ?_)
    obtain ⟨written, writtenText, hloop, hwritten, hapart⟩ := hbegun arrival harrival start hstart
    obtain ⟨text', htext', hname'⟩ := Header.exists_text_of_loop hloop
    obtain rfl := hwritten.text_eq htext'
    exact hapart (runsTogether_iff.2 (by rw [← hname', hsame, hotherName]))
  · intro drive state after start hresume hbeginning
    exact (of_beginning_eq hbeginning).2.2 hresume

/-- The text of the collection is what the name of a loop has behind its item and a hyphen. -/
theorem exists_isOver {markup item text : String}
    (h : (Header.loop markup).toOption.map (fun header ↦ (header.item, header.name)) = some (item, item ++ "-" ++ text)) :
    ∃ header, Header.loop markup = .ok header ∧ header.item = item ∧ header.name = item ++ "-" ++ text ∧
      header.IsOver markup text := by
  cases hheader : Header.loop markup with
  | error fault =>
    rw [hheader] at h
    cases h
  | ok header =>
    rw [hheader] at h
    obtain ⟨rfl, hname⟩ := Prod.mk.inj (Option.some.inj h)
    obtain ⟨text', hover, hname'⟩ := Header.exists_text_of_loop hheader
    obtain rfl : text' = text := by
      have hlists := congrArg String.toList (hname'.symm.trans hname)
      simp only [String.toList_append] at hlists
      exact String.toList_inj.1 (List.append_cancel_left hlists)
    exact ⟨header, rfl, rfl, hname, hover⟩

/-- Two loops that have one name with different items. -/
theorem exists_hyphened :
    ∃ header other : LoopHeader, Header.loop "a-b in c" = .ok header ∧ Header.loop "a in b-c" = .ok other ∧
      header.item = "a-b" ∧ other.item = "a" ∧ header.IsOver "a-b in c" "c" ∧ other.IsOver "a in b-c" "b-c" ∧
      header.name = other.name := by
  obtain ⟨header, hheader, hitem, hname, hover⟩ :
      ∃ header, Header.loop "a-b in c" = .ok header ∧ header.item = "a-b" ∧ header.name = "a-b" ++ "-" ++ "c" ∧
        header.IsOver "a-b in c" "c" := exists_isOver (by decide +kernel)
  obtain ⟨other, hother, hotherItem, hotherName, hotherOver⟩ :
      ∃ header, Header.loop "a in b-c" = .ok header ∧ header.item = "a" ∧ header.name = "a" ++ "-" ++ "b-c" ∧
        header.IsOver "a in b-c" "b-c" := exists_isOver (by decide +kernel)
  exact ⟨header, other, hheader, hother, hitem, hotherItem, hover, hotherOver, hname.trans hotherName.symm⟩

theorem loops_share_place_hyphened :
    ∃ header other : LoopHeader, Header.loop "a-b in c" = .ok header ∧ Header.loop "a in b-c" = .ok other ∧
      RunsTogether "a-b" "c" "a" "b-c" ∧
      ∀ (arrival : Arrival) start, arrival.tag = .loop other →
        arrival.begun? (Environment.standard.engine Registry.empty).tools = some start →
        (arrival.moved (Environment.standard.engine Registry.empty).tools).resumesAt header = start.place := by
  have hkeeps : (Environment.standard.engine Registry.empty).KeepsPlaces := fun _ _ h ↦ by cases h
  obtain ⟨header, other, hheader, hother, hitem, hotherItem, hover, hotherOver, hname⟩ := exists_hyphened
  obtain ⟨text, otherText, htext, hotherText, -, -, hnames, -, hmoved, -⟩ := loops_share_place hkeeps hother hheader
  obtain rfl := htext.text_eq hotherOver
  obtain rfl := hotherText.text_eq hover
  have htogether := hnames.1 hname.symm
  refine ⟨header, other, hheader, hother, ?_, fun arrival start htag hbegun ↦ (hmoved arrival start htag hbegun).1 htogether⟩
  rw [hitem, hotherItem] at htogether
  exact runsTogether_iff.2 (runsTogether_iff.1 htogether).symm

/-- The name of a loop determines neither its item nor the text of its collection, and a loop over another collection takes
items away from one that resumes. -/
theorem loops_share_place_of_other_items :
    (¬∀ markup otherMarkup header other text otherText, Header.loop markup = .ok header →
      Header.loop otherMarkup = .ok other → header.IsOver markup text → other.IsOver otherMarkup otherText → header.name = other.name →
      header.item = other.item ∧ text = otherText) ∧
    let printed (between : String) :=
      (Session.render .blocking 0
        (.map [("c", .seq [.int 1, .int 2, .int 3]), ("b-c", .seq [.int 8, .int 9])]) .none
        { Session.start Environment.standard 0 with templates := [resumedPage between] }).1.toOption.map
          fun rendered ↦ rendered.output
    printed "" = some "1|23" ∧ printed "\x7b% for a in b-c limit: 2 %\x7d\x7b% endfor %\x7d" = some "1|3" := by
  refine ⟨fun h ↦ ?_, by decide +kernel⟩
  obtain ⟨header, other, hheader, hother, hitem, hotherItem, hover, hotherOver, hname⟩ := exists_hyphened
  obtain ⟨hsame, -⟩ := h _ _ header other _ _ hheader hother hover hotherOver hname
  rw [hitem, hotherItem] at hsame
  exact absurd hsame (by decide)

end Render

end Liquid
