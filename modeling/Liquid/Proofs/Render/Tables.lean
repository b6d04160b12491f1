import Liquid.Proofs.Evaluation.Composition
import Liquid.Proofs.Render.Iterating
import Liquid.Session
import Mathlib.Data.List.Forall2

/-!
# The rows that tables write

A table writes a cell for each item that it visits, and ends a row behind its last cell if another item follows. So its
rows are numbered without gap, every row but the last one is full, and each body finds in the object of the table the row
and the column of its cell. Whether the visits go on is asked only when the next row has been opened: a break in the last
cell of a row, with items left, leaves a row without cells behind.
-/

namespace Liquid

/-- A name keeps its value where another one is set. -/
theorem Scopes.find?_set_of_ne {name other : String} (hname : name ≠ other) (scopes : Scopes) (value : Value) :
    (scopes.set name value).find? other = scopes.find? other := by
  unfold find? toList set
  rw [List.findSome?_cons, List.findSome?_cons, Entries.find?_put_of_ne hname]

namespace Render

/-! ## The text of a table -/

/-- The opening of a cell in a column; columns are counted from zero. -/
def cellOpening (column : Nat) : String := "<td class=\"col" ++ toString (column + 1) ++ "\">"

/-- A cell in a column. -/
def cellText (column : Nat) (text : String) : String := cellOpening column ++ text ++ "</td>"

/-- Cells, the first one in the given column. -/
def cellsText : (column : Nat) → List String → String
  | _, [] => ""
  | column, text :: rest => cellText column text ++ cellsText (column + 1) rest

/-- The opening of a row. -/
def rowOpening (number : Nat) : String := "<tr class=\"row" ++ toString number ++ "\">"

/-- A row of cells; behind the opening of the first one there is a line break. -/
def rowText (number : Nat) (row : List String) : String :=
  rowOpening number ++ (if number = 1 then "\n" else "") ++ cellsText 0 row ++ "</tr>\n"

/-- Rows, numbered from the given number on. -/
def rowsText : (number : Nat) → List (List String) → String
  | _, [] => ""
  | number, row :: rest => rowText number row ++ rowsText (number + 1) rest

namespace Grid

variable {grid : Grid} {index : Nat} {texts : List String}

/-- What is written behind the cell of an item to end its row and to open the next one. -/
def rowBreak (grid : Grid) (index : Nat) : String :=
  if grid.EndsRow index then "</tr>\n" ++ rowOpening (index / grid.columns + 2) else ""

/-- What is written for cells, the first one that of the item of the given index. -/
def cellsWritten (grid : Grid) : (index : Nat) → List String → String
  | _, [] => ""
  | index, text :: rest =>
    cellText (index % grid.columns) text ++ grid.rowBreak index ++ cellsWritten grid (index + 1) rest

/-- The cells of the row in which the first one stands, and the rows behind it. -/
def rows (grid : Grid) : (index : Nat) → List String → List String × List (List String)
  | _, [] => ([], [])
  | index, text :: rest =>
    let (row, others) := rows grid (index + 1) rest
    if grid.EndsRow index then ([text], row :: others) else (text :: row, others)

theorem rows_of_endsRow (h : grid.EndsRow index) (text : String) (rest : List String) :
    grid.rows index (text :: rest) = ([text], (grid.rows (index + 1) rest).1 :: (grid.rows (index + 1) rest).2) := by
  rw [rows]
  exact if_pos h

theorem rows_of_not_endsRow (h : ¬grid.EndsRow index) (text : String) (rest : List String) :
    grid.rows index (text :: rest) = (text :: (grid.rows (index + 1) rest).1, (grid.rows (index + 1) rest).2) := by
  rw [rows]
  exact if_neg h

/-- Behind the last cell of a row the next one stands in the first column of the next row. -/
theorem next_of_endsRow (h : grid.EndsRow index) :
    (index + 1) % grid.columns = 0 ∧ (index + 1) / grid.columns = index / grid.columns + 1 := by
  have hindex := Nat.div_add_mod index grid.columns
  have hcolumns : 0 < grid.columns := by have hlast := h.1; omega
  have hnext : index + 1 = grid.columns * (index / grid.columns + 1) := by
    rw [Nat.mul_add, Nat.mul_one]
    have hlast := h.1
    omega
  rw [hnext]
  exact ⟨Nat.mul_mod_right _ _, Nat.mul_div_cancel_left _ hcolumns⟩

/-- Behind another cell the next one stands in the next column, unless it was the last one. -/
theorem next_of_not_endsRow (hcolumns : 0 < grid.columns) (h : ¬grid.EndsRow index)
    (hnext : index + 1 < grid.items.length) :
    (index + 1) % grid.columns = index % grid.columns + 1 ∧ (index + 1) / grid.columns = index / grid.columns := by
  have hindex := Nat.div_add_mod index grid.columns
  have hcolumn : index % grid.columns + 1 < grid.columns := by
    have hmod := Nat.mod_lt index hcolumns
    have hnot : index % grid.columns + 1 ≠ grid.columns := fun hlast ↦ h ⟨hlast, by omega⟩
    omega
  have hshape : index + 1 = grid.columns * (index / grid.columns) + (index % grid.columns + 1) := by omega
  rw [hshape]
  refine ⟨?_, ?_⟩
  · rw [Nat.mul_add_mod, Nat.mod_eq_of_lt hcolumn]
  · rw [Nat.mul_add_div hcolumns, Nat.div_eq_of_lt hcolumn, Nat.add_zero]

/-- What is written for cells completes the row that is open and writes the rows behind it. -/
theorem cellsWritten_append (hcolumns : 0 < grid.columns) (hfit : index + texts.length ≤ grid.items.length) :
    grid.cellsWritten index texts ++ "</tr>\n" =
      cellsText (index % grid.columns) (grid.rows index texts).1 ++ "</tr>\n" ++
        rowsText (index / grid.columns + 2) (grid.rows index texts).2 := by
  induction texts generalizing index with
  | nil => simp [cellsWritten, rows, cellsText, rowsText]
  | cons text rest ih =>
    rw [List.length_cons] at hfit
    have hrest := @ih (index + 1) (by omega)
    rw [cellsWritten, String.append_assoc, hrest]
    by_cases hends : grid.EndsRow index
    · obtain ⟨hcolumn, hrow⟩ := next_of_endsRow hends
      have hlater : index / grid.columns + 2 ≠ 1 := Nat.ne_of_gt (Nat.le_add_left 2 _)
      rw [rows_of_endsRow hends, rowBreak, if_pos hends, hcolumn, hrow, cellsText, cellsText, rowsText, rowText,
        if_neg hlater]
      simp only [String.append_assoc, String.append_empty]
    · rw [rows_of_not_endsRow hends, rowBreak, if_neg hends, cellsText]
      cases rest with
      | nil => simp only [rows, cellsText, rowsText, String.append_empty, String.empty_append]
      | cons next rest =>
        obtain ⟨hcolumn, hrow⟩ := next_of_not_endsRow hcolumns hends (by rw [List.length_cons] at hfit; omega)
        rw [hcolumn, hrow]
        simp only [String.append_assoc, String.append_empty]

/-- The rows hold the cells in their order. -/
theorem flatten_rows (grid : Grid) (index : Nat) (texts : List String) :
    (grid.rows index texts).1 ++ (grid.rows index texts).2.flatten = texts := by
  induction texts generalizing index with
  | nil => rfl
  | cons text rest ih =>
    by_cases hends : grid.EndsRow index
    · rw [rows_of_endsRow hends, List.flatten_cons, ih]
      rfl
    · rw [rows_of_not_endsRow hends, List.cons_append, ih]

/-- No row has too many cells, and only the last one may have less than there are columns. -/
theorem length_rows (hcolumns : 0 < grid.columns) (hfit : index + texts.length ≤ grid.items.length) :
    index % grid.columns + (grid.rows index texts).1.length ≤ grid.columns ∧
      ((grid.rows index texts).2 ≠ [] → index % grid.columns + (grid.rows index texts).1.length = grid.columns) ∧
      (∀ row ∈ (grid.rows index texts).2, row.length ≤ grid.columns) ∧
      ∀ row ∈ (grid.rows index texts).2.dropLast, row.length = grid.columns := by
  induction texts generalizing index with
  | nil =>
    refine ⟨Nat.le_of_lt (Nat.mod_lt index hcolumns), fun h ↦ (h rfl).elim, ?_, ?_⟩
    · exact List.forall_mem_nil _
    · exact List.forall_mem_nil _
  | cons text rest ih =>
    rw [List.length_cons] at hfit
    obtain ⟨hfits, hfull, hlater, hbetween⟩ := @ih (index + 1) (by omega)
    by_cases hends : grid.EndsRow index
    · obtain ⟨hcolumn, -⟩ := next_of_endsRow hends
      rw [hcolumn, Nat.zero_add] at hfits hfull
      rw [rows_of_endsRow hends]
      refine ⟨Nat.le_of_eq hends.1, fun _ ↦ hends.1, List.forall_mem_cons.2 ⟨hfits, hlater⟩, ?_⟩
      cases hothers : (grid.rows (index + 1) rest).2 with
      | nil => exact List.forall_mem_nil _
      | cons next others =>
        rw [hothers] at hfull hbetween
        rw [List.dropLast_cons_cons]
        exact List.forall_mem_cons.2 ⟨hfull (List.cons_ne_nil _ _), hbetween⟩
    · rw [rows_of_not_endsRow hends]
      cases rest with
      | nil => exact ⟨Nat.mod_lt index hcolumns, fun h ↦ (h rfl).elim, List.forall_mem_nil _, List.forall_mem_nil _⟩
      | cons next rest =>
        obtain ⟨hcolumn, -⟩ := next_of_not_endsRow hcolumns hends (by rw [List.length_cons] at hfit; omega)
        rw [hcolumn] at hfits hfull
        simp only [List.length_cons] at hfits hfull ⊢
        exact ⟨by omega, fun hothers ↦ by have hsum := hfull hothers; omega, hlater, hbetween⟩

/-- The row of a cell is not empty. -/
theorem rows_ne_nil (grid : Grid) (index : Nat) (texts : List String) (htexts : texts ≠ []) :
    (grid.rows index texts).1 ≠ [] := by
  obtain ⟨text, rest, rfl⟩ := List.exists_cons_of_ne_nil htexts
  by_cases hends : grid.EndsRow index
  · rw [rows_of_endsRow hends]
    exact List.cons_ne_nil _ _
  · rw [rows_of_not_endsRow hends]
    exact List.cons_ne_nil _ _

/-- A row is empty exactly if it was opened behind the last cell. -/
theorem nil_mem_rows_iff (grid : Grid) (index : Nat) (texts : List String) :
    [] ∈ (grid.rows index texts).1 :: (grid.rows index texts).2 ↔
      texts = [] ∨ grid.EndsRow (index + texts.length - 1) := by
  induction texts generalizing index with
  | nil => exact ⟨fun _ ↦ .inl rfl, fun _ ↦ List.mem_cons_self⟩
  | cons text rest ih =>
    have hrest := ih (index + 1)
    have hbehind : index + 1 + rest.length - 1 = index + rest.length := by omega
    have hplace : index + (text :: rest).length - 1 = index + rest.length := rfl
    rw [hbehind] at hrest
    rw [hplace]
    simp only [List.cons_ne_nil, false_or]
    by_cases hends : grid.EndsRow index
    · have hskip : [] ∈ (grid.rows index (text :: rest)).1 :: (grid.rows index (text :: rest)).2 ↔
          [] ∈ (grid.rows (index + 1) rest).1 :: (grid.rows (index + 1) rest).2 := by
        rw [rows_of_endsRow hends]
        simp
      rw [hskip, hrest]
      refine ⟨fun h ↦ h.elim (fun hnone ↦ ?_) fun h ↦ h, .inr⟩
      rwa [hnone]
    · rw [rows_of_not_endsRow hends]
      by_cases hnone : rest = []
      · subst hnone
        exact ⟨fun h ↦ by simp [rows] at h, fun h ↦ (hends h).elim⟩
      · have hfirst := grid.rows_ne_nil (index + 1) rest hnone
        have hhere : ([] : List String) ≠ text :: (grid.rows (index + 1) rest).1 := (List.cons_ne_nil _ _).symm
        simp only [List.mem_cons, hnone, false_or, hfirst.symm, hhere] at hrest ⊢
        exact hrest

end Grid

/-- What stands in a row and a column where all rows but the last one are full. -/
theorem getElem?_of_full {columns : Nat} {rows : List (List String)} (hfits : ∀ row ∈ rows, row.length ≤ columns)
    (hfull : ∀ row ∈ rows.dropLast, row.length = columns) {row column : Nat} {text : String}
    (h : (rows[row]?.bind fun cells ↦ cells[column]?) = some text) :
    rows.flatten[row * columns + column]? = some text := by
  induction rows generalizing row with
  | nil => cases h
  | cons first rest ih =>
    cases row with
    | zero =>
      have hcolumn : column < first.length := (List.getElem?_eq_some_iff.1 h).1
      rw [List.flatten_cons, Nat.zero_mul, Nat.zero_add, List.getElem?_append_left hcolumn]
      exact h
    | succ row =>
      have hlater : rest ≠ [] := by
        rintro rfl
        cases h
      obtain ⟨next, others, rfl⟩ := List.exists_cons_of_ne_nil hlater
      rw [List.dropLast_cons_cons, List.forall_mem_cons] at hfull
      rw [List.forall_mem_cons] at hfits
      have hplace : (row + 1) * columns + column = first.length + (row * columns + column) := by
        rw [hfull.1, Nat.succ_mul]
        omega
      rw [List.flatten_cons, hplace, List.getElem?_append_right (Nat.le_add_right _ _), Nat.add_sub_cancel_left]
      exact ih hfits.2 hfull.2 h

/-! ## The visits of a table -/

/-- An iteration of a table that has begun: its item, the state in which its body is rendered, and how that ends. -/
structure Visit where
  index : Nat
  item : Value
  opened : RenderState
  ended : Except Failure Flow
  left : RenderState

/-- The text that the body of an iteration writes. -/
def Visit.Writes (visit : Visit) (text : String) : Prop := visit.left.output = visit.opened.output.write text

/-- Where the iterations have written texts, there is one for each text. -/
theorem exists_visit {visits : List Visit} {texts : List String} (h : List.Forall₂ Visit.Writes visits texts)
    {number : Nat} {text : String} (htext : texts[number]? = some text) :
    ∃ visit, visits[number]? = some visit ∧ visit.Writes text := by
  obtain ⟨hnumber, rfl⟩ := List.getElem?_eq_some_iff.1 htext
  have hbegun : number < visits.length := h.length_eq ▸ hnumber
  exact ⟨visits[number], List.getElem?_eq_getElem hbegun, h.get hbegun hnumber⟩

namespace Grid

variable {engine : Engine} {grid : Grid} {name : String} {body : Render Flow} {drive : Drive} {index : Nat}
  {items : List Value} {state after : RenderState}

/-- The iterations that a table begins: it goes on with the next item unless the body breaks or fails. -/
def visits (grid : Grid) (name : String) (body : Render Flow) (drive : Drive) :
    (index : Nat) → List Value → RenderState → List Visit
  | _, [], _ => []
  | index, item :: rest, state =>
    let opened := grid.openCell name index item state
    let (ended, left) := body drive opened
    ⟨index, item, opened, ended, left⟩ ::
      match ended with
      | .ok .completed | .ok .continueLoop =>
        visits grid name body drive (index + 1) rest (grid.closeCell index left)
      | .ok .breakLoop | .error _ => []

/-- A visit and the visits behind it. -/
theorem visits_cons {item : Value} {ended : Except Failure Flow} {left : RenderState}
    (h : body drive (grid.openCell name index item state) = (ended, left)) (rest : List Value) :
    grid.visits name body drive index (item :: rest) state =
      ⟨index, item, grid.openCell name index item state, ended, left⟩ ::
        match ended with
        | .ok .completed | .ok .continueLoop => grid.visits name body drive (index + 1) rest (grid.closeCell index left)
        | .ok .breakLoop | .error _ => [] := by
  rw [visits]
  simp only [h]

/-- What is restored has only been written to. -/
theorem exists_writes {opened left : RenderState} (h : Restored opened left) :
    ∃ text, left.output = opened.output.write text := by
  obtain ⟨text, htext⟩ := h.written
  have hbelow := h.captures
  refine ⟨text, ?_⟩
  cases houtput : left.output
  rw [houtput] at htext hbelow
  rw [Output.write, htext.symm, hbelow.symm]

/-- The end of a row with the opening of the next one. -/
theorem rowEnd_append (number : Nat) :
    "</tr>\n<tr class=\"row" ++ toString number ++ "\">" = "</tr>\n" ++ rowOpening number := by
  have hend : ("</tr>\n<tr class=\"row" : String) = "</tr>\n" ++ "<tr class=\"row" := rfl
  have hassoc (a b c d : String) : a ++ b ++ c ++ d = a ++ (b ++ c ++ d) := by simp only [String.append_assoc]
  exact (congrArg (· ++ toString number ++ "\">") hend).trans (hassoc _ _ _ _)

/-- Around the text of its body a cell is written, with the opening of the next row behind it if it ends its row. -/
theorem closeCell_output {item : Value} {left : RenderState} {text : String}
    (h : left.output = (grid.openCell name index item state).output.write text) :
    (grid.closeCell index left).output =
      state.output.write (cellText (index % grid.columns) text ++ grid.rowBreak index) := by
  have hopened : (grid.openCell name index item state).output =
      state.output.write (cellOpening (index % grid.columns)) := rfl
  have hclosed : (grid.closeCell index left).output = (left.output.write "</td>").write (grid.rowBreak index) := by
    unfold closeCell rowBreak
    split
    · rw [rowEnd_append]
    · exact congrArg (Output.mk · left.output.below) String.append_empty.symm
  rw [hclosed, h, hopened, cellText]
  generalize "</td>" = ending
  simp only [Output.write_write, String.append_assoc]

/-- A table that does not fail writes its cells, one for each iteration that it begins. -/
theorem exists_texts (hbody : Keeps (IncludesOnly engine Tag.IsBuiltin) Restored body)
    (hincludes : IncludesOnly engine Tag.IsBuiltin state)
    (hrun : eachItem (grid.cell name body) index items drive state = (.ok (), after)) :
    ∃ texts, List.Forall₂ Visit.Writes (grid.visits name body drive index items state) texts ∧
      after.output = state.output.write (grid.cellsWritten index texts) := by
  induction items generalizing index state with
  | nil =>
    cases hrun
    exact ⟨[], .nil, by rw [cellsWritten, Output.write_empty]⟩
  | cons item rest ih =>
    have hkept := hbody drive (grid.openCell name index item state) hincludes
    rw [eachItem, run_bind, run_cell] at hrun
    rcases hended : body drive (grid.openCell name index item state) with ⟨(error | _) | flow, left⟩ <;>
      rw [hended] at hrun hkept
    · cases hrun
    · cases hrun
    · rw [visits_cons hended]
      obtain ⟨text, htext⟩ := exists_writes (hkept.related (.value flow))
      have hcell := closeCell_output htext
      have hlater (texts : List String) (hafter : after.output =
          (grid.closeCell index left).output.write (grid.cellsWritten (index + 1) texts)) :
          after.output = state.output.write (grid.cellsWritten index (text :: texts)) := by
        rw [hafter, hcell, Output.write_write, cellsWritten]
      cases flow with
      | breakLoop =>
        cases hrun
        refine ⟨[text], .cons htext .nil, hlater [] ?_⟩
        rw [cellsWritten, Output.write_empty]
      | completed | continueLoop =>
        obtain ⟨texts, hwrites, hafter⟩ := @ih _ (grid.closeCell index left) hkept.inv hrun
        exact ⟨text :: texts, .cons htext hwrites, hlater texts hafter⟩

/-- A table begins no more iterations than it has items; if it does not fail and begins less, the last one breaks it. -/
theorem length_visits (hrun : eachItem (grid.cell name body) index items drive state = (.ok (), after)) :
    (grid.visits name body drive index items state).length = items.length ∨
      (grid.visits name body drive index items state).length < items.length ∧
        ∃ last ∈ (grid.visits name body drive index items state).getLast?, last.ended = .ok .breakLoop := by
  induction items generalizing index state with
  | nil => exact .inl rfl
  | cons item rest ih =>
    rw [eachItem, run_bind, run_cell] at hrun
    rcases hended : body drive (grid.openCell name index item state) with ⟨(error | _) | flow, left⟩ <;>
      rw [hended] at hrun
    · cases hrun
    · cases hrun
    · rw [visits_cons hended]
      cases flow with
      | breakLoop =>
        cases rest with
        | nil => exact .inl rfl
        | cons next rest => exact .inr ⟨Nat.succ_lt_succ (Nat.succ_pos _), _, rfl, rfl⟩
      | completed | continueLoop =>
        refine (ih hrun).imp (congrArg (· + 1)) ?_
        rintro ⟨hless, last, hlast, hbreaks⟩
        exact ⟨Nat.succ_lt_succ hless, last, List.mem_getLast?_cons hlast, hbreaks⟩

/-- The iterations follow the items. -/
theorem of_getElem?_visits {number : Nat} {visit : Visit}
    (h : (grid.visits name body drive index items state)[number]? = some visit) :
    visit.index = index + number ∧ items[number]? = some visit.item ∧
      visit.opened.shared.counts.tallies.find? grid.id = some visit.index := by
  induction items generalizing index state number with
  | nil => cases h
  | cons item rest ih =>
    rw [visits_cons (Prod.eta _).symm] at h
    cases number with
    | zero =>
      cases h
      exact ⟨rfl, rfl, Entries.find?_put_self _ _ _⟩
    | succ number =>
      rw [List.getElem?_cons_succ] at h
      split at h
      · obtain ⟨hindex, hitem, hcount⟩ := ih h
        exact ⟨by omega, hitem, hcount⟩
      · obtain ⟨hindex, hitem, hcount⟩ := ih h
        exact ⟨by omega, hitem, hcount⟩
      · cases h
      · cases h

/-- Each body finds what the scope of the table has under a name that is not the one of its item. -/
theorem found_of_mem_visits (hbody : Keeps (IncludesOnly engine Tag.IsBuiltin) Restored body)
    (hincludes : IncludesOnly engine Tag.IsBuiltin state) {found : String} (hname : name ≠ found) {value : Value}
    (hfound : state.context.scopes.find? found = some value) :
    ∀ visit ∈ grid.visits name body drive index items state, visit.opened.context.scopes.find? found = some value := by
  induction items generalizing index state with
  | nil => exact List.forall_mem_nil _
  | cons item rest ih =>
    have hopened : (grid.openCell name index item state).context.scopes.find? found = some value :=
      (Scopes.find?_set_of_ne hname state.context.scopes item).trans hfound
    have hkept := hbody drive (grid.openCell name index item state) hincludes
    rcases hended : body drive (grid.openCell name index item state) with ⟨ended, left⟩
    rw [hended] at hkept
    have hlater (hreturned : Returned ended) :
        ∀ visit ∈ grid.visits name body drive (index + 1) rest (grid.closeCell index left),
          visit.opened.context.scopes.find? found = some value :=
      ih hkept.inv ((congrArg (Scopes.find? · found) (hkept.related hreturned).scopes).trans hopened)
    rw [visits_cons hended]
    refine List.forall_mem_cons.2 ⟨hopened, ?_⟩
    split
    · exact hlater (.value _)
    · exact hlater (.value _)
    · exact List.forall_mem_nil _
    · exact List.forall_mem_nil _

end Grid

/-- The body of an iteration finds a number in a member of the object of its table. -/
def Visit.Finds (visit : Visit) (tools : Toolbox) (drive : Drive) (member : String) (number : Nat) : Prop :=
  (Expr.path [.member "tablerowloop", .member member]).eval tools drive visit.opened.context visit.opened.shared =
    (.ok (.ofCount number), visit.opened.shared)

/-- A member of the object of a table that a name stands for, where it has come to an item. -/
theorem eval_tableMember {tools : Toolbox} {drive : Drive} {context : Context} {shared : Shared}
    {id index length columns : Nat} {name member : String} {value : Value}
    (hfound : context.scopes.find? "tablerowloop" = some (.object id (.tableRow name length columns)))
    (hcount : shared.counts.tallies.find? id = some index)
    (hmember : Object.tableMember? name length (max columns 1) index member = some value) :
    (Expr.path [.member "tablerowloop", .member member]).eval tools drive context shared = (.ok value, shared) := by
  have hlookup : context.lookup "tablerowloop" shared.counts.tallies =
      (some (.object id (.tableRow name length columns)), shared.counts.tallies) := by
    rw [Context.lookup, Context.variableWith, hfound]
    rfl
  have hindex : shared.counts.tallies.count id = index := by rw [Tallies.count, hcount]; rfl
  have hobject : (Object.tableRow name length columns).member? context.plainVariable id member shared.counts.tallies =
      (some value, shared.counts.tallies) := by
    rw [← hmember, ← hindex]
    rfl
  have hfinds : context.member? (.object id (.tableRow name length columns)) member shared.counts.tallies =
      (some value, shared.counts.tallies) := by
    rw [Context.member?, Value.member?]
    dsimp only [bind, StateT.bind]
    rw [hobject]
    rfl
  rw [Expr.eval, evalPath, Eval.run_bind, Eval.run_counting]
  dsimp only
  rw [hlookup]
  dsimp only
  rw [evalPath, Eval.run_bind, Eval.run_counting]
  dsimp only
  rw [hfinds]
  dsimp only
  rw [evalPath]
  rfl

/-! ## What a table writes -/

namespace Grid

/-- Rows of cells that a table wrote for the iterations that it began. -/
structure Fills (grid : Grid) (visits : List Visit) (rows : List (List String)) : Prop where
  /-- There is a cell for each iteration, with the text of its body. -/
  cells : List.Forall₂ Visit.Writes visits rows.flatten
  fits : ∀ row ∈ rows, row.length ≤ grid.columns
  full : ∀ row ∈ rows.dropLast, row.length = grid.columns
  /-- A row has no cell just if the last iteration broke the table at the end of a row with items left. -/
  empty : grid.items ≠ [] →
    ([] ∈ rows ↔ ∃ last ∈ visits.getLast?, last.ended = .ok .breakLoop ∧ grid.EndsRow last.index)

variable {engine : Engine} {grid : Grid} {name : String} {body : Render Flow} {drive : Drive}
  {state after opened : RenderState}

/-- An evaluation writes nothing. -/
theorem output_of_evaluate {α : Type} {computation : Eval α} {value : α}
    (h : evaluate computation drive state = (.ok value, after)) : after.output = state.output := by
  rw [run_evaluate] at h
  rw [← (Prod.mk.inj h).2]

/-- A table has a column, and its object has its measures. -/
theorem of_tableGrid {tools : Toolbox} {header : TableHeader}
    (h : tableGrid tools header drive state = (.ok grid, opened)) :
    0 < grid.columns ∧ grid.object = .object grid.id (.tableRow header.name grid.items.length grid.columns) ∧
      opened.output = state.output.write "<tr class=\"row1\">\n" := by
  unfold tableGrid at h
  obtain ⟨collection, first, hcollection, h⟩ := of_run_bind_eq h
  obtain ⟨offset, second, hoffset, h⟩ := of_run_bind_eq h
  obtain ⟨limit, third, hlimit, h⟩ := of_run_bind_eq h
  obtain ⟨columns, ready, hcolumns, h⟩ := of_run_bind_eq h
  have houtput : ready.output = state.output := by
    rw [output_of_evaluate hcolumns, output_of_evaluate hlimit, output_of_evaluate hoffset, output_of_evaluate hcollection]
  rw [← houtput]
  cases h
  refine ⟨?_, rfl, rfl⟩
  have hmax : 0 < max (loopItems collection offset limit).length 1 := Nat.lt_of_lt_of_le Nat.one_pos (Nat.le_max_right _ _)
  rcases columns with _ | columns
  · exact hmax
  · dsimp only
    split
    · omega
    · exact hmax

/-- The cells of the iterations of a table fill its rows. -/
theorem fills_rows {texts : List String} (hcolumns : 0 < grid.columns)
    (hrun : eachItem (grid.cell name body) 0 grid.items drive state = (.ok (), after))
    (hwrites : List.Forall₂ Visit.Writes (grid.visits name body drive 0 grid.items state) texts) :
    grid.Fills (grid.visits name body drive 0 grid.items state) ((grid.rows 0 texts).1 :: (grid.rows 0 texts).2) := by
  have hbegun := length_visits hrun
  have hlength := hwrites.length_eq
  have hfit : 0 + texts.length ≤ grid.items.length := by omega
  obtain ⟨hfits, hfull, hlater, hbetween⟩ := length_rows hcolumns hfit
  rw [Nat.zero_mod, Nat.zero_add] at hfits hfull
  refine ⟨?_, List.forall_mem_cons.2 ⟨hfits, hlater⟩, ?_, fun hitems ↦ ?_⟩
  · rw [List.flatten_cons, flatten_rows]
    exact hwrites
  · cases hothers : (grid.rows 0 texts).2 with
    | nil => exact List.forall_mem_nil _
    | cons next others =>
      rw [hothers] at hfull hbetween
      rw [List.dropLast_cons_cons]
      exact List.forall_mem_cons.2 ⟨hfull (List.cons_ne_nil _ _), hbetween⟩
  · have hsome : 0 < texts.length := by
      have hcount := List.length_pos_iff.2 hitems
      rcases hbegun with hall | ⟨-, last, hlast, -⟩
      · omega
      · have hbegan := List.length_pos_of_mem (List.mem_of_getLast? hlast)
        omega
    have hplace {last : Visit} (hlast : last ∈ (grid.visits name body drive 0 grid.items state).getLast?) :
        last.index = texts.length - 1 := by
      rw [List.getLast?_eq_getElem?, hlength] at hlast
      exact (of_getElem?_visits hlast).1.trans (Nat.zero_add _)
    rw [nil_mem_rows_iff, Nat.zero_add, or_iff_right (List.length_pos_iff.1 hsome)]
    constructor
    · intro hends
      obtain hall | ⟨-, last, hlast, hbreaks⟩ := hbegun
      · exact absurd (by omega) hends.2
      · exact ⟨last, hlast, hbreaks, (hplace hlast).symm ▸ hends⟩
    · rintro ⟨last, hlast, -, hends⟩
      exact hplace hlast ▸ hends

/-- What is written for a table whose cells have been written. -/
theorem rowsText_rows {texts : List String} (hcolumns : 0 < grid.columns) (hfit : texts.length ≤ grid.items.length) :
    rowsText 1 ((grid.rows 0 texts).1 :: (grid.rows 0 texts).2) =
      "<tr class=\"row1\">\n" ++ (grid.cellsWritten 0 texts ++ "</tr>\n") := by
  have hrest := cellsWritten_append hcolumns (by omega : 0 + texts.length ≤ grid.items.length)
  have hfirst : ("<tr class=\"row1\">\n" : String) = rowOpening 1 ++ "\n" := by decide
  rw [Nat.zero_mod, Nat.zero_div] at hrest
  rw [hrest, hfirst, rowsText, rowText, if_pos rfl]
  generalize "</tr>\n" = ending
  simp only [String.append_assoc]

end Grid

/-- A table that does not fail writes the rows that the cells of its iterations fill, and nothing else. -/
theorem table_eq_ok {engine : Engine} {drive : Drive} {state after : RenderState} {header : TableHeader} {body : Render Flow}
    {flow : Flow} (hbody : Keeps (IncludesOnly engine Tag.IsBuiltin) Restored body)
    (hincludes : IncludesOnly engine Tag.IsBuiltin state)
    (hrun : table engine.tools header body drive state = (.ok flow, after)) :
    ∃ grid opened inside texts, tableGrid engine.tools header drive state = (.ok grid, opened) ∧
      IncludesOnly engine Tag.IsBuiltin opened ∧
      eachItem (grid.cell header.item body) 0 grid.items drive (openLoop "tablerowloop" grid.object opened) =
        (.ok (), inside) ∧
      List.Forall₂ Visit.Writes
        (grid.visits header.item body drive 0 grid.items (openLoop "tablerowloop" grid.object opened)) texts ∧
      after.output = state.output.write (rowsText 1 ((grid.rows 0 texts).1 :: (grid.rows 0 texts).2)) := by
  rw [table_eq_grid, run_bind] at hrun
  rcases hgrid : tableGrid engine.tools header drive state with ⟨failure | grid, opened⟩
  · rw [hgrid] at hrun
    cases hrun
  · rw [hgrid] at hrun
    have hopened : IncludesOnly engine Tag.IsBuiltin opened := ((Keeps.tableGrid _ header).of_ok hincludes hgrid).1
    have hkeeps (index : Nat) (item : Value) := grid.keeps_cell header.item index item (hbody.mono Restored.toRestoredAround)
    have hnext (ended : Except Error Unit) (inside : RenderState) :
        (do write "</tr>\n"; settle ended; return .completed : Render Flow) drive inside =
          ((ended.map fun _ ↦ .completed).mapError Failure.error, Grid.closeTable inside) := by
      cases ended <;> rfl
    have hloop := run_inLoop (.eachItem hkeeps 0 grid.items) hopened hnext "tablerowloop" grid.object
    dsimp only at hrun
    rw [hloop] at hrun
    rcases hvisits : eachItem (grid.cell header.item body) 0 grid.items drive (openLoop "tablerowloop" grid.object opened)
      with ⟨(error | _) | ⟨⟩, inside⟩ <;> rw [hvisits] at hrun
    · cases hrun
    · cases hrun
    · have hinner : IncludesOnly engine Tag.IsBuiltin (openLoop "tablerowloop" grid.object opened) := hopened
      obtain ⟨texts, hwrites, hinside⟩ := Grid.exists_texts hbody hinner hvisits
      obtain ⟨hcolumns, -, hstart⟩ := Grid.of_tableGrid hgrid
      have hfit : texts.length ≤ grid.items.length := by
        have hbegun := Grid.length_visits hvisits
        have hlength := hwrites.length_eq
        omega
      refine ⟨grid, opened, inside, texts, rfl, hopened, hvisits, hwrites, ?_⟩
      cases hrun
      rw [Grid.rowsText_rows hcolumns hfit]
      change inside.output.write "</tr>\n" = _
      rw [hinside]
      change (opened.output.write _).write "</tr>\n" = _
      rw [hstart]
      generalize "</tr>\n" = ending
      generalize "<tr class=\"row1\">\n" = beginning
      simp only [Output.write_write, String.append_assoc]

/-- Tables are made of rows. A table that does not fail writes rows, which are numbered from one on, and nothing else:

- each iteration that it begins writes a cell, whose text is what its body writes. The cells stand in the order of the
  iterations, and in each row their columns are numbered from one on;
- no row has more cells than there are columns, and each row but the last one has just as many;
- a row has no cell just if the last iteration, in the last column and with items left, broke the table;
- the iterations follow the items; there is one for each item unless the last one broke the table;
- the body of an iteration finds in `tablerowloop` the numbers of the row and of the column in which its cell stands, unless
  the items have that name.

The body may be a block of built-in tags. -/
theorem tables_write_rows (engine : Engine) (drive : Drive) (header : TableHeader) (state : RenderState)
    (hincludes : IncludesOnly engine Tag.IsBuiltin state) :
    (∀ levels block, Template.AllTags Tag.IsBuiltin block →
      Keeps (IncludesOnly engine Tag.IsBuiltin) Restored (blockWithin engine levels block)) ∧
    ∀ body flow after, Keeps (IncludesOnly engine Tag.IsBuiltin) Restored body →
      table engine.tools header body drive state = (.ok flow, after) →
      ∃ grid opened rows, tableGrid engine.tools header drive state = (.ok grid, opened) ∧ 0 < grid.columns ∧
        after.output = state.output.write (rowsText 1 rows) ∧
        let visits := grid.visits header.item body drive 0 grid.items (openLoop "tablerowloop" grid.object opened)
        grid.Fills visits rows ∧
        (visits.length = grid.items.length ∨
          visits.length < grid.items.length ∧ ∃ last ∈ visits.getLast?, last.ended = .ok .breakLoop) ∧
        (∀ (number : Nat) (visit : Visit), visits[number]? = some visit →
          visit.index = number ∧ grid.items[number]? = some visit.item) ∧
        ∀ row column text, (rows[row]?.bind fun cells ↦ cells[column]?) = some text →
          ∃ visit, visits[row * grid.columns + column]? = some visit ∧ visit.Writes text ∧
            (header.item ≠ "tablerowloop" →
              visit.Finds engine.tools drive "row" (row + 1) ∧ visit.Finds engine.tools drive "col" (column + 1)) := by
  refine ⟨fun levels block hblock ↦ .blockWithin (fun _ h ↦ h) levels block hblock, fun body flow after hbody hrun ↦ ?_⟩
  obtain ⟨grid, opened, inside, texts, hgrid, hopened, hvisits, hwrites, houtput⟩ := table_eq_ok hbody hincludes hrun
  obtain ⟨hcolumns, hobject, -⟩ := Grid.of_tableGrid hgrid
  have hfills := Grid.fills_rows hcolumns hvisits hwrites
  refine ⟨grid, opened, _, hgrid, hcolumns, houtput, hfills, Grid.length_visits hvisits, fun number visit hvisit ↦ ?_, ?_⟩
  · obtain ⟨hindex, hitem, -⟩ := Grid.of_getElem?_visits hvisit
    exact ⟨hindex.trans (Nat.zero_add _), hitem⟩
  · intro row column text htext
    have hplace := getElem?_of_full hfills.fits hfills.full htext
    obtain ⟨visit, hvisit, hwritten⟩ := exists_visit hfills.cells hplace
    obtain ⟨hindex, -, hcount⟩ := Grid.of_getElem?_visits hvisit
    have hcolumn : column < grid.columns := by
      obtain ⟨cells, hcells, hcell⟩ := Option.bind_eq_some_iff.1 htext
      exact Nat.lt_of_lt_of_le (List.getElem?_eq_some_iff.1 hcell).1 (hfills.fits cells (List.mem_of_getElem? hcells))
    refine ⟨visit, hvisit, hwritten, fun hname ↦ ?_⟩
    have hinner : IncludesOnly engine Tag.IsBuiltin (openLoop "tablerowloop" grid.object opened) := hopened
    have hset : (openLoop "tablerowloop" grid.object opened).context.scopes.find? "tablerowloop" = some grid.object := rfl
    have hfound := Grid.found_of_mem_visits hbody hinner hname hset visit (List.mem_of_getElem? hvisit)
    rw [hobject] at hfound
    have hmeasures : max grid.columns 1 = grid.columns := Nat.max_eq_left hcolumns
    have hrow : (row * grid.columns + column) / grid.columns = row := by
      rw [Nat.mul_comm, Nat.mul_add_div hcolumns, Nat.div_eq_of_lt hcolumn, Nat.add_zero]
    have hnumber : (row * grid.columns + column) % grid.columns = column := by
      rw [Nat.mul_comm, Nat.mul_add_mod, Nat.mod_eq_of_lt hcolumn]
    rw [hindex, Nat.zero_add] at hcount
    refine ⟨eval_tableMember hfound hcount ?_, eval_tableMember hfound hcount ?_⟩
    · change some (Value.ofCount ((row * grid.columns + column) / max grid.columns 1 + 1)) = _
      rw [hmeasures, hrow]
    · change some (Value.ofCount ((row * grid.columns + column) % max grid.columns 1 + 1)) = _
      rw [hmeasures, hnumber]

/-- The opening tag of a table of three items in two columns. -/
def unevenHeader : TableHeader :=
  ⟨"i", .range (.literal (.int 1)) (.literal (.int 3)), "i-(1..3)", some (.literal (.int 2)), none, none⟩

/-- A block that prints the column of its cell. -/
def unevenBody : Block :=
  [.output ⟨"tablerowloop.col", .path [.member "tablerowloop", .member "col"], []⟩ ⟨.first, .first⟩]

theorem tables_write_rows_uneven :
    ∃ (after : RenderState) (rows : List (List String)),
      table brokenLoopEngine.tools unevenHeader (blockWithin brokenLoopEngine 1 unevenBody) .blocking brokenLoopState =
        (.ok .completed, after) ∧
      after.output = brokenLoopState.output.write (rowsText 1 rows) ∧ ∀ row ∈ rows.dropLast, row.length = 2 := by
  obtain ⟨hkeeps, hfills⟩ :=
    tables_write_rows brokenLoopEngine .blocking unevenHeader brokenLoopState brokenLoopState_includesOnly
  have hrun : ∃ after,
      table brokenLoopEngine.tools unevenHeader (blockWithin brokenLoopEngine 1 unevenBody) .blocking brokenLoopState =
        (.ok .completed, after) := by
    have hended : (table brokenLoopEngine.tools unevenHeader (blockWithin brokenLoopEngine 1 unevenBody) .blocking
        brokenLoopState).1.toOption = some .completed := by
      decide +kernel
    rcases hrun : table brokenLoopEngine.tools unevenHeader (blockWithin brokenLoopEngine 1 unevenBody) .blocking
      brokenLoopState with ⟨failure | flow, after⟩ <;> rw [hrun] at hended
    · cases hended
    · exact ⟨after, by rw [Option.some.inj hended]⟩
  obtain ⟨after, hrun⟩ := hrun
  obtain ⟨grid, opened, rows, hgrid, -, houtput, hrows, -⟩ :=
    hfills _ _ after (hkeeps 1 unevenBody ⟨trivial, trivial⟩) hrun
  have hcolumns : grid.columns = 2 := by
    cases hgrid
    rfl
  exact ⟨after, rows, hrun, houtput, fun row hrow ↦ (hrows.full row hrow).trans hcolumns⟩

/-- Cells end with the end of a cell. -/
theorem exists_cellsText_eq (text : String) (rest : List String) (column : Nat) :
    ∃ front, cellsText column (text :: rest) = front ++ "</td>" := by
  induction rest generalizing text column with
  | nil => exact ⟨cellOpening column ++ text, by rw [cellsText, cellsText, cellText, String.append_empty]⟩
  | cons next rest ih =>
    obtain ⟨front, hfront⟩ := ih next (column + 1)
    exact ⟨cellText column text ++ front, by rw [cellsText, hfront, String.append_assoc]⟩

/-- Rows that have cells end with the end of a cell and the end of a row. -/
theorem exists_rowsText_eq {row : List String} {rest : List (List String)} (hcells : ∀ cells ∈ row :: rest, cells ≠ [])
    (number : Nat) : ∃ front, rowsText number (row :: rest) = front ++ ("</td>" ++ "</tr>\n") := by
  induction rest generalizing row number with
  | nil =>
    obtain ⟨text, others, rfl⟩ := List.exists_cons_of_ne_nil (hcells row List.mem_cons_self)
    obtain ⟨front, hfront⟩ := exists_cellsText_eq text others 0
    refine ⟨rowOpening number ++ (if number = 1 then "\n" else "") ++ front, ?_⟩
    rw [rowsText, rowsText, rowText, hfront]
    generalize "</td>" = cell
    generalize "</tr>\n" = ending
    simp only [String.append_assoc, String.append_empty]
  | cons next rest ih =>
    obtain ⟨front, hfront⟩ := ih (List.forall_mem_cons.1 hcells).2 (number + 1)
    exact ⟨rowText number row ++ front, by rw [rowsText, hfront, String.append_assoc]⟩

/-- The text of a template with a table that is broken in the last column of a row. -/
def brokenTableText : String :=
  "\x7b% tablerow i in c cols: 2 %\x7d\x7b\x7b i \x7d\x7d\x7b% if i == 2 %\x7d\x7b% break %\x7d\x7b% endif %\x7d" ++
    "\x7b% endtablerow %\x7d"

/-- A template with a table that is broken in the last column of a row. -/
def brokenTablePage : Template where
  name := "page"
  source := brokenTableText
  root := (Environment.standard.parse "page" brokenTableText).toOption.getD []
  assigned := []
  isThreadSafe := false

/-- A table that is broken in the last column of a row, with items left, prints a row without cells; what is printed are no
rows that all have cells. -/
theorem broken_table_has_empty_row :
    let printed := (Session.render .blocking 0 (.map [("c", .seq [.int 1, .int 2, .int 3])]) .none
      { Session.start Environment.standard 0 with templates := [brokenTablePage] }).1.toOption.map
        fun rendered ↦ rendered.output
    printed = some (rowsText 1 [["1", "2"], []]) ∧
      ¬∃ rows : List (List String), (∀ row ∈ rows, row ≠ []) ∧ printed = some (rowsText 1 rows) := by
  intro printed
  have hprinted : printed = some (rowsText 1 [["1", "2"], []]) := by decide +kernel
  refine ⟨hprinted, ?_⟩
  rintro ⟨rows, hcells, hrows⟩
  have hequal : rowsText 1 [["1", "2"], []] = rowsText 1 rows := Option.some.inj (hprinted.symm.trans hrows)
  cases rows with
  | nil => exact absurd hequal (by decide +kernel)
  | cons row rest =>
    obtain ⟨front, hfront⟩ := exists_rowsText_eq hcells 1
    have hsuffix : ("</td>" ++ "</tr>\n").toList <:+ (rowsText 1 [["1", "2"], []]).toList :=
      ⟨front.toList, by rw [hequal, hfront]; exact String.toList_append.symm⟩
    exact absurd hsuffix (by decide +kernel)

end Render

end Liquid
