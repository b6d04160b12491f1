import Liquid.Proofs.Markup.Depth

/-!
# How deep the expressions of a tag are nested

Each built-in tag reads its expressions from the lexemes of its markup, one behind the other. So none of them is
deeper than the markup is long.
-/

namespace Liquid

variable {bound : Nat} {markup : String}

/-! ## Opening tags -/

/-- The outermost expressions of the opening tag of a loop. -/
def LoopHeader.expressions (header : LoopHeader) : List Expr :=
  header.collection :: header.limit.toList ++
    match header.offset with
    | some (.expr offset) => [offset]
    | some .resume | none => []

/-- The outermost expressions of the opening tag of a table. -/
def TableHeader.expressions (header : TableHeader) : List Expr :=
  header.collection :: header.columns.toList ++ header.limit.toList ++ header.offset.toList

/-- The expression of a binding. -/
def Binding.expression : Binding → Expr
  | value bound => bound
  | each items => items

/-- The outermost expressions of an inclusion. -/
def Inclusion.expressions (inclusion : Inclusion) : List Expr :=
  inclusion.template :: (inclusion.binding.map Binding.expression).toList ++ inclusion.attributes.map Prod.snd

namespace Header

variable {cursor after : Cursor}

theorem depth_le_of_subject {subject : Expr} (h : Header.subject markup = .ok subject)
    (hbound : markup.length ≤ bound) : subject.depth ≤ bound := by
  obtain ⟨start, hstart, h⟩ := of_bind_eq_ok h
  obtain ⟨⟨read, last⟩, hread, h⟩ := of_bind_eq_ok h
  obtain ⟨⟨⟩, -, h⟩ := of_bind_eq_ok h
  obtain rfl := Except.ok.inj h
  exact (Cursor.depth_le_of_expr hread (Cursor.length_le_of_start hstart hbound)).1

theorem noDeeper_of_moreValues {separates : Cursor → Bool} {fuel : Nat} {values : List Expr}
    (h : moreValues separates fuel cursor = .ok (values, after)) (hcursor : cursor.rest.length ≤ bound) :
    NoDeeper bound values := by
  induction fuel generalizing cursor values after with
  | zero =>
    obtain ⟨rfl, -⟩ := Prod.mk.inj (Except.ok.inj h)
    exact noDeeper_nil bound
  | succ fuel ih =>
    rw [moreValues] at h
    split at h
    · obtain ⟨⟨value, middle⟩, hvalue, h⟩ := of_bind_eq_ok h
      obtain ⟨⟨others, last⟩, hothers, h⟩ := of_bind_eq_ok h
      obtain ⟨rfl, -⟩ := Prod.mk.inj (Except.ok.inj h)
      obtain ⟨hdepth, hmiddle⟩ := Cursor.depth_le_of_expr hvalue (Cursor.length_advance_le hcursor)
      exact noDeeper_cons.2 ⟨hdepth, ih hothers hmiddle⟩
    · obtain ⟨rfl, -⟩ := Prod.mk.inj (Except.ok.inj h)
      exact noDeeper_nil bound

theorem noDeeper_of_whenValues {values : List Expr} (h : whenValues markup = .ok values)
    (hbound : markup.length ≤ bound) : NoDeeper bound values := by
  obtain ⟨start, hstart, h⟩ := of_bind_eq_ok h
  obtain ⟨⟨first, middle⟩, hfirst, h⟩ := of_bind_eq_ok h
  obtain ⟨⟨others, last⟩, hothers, h⟩ := of_bind_eq_ok h
  obtain ⟨⟨⟩, -, h⟩ := of_bind_eq_ok h
  obtain rfl := Except.ok.inj h
  obtain ⟨hdepth, hmiddle⟩ := Cursor.depth_le_of_expr hfirst (Cursor.length_le_of_start hstart hbound)
  exact noDeeper_cons.2 ⟨hdepth, noDeeper_of_moreValues hothers hmiddle⟩

theorem noDeeper_of_cycle {group : Option Expr} {values : List Expr} (h : cycle markup = .ok (group, values))
    (hbound : markup.length ≤ bound) : NoDeeper bound (group.toList ++ values) := by
  obtain ⟨start, hstart, h⟩ := of_bind_eq_ok h
  obtain ⟨⟨first, middle⟩, hfirst, h⟩ := of_bind_eq_ok h
  obtain ⟨hdepth, hmiddle⟩ := Cursor.depth_le_of_expr hfirst (Cursor.length_le_of_start hstart hbound)
  dsimp only at h
  split at h
  · obtain ⟨⟨value, behind⟩, hvalue, h⟩ := of_bind_eq_ok h
    obtain ⟨⟨others, last⟩, hothers, h⟩ := of_bind_eq_ok h
    obtain ⟨⟨⟩, -, h⟩ := of_bind_eq_ok h
    obtain ⟨rfl, rfl⟩ := Prod.mk.inj (Except.ok.inj h)
    obtain ⟨hvalueDepth, hbehind⟩ := Cursor.depth_le_of_expr hvalue (Cursor.length_advance_le hmiddle)
    exact noDeeper_cons.2 ⟨hdepth, noDeeper_cons.2 ⟨hvalueDepth, noDeeper_of_moreValues hothers hbehind⟩⟩
  · obtain ⟨⟨others, last⟩, hothers, h⟩ := of_bind_eq_ok h
    obtain ⟨⟨⟩, -, h⟩ := of_bind_eq_ok h
    obtain ⟨rfl, rfl⟩ := Prod.mk.inj (Except.ok.inj h)
    exact noDeeper_cons.2 ⟨hdepth, noDeeper_of_moreValues hothers hmiddle⟩

theorem noDeeper_of_assignment {target : String} {value : Markup} (h : assignment markup = .ok (target, value))
    (hbound : markup.length ≤ bound) : NoDeeper bound value.expressions := by
  unfold assignment at h
  dsimp only at h
  split at h
  · cases h
  · next sign text hsplit =>
    obtain ⟨name, -, h⟩ := of_bind_eq_ok h
    obtain ⟨parsed, hparsed, h⟩ := of_bind_eq_ok h
    obtain ⟨-, rfl⟩ := Prod.mk.inj (Except.ok.inj h)
    have hshorter := (List.dropWhile_suffix (· != '=') (l := markup.toList)).length_le
    rw [hsplit, List.length_cons, String.length_toList] at hshorter
    refine Markup.noDeeper_expressions hparsed ?_
    rw [String.length_ofList]
    omega

theorem noDeeper_of_loopStart {tag item name : String} {collection : Expr}
    (h : loopStart tag cursor = .ok ((item, collection, name), after)) (hcursor : cursor.rest.length ≤ bound) :
    collection.depth ≤ bound ∧ after.rest.length ≤ bound := by
  unfold loopStart at h
  dsimp only at h
  split at h
  · split at h
    · cases h
    · obtain ⟨⟨read, last⟩, hread, h⟩ := of_bind_eq_ok h
      obtain ⟨hparts, rfl⟩ := Prod.mk.inj (Except.ok.inj h)
      obtain ⟨-, hrest⟩ := Prod.mk.inj hparts
      obtain ⟨rfl, -⟩ := Prod.mk.inj hrest
      exact Cursor.depth_le_of_expr hread (Cursor.length_advance_le (Cursor.length_advance_le hcursor))
  · cases h

theorem noDeeper_of_loopArguments {fuel : Nat} {header result : LoopHeader}
    (h : loopArguments fuel header cursor = .ok result) (hheader : NoDeeper bound header.expressions)
    (hcursor : cursor.rest.length ≤ bound) : NoDeeper bound result.expressions := by
  induction fuel generalizing header cursor with
  | zero =>
    obtain rfl := Except.ok.inj h
    exact hheader
  | succ fuel ih =>
    obtain ⟨hcollection, hoptions⟩ := noDeeper_cons.1 hheader
    obtain ⟨hlimit, hoffset⟩ := noDeeper_append.1 hoptions
    rw [loopArguments] at h
    split at h
    · obtain rfl := Except.ok.inj h
      exact hheader
    · split at h
      · exact ih h hheader (Cursor.length_advance_le hcursor)
      · obtain ⟨⟨argument, named⟩, hargument, h⟩ := of_bind_eq_ok h
        have hnamed := Cursor.length_le_of_ident hargument hcursor
        dsimp only at h
        split at h
        · exact ih h hheader hnamed
        · split at h
          · obtain ⟨valued, hcolon, h⟩ := of_bind_eq_ok h
            obtain ⟨⟨limit, last⟩, hread, h⟩ := of_bind_eq_ok h
            obtain ⟨hdepth, hlast⟩ := Cursor.depth_le_of_expr hread (Cursor.length_le_of_colon hcolon hnamed)
            have hlimit := noDeeper_cons.2 ⟨hdepth, noDeeper_nil bound⟩
            exact ih h (noDeeper_cons.2 ⟨hcollection, noDeeper_append.2 ⟨hlimit, hoffset⟩⟩) hlast
          · split at h
            · obtain ⟨valued, hcolon, h⟩ := of_bind_eq_ok h
              have hvalued := Cursor.length_le_of_colon hcolon hnamed
              split at h
              · refine ih h ?_ (Cursor.length_advance_le hvalued)
                exact noDeeper_cons.2 ⟨hcollection, noDeeper_append.2 ⟨hlimit, noDeeper_nil bound⟩⟩
              · obtain ⟨⟨offset, last⟩, hread, h⟩ := of_bind_eq_ok h
                obtain ⟨hdepth, hlast⟩ := Cursor.depth_le_of_expr hread hvalued
                refine ih h ?_ hlast
                have hoffset := noDeeper_cons.2 ⟨hdepth, noDeeper_nil bound⟩
                exact noDeeper_cons.2 ⟨hcollection, noDeeper_append.2 ⟨hlimit, hoffset⟩⟩
            · cases h

theorem noDeeper_of_loop {header : LoopHeader} (h : loop markup = .ok header) (hbound : markup.length ≤ bound) :
    NoDeeper bound header.expressions := by
  obtain ⟨start, hstart, h⟩ := of_bind_eq_ok h
  obtain ⟨⟨⟨item, collection, name⟩, middle⟩, hread, h⟩ := of_bind_eq_ok h
  obtain ⟨hdepth, hmiddle⟩ := noDeeper_of_loopStart hread (Cursor.length_le_of_start hstart hbound)
  exact noDeeper_of_loopArguments h (noDeeper_cons.2 ⟨hdepth, noDeeper_nil bound⟩) hmiddle

theorem noDeeper_of_tableArguments {fuel : Nat} {header result : TableHeader}
    (h : tableArguments fuel header cursor = .ok result) (hheader : NoDeeper bound header.expressions)
    (hcursor : cursor.rest.length ≤ bound) : NoDeeper bound result.expressions := by
  induction fuel generalizing header cursor with
  | zero =>
    obtain rfl := Except.ok.inj h
    exact hheader
  | succ fuel ih =>
    rw [tableArguments] at h
    split at h
    · obtain rfl := Except.ok.inj h
      exact hheader
    · split at h
      · exact ih h hheader (Cursor.length_advance_le hcursor)
      · obtain ⟨⟨argument, named⟩, hargument, h⟩ := of_bind_eq_ok h
        dsimp only at h
        split at h
        · cases h
        · obtain ⟨valued, hcolon, h⟩ := of_bind_eq_ok h
          obtain ⟨⟨value, last⟩, hread, h⟩ := of_bind_eq_ok h
          have hvalued := Cursor.length_le_of_colon hcolon (Cursor.length_le_of_ident hargument hcursor)
          obtain ⟨hdepth, hlast⟩ := Cursor.depth_le_of_expr hread hvalued
          refine ih h ?_ hlast
          have hvalue : NoDeeper bound [value] := noDeeper_cons.2 ⟨hdepth, noDeeper_nil bound⟩
          obtain ⟨hfront, hoffset⟩ := noDeeper_append.1 hheader
          obtain ⟨hfront, hlimit⟩ := noDeeper_append.1 hfront
          obtain ⟨hcollection, hcolumns⟩ := noDeeper_cons.1 hfront
          dsimp only
          split
          · exact noDeeper_append.2 ⟨noDeeper_append.2 ⟨noDeeper_cons.2 ⟨hcollection, hvalue⟩, hlimit⟩, hoffset⟩
          · split
            · exact noDeeper_append.2 ⟨noDeeper_append.2 ⟨hfront, hvalue⟩, hoffset⟩
            · exact noDeeper_append.2 ⟨noDeeper_append.2 ⟨hfront, hlimit⟩, hvalue⟩

theorem noDeeper_of_table {header : TableHeader} (h : table markup = .ok header) (hbound : markup.length ≤ bound) :
    NoDeeper bound header.expressions := by
  obtain ⟨start, hstart, h⟩ := of_bind_eq_ok h
  obtain ⟨⟨⟨item, collection, name⟩, middle⟩, hread, h⟩ := of_bind_eq_ok h
  obtain ⟨hdepth, hmiddle⟩ := noDeeper_of_loopStart hread (Cursor.length_le_of_start hstart hbound)
  exact noDeeper_of_tableArguments h (noDeeper_cons.2 ⟨hdepth, noDeeper_nil bound⟩) hmiddle

theorem noDeeper_of_attributes {fuel : Nat} {read : List (String × Expr)} (h : attributes fuel cursor = .ok read)
    (hcursor : cursor.rest.length ≤ bound) : NoDeeper bound (read.map Prod.snd) := by
  induction fuel generalizing cursor read with
  | zero =>
    obtain rfl := Except.ok.inj h
    exact noDeeper_nil bound
  | succ fuel ih =>
    rw [attributes] at h
    split at h
    · obtain rfl := Except.ok.inj h
      exact noDeeper_nil bound
    · split at h
      · exact ih h (Cursor.length_advance_le hcursor)
      · obtain ⟨⟨key, named⟩, hkey, h⟩ := of_bind_eq_ok h
        obtain ⟨valued, hcolon, h⟩ := of_bind_eq_ok h
        obtain ⟨⟨value, last⟩, hread, h⟩ := of_bind_eq_ok h
        obtain ⟨others, hothers, h⟩ := of_bind_eq_ok h
        obtain rfl := Except.ok.inj h
        have hvalued := Cursor.length_le_of_colon hcolon (Cursor.length_le_of_ident hkey hcursor)
        obtain ⟨hdepth, hlast⟩ := Cursor.depth_le_of_expr hread hvalued
        exact noDeeper_cons.2 ⟨hdepth, ih hothers hlast⟩

theorem noDeeper_of_inclusion {read : Inclusion} (h : inclusion markup = .ok read) (hbound : markup.length ≤ bound) :
    NoDeeper bound read.expressions := by
  obtain ⟨start, hstart, h⟩ := of_bind_eq_ok h
  obtain ⟨⟨template, middle⟩, htemplate, h⟩ := of_bind_eq_ok h
  obtain ⟨hdepth, hmiddle⟩ := Cursor.depth_le_of_expr htemplate (Cursor.length_le_of_start hstart hbound)
  dsimp only at h
  split at h
  · obtain ⟨⟨value, last⟩, hread, h⟩ := of_bind_eq_ok h
    obtain ⟨others, hothers, h⟩ := of_bind_eq_ok h
    obtain rfl := Except.ok.inj h
    obtain ⟨hvalue, hlast⟩ := Cursor.depth_le_of_expr hread (Cursor.length_advance_le hmiddle)
    exact noDeeper_cons.2 ⟨hdepth, noDeeper_cons.2 ⟨hvalue, noDeeper_of_attributes hothers hlast⟩⟩
  · split at h
    · obtain ⟨⟨value, last⟩, hread, h⟩ := of_bind_eq_ok h
      obtain ⟨others, hothers, h⟩ := of_bind_eq_ok h
      obtain rfl := Except.ok.inj h
      obtain ⟨hvalue, hlast⟩ := Cursor.depth_le_of_expr hread (Cursor.length_advance_le hmiddle)
      exact noDeeper_cons.2 ⟨hdepth, noDeeper_cons.2 ⟨hvalue, noDeeper_of_attributes hothers hlast⟩⟩
    · obtain ⟨others, hothers, h⟩ := of_bind_eq_ok h
      obtain rfl := Except.ok.inj h
      exact noDeeper_cons.2 ⟨hdepth, noDeeper_of_attributes hothers hmiddle⟩

end Header

end Liquid
