import Liquid.Proofs.Text.Places
import Liquid.Proofs.Token.Draining

/-!
# Searching the bytes of a source

Markers, delimiters, names and end tags may also be searched for among the bytes of a source. A search goes on behind a place,
and it is given up if the place is none at which the source can be cut. That never happens: what is found stands behind the
text that a search of the characters passes.
-/

namespace Liquid.Lexer

open Text Text.Html Text.Utf8

/-! ## Searches -/

/-- The index of the first delimiter outside of quotes among bytes that stand behind an index. -/
def closingByte? (delimiter : List Nat) : (quote : Option Nat) → (index : Nat) → List Nat → Option Nat
  | _, _, [] => none
  | some quote, index, byte :: behind =>
    closingByte? delimiter (if byte == quote then none else some quote) (index + 1) behind
  | none, index, byte :: behind =>
    if byte == '\''.toNat || byte == '"'.toNat then closingByte? delimiter (some byte) (index + 1) behind
    else if delimiter.isPrefixOf (byte :: behind) then some index
    else closingByte? delimiter none (index + 1) behind

/-- The place of the delimiter that closes a marker. -/
def closingPlace? (delimiter text : List Char) : Option Nat :=
  closingByte? (encode delimiter) none 0 (encode text) <|> find? delimiter text

/-- The marker that a brace at an index among the bytes of a text begins, given the bytes behind it. -/
def markerOfBrace? (text : List Char) (index : Nat) : (behind : List Nat) → Option (Option Marker)
  | [] => return none
  | second :: behind =>
    if second == '\x7b'.toNat then
      if behind.head? == some '\x7b'.toNat then do
        return some (if contains ['\x7d', '\x7d', '\x7d'] (← from? index text) then .literal else .output)
      else return some .output
    else if second == '%'.toNat then return some .tag
    else if second == '#'.toNat then do
      return if contains ['#', '\x7d'] (← from? (index + 2) text) then some .comment else none
    else return none

/-- Whether a marker asks for the blanks before it to be dropped, given the bytes behind its first brace. -/
def asksTrimming (marker : Marker) (behind : List Nat) : Bool :=
  (marker == .output || marker == .tag) && behind[1]? == some '-'.toNat

/-- The place of the first marker of a text, the marker and whether it asks for the blanks before it to be dropped; `behind`
are the bytes from the index on. -/
def startMarker? (text : List Char) : (index : Nat) → (behind : List Nat) → Option (Option (Nat × Marker × Bool))
  | _, [] => return none
  | index, byte :: behind =>
    if byte == '\x7b'.toNat then do
      match ← markerOfBrace? text index behind with
      | some marker => return some (index, marker, asksTrimming marker behind)
      | none => startMarker? text (index + 1) behind
    else startMarker? text (index + 1) behind

/-- The number of bytes of the name at the start of the inside of a tag. -/
def nameBytes : List Nat → Nat
  | [] => 0
  | byte :: behind =>
    if asciiClass (fun c ↦ c.isAlpha || c == '_') byte then
      1 + (behind.takeWhile (asciiClass fun c ↦ c.isAlphanum || c == '_')).length
    else 0

/-- The number of bytes of the end tag of a name at the start of a text, and its hyphens. -/
def endTagBytes? (name text : List Char) : Option (Nat × Bool × Bool) :=
  (endTag? name text).map fun (trimLeft, trimRight, rest) ↦ (size text - size rest, trimLeft, trimRight)

/-- The place of the first end tag of a name behind an offset, its number of bytes and its hyphens. -/
def rawEnd? (name text : List Char) : (fuel : Nat) → (offset : Nat) → Option (Option (Nat × Nat × Bool × Bool))
  | 0, _ => none
  | fuel + 1, offset => do
    match find? ['\x7b', '%'] (← from? offset text) with
    | none => return none
    | some index =>
      let start := offset + index
      match endTagBytes? name (← from? start text) with
      | some (bytes, trims) => return some (start, bytes, trims)
      | none => rawEnd? name text fuel (start + 2)

variable {text front rest : List Char} {c : Char}

/-! ## Delimiters -/

theorem isPrefixOf_encode {delimiter : List Char} (hascii : ∀ d ∈ delimiter, d.toNat < 0x80) (text : List Char) :
    (encode delimiter).isPrefixOf (encode text) = (delimiter.isPrefixOf? text).isSome := by
  induction delimiter generalizing text with
  | nil =>
    rw [encode_nil]
    rfl
  | cons d delimiter ih =>
    obtain ⟨hd, hdelimiter⟩ := List.forall_mem_cons.1 hascii
    rw [encode_cons_of_ascii hd]
    cases text with
    | nil =>
      rw [encode_nil]
      rfl
    | cons c rest =>
      change _ = (if d == c then delimiter.isPrefixOf? rest else none).isSome
      by_cases hc : c.toNat < 0x80
      · rw [encode_cons_of_ascii hc, List.isPrefixOf_cons_cons, toNat_beq, ih hdelimiter]
        cases d == c <;> rfl
      · obtain ⟨first, more, hbytes, hlarge⟩ := exists_encode_of_le (Nat.not_lt.1 hc)
        have hle := hlarge first List.mem_cons_self
        have hbyte : (d.toNat == first) = false := beq_eq_false_iff_ne.2 (by omega)
        have hchar : (d == c) = false := beq_eq_false_iff_ne.2 fun hsame ↦ hc (hsame ▸ hd)
        rw [encode_cons, hbytes, List.cons_append, List.isPrefixOf_cons_cons, hbyte, hchar]
        rfl

/-- The bytes of characters that are not of ASCII close no quote and begin no delimiter. -/
theorem closingByte?_append {delimiter plain : List Nat} {quote : Option Nat} (hplain : ∀ byte ∈ plain, 0x80 ≤ byte)
    (hquote : ∀ byte ∈ quote, byte < 0x80) {first : Nat} (hdelimiter : delimiter.head? = some first) (hfirst : first < 0x80)
    (index : Nat) (behind : List Nat) :
    closingByte? delimiter quote index (plain ++ behind) = closingByte? delimiter quote (index + plain.length) behind := by
  induction plain generalizing index with
  | nil => rfl
  | cons byte plain ih =>
    obtain ⟨hbyte, hothers⟩ := List.forall_mem_cons.1 hplain
    have hindex : index + (byte :: plain).length = index + 1 + plain.length := by
      rw [List.length_cons]
      omega
    rw [List.cons_append, hindex, ← ih hothers]
    cases quote with
    | some quote =>
      have hsmall := hquote quote rfl
      rw [closingByte?, if_neg (by rw [beq_iff_eq]; omega)]
    | none =>
      have hmarks : ¬(byte == '\''.toNat || byte == '"'.toNat) = true := by
        rw [Bool.or_eq_true, beq_iff_eq, beq_iff_eq]
        change ¬(byte = 39 ∨ byte = 34)
        omega
      have hprefix : ¬delimiter.isPrefixOf (byte :: (plain ++ behind)) = true := by
        obtain ⟨others, rfl⟩ := List.head?_eq_some_iff.1 hdelimiter
        rw [List.isPrefixOf_cons_cons, Bool.and_eq_true, beq_iff_eq]
        omega
      rw [closingByte?, if_neg hmarks, if_neg hprefix]

theorem map_place (index : Nat) (c : Char) (found : Option (List Char × List Char)) :
    (found.map fun (before, after) ↦ (c :: before, after)).map (fun parts ↦ index + size parts.1) =
      found.map fun parts ↦ index + size [c] + size parts.1 := by
  rw [Option.map_map]
  congr 1
  funext parts
  change index + size (c :: parts.1) = _
  rw [size_cons, Nat.add_assoc]

/-- A character that is none of ASCII is neither a quote nor the beginning of a delimiter. -/
theorem breakUnquoted_of_le {d : Char} {delimiter rest : List Char} (hd : d.toNat < 0x80) {quote : Option Char}
    (hquote : ∀ q ∈ quote, q.toNat < 0x80) {c : Char} (hc : 0x80 ≤ c.toNat) :
    breakUnquoted (d :: delimiter) quote (c :: rest) =
      (breakUnquoted (d :: delimiter) quote rest).map fun (before, after) ↦ (c :: before, after) := by
  have hne {e : Char} (he : e.toNat < 0x80) : (c == e) = false :=
    beq_eq_false_iff_ne.2 fun hsame ↦ absurd (hsame ▸ he) (Nat.not_lt.2 hc)
  cases quote with
  | some quote => rw [breakUnquoted, hne (hquote quote rfl), if_neg Bool.false_ne_true]
  | none =>
    have hnone : (d :: delimiter).isPrefixOf? (c :: rest) = none := by
      change (if d == c then _ else none) = none
      rw [BEq.comm, hne hd, if_neg Bool.false_ne_true]
    rw [breakUnquoted, hne (by decide), hne (by decide), hnone]
    rfl

/-- Searching the bytes finds the delimiter that searching the characters finds. -/
theorem closingByte?_encode {d : Char} {delimiter : List Char} (hascii : ∀ e ∈ d :: delimiter, e.toNat < 0x80)
    {quote : Option Char} (hquote : ∀ q ∈ quote, q.toNat < 0x80) (index : Nat) (text : List Char) :
    closingByte? (encode (d :: delimiter)) (quote.map Char.toNat) index (encode text) =
      (breakUnquoted (d :: delimiter) quote text).map fun parts ↦ index + size parts.1 := by
  induction text generalizing quote index with
  | nil =>
    rw [encode_nil]
    cases quote <;> rfl
  | cons c rest ih =>
    have hd := hascii d List.mem_cons_self
    by_cases hc : c.toNat < 0x80
    · have hsize : size [c] = 1 := size_of_ascii [c] (List.forall_mem_singleton.2 hc)
      rw [encode_cons_of_ascii hc]
      cases quote with
      | some quote =>
        have hkept : (if c.toNat == quote.toNat then none else some quote.toNat) =
            (if c == quote then none else some quote).map Char.toNat := by
          rw [toNat_beq]
          split <;> rfl
        rw [breakUnquoted, map_place, hsize, Option.map_some, closingByte?, hkept]
        refine ih (fun q hq ↦ ?_) (index + 1)
        split at hq
        · cases hq
        · exact hquote q hq
      | none =>
        have hprefix := isPrefixOf_encode hascii (c :: rest)
        rw [encode_cons_of_ascii hc] at hprefix
        rw [Option.map_none, closingByte?, toNat_beq, toNat_beq, breakUnquoted, hprefix]
        split
        · rw [map_place, hsize]
          have hquoted : ∀ q ∈ some c, q.toNat < 0x80 := fun q hq ↦ Option.some.inj hq ▸ hc
          exact ih hquoted (index + 1)
        · cases (d :: delimiter).isPrefixOf? (c :: rest) with
          | some after =>
            change some index = some (index + size [])
            rw [size_nil, Nat.add_zero]
          | none =>
            dsimp only [Option.isSome_none]
            rw [if_neg Bool.false_ne_true, map_place, hsize]
            have hunquoted : ∀ q ∈ (none : Option Char), q.toNat < 0x80 := fun q hq ↦ absurd hq (Option.not_mem_none q)
            exact ih hunquoted (index + 1)
    · obtain ⟨first, more, hbytes, hlarge⟩ := exists_encode_of_le (Nat.not_lt.1 hc)
      have hlength : (encode [c]).length = size [c] := rfl
      have hhead : (encode (d :: delimiter)).head? = some d.toNat := by
        rw [encode_cons_of_ascii hd]
        rfl
      rw [encode_cons c rest, closingByte?_append (hbytes ▸ hlarge) (fun byte hbyte ↦ ?_) hhead hd, hlength, ih hquote,
        breakUnquoted_of_le hd hquote (Nat.not_lt.1 hc), map_place]
      obtain ⟨q, hq, rfl⟩ := Option.map_eq_some_iff.1 hbyte
      exact hquote q hq

/-- The place of the delimiter that closes a marker is the one behind the text before it. -/
theorem closingPlace?_eq {d : Char} {delimiter : List Char} (hascii : ∀ e ∈ d :: delimiter, e.toNat < 0x80)
    (text : List Char) :
    closingPlace? (d :: delimiter) text = (breakClosing (d :: delimiter) text).map fun parts ↦ size parts.1 := by
  have hunquoted : ∀ q ∈ (none : Option Char), q.toNat < 0x80 := nofun
  have hsearch := closingByte?_encode hascii hunquoted 0 text
  simp only [Nat.zero_add] at hsearch
  rw [closingPlace?, show (none : Option Nat) = (none : Option Char).map Char.toNat from rfl, hsearch, breakClosing]
  cases breakUnquoted (d :: delimiter) none text <;> rfl

/-! ## Markers -/

theorem contains_cons_of_ne {d : Char} (h : d ≠ c) (pattern rest : List Char) :
    contains (d :: pattern) (c :: rest) = contains (d :: pattern) rest := by
  have hnone : (d :: pattern).isPrefixOf? (c :: rest) = none := by
    change (if d == c then _ else none) = none
    rw [beq_eq_false_iff_ne.2 h, if_neg Bool.false_ne_true]
  rw [contains, contains, breakOn, hnone, Option.isSome_map]

theorem markerOfBrace?_brace (front behind : List Char) :
    markerOfBrace? (front ++ '\x7b' :: '\x7b' :: behind) (size front) (encode ('\x7b' :: behind)) =
      some (Marker.at? ('\x7b' :: '\x7b' :: behind)) := by
  rw [encode_cons_of_ascii (by decide), markerOfBrace?, if_pos (beq_self_eq_true _), head?_encode (by decide)]
  cases behind with
  | nil => rfl
  | cons third inner =>
    by_cases hthird : third = '\x7b'
    · subst hthird
      rw [List.head?_cons, if_pos (beq_self_eq_true _), from?_size]
      dsimp only [Option.bind_eq_bind, Option.bind_some]
      rw [contains_cons_of_ne (by decide), contains_cons_of_ne (by decide), contains_cons_of_ne (by decide),
        Marker.at?_braces]
      split <;> rfl
    · have hother : (some third == some '\x7b') = false := by
        rw [Option.some_beq_some]
        exact beq_eq_false_iff_ne.2 hthird
      rw [List.head?_cons, hother, if_neg Bool.false_ne_true, Marker.at?_output hthird]
      rfl

theorem markerOfBrace?_number (front behind : List Char) :
    markerOfBrace? (front ++ '\x7b' :: '#' :: behind) (size front) (encode ('#' :: behind)) =
      some (Marker.at? ('\x7b' :: '#' :: behind)) := by
  have hopening : size front + 2 = size (front ++ ['\x7b', '#']) := by
    rw [size_append, size_eq_length ['\x7b', '#'] rfl]
    rfl
  have hinside := from?_size (front ++ ['\x7b', '#']) behind
  rw [← hopening, List.append_assoc] at hinside
  rw [encode_cons_of_ascii (by decide), markerOfBrace?, if_neg (by decide), if_neg (by decide),
    if_pos (beq_self_eq_true _), show front ++ '\x7b' :: '#' :: behind = front ++ (['\x7b', '#'] ++ behind) from rfl,
    hinside, Marker.at?_comment]
  rfl

/-- Which marker a brace begins can be seen from the bytes behind it. -/
theorem markerOfBrace?_eq (front rest : List Char) :
    markerOfBrace? (front ++ '\x7b' :: rest) (size front) (encode rest) = some (Marker.at? ('\x7b' :: rest)) := by
  cases rest with
  | nil =>
    rw [encode_nil]
    rfl
  | cons second behind =>
    by_cases hascii : second.toNat < 0x80
    · by_cases hbrace : second = '\x7b'
      · subst hbrace
        exact markerOfBrace?_brace front behind
      by_cases hnumber : second = '#'
      · subst hnumber
        exact markerOfBrace?_number front behind
      rw [encode_cons_of_ascii hascii, markerOfBrace?, toNat_beq, toNat_beq, toNat_beq, beq_eq_false_iff_ne.2 hbrace,
        if_neg Bool.false_ne_true, beq_eq_false_iff_ne.2 hnumber, if_neg Bool.false_ne_true]
      by_cases hpercent : second = '%'
      · subst hpercent
        rfl
      rw [beq_eq_false_iff_ne.2 hpercent, if_neg Bool.false_ne_true]
      simp [Marker.at?, hbrace, hpercent, hnumber]
    · obtain ⟨first, more, hbytes, hlarge⟩ := exists_encode_of_le (Nat.not_lt.1 hascii)
      have hle := hlarge first List.mem_cons_self
      have hne {d : Char} (hd : d.toNat < 0x80) : second ≠ d := fun hsame ↦ hascii (hsame ▸ hd)
      have hother (d : Char) (hd : d.toNat < 0x80) : (first == d.toNat) = false := beq_eq_false_iff_ne.2 (by omega)
      have hbrace : second ≠ '\x7b' := hne (by decide)
      have hpercent : second ≠ '%' := hne (by decide)
      have hnumber : second ≠ '#' := hne (by decide)
      rw [encode_cons, hbytes, List.cons_append, markerOfBrace?, hother _ (by decide), hother _ (by decide),
        hother _ (by decide)]
      simp [Marker.at?, hbrace, hpercent, hnumber]

/-- Whether a marker asks for trimming can be seen from the bytes behind its first brace. -/
theorem asksTrimming_eq {marker : Marker} (h : Marker.at? ('\x7b' :: rest) = some marker) :
    asksTrimming marker (encode rest) = Marker.trimsBefore ('\x7b' :: rest) := by
  cases rest with
  | nil => cases h
  | cons second behind =>
    by_cases hascii : second.toNat < 0x80
    · unfold Marker.trimsBefore
      rw [h]
      have hbyte : ((encode (second :: behind))[1]? == some '-'.toNat) = (behind.head? == some '-') := by
        rw [encode_cons_of_ascii hascii, List.getElem?_cons_succ, ← List.head?_eq_getElem?, head?_encode (by decide)]
      rw [asksTrimming, hbyte]
      rcases behind with _ | ⟨third, inner⟩
      · cases marker <;> rfl
      · rw [List.head?_cons, Option.some_beq_some]
        by_cases hhyphen : third = '-'
        · subst hhyphen
          cases marker <;> rfl
        · rw [beq_eq_false_iff_ne.2 hhyphen, Bool.and_false]
          cases marker <;> simp [hhyphen]
    · -- A marker goes on with a character of ASCII.
      have hne {d : Char} (hd : d.toNat < 0x80) : second ≠ d := fun hsame ↦ hascii (hsame ▸ hd)
      have hbrace : second ≠ '\x7b' := hne (by decide)
      have hpercent : second ≠ '%' := hne (by decide)
      have hnumber : second ≠ '#' := hne (by decide)
      simp [Marker.at?, hbrace, hpercent, hnumber] at h

theorem startMarker?_append {plain : List Nat} (hplain : ∀ byte ∈ plain, byte ≠ '\x7b'.toNat) (text : List Char) (index : Nat)
    (behind : List Nat) : startMarker? text index (plain ++ behind) = startMarker? text (index + plain.length) behind := by
  induction plain generalizing index with
  | nil => rfl
  | cons byte plain ih =>
    obtain ⟨hbyte, hothers⟩ := List.forall_mem_cons.1 hplain
    have hindex : index + (byte :: plain).length = index + 1 + plain.length := by
      rw [List.length_cons]
      omega
    rw [List.cons_append, hindex, ← ih hothers, startMarker?, beq_eq_false_iff_ne.2 hbyte, if_neg Bool.false_ne_true]

/-- What stands behind the text before the first marker. -/
def behindText (text : List Char) : List Char := text.drop (Marker.textBefore text).length

theorem textBefore_append_behindText (text : List Char) : Marker.textBefore text ++ behindText text = text :=
  textBefore_append_drop text

theorem textBefore_of_none (h : Marker.at? (c :: rest) = none) :
    Marker.textBefore (c :: rest) = c :: Marker.textBefore rest := by
  rw [Marker.textBefore, h, Option.isSome_none, if_neg Bool.false_ne_true]

theorem at?_of_ne (h : c ≠ '\x7b') (rest : List Char) : Marker.at? (c :: rest) = none := by
  simp [Marker.at?, h]

/-- The first marker that the bytes show stands behind the text before the first marker. -/
theorem startMarker?_eq (front rest : List Char) :
    startMarker? (front ++ rest) (size front) (encode rest) = some ((Marker.at? (behindText rest)).map fun marker ↦
      (size front + size (Marker.textBefore rest), marker, Marker.trimsBefore (behindText rest))) := by
  induction rest generalizing front with
  | nil =>
    rw [encode_nil]
    rfl
  | cons c rest ih =>
    have hnext := ih (front ++ [c])
    rw [List.append_assoc, List.singleton_append, size_append] at hnext
    -- Behind a character that begins no marker the search goes on.
    have hgo (hnone : Marker.at? (c :: rest) = none) :
        startMarker? (front ++ c :: rest) (size front + size [c]) (encode rest) =
          some ((Marker.at? (behindText (c :: rest))).map fun marker ↦
            (size front + size (Marker.textBefore (c :: rest)), marker, Marker.trimsBefore (behindText (c :: rest)))) := by
      rw [hnext, behindText, behindText, textBefore_of_none hnone, size_cons c (Marker.textBefore rest), ← Nat.add_assoc]
      rfl
    by_cases hbrace : c = '\x7b'
    · subst hbrace
      have hsize : size ['\x7b'] = 1 := size_eq_length _ rfl
      rw [encode_cons_of_ascii (by decide), startMarker?, if_pos (beq_self_eq_true _), markerOfBrace?_eq]
      dsimp only [Option.bind_eq_bind, Option.bind_some]
      cases hmarker : Marker.at? ('\x7b' :: rest) with
      | some marker =>
        have hstart : Marker.textBefore ('\x7b' :: rest) = [] := textBefore_eq_nil hmarker
        have hbehind : behindText ('\x7b' :: rest) = '\x7b' :: rest := by
          rw [behindText, hstart, List.length_nil, List.drop_zero]
        rw [hbehind, hmarker, hstart, size_nil, ← asksTrimming_eq hmarker]
        rfl
      | none =>
        rw [← hgo hmarker, hsize]
    · rw [encode_cons, startMarker?_append (fun byte hbyte ↦ ?_)]
      · exact hgo (at?_of_ne hbrace rest)
      · obtain rfl | hle := le_of_mem_encode hbyte
        · exact fun hsame ↦ hbrace (Char.toNat_inj.1 hsame)
        · change byte ≠ 123
          omega

/-! ## Names and end tags -/

theorem nameBytes_encode (text : List Char) : nameBytes (encode text) = size (takeName text) := by
  have hstarts (c : Char) (h : (c.isAlpha || c == '_') = true) : c.toNat < 0x80 := by
    obtain h | h := Bool.or_eq_true _ _ ▸ h
    · exact toNat_lt_of_isAlpha h
    · exact beq_iff_eq.1 h ▸ by decide
  have hcontinues (c : Char) (h : (c.isAlphanum || c == '_') = true) : c.toNat < 0x80 := by
    obtain h | h := Bool.or_eq_true _ _ ▸ h
    · exact toNat_lt_of_isAlphanum h
    · exact beq_iff_eq.1 h ▸ by decide
  cases text with
  | nil => rw [encode_nil, nameBytes, takeName, size_nil]
  | cons c rest =>
    by_cases hc : c.toNat < 0x80
    · rw [encode_cons_of_ascii hc, nameBytes, asciiClass_toNat hc, takeName]
      split
      · rw [takeWhile_encode hcontinues, List.length_map, size_cons, size_takeWhile hcontinues,
          size_of_ascii [c] (List.forall_mem_singleton.2 hc)]
        rfl
      · rw [size_nil]
    · obtain ⟨first, more, hbytes, hlarge⟩ := exists_encode_of_le (Nat.not_lt.1 hc)
      have hoff : (c.isAlpha || c == '_') = false := Bool.eq_false_iff.2 fun hon ↦ hc (hstarts c hon)
      rw [encode_cons, hbytes, List.cons_append, nameBytes, asciiClass_of_le (hlarge first List.mem_cons_self),
        if_neg Bool.false_ne_true, takeName, hoff, if_neg Bool.false_ne_true, size_nil]

theorem takeName_isPrefixOf (text : List Char) : takeName text <+: text := by
  cases text with
  | nil => exact List.prefix_rfl
  | cons c rest =>
    rw [takeName]
    split
    · exact List.cons_prefix_cons.2 ⟨rfl, List.takeWhile_prefix _⟩
    · exact List.nil_prefix

theorem takeName_append_drop (text : List Char) : takeName text ++ text.drop (takeName text).length = text :=
  List.prefix_iff_eq_append.1 (takeName_isPrefixOf text)

theorem endTag?_isSuffix {name : List Char} {trimLeft trimRight : Bool}
    (h : endTag? name text = some (trimLeft, trimRight, rest)) : rest <:+ text := by
  unfold endTag? at h
  split at h
  · next behind =>
    simp only [Option.bind_eq_bind, Option.bind_eq_some_iff, Option.pure_def, Option.some.injEq, Prod.mk.injEq] at h
    obtain ⟨behindName, hnamed, behindEnd, hdelimiter, -, -, rfl⟩ := h
    obtain ⟨hyphen, hhyphen, -⟩ := dropHyphen_split behind
    obtain ⟨lastHyphen, hlast, -⟩ := dropHyphen_split (trimStart behindName)
    have hname : behindName <:+ trimStart (dropHyphen behind).2 := ⟨name, (eq_append_of_isPrefixOf? hnamed).symm⟩
    have hend : behindEnd <:+ (dropHyphen (trimStart behindName)).2 :=
      ⟨['%', '\x7d'], (eq_append_of_isPrefixOf? hdelimiter).symm⟩
    calc behindEnd
      _ <:+ (dropHyphen (trimStart behindName)).2 := hend
      _ <:+ trimStart behindName := ⟨lastHyphen, hlast.symm⟩
      _ <:+ behindName := List.dropWhile_suffix _
      _ <:+ trimStart (dropHyphen behind).2 := hname
      _ <:+ (dropHyphen behind).2 := List.dropWhile_suffix _
      _ <:+ behind := ⟨hyphen, hhyphen.symm⟩
      _ <:+ '\x7b' :: '%' :: behind := ⟨['\x7b', '%'], rfl⟩
  · cases h

theorem breakEndTag_of_none {name : List Char} (h : endTag? name (c :: rest) = none) :
    breakEndTag name (c :: rest) = (breakEndTag name rest).map fun (before, ending) ↦ (c :: before, ending) := by
  rw [breakEndTag, h]

/-- An end tag is searched for where a tag opens. -/
theorem breakEndTag_of_breakOn (name text : List Char) : breakEndTag name text =
    (breakOn ['\x7b', '%'] text).bind fun (before, after) ↦
      (breakEndTag name ('\x7b' :: '%' :: after)).map fun (more, ending) ↦ (before ++ more, ending) := by
  induction text with
  | nil => rfl
  | cons c rest ih =>
    rw [breakOn]
    cases hopening : ['\x7b', '%'].isPrefixOf? (c :: rest) with
    | some after =>
      rw [show c :: rest = '\x7b' :: '%' :: after from eq_append_of_isPrefixOf? hopening]
      exact Option.map_id'.symm
    | none =>
      have hnone : endTag? name (c :: rest) = none := by
        unfold endTag?
        split
        · next shape =>
          rw [shape] at hopening
          cases hopening
        · rfl
      rw [breakEndTag_of_none hnone, ih]
      dsimp only
      cases breakOn ['\x7b', '%'] rest with
      | none => rfl
      | some parts => exact Option.map_map ..

/-- The place, the number of bytes and the hyphens of an end tag behind some text. -/
def endPlace (front text : List Char) : List Char × Bool × Bool × List Char → Nat × Nat × Bool × Bool
  | (before, trimLeft, trimRight, rest) => (size front + size before, size text - size before - size rest, trimLeft, trimRight)

theorem map_endPlace (front before text : List Char) (found : Option (List Char × Bool × Bool × List Char)) :
    (found.map fun (more, ending) ↦ (before ++ more, ending)).map (endPlace front (before ++ text)) =
      found.map (endPlace (front ++ before) text) := by
  rw [Option.map_map]
  congr 1
  funext ⟨more, trimLeft, trimRight, rest⟩
  change (size front + size (before ++ more), size (before ++ text) - size (before ++ more) - size rest, trimLeft, trimRight) =
    (size (front ++ before) + size more, size text - size more - size rest, trimLeft, trimRight)
  rw [size_append, size_append, size_append, Nat.add_assoc, Nat.add_sub_add_left]

/-- The end tag that is found behind an offset is the first one there. -/
theorem rawEnd?_eq (name front text : List Char) (fuel : Nat) (hfuel : text.length < fuel) :
    rawEnd? name (front ++ text) fuel (size front) = some ((breakEndTag name text).map (endPlace front text)) := by
  induction fuel generalizing front text with
  | zero => exact absurd hfuel (Nat.not_lt_zero _)
  | succ fuel ih =>
    rw [rawEnd?, from?_size, breakEndTag_of_breakOn]
    dsimp only [Option.bind_eq_bind, Option.bind_some]
    rw [find?]
    cases hopening : breakOn ['\x7b', '%'] text with
    | none => rfl
    | some parts =>
      obtain ⟨before, after⟩ := parts
      have htext : text = before ++ ('\x7b' :: '%' :: after) := by
        rw [eq_append_of_breakOn hopening, List.append_assoc]
        rfl
      have hshorter : after.length < fuel := by
        rw [htext, List.length_append, List.length_cons, List.length_cons] at hfuel
        omega
      subst htext
      rw [Option.map_some, Option.bind_some]
      dsimp only
      rw [map_endPlace, ← size_append, ← List.append_assoc, from?_size, Option.bind_some, endTagBytes?]
      cases htag : endTag? name ('\x7b' :: '%' :: after) with
      | some ending =>
        obtain ⟨trimLeft, trimRight, rest⟩ := ending
        rw [breakEndTag, htag]
        dsimp only [Option.map_some, endPlace]
        rw [size_nil, Nat.add_zero, Nat.sub_zero]
        rfl
      | none =>
        have hpercent : endTag? name ('%' :: after) = none := rfl
        have hsize : size (front ++ before) + 2 = size (front ++ before ++ ['\x7b', '%']) := by
          rw [size_append (front ++ before), size_eq_length ['\x7b', '%'] rfl]
          rfl
        have hbehind := ih (front ++ before ++ ['\x7b', '%']) after hshorter
        have hpassed : breakEndTag name ('\x7b' :: '%' :: after) =
            (breakEndTag name after).map fun (more, ending) ↦ (['\x7b', '%'] ++ more, ending) := by
          rw [breakEndTag_of_none htag, breakEndTag_of_none hpercent, Option.map_map]
          rfl
        rw [List.append_assoc (front ++ before)] at hbehind
        dsimp only [Option.map_none]
        rw [hpassed, hsize, show '\x7b' :: '%' :: after = ['\x7b', '%'] ++ after from rfl, hbehind, map_endPlace]

theorem breakEndTag_split {name : List Char} {trimLeft trimRight : Bool} {before : List Char}
    (h : breakEndTag name text = some (before, trimLeft, trimRight, rest)) : ∃ tag, text = before ++ (tag ++ rest) := by
  induction text generalizing before with
  | nil => cases h
  | cons c behind ih =>
    rw [breakEndTag] at h
    split at h
    · next hended =>
      cases h
      obtain ⟨tag, htag⟩ := endTag?_isSuffix hended
      exact ⟨tag, htag.symm⟩
    · obtain ⟨⟨inside, ending⟩, hfound, hparts⟩ := Option.map_eq_some_iff.1 h
      cases hparts
      obtain ⟨tag, rfl⟩ := ih hfound
      exact ⟨tag, rfl⟩

end Liquid.Lexer
