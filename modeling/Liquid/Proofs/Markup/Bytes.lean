import Liquid.Proofs.Markup.Splitting
import Liquid.Proofs.Text.Places

/-!
# Scanning the bytes of a markup

The lexemes of a markup may also be found among its bytes. Such a scan looks at one byte at a time, and it is given up where a
place is none at which the markup can be cut. That never happens: it finds the lexemes that a scan of the characters finds,
with their places counted in bytes.
-/

namespace Liquid.Lexeme

open Text Text.Html Text.Utf8

/-! ## A scanner over bytes -/

/-- The number of bytes of the digits at the start of some bytes. -/
def digitBytes (bytes : List Nat) : Nat := (bytes.takeWhile (asciiClass Char.isDigit)).length

/-- The number of bytes of the fraction behind the digits of a number. -/
def fractionBytes (bytes : List Nat) : Nat :=
  if bytes.head? == some '.'.toNat && digitBytes bytes.tail != 0 then 1 + digitBytes bytes.tail else 0

/-- The number of bytes of the number at the start of some bytes. -/
def numberBytes (bytes : List Nat) : Nat :=
  let minus := if bytes.head? == some '-'.toNat then 1 else 0
  let digits := digitBytes (bytes.drop minus)
  if digits = 0 then 0 else minus + (digits + fractionBytes ((bytes.drop minus).drop digits))

/-- The number of bytes of the identifier at the start of some bytes. -/
def identBytes (bytes : List Nat) : Nat :=
  let length := (bytes.takeWhile (asciiClass continuesIdent)).length
  if (bytes.drop length).head? == some '?'.toNat then length + 1 else length

/-- The lexeme that starts with a byte, and the number of its bytes. -/
def scanOne? (source : String) (rest : List Char) (byte : Nat) : Option (Except Fault (Lexeme × Nat)) :=
  if byte == '\''.toNat || byte == '"'.toNat then do
    match find? [Char.ofNat byte] (← from? 1 rest) with
    | some stop => return .ok (text (String.ofList (← between? 1 (stop + 1) rest)), stop + 2)
    | none => return .error (.unterminatedString source)
  else if byte == '.'.toNat then
    return if (['.', '.'].isPrefixOf? rest).isSome then .ok (dots, 2) else .ok (dot, 1)
  else if byte == '['.toNat then return .ok (openBracket, 1)
  else if byte == ']'.toNat then return .ok (closeBracket, 1)
  else if byte == '('.toNat then return .ok (openParen, 1)
  else if byte == ')'.toNat then return .ok (closeParen, 1)
  else if byte == '|'.toNat then return .ok (pipe, 1)
  else if byte == ':'.toNat then return .ok (colon, 1)
  else if byte == ','.toNat then return .ok (comma, 1)
  else if asciiClass isSign byte then do
    let bytes := ((encode rest).takeWhile (asciiClass isSign)).length
    return .ok (sign (String.ofList (← upTo? bytes rest)), bytes)
  else if byte == '-'.toNat || asciiClass Char.isDigit byte then
    let bytes := numberBytes (encode rest)
    if bytes = 0 then return .error (.unexpectedCharacter '-' source)
    else do return .ok (ofNumber (← upTo? bytes rest), bytes)
  else if asciiClass startsIdent byte then do
    let bytes := identBytes (encode rest)
    return .ok (ident (String.ofList (← upTo? bytes rest)), bytes)
  else return .error (.unexpectedCharacter (rest.headD '\x00') source)

/-- The lexemes from a place of a markup on. -/
def scanFrom? (source : String) : (fuel : Nat) → (place : Nat) → Option (Except Fault (List PlacedLexeme))
  | 0, _ => none
  | fuel + 1, place =>
    match (encode source.toList)[place]? with
    | none => return .ok []
    | some byte =>
      if asciiClass isAsciiBlank byte then scanFrom? source fuel (place + 1)
      else do
        match ← scanOne? source (← from? place source.toList) byte with
        | .error fault => return .error fault
        | .ok (lexeme, bytes) =>
          match ← scanFrom? source fuel (place + bytes) with
          | .error fault => return .error fault
          | .ok others => return .ok (⟨lexeme, place, place + bytes⟩ :: others)

/-- The lexemes of a markup, found among its bytes. -/
def scan? (source : String) : Option (Except Fault (List PlacedLexeme)) := scanFrom? source (source.length + 1) 0

variable {c d : Char} {text rest front : List Char} {source : String}

/-! ## Numbers and identifiers -/

theorem toNat_lt_of_continuesIdent (h : continuesIdent c = true) : c.toNat < 0x80 := by
  rw [continuesIdent, Bool.or_eq_true, Bool.or_eq_true, beq_iff_eq, beq_iff_eq] at h
  obtain (h | rfl) | rfl := h
  · exact toNat_lt_of_isAlphanum h
  · decide
  · decide

theorem toNat_lt_of_startsIdent (h : startsIdent c = true) : c.toNat < 0x80 :=
  toNat_lt_of_continuesIdent (continuesIdent_of_startsIdent h)

theorem toNat_lt_of_isSign (h : isSign c = true) : c.toNat < 0x80 := by
  simp only [isSign, Bool.or_eq_true, beq_iff_eq] at h
  obtain ((rfl | rfl) | rfl) | rfl := h <;> decide

theorem toNat_lt_of_isAsciiBlank (h : isAsciiBlank c = true) : c.toNat < 0x80 := by
  simp only [isAsciiBlank, Bool.or_eq_true, beq_iff_eq] at h
  obtain (((rfl | rfl) | rfl) | rfl) | rfl := h <;> decide

theorem drop_takeWhile (class_ : Char → Bool) (text : List Char) :
    (encode text).drop (size (text.takeWhile class_)) = encode (text.dropWhile class_) := by
  have hbehind := drop_encode (text.takeWhile class_) (text.dropWhile class_)
  rwa [List.takeWhile_append_dropWhile] at hbehind

theorem digitBytes_encode (text : List Char) : digitBytes (encode text) = size (text.takeWhile Char.isDigit) :=
  length_takeWhile_encode (fun _ h ↦ toNat_lt_of_isDigit h) text

theorem digitBytes_eq_zero_iff (text : List Char) :
    digitBytes (encode text) = 0 ↔ (text.takeWhile Char.isDigit).isEmpty = true := by
  rw [digitBytes_encode, size_takeWhile (fun _ h ↦ toNat_lt_of_isDigit h), List.length_eq_zero_iff, List.isEmpty_iff]

theorem fractionBytes_encode (text : List Char) : fractionBytes (encode text) = size (takeFraction text) := by
  rw [fractionBytes, head?_encode (by decide)]
  cases text with
  | nil => exact size_nil.symm
  | cons c rest =>
    rw [List.head?_cons, Option.some_beq_some]
    by_cases hpoint : c = '.'
    · subst hpoint
      have hsize : size ['.'] = 1 := size_eq_length ['.'] rfl
      rw [encode_cons_of_ascii (by decide), List.tail_cons, beq_self_eq_true, Bool.true_and, takeFraction_point]
      by_cases hnone : (rest.takeWhile Char.isDigit).isEmpty = true
      · rw [if_pos hnone, (digitBytes_eq_zero_iff rest).2 hnone, if_neg (by decide), size_nil]
      · have hsome : digitBytes (encode rest) ≠ 0 := fun hzero ↦ hnone ((digitBytes_eq_zero_iff rest).1 hzero)
        rw [if_neg hnone, if_pos (bne_iff_ne.2 hsome), digitBytes_encode, size_cons, hsize]
    · rw [beq_eq_false_iff_ne.2 hpoint, Bool.false_and, if_neg Bool.false_ne_true, takeFraction_of_ne hpoint, size_nil]

theorem unsigned_bytes (text : List Char) :
    digitBytes (encode text) + fractionBytes ((encode text).drop (digitBytes (encode text))) = size (unsigned text) := by
  rw [digitBytes_encode, drop_takeWhile, fractionBytes_encode, unsigned, size_append]

/-- The bytes of a number are those of its text. -/
theorem numberBytes_encode (text : List Char) : numberBytes (encode text) = size ((takeNumber? text).getD []) := by
  rw [numberBytes, head?_encode (by decide)]
  cases text with
  | nil =>
    rw [encode_nil]
    exact size_nil.symm
  | cons c rest =>
    rw [List.head?_cons, Option.some_beq_some]
    by_cases hminus : c = '-'
    · subst hminus
      have hsize : size ['-'] = 1 := size_eq_length ['-'] rfl
      rw [beq_self_eq_true, if_pos rfl, encode_cons_of_ascii (by decide), List.drop_succ_cons, List.drop_zero,
        takeNumber?_minus]
      by_cases hnone : (rest.takeWhile Char.isDigit).isEmpty = true
      · rw [if_pos hnone, if_pos ((digitBytes_eq_zero_iff rest).2 hnone), Option.getD_none, size_nil]
      · rw [if_neg hnone, if_neg (mt (digitBytes_eq_zero_iff rest).1 hnone), unsigned_bytes, Option.getD_some, size_cons,
          hsize]
    · rw [beq_eq_false_iff_ne.2 hminus, if_neg Bool.false_ne_true, List.drop_zero, takeNumber?_of_ne hminus]
      by_cases hnone : ((c :: rest).takeWhile Char.isDigit).isEmpty = true
      · rw [if_pos hnone, if_pos ((digitBytes_eq_zero_iff _).2 hnone), Option.getD_none, size_nil]
      · rw [if_neg hnone, if_neg (mt (digitBytes_eq_zero_iff _).1 hnone), unsigned_bytes, Option.getD_some, Nat.zero_add]

/-- The bytes of an identifier are those of its text. -/
theorem identBytes_encode (text : List Char) : identBytes (encode text) = size (takeIdent text) := by
  rw [identBytes, length_takeWhile_encode fun _ ↦ toNat_lt_of_continuesIdent, drop_takeWhile, head?_encode (by decide),
    takeIdent_eq, size_append]
  by_cases hmark : (text.dropWhile continuesIdent).head? = some '?'
  · rw [hmark, if_pos rfl, if_pos (beq_self_eq_true _), size_eq_length ['?'] rfl]
    rfl
  · rw [if_neg hmark, beq_eq_false_iff_ne.2 hmark, if_neg Bool.false_ne_true, size_nil, Nat.add_zero]

/-! ## One lexeme -/

/-- A scan of the bytes finds what a scan of the characters finds, behind as many bytes as the characters have. -/
def Finds (text : List Char) (found : Option (Except Fault (Lexeme × Nat))) (expected : Except Fault (Lexeme × Nat)) : Prop :=
  found = some (expected.map fun (lexeme, more) ↦ (lexeme, size (text.take (more + 1))))

namespace Finds

theorem ite {condition : Prop} [Decidable condition] {found other : Option (Except Fault (Lexeme × Nat))}
    {expected another : Except Fault (Lexeme × Nat)} (hfound : condition → Finds text found expected)
    (hother : ¬condition → Finds text other another) :
    Finds text (if condition then found else other) (if condition then expected else another) := by
  by_cases h : condition
  · rw [if_pos h, if_pos h]
    exact hfound h
  · rw [if_neg h, if_neg h]
    exact hother h

theorem error (fault : Fault) : Finds text (some (.error fault)) (.error fault) := rfl

theorem ok {lexeme : Lexeme} {bytes more : Nat} (h : bytes = size (text.take (more + 1))) :
    Finds text (some (.ok (lexeme, bytes))) (.ok (lexeme, more)) := by
  rw [h]
  rfl

theorem single (hc : c.toNat < 0x80) (lexeme : Lexeme) : Finds (c :: rest) (some (.ok (lexeme, 1))) (.ok (lexeme, 0)) :=
  .ok (size_of_ascii [c] (List.forall_mem_singleton.2 hc)).symm

/-- A lexeme that is the beginning of a text is cut from it behind its bytes. -/
theorem cut {taken : List Char} (h : taken <+: c :: rest) (hne : taken ≠ []) (lexeme : List Char → Lexeme) {bytes : Nat}
    (hbytes : bytes = size taken) :
    Finds (c :: rest) (do return .ok (lexeme (← upTo? bytes (c :: rest)), bytes)) (.ok (lexeme taken, taken.length - 1)) := by
  rw [hbytes, upTo?_of_isPrefix h]
  refine .ok ?_
  rw [List.take_succ_cons, take_of_isPrefix h hne]

end Finds

/-- Only a minus without digits begins no number. -/
theorem eq_minus_of_takeNumber? (h : (c == '-' || c.isDigit) = true) (hnone : takeNumber? (c :: rest) = none) : c = '-' := by
  by_contra hminus
  have hdigit : c.isDigit = true := by
    rw [Bool.or_eq_true, beq_iff_eq] at h
    exact h.resolve_left hminus
  rw [takeNumber?_of_ne hminus, List.takeWhile_cons_of_pos hdigit, List.isEmpty_cons, if_neg Bool.false_ne_true] at hnone
  cases hnone

/-- Behind a quote stand its content and the next quote like it, or no such quote. -/
theorem quote_cases (quote : Char) (rest : List Char) :
    (∃ content behind, rest = content ++ quote :: behind ∧ rest.takeWhile (· != quote) = content ∧
      breakOn [quote] rest = some (content, behind)) ∨
    rest.takeWhile (· != quote) = rest ∧ breakOn [quote] rest = none := by
  induction rest with
  | nil => exact .inr ⟨rfl, rfl⟩
  | cons c rest ih =>
    have hprefix : [quote].isPrefixOf? (c :: rest) = if quote == c then some rest else none := rfl
    by_cases hsame : c = quote
    · subst hsame
      refine .inl ⟨[], rest, rfl, ?_, ?_⟩
      · rw [List.takeWhile_cons, bne_self_eq_false, if_neg Bool.false_ne_true]
      · rw [breakOn, hprefix, if_pos (beq_self_eq_true _)]
    · have hpassed : (c :: rest).takeWhile (· != quote) = c :: rest.takeWhile (· != quote) := by
        rw [List.takeWhile_cons, if_pos (bne_iff_ne.2 hsame)]
      rw [hpassed, breakOn, hprefix, if_neg (fun heq ↦ hsame (beq_iff_eq.1 heq).symm)]
      obtain ⟨content, behind, hshape, hcontent, hfound⟩ | ⟨hwhole, hnone⟩ := ih
      · refine .inl ⟨c :: content, behind, ?_, ?_, ?_⟩
        · rw [hshape]
          rfl
        · rw [hcontent]
        · rw [hfound]
          rfl
      · refine .inr ⟨?_, ?_⟩
        · rw [hwhole]
        · rw [hnone]
          rfl

theorem scanOne?_text (hc : c.toNat < 0x80) : Finds (c :: rest) (do
      match find? [Char.ofNat c.toNat] (← from? 1 (c :: rest)) with
      | some stop => return .ok (.text (String.ofList (← between? 1 (stop + 1) (c :: rest))), stop + 2)
      | none => return .error (.unterminatedString source))
    (let content := rest.takeWhile (· != c)
      if content.length < rest.length then .ok (.text (String.ofList content), content.length + 1)
      else .error (.unterminatedString source)) := by
  have hsize : size [c] = 1 := size_of_ascii [c] (List.forall_mem_singleton.2 hc)
  have hbehind : from? 1 (c :: rest) = some rest := by rw [← hsize]; exact from?_size [c] rest
  rw [hbehind, Char.ofNat_toNat]
  dsimp only [Option.bind_eq_bind, Option.bind_some]
  obtain ⟨content, behind, rfl, hcontent, hfound⟩ | ⟨hwhole, hnone⟩ := quote_cases c rest
  · have hclosed : content.length < (content ++ c :: behind).length := by
      rw [List.length_append, List.length_cons]
      omega
    have hinside := between?_size [c] content (c :: behind)
    rw [hsize, Nat.add_comm] at hinside
    rw [hcontent, find?, hfound, if_pos hclosed, Option.map_some]
    dsimp only
    rw [show c :: (content ++ c :: behind) = [c] ++ content ++ c :: behind from rfl, hinside]
    refine .ok ?_
    rw [show [c] ++ content ++ c :: behind = (c :: content ++ [c]) ++ behind by simp, List.take_left' (by simp),
      List.cons_append, size_cons, size_append, hsize]
    omega
  · rw [find?, hnone, hwhole, if_neg (Nat.lt_irrefl _)]
    exact .error _

theorem scanOne?_eq_of_ascii (hc : c.toNat < 0x80) : Finds (c :: rest) (scanOne? source (c :: rest) c.toNat)
    (scanOne source c rest) := by
  unfold scanOne
  rw [scanOne?]
  simp only [toNat_beq, asciiClass_toNat hc]
  refine .ite (fun _ ↦ scanOne?_text hc) fun _ ↦ .ite (fun hpoint ↦ ?_) fun _ ↦ .ite (fun _ ↦ .single hc _) fun _ ↦
    .ite (fun _ ↦ .single hc _) fun _ ↦ .ite (fun _ ↦ .single hc _) fun _ ↦ .ite (fun _ ↦ .single hc _) fun _ ↦
    .ite (fun _ ↦ .single hc _) fun _ ↦ .ite (fun _ ↦ .single hc _) fun _ ↦ .ite (fun _ ↦ .single hc _) fun _ ↦
    .ite (fun hsign ↦ ?_) fun _ ↦ .ite (fun hnumber ↦ ?_) fun _ ↦ .ite (fun hident ↦ ?_) fun _ ↦ .error _
  · obtain rfl : c = '.' := beq_iff_eq.1 hpoint
    match rest with
    | [] => exact .single hc .dot
    | d :: behind =>
      by_cases hsecond : d = '.'
      · subst hsecond
        exact .ok (size_eq_length ['.', '.'] rfl).symm
      · have hnone : ['.', '.'].isPrefixOf? ('.' :: d :: behind) = none := by
          change (if '.' == d then _ else none) = none
          rw [if_neg fun heq ↦ hsecond (beq_iff_eq.1 heq).symm]
        rw [hnone, Option.isSome_none, if_neg Bool.false_ne_true]
        split
        · next heq => exact (hsecond (List.cons.inj heq).1).elim
        · exact .single hc .dot
  · have hwhole : (c :: rest).takeWhile isSign = c :: rest.takeWhile isSign := List.takeWhile_cons_of_pos hsign
    have hcut := Finds.cut (List.takeWhile_prefix isSign) (hwhole ▸ List.cons_ne_nil _ _)
      (fun marks ↦ .sign (String.ofList marks)) (length_takeWhile_encode (fun _ ↦ toNat_lt_of_isSign) (c :: rest))
    rw [hwhole, List.length_cons, Nat.add_sub_cancel] at hcut
    exact hcut
  · rw [numberBytes_encode]
    cases htaken : takeNumber? (c :: rest) with
    | none =>
      obtain rfl : c = '-' := eq_minus_of_takeNumber? hnumber htaken
      rw [Option.getD_none, size_nil, if_pos rfl]
      exact .error _
    | some number =>
      have hne := ne_nil_of_takeNumber? htaken
      have hbytes : size number ≠ 0 := by
        have hle := length_le_size number
        have hpos := List.length_pos_iff.2 hne
        omega
      rw [Option.getD_some, if_neg hbytes]
      exact .cut (takeNumber?_plain htaken).1 hne ofNumber rfl
  · exact .cut (takeIdent_plain _).1 (takeIdent_ne_nil hident) (fun name ↦ .ident (String.ofList name))
      (identBytes_encode _)

theorem scanOne?_eq_of_le (hc : 0x80 ≤ c.toNat) {byte : Nat} (hbyte : 0x80 ≤ byte) :
    Finds (c :: rest) (scanOne? source (c :: rest) byte) (scanOne source c rest) := by
  have hplain (n : Nat) (hn : n < 0x80) : (byte == n) = false := beq_eq_false_iff_ne.2 (by omega)
  have hother (d : Char) (hd : d.toNat < 0x80) : (c == d) = false := by
    refine beq_eq_false_iff_ne.2 ?_
    rintro rfl
    omega
  have hclass {class_ : Char → Bool} (hascii : ∀ {d}, class_ d = true → d.toNat < 0x80) : class_ c = false :=
    Bool.eq_false_iff.2 fun hon ↦ absurd (hascii hon) (Nat.not_lt.2 hc)
  have hfound : scanOne? source (c :: rest) byte = some (.error (.unexpectedCharacter c source)) := by
    simp [scanOne?, hplain, asciiClass_of_le hbyte]
  have hexpected : scanOne source c rest = .error (.unexpectedCharacter c source) := by
    simp [scanOne, hother, hclass toNat_lt_of_isSign, hclass toNat_lt_of_isDigit, hclass toNat_lt_of_startsIdent]
  rw [hfound, hexpected]
  exact .error _

/-- The first byte of a text. -/
theorem exists_byte (c : Char) (rest : List Char) : ∃ byte, (encode (c :: rest)).head? = some byte ∧
    (c.toNat < 0x80 ∧ byte = c.toNat ∨ 0x80 ≤ c.toNat ∧ 0x80 ≤ byte) := by
  by_cases hc : c.toNat < 0x80
  · exact ⟨c.toNat, by rw [encode_cons_of_ascii hc, List.head?_cons], .inl ⟨hc, rfl⟩⟩
  · obtain ⟨first, more, hbytes, hlarge⟩ := exists_encode_of_le (Nat.not_lt.1 hc)
    refine ⟨first, ?_, .inr ⟨Nat.not_lt.1 hc, hlarge first List.mem_cons_self⟩⟩
    rw [encode_cons, hbytes, List.cons_append, List.head?_cons]

/-! ## All lexemes -/

/-- The number of bytes in front of a character of a text. -/
def bytesBefore (source : String) (place : Nat) : Nat := size (source.toList.take place)

/-- The first byte of a text tells whether a blank stands there, and the lexeme there if not. -/
theorem exists_firstByte (source : String) (c : Char) (rest : List Char) :
    ∃ byte, (encode (c :: rest)).head? = some byte ∧ asciiClass isAsciiBlank byte = isAsciiBlank c ∧
      Finds (c :: rest) (scanOne? source (c :: rest) byte) (scanOne source c rest) := by
  obtain ⟨byte, hfirst, ⟨hc, rfl⟩ | ⟨hc, hle⟩⟩ := exists_byte c rest
  · exact ⟨_, hfirst, asciiClass_toNat hc, scanOne?_eq_of_ascii hc⟩
  · refine ⟨byte, hfirst, ?_, scanOne?_eq_of_le hc hle⟩
    rw [asciiClass_of_le hle]
    exact (Bool.eq_false_iff.2 fun hon ↦ absurd (toNat_lt_of_isAsciiBlank hon) (Nat.not_lt.2 hc)).symm

/-- Where the scan goes on behind a lexeme. -/
theorem exists_behind {source : String} {front rest : List Char} {c : Char} {more : Nat}
    (hsource : source.toList = front ++ c :: rest) (hmore : more ≤ rest.length) :
    ∃ taken, source.toList = taken ++ rest.drop more ∧ taken.length = front.length + 1 + more ∧
      size taken = size front + size ((c :: rest).take (more + 1)) := by
  refine ⟨front ++ (c :: rest).take (more + 1), ?_, ?_, size_append _ _⟩
  · rw [hsource, List.append_assoc, ← List.drop_succ_cons, List.take_append_drop]
  · rw [List.length_append, List.length_take_of_le (Nat.succ_le_succ hmore)]
    omega

theorem scanFrom?_eq (fuel : Nat) (front rest : List Char) (hsource : source.toList = front ++ rest)
    (hfuel : rest.length < fuel) :
    scanFrom? source fuel (size front) =
      some ((scanFrom source front.length rest).map (List.map (PlacedLexeme.relocated (bytesBefore source)))) := by
  induction fuel generalizing front rest with
  | zero => exact absurd hfuel (Nat.not_lt_zero _)
  | succ fuel ih =>
    have hbyte : (encode source.toList)[size front]? = (encode rest).head? := by
      rw [← List.head?_drop, hsource, drop_encode]
    rw [scanFrom?, hbyte]
    cases rest with
    | nil =>
      rw [encode_nil, scanFrom]
      rfl
    | cons c rest =>
      obtain ⟨byte, hfirst, hblanks, hone⟩ := exists_firstByte source c rest
      rw [hfirst]
      dsimp only
      rw [hblanks]
      by_cases hblank : isAsciiBlank c = true
      · have hsize : size [c] = 1 := size_of_ascii [c] (List.forall_mem_singleton.2 (toNat_lt_of_isAsciiBlank hblank))
        have hothers := ih (front ++ [c]) rest (by rw [hsource, List.append_assoc]; rfl) (Nat.lt_of_succ_lt_succ hfuel)
        rw [size_append, hsize, List.length_append] at hothers
        rw [if_pos hblank, scanFrom_blank hblank, hothers]
        rfl
      · rw [if_neg hblank, scanFrom_lexeme hblank, hsource, from?_size]
        dsimp only [Option.bind_eq_bind, Option.bind_some]
        rw [hone]
        cases hscanned : scanOne source c rest with
        | error fault => rfl
        | ok one =>
          obtain ⟨lexeme, more⟩ := one
          have hmore := (scanOne_isLocal c source rest lexeme more hscanned).1
          obtain ⟨taken, hwhole, hlength, hsize⟩ := exists_behind hsource hmore
          have hshorter : (rest.drop more).length < fuel := by
            rw [List.length_cons] at hfuel
            rw [List.length_drop]
            omega
          have hothers := ih taken _ hwhole hshorter
          have hstart : bytesBefore source front.length = size front := by rw [bytesBefore, hsource, List.take_left]
          have hstop : bytesBefore source (front.length + 1 + more) = size front + size ((c :: rest).take (more + 1)) := by
            rw [bytesBefore, ← hlength, hwhole, List.take_left, hsize]
          rw [hlength, hsize] at hothers
          dsimp only [Except.map, Option.bind_some]
          rw [hothers]
          change _ = some (Except.map _ (scanFrom source (front.length + 1 + more) (rest.drop more) >>= fun others ↦
            .ok (⟨lexeme, front.length, front.length + 1 + more⟩ :: others)))
          cases scanFrom source (front.length + 1 + more) (rest.drop more) with
          | error fault => rfl
          | ok others =>
            rw [← hstop, ← hstart]
            rfl

/-- The lexemes of a markup are found among its bytes, with their places counted in bytes. -/
theorem scan?_eq (source : String) :
    scan? source = some ((scan source).map (List.map (PlacedLexeme.relocated (bytesBefore source)))) := by
  have hwhole := scanFrom?_eq (source.length + 1) [] source.toList rfl (by rw [String.length_toList]; exact Nat.lt_succ_self _)
  rwa [size_nil, List.length_nil] at hwhole

end Liquid.Lexeme
