import BindingCoverage.Json.Decoder
import BindingCoverage.Json.Printer
import BindingCoverage.Proofs.Text.Decimal
import BindingCoverage.Proofs.Text.Utf8

/-!
# Reading the tokens of JSON

What the readers of single tokens make of the octets that the printer writes for them. Only the
octets that are left matter for the result, so lines and columns are not followed.

* `skipBlanks_rest`: blanks are skipped up to the first octet that is none.
* `word_reads`, `stringBody_reads`: words, and strings with their escapes.
* `numberAfterSign_reads`: the digits of a natural of 64 bits, if nothing comes after them that
  would go on the number (`Ends`).
-/

namespace BindingCoverage.Json

/-! ## Cursors -/

theorem skipBlanksFrom_rest (octets : List UInt8) :
    ∀ line column, (skipBlanksFrom line column octets).rest = octets.dropWhile isBlank := by
  induction octets with
  | nil => exact fun _ _ => rfl
  | cons b rest ih =>
    intro line column
    rw [skipBlanksFrom, List.dropWhile_cons]
    split_ifs with hLine hBlank hBlank
    · exact ih _ _
    · rw [beq_iff_eq.mp hLine] at hBlank
      exact absurd rfl hBlank
    · exact ih _ _
    · rfl

namespace Cursor

variable {c : Cursor} {b : UInt8} {more : List UInt8}

theorem skipBlanks_rest (c : Cursor) : c.skipBlanks.rest = c.rest.dropWhile isBlank :=
  skipBlanksFrom_rest c.rest c.line c.column

theorem skipBlanks_rest_of_cons (h : c.rest = b :: more) (hb : isBlank b = false) :
    c.skipBlanks.rest = b :: more := by
  rw [skipBlanks_rest, h, List.dropWhile_cons_of_neg (by rw [hb]; exact Bool.false_ne_true)]

theorem peek_of_cons (h : c.rest = b :: more) : c.peek = some b := by
  rw [peek, h]
  rfl

theorem advance_rest (h : c.rest = b :: more) : c.advance.rest = more := by
  unfold advance
  rw [h]
  dsimp only
  split
  · rfl
  · rfl

theorem skip_rest {octets : List UInt8} (h : c.rest = octets ++ more) :
    (c.skip octets.length).rest = more := by
  rw [skip, h]
  exact List.drop_left

end Cursor

theorem word_reads (octets : List UInt8) {rest : List UInt8} :
    ∀ {c : Cursor}, c.rest = octets ++ rest → ∃ c', word octets c = .ok c' ∧ c'.rest = rest := by
  induction octets with
  | nil => exact fun {c} h => ⟨c, rfl, h⟩
  | cons b more ih =>
    intro c h
    obtain ⟨c', hWord, hRest⟩ := ih (Cursor.advance_rest h)
    refine ⟨c', ?_, hRest⟩
    rw [word, Cursor.peek_of_cons h]
    dsimp only
    rw [if_pos (beq_self_eq_true b), hWord]

/-! ## Strings -/

theorem prepend_prepend (octets octets' : List UInt8) (r : Except Error (List UInt8 × Cursor)) :
    prepend octets (prepend octets' r) = prepend (octets ++ octets') r := by
  cases r with
  | error e => rfl
  | ok result =>
    unfold prepend
    simp only [Except.map, List.append_assoc]

/-- An octet of a string that stands for itself. -/
def IsPlain (b : UInt8) : Prop := b ≠ 0x22 ∧ b ≠ 0x5C ∧ ¬ b < 0x20

theorem stringFrom_plain {octets : List UInt8} (h : ∀ b ∈ octets, IsPlain b) (line : Nat)
    (rest : List UInt8) : ∀ column, stringFrom line column (octets ++ rest) =
      prepend octets (stringFrom line (column + octets.length) rest) := by
  induction octets with
  | nil =>
    intro column
    change _ = Except.map id _
    rw [Except.map_id]
    rfl
  | cons b more ih =>
    intro column
    obtain ⟨hQuote, hBackslash, hControl⟩ := h b List.mem_cons_self
    rw [List.cons_append, stringFrom.eq_def]
    simp only [beq_iff_eq, if_neg hQuote, if_neg hBackslash, if_neg hControl]
    rw [ih (fun b' hb' => h b' (List.mem_cons_of_mem b hb')), prepend_prepend, List.length_cons,
      Nat.add_assoc, Nat.add_comm 1]
    rfl

/-- The octets of a character are plain if the character is. -/
theorem isPlain_of_mem_encodeChar {c : Char} (hQuote : c ≠ '"') (hBackslash : c ≠ '\\')
    (hControl : ¬ c.toNat < 0x20) {b : UInt8} (hb : b ∈ String.utf8EncodeChar c) : IsPlain b := by
  by_cases hLow : b.toNat < 0x80
  · have hc := Utf8.mem_encodeChar_of_lt hb hLow
    refine ⟨?_, ?_, ?_⟩
    · rintro rfl
      exact hQuote hc
    · rintro rfl
      exact hBackslash hc
    · intro hLess
      rw [UInt8.lt_iff_toNat_lt] at hLess
      refine hControl ?_
      have hLess : b.toNat < 0x20 := hLess
      have hValid : b.toNat.isValidChar := .inl (by omega)
      rw [hc, Char.ofNat, dif_pos hValid]
      exact hLess
  · refine ⟨?_, ?_, ?_⟩
    · rintro rfl
      exact hLow (by decide)
    · rintro rfl
      exact hLow (by decide)
    · intro hLess
      rw [UInt8.lt_iff_toNat_lt] at hLess
      have hLess : b.toNat < 0x20 := hLess
      omega

/-- The octet of a hexadecimal digit. -/
def hexOctet (n : Nat) : UInt8 := UInt8.ofNat (hexDigit n).toNat

theorem hexUnit?_control : ∀ n < 0x20,
    ['\\', 'u', '0', '0', hexDigit (n / 16), hexDigit (n % 16)].flatMap String.utf8EncodeChar =
        [0x5C, 0x75, 0x30, 0x30, hexOctet (n / 16), hexOctet (n % 16)] ∧
      hexUnit? 0x30 0x30 (hexOctet (n / 16)) (hexOctet (n % 16)) = some n ∧
      isTailSurrogate n = false ∧ isLeadSurrogate n = false := by decide

/-- A control character that has no letter of its own is written with its number. -/
theorem stringFrom_control {n : Nat} (hn : n < 0x20) (line column : Nat) (rest : List UInt8) :
    stringFrom line column (['\\', 'u', '0', '0', hexDigit (n / 16), hexDigit (n % 16)].flatMap
        String.utf8EncodeChar ++ rest) =
      prepend (String.utf8EncodeChar (Char.ofNat n)) (stringFrom line (column + 6) rest) := by
  obtain ⟨hOctets, hUnit, hTail, hLead⟩ := hexUnit?_control n hn
  rw [hOctets, stringFrom.eq_def]
  simp only [List.cons_append, List.nil_append, hUnit, hTail, hLead]
  rfl

/-- What the printer writes for a character is read as that character. -/
theorem stringFrom_escape (c : Char) (line column : Nat) (rest : List UInt8) :
    ∃ column', stringFrom line column ((escape c).flatMap String.utf8EncodeChar ++ rest) =
      prepend (String.utf8EncodeChar c) (stringFrom line column' rest) := by
  unfold escape
  split_ifs with hQuote hBackslash hBackspace hFeed hLine hReturn hTab hControl
  · exact ⟨column + 2, by rw [hQuote, stringFrom.eq_def]; rfl⟩
  · exact ⟨column + 2, by rw [hBackslash, stringFrom.eq_def]; rfl⟩
  · exact ⟨column + 2, by rw [hBackspace, stringFrom.eq_def]; rfl⟩
  · exact ⟨column + 2, by rw [hFeed, stringFrom.eq_def]; rfl⟩
  · exact ⟨column + 2, by rw [hLine, stringFrom.eq_def]; rfl⟩
  · exact ⟨column + 2, by rw [hReturn, stringFrom.eq_def]; rfl⟩
  · exact ⟨column + 2, by rw [hTab, stringFrom.eq_def]; rfl⟩
  · refine ⟨column + 6, ?_⟩
    rw [stringFrom_control hControl, Char.ofNat_toNat]
  · rw [List.flatMap_singleton]
    exact ⟨_, stringFrom_plain
      (fun b hb => isPlain_of_mem_encodeChar hQuote hBackslash hControl hb) line rest column⟩

theorem stringFrom_escapes (line : Nat) (rest : List UInt8) (cs : List Char) :
    ∀ column, ∃ column',
      stringFrom line column ((cs.flatMap escape).flatMap String.utf8EncodeChar ++ 0x22 :: rest) =
        .ok (cs.flatMap String.utf8EncodeChar, ⟨rest, line, column'⟩) := by
  induction cs with
  | nil =>
    intro column
    exact ⟨column + 1, by rw [stringFrom.eq_def]; rfl⟩
  | cons c cs ih =>
    intro column
    obtain ⟨middle, hFirst⟩ := stringFrom_escape c line column
      ((cs.flatMap escape).flatMap String.utf8EncodeChar ++ 0x22 :: rest)
    obtain ⟨column', hRest⟩ := ih middle
    refine ⟨column', ?_⟩
    rw [List.flatMap_cons, List.flatMap_append, List.append_assoc, hFirst, hRest]
    rfl

theorem encode_quoted (s : String) : Utf8.encode (quoted s) =
    0x22 :: ((s.toList.flatMap escape).flatMap String.utf8EncodeChar ++ [0x22]) := by
  rw [Utf8.encode_eq, quoted, String.toList_ofList, List.cons_append, List.flatMap_cons,
    List.flatMap_append]
  rfl

theorem stringBody_reads {c : Cursor} {s : String} {rest : List UInt8}
    (h : c.rest = Utf8.encode (quoted s) ++ rest) :
    ∃ c', stringBody c.advance = .ok (s, c') ∧ c'.rest = rest := by
  have hInside : c.advance.rest =
      (s.toList.flatMap escape).flatMap String.utf8EncodeChar ++ 0x22 :: rest := by
    refine Cursor.advance_rest (b := 0x22) ?_
    rw [h, encode_quoted, List.cons_append, List.append_assoc]
    rfl
  obtain ⟨column, hOctets⟩ := stringFrom_escapes c.advance.line rest s.toList c.advance.column
  refine ⟨⟨rest, c.advance.line, column⟩, ?_, rfl⟩
  rw [stringBody, hInside, hOctets, ← Utf8.encode_eq]
  simp only [bind, Except.bind, Utf8.decode_encode]
  rfl

/-! ## Numbers -/

/-- What comes after a value does not go on a number. -/
def Ends (rest : List UInt8) : Prop :=
  ∀ b more, rest = b :: more → isDigit b = false ∧ b ≠ 0x2E ∧ b ≠ 0x65 ∧ b ≠ 0x45

theorem absorb_of_le {n : Nat} (h : n ≤ greatestNatural) (digits : List Nat) :
    ∀ start, digits.foldl (fun n d => n * 10 + d) start = n → absorb start digits = (n, []) := by
  have hLe (digits : List Nat) : ∀ start, start ≤ digits.foldl (fun n d => n * 10 + d) start := by
    induction digits with
    | nil => exact fun start => le_refl start
    | cons d rest ih => exact fun start => le_trans (by omega) (ih (start * 10 + d))
  induction digits with
  | nil => exact fun start hn => hn ▸ rfl
  | cons d rest ih =>
    intro start hn
    have hFits : start * 10 + d ≤ greatestNatural := le_trans (hLe rest _) (le_trans hn.le h)
    rw [absorb, if_pos hFits, ih _ hn]

/-- The decimal digits of a number, as octets. -/
def decimal (n : Nat) : List UInt8 := (Nat.toDigits 10 n).map fun c => UInt8.ofNat c.toNat

theorem toNat_of_isDigit {c : Char} (h : c.isDigit = true) :
    (UInt8.ofNat c.toNat).toNat = c.toNat ∧ 0x30 ≤ c.toNat ∧ c.toNat ≤ 0x39 := by
  simp only [Char.isDigit, Bool.and_eq_true, decide_eq_true_eq, UInt32.le_iff_toNat_le] at h
  have hBounds : 0x30 ≤ c.toNat ∧ c.toNat ≤ 0x39 := h
  exact ⟨UInt8.toNat_ofNat_of_lt' (by change c.toNat < 256; omega), hBounds⟩

theorem encode_toString (n : Nat) : Utf8.encode (toString n) = decimal n := by
  rw [Utf8.encode_eq, Nat.toString_eq_ofList_toDigits, String.toList_ofList, decimal,
    List.map_eq_flatMap]
  refine List.flatMap_congr fun c hc => ?_
  have hDigit := Nat.isDigit_of_mem_toDigits (by decide) (by decide) hc
  obtain ⟨-, -, hGreatest⟩ := toNat_of_isDigit hDigit
  have hShort : c.val.toNat ≤ 0x7F := le_trans hGreatest (by decide)
  unfold String.utf8EncodeChar
  dsimp only
  rw [if_pos hShort]
  rfl

theorem isDigit_of_mem_decimal {n : Nat} {b : UInt8} (hb : b ∈ decimal n) : isDigit b = true := by
  obtain ⟨c, hc, rfl⟩ := List.mem_map.mp hb
  obtain ⟨hValue, hLeast, hGreatest⟩ :=
    toNat_of_isDigit (Nat.isDigit_of_mem_toDigits (by decide) (by decide) hc)
  simp only [isDigit, Bool.and_eq_true, decide_eq_true_eq, UInt8.le_iff_toNat_le, hValue]
  exact ⟨hLeast, hGreatest⟩

theorem decimal_ne_nil (n : Nat) : decimal n ≠ [] :=
  fun h => Nat.toDigits_ne_nil (List.map_eq_nil_iff.mp h)

theorem absorb_decimal {n : Nat} (h : n ≤ greatestNatural) :
    absorb 0 ((decimal n).map fun b => b.toNat - 0x30) = (n, []) := by
  refine absorb_of_le h _ 0 ?_
  rw [decimal, List.map_map, List.foldl_map]
  calc (Nat.toDigits 10 n).foldl
        (fun m c => m * 10 + ((UInt8.ofNat c.toNat).toNat - 0x30)) 0
      = Text.digitsValue (Nat.toDigits 10 n) := by
        refine List.foldl_ext _ _ 0 fun m c hc => ?_
        have hDigit := Nat.isDigit_of_mem_toDigits (by decide) (by decide) hc
        rw [(toNat_of_isDigit hDigit).1]
        rfl
    _ = n := by rw [Text.digitsValue_eq, Nat.ofDigitChars_ten_toDigits]

/-- Only zero is written with a zero at its beginning. -/
theorem toDigits_ne_zero_cons {n : Nat} (h : 0 < n) (more : List Char) :
    Nat.toDigits 10 n ≠ '0' :: more := by
  induction n using Nat.strongRecOn generalizing more with
  | _ n ih =>
    by_cases hShort : n < 10
    · rw [Nat.toDigits_of_lt_base hShort]
      have hDigit : ∀ d < 10, 0 < d → d.digitChar ≠ '0' := by decide
      exact fun hEq => hDigit n hShort h (List.cons.inj hEq).1
    · rw [Nat.toDigits_of_base_le (by decide) (by omega)]
      cases hDigits : Nat.toDigits 10 (n / 10) with
      | nil => exact absurd hDigits Nat.toDigits_ne_nil
      | cons c rest =>
        intro hEq
        obtain ⟨rfl, -⟩ := List.cons.inj hEq
        exact ih (n / 10) (by omega) (by omega) rest hDigits

theorem decimal_zero_cons {n : Nat} {more : List UInt8} (h : decimal n = 0x30 :: more) :
    more = [] := by
  rcases Nat.eq_zero_or_pos n with rfl | hn
  · cases h
    rfl
  · cases hDigits : Nat.toDigits 10 n with
    | nil => exact absurd hDigits Nat.toDigits_ne_nil
    | cons c rest =>
      have hDigit : c.isDigit = true :=
        Nat.isDigit_of_mem_toDigits (by decide) (by decide) (hDigits ▸ List.mem_cons_self)
      rw [decimal, hDigits, List.map_cons] at h
      have hValue : c.toNat = 0x30 := by
        rw [← (toNat_of_isDigit hDigit).1, (List.cons.inj h).1]
        rfl
      have hZero : c = '0' := Char.toNat_inj.mp hValue
      exact absurd (hZero ▸ hDigits) (toDigits_ne_zero_cons hn rest)

theorem takeWhile_decimal {rest : List UInt8} (hEnds : Ends rest) (n : Nat) :
    (decimal n ++ rest).takeWhile isDigit = decimal n := by
  rw [List.takeWhile_append_of_pos fun b hb => isDigit_of_mem_decimal hb]
  cases rest with
  | nil => exact List.append_nil _
  | cons b more =>
    rw [List.takeWhile_cons_of_neg (by rw [(hEnds b more rfl).1]; exact Bool.false_ne_true),
      List.append_nil]

theorem Cursor.rest_of_peek {c : Cursor} {b : UInt8} (h : c.peek = some b) :
    c.rest = b :: c.rest.tail :=
  List.eq_cons_of_mem_head? h

theorem numberAfterSign_reads {c : Cursor} {n : Nat} {rest : List UInt8}
    (hn : n ≤ greatestNatural) (h : c.rest = decimal n ++ rest) (hEnds : Ends rest) :
    ∃ c', numberAfterSign true c = .ok (.natural n, c') ∧ c'.rest = rest := by
  have hDigits : c.digits = (decimal n).map fun b => b.toNat - 0x30 := by
    rw [Cursor.digits, h, takeWhile_decimal hEnds]
  have hLength : c.digits.length = (decimal n).length := by rw [hDigits, List.length_map]
  have hAfter : (c.skip (decimal n).length).rest = rest := Cursor.skip_rest h
  refine ⟨c.skip (decimal n).length, ?_, hAfter⟩
  cases hDecimal : decimal n with
  | nil => exact absurd hDecimal (decimal_ne_nil n)
  | cons b more =>
    have hPeek : c.peek = some b := by
      rw [hDecimal, List.cons_append] at h
      exact Cursor.peek_of_cons h
    have hIsDigit : isDigit b = true :=
      isDigit_of_mem_decimal (hDecimal ▸ List.mem_cons_self)
    have hLeading : (b == 0x30 && decide (1 < c.digits.length)) = false := by
      rw [hLength, hDecimal]
      by_cases hZero : b = 0x30
      · rw [hZero] at hDecimal
        rw [decimal_zero_cons hDecimal, hZero]
        rfl
      · rw [beq_false_of_ne hZero]
        rfl
    unfold numberAfterSign
    rw [hPeek]
    dsimp only
    rw [hIsDigit, hLeading, hDigits, absorb_decimal hn, List.length_map, ← hDecimal]
    rw [if_neg (by decide), if_neg (by decide)]
    split
    · next hPoint => exact absurd rfl (hEnds _ _ (hAfter ▸ Cursor.rest_of_peek hPoint)).2.1
    · next hExponent => exact absurd rfl (hEnds _ _ (hAfter ▸ Cursor.rest_of_peek hExponent)).2.2.1
    · next hExponent => exact absurd rfl (hEnds _ _ (hAfter ▸ Cursor.rest_of_peek hExponent)).2.2.2
    · rfl

end BindingCoverage.Json
