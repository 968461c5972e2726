import Reconciliation.Text.Utf8

/-! # Texts survive their bytes

What is written as UTF-8 is read back as it was (`decodeLossy_encode`). The other way round does not hold of
all bytes, because every piece that encodes nothing is read as the same character. But it is only through this
character that bytes get lost: bytes that are read without it are written as they were
(`encode_decodeLossy`).

Both directions go through the pieces of one to four bytes that encode a character (`Forms`). Every character
is written as such a piece, such a piece is read as the character of its code, and the reader gives anything
but a replacement only for such a piece.
-/

namespace Reconciliation.Text.Utf8

theorem isContinuation_iff {byte : UInt8} :
    isContinuation byte = true ↔ 0x80 ≤ byte.toNat ∧ byte.toNat < 0xC0 := by
  simp only [isContinuation, Bool.and_eq_true, decide_eq_true_eq, UInt8.le_iff_toNat_le, UInt8.reduceToNat]
  omega

theorem admitsSecond_iff {first second : UInt8} :
    admitsSecond first second = true ↔
      isContinuation second = true ∧ (first.toNat = 0xE0 → 0xA0 ≤ second.toNat) ∧
        (first.toNat = 0xED → second.toNat < 0xA0) ∧ (first.toNat = 0xF0 → 0x90 ≤ second.toNat) ∧
        (first.toNat = 0xF4 → second.toNat < 0x90) := by
  have within (low high : UInt8) : (decide (low ≤ second) && decide (second ≤ high)) = true ↔
      low.toNat ≤ second.toNat ∧ second.toNat ≤ high.toNat := by
    simp only [Bool.and_eq_true, decide_eq_true_eq, UInt8.le_iff_toNat_le]
  simp only [admitsSecond, isContinuation_iff, ← UInt8.toNat_inj, UInt8.reduceToNat]
  split
  · simp only [within, UInt8.reduceToNat]
    omega
  split
  · simp only [within, UInt8.reduceToNat]
    omega
  split
  · simp only [within, UInt8.reduceToNat]
    omega
  split
  · simp only [within, UInt8.reduceToNat]
    omega
  · rw [isContinuation_iff]
    omega

theorem toNat_of_isContinuation {byte : UInt8} (follows : isContinuation byte = true) :
    byte.toNat = 0x80 + payload byte ∧ payload byte < 0x40 := by
  have bounds := isContinuation_iff.mp follows
  have low : payload byte = byte.toNat % 64 := rfl
  omega

/-- The byte that carries the six low bits of a number inside an encoded character. -/
def continuation (code : Nat) : UInt8 := .ofNat (code % 64 + 0x80)

theorem toNat_continuation (code : Nat) : (continuation code).toNat = code % 64 + 0x80 := by
  rw [continuation, UInt8.toNat_ofNat']
  omega

theorem payload_continuation (code : Nat) : payload (continuation code) = code % 64 := by
  rw [payload, toNat_continuation]
  omega

theorem isContinuation_continuation (code : Nat) : isContinuation (continuation code) = true := by
  rw [isContinuation_iff, toNat_continuation]
  omega

/-- The pieces of bytes that encode a character, and the codes of these. -/
inductive Forms : List UInt8 → Nat → Prop
  | one {first : UInt8} (ascii : first.toNat < 0x80) : Forms [first] first.toNat
  | two {first second : UInt8} (low : 0xC2 ≤ first.toNat) (high : first.toNat < 0xE0)
      (follows : isContinuation second = true) :
      Forms [first, second] (first.toNat % 32 * 64 + payload second)
  | three {first second third : UInt8} (low : 0xE0 ≤ first.toNat) (high : first.toNat < 0xF0)
      (admitted : admitsSecond first second = true) (follows : isContinuation third = true) :
      Forms [first, second, third] ((first.toNat % 16 * 64 + payload second) * 64 + payload third)
  | four {first second third fourth : UInt8} (low : 0xF0 ≤ first.toNat) (high : first.toNat < 0xF5)
      (admitted : admitsSecond first second = true) (follows : isContinuation third = true)
      (ends : isContinuation fourth = true) :
      Forms [first, second, third, fourth]
        (((first.toNat % 8 * 64 + payload second) * 64 + payload third) * 64 + payload fourth)

namespace Forms

variable {piece : List UInt8} {code : Nat}

/-- The limits on the second byte rule out the surrogates and what lies above the last character. -/
theorem isValidChar (forms : Forms piece code) : code.isValidChar := by
  rw [Nat.isValidChar]
  cases forms with
  | one ascii => omega
  | two low high follows =>
    have last := toNat_of_isContinuation follows
    omega
  | three low high admitted follows =>
    have limits := admitsSecond_iff.mp admitted
    have middle := toNat_of_isContinuation limits.1
    have last := toNat_of_isContinuation follows
    omega
  | four low high admitted follows ends =>
    have limits := admitsSecond_iff.mp admitted
    have middle := toNat_of_isContinuation limits.1
    have later := toNat_of_isContinuation follows
    have last := toNat_of_isContinuation ends
    omega

/-- No character has two forms: it is written as the piece that encodes it. They also rule out forms that are
longer than needed. -/
theorem encodeChar_eq (forms : Forms piece code) : String.utf8EncodeChar (Char.ofNat code) = piece := by
  have same : (Char.ofNat code).val.toNat = code := by
    rw [Char.ofNat, dif_pos forms.isValidChar]
    rfl
  have byte {value : Nat} {byte : UInt8} (equal : value = byte.toNat) : UInt8.ofNat value = byte :=
    equal ▸ UInt8.ofNat_toNat
  rw [String.utf8EncodeChar, same]
  cases forms with
  | one ascii => rw [if_pos (by omega), byte rfl]
  | two low high follows =>
    have last := toNat_of_isContinuation follows
    rw [if_neg (by omega), if_pos (by omega)]
    simp only [List.cons.injEq, and_true]
    exact ⟨byte (by omega), byte (by omega)⟩
  | three low high admitted follows =>
    have limits := admitsSecond_iff.mp admitted
    have middle := toNat_of_isContinuation limits.1
    have last := toNat_of_isContinuation follows
    rw [if_neg (by omega), if_neg (by omega), if_pos (by omega)]
    simp only [List.cons.injEq, and_true]
    exact ⟨byte (by omega), byte (by omega), byte (by omega)⟩
  | four low high admitted follows ends =>
    have limits := admitsSecond_iff.mp admitted
    have middle := toNat_of_isContinuation limits.1
    have later := toNat_of_isContinuation follows
    have last := toNat_of_isContinuation ends
    rw [if_neg (by omega), if_neg (by omega), if_neg (by omega)]
    simp only [List.cons.injEq, and_true]
    exact ⟨byte (by omega), byte (by omega), byte (by omega), byte (by omega)⟩

/-- Such a piece is read as the character of its code, whatever follows. -/
theorem decodeChars_append (forms : Forms piece code) (rest : List UInt8) :
    decodeChars (piece ++ rest) = Char.ofNat code :: decodeChars rest := by
  have below {byte bound : UInt8} : byte < bound ↔ byte.toNat < bound.toNat := UInt8.lt_iff_toNat_lt
  cases forms with
  | one ascii =>
    rw [List.singleton_append, decodeChars.eq_def]
    exact if_pos (below.mpr ascii)
  | @two first second low high follows =>
    have long : ¬ first.toNat < 0x80 := by omega
    have leads : ¬ (first.toNat < 0xC2 ∨ 0xF4 < first.toNat) := by omega
    simp only [List.cons_append, List.nil_append]
    rw [decodeChars.eq_def]
    simp [below, long, leads, high, follows]
  | @three first second third low high admitted follows =>
    have long : ¬ first.toNat < 0x80 := by omega
    have leads : ¬ (first.toNat < 0xC2 ∨ 0xF4 < first.toNat) := by omega
    have longer : ¬ first.toNat < 0xE0 := by omega
    simp only [List.cons_append, List.nil_append]
    rw [decodeChars.eq_def]
    simp [below, long, leads, longer, high, admitted, follows]
  | @four first second third fourth low high admitted follows ends =>
    have long : ¬ first.toNat < 0x80 := by omega
    have leads : ¬ (first.toNat < 0xC2 ∨ 0xF4 < first.toNat) := by omega
    have longer : ¬ first.toNat < 0xE0 := by omega
    have longest : ¬ first.toNat < 0xF0 := by omega
    simp only [List.cons_append, List.nil_append]
    rw [decodeChars.eq_def]
    simp [below, long, leads, longer, longest, admitted, follows, ends]

end Forms

/-- Every character is written as a piece that encodes it. -/
theorem forms_encodeChar (char : Char) : Forms (String.utf8EncodeChar char) char.toNat := by
  have scalar : char.toNat < 0xD800 ∨ (0xDFFF < char.toNat ∧ char.toNat < 0x110000) := char.valid
  change Forms (if char.toNat ≤ 0x7F then [.ofNat char.toNat]
    else if char.toNat ≤ 0x7FF then [.ofNat (char.toNat / 64 % 32 + 0xC0), continuation char.toNat]
    else if char.toNat ≤ 0xFFFF then
      [.ofNat (char.toNat / 4096 % 16 + 0xE0), continuation (char.toNat / 64), continuation char.toNat]
    else [.ofNat (char.toNat / 262144 % 8 + 0xF0), continuation (char.toNat / 4096),
      continuation (char.toNat / 64), continuation char.toNat]) char.toNat
  generalize char.toNat = code at scalar
  split
  · have first : (UInt8.ofNat code).toNat = code := by
      rw [UInt8.toNat_ofNat']
      omega
    have form := @Forms.one (.ofNat code) (by omega)
    rwa [first] at form
  split
  · have first : (UInt8.ofNat (code / 64 % 32 + 0xC0)).toNat = code / 64 + 0xC0 := by
      rw [UInt8.toNat_ofNat']
      omega
    have sum : (code / 64 + 0xC0) % 32 * 64 + code % 64 = code := by omega
    have form := @Forms.two (.ofNat (code / 64 % 32 + 0xC0)) _ (by omega) (by omega)
      (isContinuation_continuation code)
    rwa [payload_continuation, first, sum] at form
  split
  · have first : (UInt8.ofNat (code / 4096 % 16 + 0xE0)).toNat = code / 4096 + 0xE0 := by
      rw [UInt8.toNat_ofNat']
      omega
    have second := toNat_continuation (code / 64)
    have admitted :
        admitsSecond (.ofNat (code / 4096 % 16 + 0xE0)) (continuation (code / 64)) = true := by
      refine admitsSecond_iff.mpr ⟨isContinuation_continuation _, ?_⟩
      omega
    have sum : ((code / 4096 + 0xE0) % 16 * 64 + code / 64 % 64) * 64 + code % 64 = code := by omega
    have form := Forms.three (by omega) (by omega) admitted (isContinuation_continuation code)
    rwa [payload_continuation, payload_continuation, first, sum] at form
  · have first : (UInt8.ofNat (code / 262144 % 8 + 0xF0)).toNat = code / 262144 + 0xF0 := by
      rw [UInt8.toNat_ofNat']
      omega
    have second := toNat_continuation (code / 4096)
    have admitted :
        admitsSecond (.ofNat (code / 262144 % 8 + 0xF0)) (continuation (code / 4096)) = true := by
      refine admitsSecond_iff.mpr ⟨isContinuation_continuation _, ?_⟩
      omega
    have sum : (((code / 262144 + 0xF0) % 8 * 64 + code / 4096 % 64) * 64 + code / 64 % 64) * 64 +
        code % 64 = code := by omega
    have form := Forms.four (by omega) (by omega) admitted (isContinuation_continuation (code / 64))
      (isContinuation_continuation code)
    rwa [payload_continuation, payload_continuation, payload_continuation, first, sum] at form

/-- What is written is read back. -/
theorem decodeLossy_encode (text : String) : decodeLossy (encode text) = text := by
  have chars (list : List Char) : decodeChars (list.flatMap String.utf8EncodeChar) = list := by
    induction list with
    | nil => rfl
    | cons char rest ih =>
      rw [List.flatMap_cons, (forms_encodeChar char).decodeChars_append, ih, Char.ofNat_toNat]
  rw [decodeLossy, encode, chars, String.ofList_toList]

/-- Where the reader gives no replacement, it has read a piece that encodes a character. -/
theorem flatMap_encodeChar_decodeChars {bytes : List UInt8} (clean : replacement ∉ decodeChars bytes) :
    (decodeChars bytes).flatMap String.utf8EncodeChar = bytes := by
  have step {piece rest : List UInt8} {code : Nat} (forms : Forms piece code)
      (ih : replacement ∉ decodeChars rest → (decodeChars rest).flatMap String.utf8EncodeChar = rest)
      (clean : replacement ∉ Char.ofNat code :: decodeChars rest) :
      (Char.ofNat code :: decodeChars rest).flatMap String.utf8EncodeChar = piece ++ rest := by
    rw [List.flatMap_cons, forms.encodeChar_eq, ih fun later => clean (List.mem_cons_of_mem _ later)]
  have less {byte bound : UInt8} (small : byte < bound) : byte.toNat < bound.toNat :=
    UInt8.lt_iff_toNat_lt.mp small
  have atLeast {byte bound : UInt8} (large : ¬ byte < bound) : bound.toNat ≤ byte.toNat :=
    Nat.le_of_not_lt fun small => large (UInt8.lt_iff_toNat_lt.mpr small)
  fun_induction decodeChars bytes with
  | case1 => rfl
  | case2 first rest ascii ih => exact step (.one (less ascii)) ih clean
  | case5 first _ leads second rest high follows ih =>
    have low : ¬ first < 0xC2 := fun small => leads (by simp [small])
    exact step (.two (atLeast low) (less high) follows) ih clean
  | case10 first _ leads second low admitted third rest follows high ih =>
    have admitted : admitsSecond first second = true := by simpa using admitted
    have follows : isContinuation third = true := by simpa using follows
    exact step (.three (atLeast low) (less high) admitted follows) ih clean
  | case13 first _ leads second _ admitted third follows low fourth rest ends ih =>
    have high : ¬ 0xF4 < first := fun large => leads (by simp [large])
    have admitted : admitsSecond first second = true := by simpa using admitted
    have follows : isContinuation third = true := by simpa using follows
    have ends : isContinuation fourth = true := by simpa using ends
    exact step (.four (atLeast low) (Nat.lt_succ_of_le (atLeast high)) admitted follows ends) ih clean
  | case3 | case4 | case6 | case7 | case8 | case9 | case11 | case12 =>
    exact absurd List.mem_cons_self clean

/-- Bytes that are read without a replacement are written as they were. -/
theorem encode_decodeLossy {bytes : List UInt8} (clean : replacement ∉ (decodeLossy bytes).toList) :
    encode (decodeLossy bytes) = bytes := by
  rw [decodeLossy, String.toList_ofList] at clean
  rw [encode, decodeLossy, String.toList_ofList, flatMap_encodeChar_decodeChars clean]

/-- The bytes are those of some text. -/
def IsText (bytes : List UInt8) : Prop := ∃ text, encode text = bytes

/-- Bytes are those of a text exactly if they are those of the text as which they are read. -/
theorem isText_iff {bytes : List UInt8} : IsText bytes ↔ encode (decodeLossy bytes) = bytes := by
  constructor
  · rintro ⟨text, rfl⟩
    rw [decodeLossy_encode]
  · exact fun same => ⟨_, same⟩

end Reconciliation.Text.Utf8
