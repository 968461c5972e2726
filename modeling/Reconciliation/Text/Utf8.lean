/-! # Bytes as text

`encode` is the UTF-8 form of a text. `decodeLossy` reads bytes as UTF-8 and never fails: each
longest piece that starts like an encoded character and does not go on like one, and each byte that
starts none, becomes one replacement character.
-/

namespace Reconciliation.Text.Utf8

/-- The UTF-8 form of a text. -/
def encode (text : String) : List UInt8 :=
  text.toList.flatMap String.utf8EncodeChar

/-- The character that stands for bytes that encode none. -/
def replacement : Char := '\uFFFD'

/-- Whether `byte` can follow inside an encoded character. -/
def isContinuation (byte : UInt8) : Bool := 0x80 ≤ byte && byte ≤ 0xBF

/-- Whether `second` can follow `first` in an encoded character of three or four bytes. The limits
rule out a form longer than needed, the surrogates, and what lies above the last character. -/
def admitsSecond (first second : UInt8) : Bool :=
  if first = 0xE0 then 0xA0 ≤ second && second ≤ 0xBF
  else if first = 0xED then 0x80 ≤ second && second ≤ 0x9F
  else if first = 0xF0 then 0x90 ≤ second && second ≤ 0xBF
  else if first = 0xF4 then 0x80 ≤ second && second ≤ 0x8F
  else isContinuation second

/-- The six low bits of a byte that follows inside a character. -/
def payload (byte : UInt8) : Nat := byte.toNat % 64

/-- The characters that the bytes encode, with replacements for the pieces that encode none. -/
def decodeChars : List UInt8 → List Char
  | [] => []
  | first :: rest =>
      if first < 0x80 then Char.ofNat first.toNat :: decodeChars rest
      else if first < 0xC2 || 0xF4 < first then replacement :: decodeChars rest
      else
        match rest with
        | [] => [replacement]
        | second :: rest₂ =>
            if first < 0xE0 then
              if isContinuation second then
                Char.ofNat (first.toNat % 32 * 64 + payload second) :: decodeChars rest₂
              else replacement :: decodeChars (second :: rest₂)
            else if !admitsSecond first second then replacement :: decodeChars (second :: rest₂)
            else
              match rest₂ with
              | [] => [replacement]
              | third :: rest₃ =>
                  if !isContinuation third then replacement :: decodeChars (third :: rest₃)
                  else if first < 0xF0 then
                    Char.ofNat ((first.toNat % 16 * 64 + payload second) * 64 + payload third) ::
                      decodeChars rest₃
                  else
                    match rest₃ with
                    | [] => [replacement]
                    | fourth :: rest₄ =>
                        if !isContinuation fourth then replacement :: decodeChars (fourth :: rest₄)
                        else
                          Char.ofNat (((first.toNat % 8 * 64 + payload second) * 64 + payload third) * 64 +
                            payload fourth) :: decodeChars rest₄

/-- The text that the bytes encode, with replacements for the pieces that encode none. -/
def decodeLossy (bytes : List UInt8) : String := String.ofList (decodeChars bytes)

end Reconciliation.Text.Utf8
