/-!
# Reading UTF-8

A strict reader of UTF-8 text that says where and why it stops: at a byte that starts no character,
at a byte that cannot continue the character begun before it, or at the end of the data in the
middle of a character. Over-long forms, surrogates and code points above U+10FFFF are refused at
the first byte that shows them.
-/

namespace ActivityReport.Text.Utf8

/-- Why a byte sequence is not UTF-8. -/
inductive Cause where
  | invalidStart
  | invalidContinuation
  | unexpectedEnd
  deriving Repr, DecidableEq

/-- A refused byte sequence: its first byte, its place, and how many bytes it spans. -/
structure Fault where
  cause : Cause
  byte : UInt8
  offset : Nat
  width : Nat
  deriving Repr, DecidableEq

/-- Whether a byte may continue a character. -/
def isContinuation (b : UInt8) : Bool := 0x80 ≤ b && b ≤ 0xBF

/-- The six payload bits of a continuation byte. -/
def payload (b : UInt8) : Nat := b.toNat % 64

/-- The second bytes allowed after a first byte of a three- or four-byte character. -/
def allowsSecond (b second : UInt8) : Bool :=
  isContinuation second &&
  !(b == 0xE0 && second < 0xA0) && !(b == 0xED && second ≥ 0xA0) &&
  !(b == 0xF0 && second < 0x90) && !(b == 0xF4 && second ≥ 0x90)

/-- Reads bytes from `offset` on as characters. -/
def decodeFrom (offset : Nat) : List UInt8 → Except Fault (List Char)
  | [] => .ok []
  | b :: rest =>
    if b < 0x80 then (Char.ofNat b.toNat :: ·) <$> decodeFrom (offset + 1) rest
    else if b < 0xC2 || b > 0xF4 then .error ⟨.invalidStart, b, offset, 1⟩
    else
      match rest with
      | [] => .error ⟨.unexpectedEnd, b, offset, 1⟩
      | b1 :: rest1 =>
        if !allowsSecond b b1 then .error ⟨.invalidContinuation, b, offset, 1⟩
        else if b < 0xE0 then
          (Char.ofNat ((b.toNat % 32) * 64 + payload b1) :: ·) <$> decodeFrom (offset + 2) rest1
        else
          match rest1 with
          | [] => .error ⟨.unexpectedEnd, b, offset, 2⟩
          | b2 :: rest2 =>
            if !isContinuation b2 then .error ⟨.invalidContinuation, b, offset, 2⟩
            else if b < 0xF0 then
              (Char.ofNat (((b.toNat % 16) * 64 + payload b1) * 64 + payload b2) :: ·) <$>
                decodeFrom (offset + 3) rest2
            else
              match rest2 with
              | [] => .error ⟨.unexpectedEnd, b, offset, 3⟩
              | b3 :: rest3 =>
                if !isContinuation b3 then .error ⟨.invalidContinuation, b, offset, 3⟩
                else
                  (Char.ofNat ((((b.toNat % 8) * 64 + payload b1) * 64 + payload b2) * 64 +
                    payload b3) :: ·) <$> decodeFrom (offset + 4) rest3

/-- The characters that a byte sequence spells. -/
def decode (bytes : List UInt8) : Except Fault (List Char) := decodeFrom 0 bytes

/-- A byte in hexadecimal, two digits. -/
def hexByte (b : UInt8) : String :=
  String.ofList [Nat.digitChar (b.toNat / 16), Nat.digitChar (b.toNat % 16)]

/-- The cause in words. -/
def Cause.message : Cause → String
  | .invalidStart => "invalid start byte"
  | .invalidContinuation => "invalid continuation byte"
  | .unexpectedEnd => "unexpected end of data"

/-- The fault in words: the byte when it stands alone, else the span. -/
def Fault.message (f : Fault) : String :=
  if f.width = 1 then
    s!"'utf-8' codec can't decode byte 0x{hexByte f.byte} in position {f.offset}: {f.cause.message}"
  else
    s!"'utf-8' codec can't decode bytes in position {f.offset}-{f.offset + f.width - 1}: {f.cause.message}"

end ActivityReport.Text.Utf8
