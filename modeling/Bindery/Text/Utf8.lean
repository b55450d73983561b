import Bindery.Text.Quoted

/-!
# UTF-8

Two readings of a byte sequence. `decodeLossy` never fails: every longest piece that starts a
character without completing one, and every byte that starts none, becomes one replacement
character. `decodeStrict` stops at the first such piece and says where it lies and what is wrong
with it.
-/

namespace Bindery.Text

/-- The character that stands for bytes that are no UTF-8. -/
def replacementChar : Char := '\uFFFD'

/-- A character under construction. -/
structure PartialChar where
  /-- How many bytes are still owed, at least one. -/
  owed : Nat
  /-- The least value the next byte may have. -/
  least : Nat
  /-- The greatest value the next byte may have. -/
  greatest : Nat
  /-- The bits read so far. -/
  bits : Nat
  /-- How many bytes have been read. -/
  read : Nat
deriving DecidableEq, Repr

/-- What a byte means where a character starts. -/
inductive LeadByte where
  /-- A whole character of ASCII. -/
  | ascii (c : Char)
  /-- The first byte of a longer character. -/
  | opens (p : PartialChar)
  /-- A byte that no character starts with. -/
  | invalid
deriving DecidableEq, Repr

/-- Classifies a byte where a character starts. The narrow ranges after E0, ED, F0 and F4 leave out
overlong forms, surrogates and numbers above the last code point. -/
def leadByte (byte : UInt8) : LeadByte :=
  let b := byte.toNat
  if b < 0x80 then .ascii (Char.ofNat b)
  else if b < 0xC2 then .invalid
  else if b < 0xE0 then .opens ⟨1, 0x80, 0xBF, b - 0xC0, 1⟩
  else if b = 0xE0 then .opens ⟨2, 0xA0, 0xBF, 0, 1⟩
  else if b = 0xED then .opens ⟨2, 0x80, 0x9F, 0xD, 1⟩
  else if b < 0xF0 then .opens ⟨2, 0x80, 0xBF, b - 0xE0, 1⟩
  else if b = 0xF0 then .opens ⟨3, 0x90, 0xBF, 0, 1⟩
  else if b < 0xF4 then .opens ⟨3, 0x80, 0xBF, b - 0xF0, 1⟩
  else if b = 0xF4 then .opens ⟨3, 0x80, 0x8F, 4, 1⟩
  else .invalid

/-- Whether a byte goes on the character under construction. -/
def PartialChar.accepts (p : PartialChar) (byte : UInt8) : Bool :=
  p.least ≤ byte.toNat && byte.toNat ≤ p.greatest

/-- The bits after one more byte. -/
def PartialChar.shifted (p : PartialChar) (byte : UInt8) : Nat :=
  p.bits * 64 + byte.toNat % 64

/-- The character under construction after one more byte that does not complete it. -/
def PartialChar.push (p : PartialChar) (byte : UInt8) : PartialChar :=
  ⟨p.owed - 1, 0x80, 0xBF, p.shifted byte, p.read + 1⟩

/-- Reads a byte where a character starts; `rest` reads what follows, with the character under
construction then. -/
def readLead (b : UInt8) (rest : Option PartialChar → List Char) : List Char :=
  match leadByte b with
  | .ascii c => c :: rest none
  | .opens p => rest (some p)
  | .invalid => replacementChar :: rest none

/-- Reads bytes behind a character under construction. -/
def decodeFrom : List UInt8 → Option PartialChar → List Char
  | [], pending => if pending.isSome then [replacementChar] else []
  | b :: bs, none => readLead b (decodeFrom bs)
  | b :: bs, some p =>
    if p.accepts b then
      if p.owed ≤ 1 then Char.ofNat (p.shifted b) :: decodeFrom bs none
      else decodeFrom bs (some (p.push b))
    else replacementChar :: readLead b (decodeFrom bs)

/-- Reads bytes as UTF-8 with a replacement character for each piece that is none. -/
def decodeLossy (bytes : List UInt8) : List Char :=
  decodeFrom bytes none

/-- What is wrong with a piece that is no UTF-8. -/
inductive Utf8Reason where
  /-- No character starts with the byte. -/
  | invalidStart
  /-- The next byte does not go on the character. -/
  | invalidContinuation
  /-- The bytes end inside the character. -/
  | unexpectedEnd
deriving DecidableEq, Repr

/-- The first piece of a byte sequence that is no UTF-8. -/
structure Utf8Fault where
  /-- The offset of its first byte. -/
  position : Nat
  /-- How many bytes belong to it. -/
  length : Nat
  /-- The value of its first byte. -/
  byte : UInt8
  /-- What is wrong. -/
  reason : Utf8Reason
deriving DecidableEq, Repr

/-- What is wrong, in words. -/
def Utf8Reason.text : Utf8Reason → String
  | invalidStart => "invalid start byte"
  | invalidContinuation => "invalid continuation byte"
  | unexpectedEnd => "unexpected end of data"

/-- The message of a piece that is no UTF-8. -/
def Utf8Fault.message (f : Utf8Fault) : String :=
  let piece :=
    if f.length = 1 then
      "byte 0x" ++ String.ofList (hexDigits 2 f.byte.toNat) ++ " in position " ++
        toString f.position
    else
      "bytes in position " ++ toString f.position ++ "-" ++ toString (f.position + f.length - 1)
  "'utf-8' codec can't decode " ++ piece ++ ": " ++ f.reason.text

/-- Reads bytes as UTF-8, or finds the first piece that is none. -/
def decodeStrict (bytes : List UInt8) : Except Utf8Fault (List Char) :=
  go none 0 0 bytes
where
  /-- `pending` is the character under construction, `start` its first byte and `offset` the number
  of bytes read. -/
  go (pending : Option PartialChar) (start : UInt8) (offset : Nat) :
      List UInt8 → Except Utf8Fault (List Char)
    | [] =>
      match pending with
      | some p => .error ⟨offset - p.read, p.read, start, .unexpectedEnd⟩
      | none => .ok []
    | b :: bs =>
      match pending with
      | some p =>
        if p.accepts b then
          if p.owed ≤ 1 then
            (go none 0 (offset + 1) bs).map (Char.ofNat (p.shifted b) :: ·)
          else go (some (p.push b)) start (offset + 1) bs
        else .error ⟨offset - p.read, p.read, start, .invalidContinuation⟩
      | none =>
        match leadByte b with
        | .ascii c => (go none 0 (offset + 1) bs).map (c :: ·)
        | .opens p => go (some p) b (offset + 1) bs
        | .invalid => .error ⟨offset, 1, b, .invalidStart⟩

/-- The bytes of a string. -/
def encodeUtf8 (s : String) : List UInt8 :=
  s.toUTF8.toList

end Bindery.Text
