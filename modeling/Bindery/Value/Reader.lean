import Bindery.Decimal.Shortest
import Bindery.Value.Basic

/-!
# Reading JSON

A value is read from a JSON text. Besides standard JSON the numbers NaN, Infinity and -Infinity are
accepted. A control character may not stand inside a string, and of two fields with one name the
later value wins at the place of the earlier. An integer may have so many digits and no more. A
malformed text is refused with the first fault and the place where it shows.
-/

namespace Bindery

/-- What is wrong with a JSON text. -/
inductive JsonCause where
  /-- No value starts here. -/
  | expectingValue
  /-- No field name starts here. -/
  | expectingName
  /-- A colon is missing. -/
  | expectingColon
  /-- A comma is missing. -/
  | expectingComma
  /-- A string that starts here does not end. -/
  | unterminatedString
  /-- A control character inside a string. -/
  | controlCharacter
  /-- An unknown escape. -/
  | badEscape
  /-- A code unit escape without four hexadecimal digits. -/
  | badUnitEscape
  /-- Something follows the value. -/
  | extraData
  /-- The text starts with a byte order mark. -/
  | byteOrderMark
  /-- An integer with too many digits. -/
  | tooManyDigits (digits : Nat)
deriving DecidableEq, Repr

/-- The message of a cause. -/
def JsonCause.message : JsonCause → String
  | expectingValue => "Expecting value"
  | expectingName => "Expecting property name enclosed in double quotes"
  | expectingColon => "Expecting ':' delimiter"
  | expectingComma => "Expecting ',' delimiter"
  | unterminatedString => "Unterminated string starting at"
  | controlCharacter => "Invalid control character at"
  | badEscape => "Invalid \\escape"
  | badUnitEscape => "Invalid \\uXXXX escape"
  | extraData => "Extra data"
  | byteOrderMark => "Unexpected UTF-8 BOM (decode using utf-8-sig)"
  | tooManyDigits digits =>
    "Exceeds the limit (4300 digits) for integer string conversion: value has " ++
      toString digits ++ " digits; use sys.set_int_max_str_digits() to increase the limit"

/-- A fault of a JSON text and what is left of the text at its place. -/
structure JsonStop where
  /-- What is wrong. -/
  cause : JsonCause
  /-- The rest of the text at the place of the fault. -/
  rest : List Char
deriving DecidableEq, Repr

namespace Json

/-- Removes the white space of JSON. -/
def skipBlanks (cs : List Char) : List Char :=
  cs.dropWhile fun c => c == ' ' || c == '\t' || c == '\n' || c == '\r'

/-- The value of a hexadecimal digit. -/
def hexDigit? (c : Char) : Option Nat :=
  if '0' ≤ c ∧ c ≤ '9' then some (c.toNat - '0'.toNat)
  else if 'A' ≤ c ∧ c ≤ 'F' then some (c.toNat - 'A'.toNat + 10)
  else if 'a' ≤ c ∧ c ≤ 'f' then some (c.toNat - 'a'.toNat + 10)
  else none

/-- The code unit that four hexadecimal digits write. -/
def unit? : List Char → Option Nat
  | [a, b, c, d] => do
    return (((← hexDigit? a) * 16 + (← hexDigit? b)) * 16 + (← hexDigit? c)) * 16 + (← hexDigit? d)
  | _ => none

/-- The character of a one-letter escape. -/
def shortEscape? (c : Char) : Option Char :=
  match c with
  | '"' => some '"'
  | '\\' => some '\\'
  | '/' => some '/'
  | 'b' => some (Char.ofNat 8)
  | 'f' => some (Char.ofNat 12)
  | 'n' => some '\n'
  | 'r' => some '\r'
  | 't' => some '\t'
  | _ => none

/-- Whether a code unit is the first half of a pair. -/
def isHighUnit (n : Nat) : Bool := 0xD800 ≤ n && n ≤ 0xDBFF

/-- Whether a code unit is the second half of a pair. -/
def isLowUnit (n : Nat) : Bool := 0xDC00 ≤ n && n ≤ 0xDFFF

/-- The character two halves of a pair stand for. -/
def joinUnits (high low : Nat) : Char :=
  Char.ofNat (0x10000 + (high - 0xD800) * 0x400 + (low - 0xDC00))

/-- The character of a lone code unit; half a pair has none and becomes a replacement character. -/
def loneUnit (n : Nat) : Char :=
  if isHighUnit n || isLowUnit n then '\uFFFD' else Char.ofNat n

/-- Reads the inside of a string up to the closing quote. `start` is the text from the opening
quote on, `acc` the characters read, last first. -/
def readString (start : List Char) : Nat → List Char → List Char →
    Except JsonStop (List Char × List Char)
  | 0, _, _ => .error ⟨.unterminatedString, start⟩
  | fuel + 1, acc, cs =>
    match cs with
    | [] => .error ⟨.unterminatedString, start⟩
    | '"' :: rest => .ok (acc.reverse, rest)
    | '\\' :: [] => .error ⟨.unterminatedString, start⟩
    | '\\' :: 'u' :: rest =>
      if rest.length ≤ 4 then .error ⟨.badUnitEscape, 'u' :: rest⟩
      else
        match unit? (rest.take 4) with
        | none => .error ⟨.badUnitEscape, 'u' :: rest⟩
        | some high =>
          let rest := rest.drop 4
          match isHighUnit high, rest with
          | true, '\\' :: 'u' :: after =>
            if after.length ≤ 4 then readString start fuel (loneUnit high :: acc) rest
            else
              match unit? (after.take 4) with
              | none => .error ⟨.badUnitEscape, 'u' :: after⟩
              | some low =>
                if isLowUnit low then
                  readString start fuel (joinUnits high low :: acc) (after.drop 4)
                else readString start fuel (loneUnit high :: acc) rest
          | _, _ => readString start fuel (loneUnit high :: acc) rest
    | '\\' :: c :: rest =>
      match shortEscape? c with
      | some e => readString start fuel (e :: acc) rest
      | none => .error ⟨.badEscape, cs⟩
    | c :: rest =>
      if c.toNat < 32 then .error ⟨.controlCharacter, cs⟩
      else readString start fuel (c :: acc) rest

/-- Whether a character is a digit. -/
def isDigit (c : Char) : Bool := '0' ≤ c && c ≤ '9'

/-- The number a run of digits writes. -/
def digitsValue (cs : List Char) : Nat :=
  cs.foldl (fun n c => 10 * n + (c.toNat - '0'.toNat)) 0

/-- Reads the exponent of a number, if a whole one is there. -/
def readExponent (cs : List Char) : Option (Int × List Char) :=
  match cs with
  | e :: rest =>
    if e == 'e' || e == 'E' then
      let (negative, digits) :=
        match rest with
        | '-' :: r => (true, r)
        | '+' :: r => (false, r)
        | r => (false, r)
      let run := digits.takeWhile isDigit
      if run.isEmpty then none
      else
        let n : Int := digitsValue run
        some (if negative then -n else n, digits.dropWhile isDigit)
    else none
  | [] => none

/-- The greatest number of digits of an integer. -/
def digitLimit : Nat := 4300

/-- Reads a number. -/
def readNumber (cs : List Char) : Except JsonCause (Value × List Char) :=
  let (negative, body) :=
    match cs with
    | '-' :: r => (true, r)
    | r => (false, r)
  let whole :=
    match body with
    | '0' :: _ => ['0']
    | r => r.takeWhile isDigit
  if whole.isEmpty then .error .expectingValue
  else
    let afterWhole := body.drop whole.length
    let (fraction, afterFraction) :=
      match afterWhole with
      | '.' :: r =>
        let run := r.takeWhile isDigit
        if run.isEmpty then ([], afterWhole) else (run, r.dropWhile isDigit)
      | r => ([], r)
    match readExponent afterFraction, fraction.isEmpty with
    | none, true =>
      if digitLimit < whole.length then .error (.tooManyDigits whole.length)
      else
        let n : Int := digitsValue whole
        .ok (.int (if negative then -n else n), afterWhole)
    | none, false =>
      .ok (.float (Decimal.nearest negative (digitsValue (whole ++ fraction)) (-fraction.length)),
        afterFraction)
    | some (e, rest), _ =>
      .ok (.float (Decimal.nearest negative (digitsValue (whole ++ fraction))
        (e - fraction.length)), rest)

/-- Drops a word from the front of a text. -/
def dropWord? (word : String) (cs : List Char) : Option (List Char) :=
  if word.toList.isPrefixOf cs then some (cs.drop word.length) else none

/-- The words that stand for values. -/
def wordValues : List (String × Value) :=
  [("null", .null), ("true", .bool true), ("false", .bool false),
    ("NaN", .float 0x7FF8000000000000), ("Infinity", .float 0x7FF0000000000000),
    ("-Infinity", .float 0xFFF0000000000000)]

/-- Reads a word that stands for a value. -/
def readWord (cs : List Char) : Option (Value × List Char) :=
  wordValues.findSome? fun (word, v) => (dropWord? word cs).map fun rest => (v, rest)

mutual

/-- Reads a value at the front of a text. -/
def readValue : Nat → List Char → Except JsonStop (Value × List Char)
  | 0, cs => .error ⟨.expectingValue, cs⟩
  | fuel + 1, cs =>
    match cs with
    | '"' :: rest =>
      match readString cs (rest.length + 1) [] rest with
      | .error e => .error e
      | .ok (s, rest) => .ok (.text (String.ofList s), rest)
    | '[' :: rest =>
      match skipBlanks rest with
      | ']' :: rest => .ok (.list [], rest)
      | rest =>
        match readItems fuel rest with
        | .error e => .error e
        | .ok (items, rest) => .ok (.list items, rest)
    | '\x7b' :: rest =>
      match skipBlanks rest with
      | '\x7d' :: rest => .ok (.object [], rest)
      | rest =>
        match readFields fuel [] rest with
        | .error e => .error e
        | .ok (fields, rest) => .ok (.object fields, rest)
    | _ =>
      match readWord cs with
      | some r => .ok r
      | none => (readNumber cs).mapError fun cause => ⟨cause, cs⟩

/-- Reads the items of a list up to its end. -/
def readItems : Nat → List Char → Except JsonStop (List Value × List Char)
  | 0, cs => .error ⟨.expectingValue, cs⟩
  | fuel + 1, cs =>
    match readValue fuel cs with
    | .error e => .error e
    | .ok (v, rest) =>
      match skipBlanks rest with
      | ']' :: rest => .ok ([v], rest)
      | ',' :: rest =>
        match readItems fuel (skipBlanks rest) with
        | .error e => .error e
        | .ok (vs, rest) => .ok (v :: vs, rest)
      | rest => .error ⟨.expectingComma, rest⟩

/-- Reads the fields of an object up to its end. -/
def readFields : Nat → Fields → List Char → Except JsonStop (Fields × List Char)
  | 0, _, cs => .error ⟨.expectingName, cs⟩
  | fuel + 1, fields, cs =>
    match cs with
    | '"' :: rest =>
      match readString cs (rest.length + 1) [] rest with
      | .error e => .error e
      | .ok (name, rest) =>
        match skipBlanks rest with
        | ':' :: rest =>
          match readValue fuel (skipBlanks rest) with
          | .error e => .error e
          | .ok (v, rest) =>
            let fields := fields.put (String.ofList name) v
            match skipBlanks rest with
            | '\x7d' :: rest => .ok (fields, rest)
            | ',' :: rest => readFields fuel fields (skipBlanks rest)
            | rest => .error ⟨.expectingComma, rest⟩
        | rest => .error ⟨.expectingColon, rest⟩
    | rest => .error ⟨.expectingName, rest⟩

end

end Json

/-- A fault of a JSON text and its place. -/
structure JsonFault where
  /-- What is wrong. -/
  cause : JsonCause
  /-- The line of the place, from one. -/
  line : Nat
  /-- The column of the place, from one. -/
  column : Nat
  /-- How many characters stand before the place. -/
  offset : Nat
deriving DecidableEq, Repr

/-- The message of a fault. Where an integer is too long is not told. -/
def JsonFault.message (f : JsonFault) : String :=
  match f.cause with
  | .tooManyDigits _ => f.cause.message
  | _ =>
    f.cause.message ++ ": line " ++ toString f.line ++ " column " ++ toString f.column ++
      " (char " ++ toString f.offset ++ ")"

/-- The place of a fault in a text. -/
def JsonStop.locate (stop : JsonStop) (cs : List Char) : JsonFault :=
  let offset := cs.length - stop.rest.length
  let before := cs.take offset
  let lastLine := before.reverse.takeWhile (· ≠ '\n')
  ⟨stop.cause, before.count '\n' + 1, lastLine.length + 1, offset⟩

/-- Reads a JSON text that holds one value. -/
def Value.ofJson (text : String) : Except JsonFault Value :=
  let cs := text.toList
  let outcome : Except JsonStop Value :=
    match cs with
    | '\uFEFF' :: _ => .error ⟨.byteOrderMark, cs⟩
    | _ =>
      match Json.readValue (2 * cs.length + 2) (Json.skipBlanks cs) with
      | .error e => .error e
      | .ok (v, rest) =>
        match Json.skipBlanks rest with
        | [] => .ok v
        | rest => .error ⟨.extraData, rest⟩
  match outcome with
  | .ok v => .ok v
  | .error stop => .error (stop.locate cs)

end Bindery
