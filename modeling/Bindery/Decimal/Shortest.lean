/-!
# Shortest decimal text of a binary fraction

A double stands for every real number nearer to it than to its neighbours. Of the decimals among
those, `shortest` finds one with the fewest digits and, of these, one nearest to the double; an
exact tie goes to the even digit. All arithmetic is in natural numbers: the double is `m * 2 ^ e`,
and the ends of its interval are quarters of the last binary place.
-/

namespace Bindery.Decimal

/-- A finite double without its sign: `significand * 2 ^ (exponent - bias)`. -/
structure Magnitude where
  /-- The whole significand. -/
  significand : Nat
  /-- The exponent of two above `bias`. -/
  exponent : Nat
  /-- Whether the neighbour below lies at half the distance of the neighbour above. -/
  narrowBelow : Bool
deriving DecidableEq, Repr

/-- What is taken off the stored exponent, so that exponents are natural numbers. -/
def bias : Nat := 1076

/-- A double by its bits. -/
inductive Binary64 where
  /-- No number. -/
  | nan
  /-- An infinity. -/
  | infinity (negative : Bool)
  /-- A finite number. -/
  | finite (negative : Bool) (magnitude : Magnitude)
deriving DecidableEq, Repr

/-- Takes the bits of a double apart. -/
def ofBits (bits : UInt64) : Binary64 :=
  let n := bits.toNat
  let negative := n / Nat.pow 2 63 == 1
  let exponent := n / Nat.pow 2 52 % Nat.pow 2 11
  let fraction := n % Nat.pow 2 52
  if exponent = 2047 then if fraction = 0 then .infinity negative else .nan
  else if exponent = 0 then .finite negative ⟨fraction, 2, false⟩
  else .finite negative ⟨Nat.pow 2 52 + fraction, exponent + 1, fraction = 0 ∧ 1 < exponent⟩

/-- The natural number that a double is, if it is one. -/
def natural? (bits : UInt64) : Option Nat :=
  match ofBits bits with
  | .finite negative m =>
    let scaled := m.significand * Nat.pow 2 m.exponent
    if scaled % Nat.pow 2 bias = 0 ∧ (negative = false ∨ scaled = 0) then
      some (scaled / Nat.pow 2 bias)
    else none
  | _ => none

/-- A positive decimal: the digits of `digits`, with the decimal point before the first of them
moved `point` places to the right. -/
structure Digits where
  /-- The digits as a number. -/
  digits : Nat
  /-- Where the decimal point stands. -/
  point : Int
deriving DecidableEq, Repr

/-- Removes trailing zeros of a number. -/
def dropZeros : Nat → Nat → Nat
  | 0, n => n
  | fuel + 1, n => if n ≠ 0 ∧ n % 10 = 0 then dropZeros fuel (n / 10) else n

/-- The least power of ten above `num / den`, as an exponent, for positive numbers. -/
def pointOf (num den : Nat) : Int :=
  if den ≤ num then ((toString (num / den)).length : Int)
  else go 400 0 num
where
  /-- Multiplies by ten until the denominator is reached. -/
  go : Nat → Nat → Nat → Int
    | 0, places, _ => -(places : Int)
    | fuel + 1, places, n =>
      if den ≤ n * 10 then -(places : Int) else go fuel (places + 1) (n * 10)

/-- The shortest digits of a positive magnitude. -/
def shortest (v : Magnitude) : Digits :=
  let two := Nat.pow 2 v.exponent
  let den := Nat.pow 2 (bias + 2)
  let value := 4 * v.significand * two
  let low := (4 * v.significand - (if v.narrowBelow then 1 else 2)) * two
  let high := (4 * v.significand + 2) * two
  let closed := v.significand % 2 == 0
  let point := pointOf value den
  go value den low high closed point 17 1
where
  /-- Tries `count` digits, then more. -/
  go (value den low high : Nat) (closed : Bool) (point : Int) : Nat → Nat → Digits
    | 0, count => ⟨0, count⟩
    | fuel + 1, count =>
      -- the unit of the last digit is `10 ^ (point - count)`
      let shift := point - count
      let up := Nat.pow 10 (-shift).toNat
      let down := den * Nat.pow 10 shift.toNat
      let scaled := value * up
      let below := scaled / down
      let inside (c : Nat) : Bool :=
        let x := c * down
        if closed then low * up ≤ x && x ≤ high * up else low * up < x && x < high * up
      let finish (c : Nat) : Digits :=
        ⟨dropZeros 20 c, point + ((toString c).length : Int) - count⟩
      let less := scaled - below * down
      let more := (below + 1) * down - scaled
      if inside below && below ≠ 0 then
        if inside (below + 1) && (more < less || (more == less && below % 2 == 1)) then
          finish (below + 1)
        else finish below
      else if inside (below + 1) then finish (below + 1)
      else go value den low high closed point fuel (count + 1)

/-- How the text of a double is laid out. -/
structure Layout where
  /-- The decimal point is written in place when it stands after this place. -/
  leastPoint : Int
  /-- The decimal point is written in place up to this place. -/
  greatestPoint : Int
  /-- The least number of digits of an exponent. -/
  exponentWidth : Nat
  /-- The text of a value that is no number. -/
  nanText : String
  /-- The text of positive infinity. -/
  infinityText : String
deriving DecidableEq, Repr

/-- Zeros as characters. -/
def zeros (n : Nat) : String :=
  String.ofList (List.replicate n '0')

/-- The text of a positive decimal. -/
def Layout.digitsText (l : Layout) (d : Digits) : String :=
  let text := toString d.digits
  let size := text.length
  if l.leastPoint < d.point ∧ d.point ≤ l.greatestPoint then
    if d.point ≤ 0 then "0." ++ zeros (-d.point).toNat ++ text
    else
      let whole := d.point.toNat
      if size ≤ whole then text ++ zeros (whole - size) ++ ".0"
      else String.ofList (text.toList.take whole) ++ "." ++ String.ofList (text.toList.drop whole)
  else
    let power := d.point - 1
    let mantissa :=
      if size ≤ 1 then text
      else String.ofList (text.toList.take 1) ++ "." ++ String.ofList (text.toList.drop 1)
    let digits := toString power.natAbs
    mantissa ++ "e" ++ (if power < 0 then "-" else "+") ++
      zeros (l.exponentWidth - digits.length) ++ digits

/-- The text of a double. -/
def Layout.text (l : Layout) (bits : UInt64) : String :=
  match ofBits bits with
  | .nan => l.nanText
  | .infinity negative => (if negative then "-" else "") ++ l.infinityText
  | .finite negative v =>
    (if negative then "-" else "") ++
      (if v.significand = 0 then "0.0" else l.digitsText (shortest v))

/-- The double nearest to `mantissa * 10 ^ exponent`, by its bits. -/
def nearest (negative : Bool) (mantissa : Nat) (exponent : Int) : UInt64 :=
  let size : Int := (toString mantissa).length
  let sign : UInt64 := if negative then (1 : UInt64) <<< 63 else 0
  let body : UInt64 :=
    if mantissa = 0 ∨ size + exponent < -330 then 0
    else if 320 < size + exponent then 0x7FF0000000000000
    else (Float.ofScientific mantissa (exponent < 0) exponent.natAbs).toBits
  sign ||| body

end Bindery.Decimal
