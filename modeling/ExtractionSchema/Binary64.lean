namespace ExtractionSchema

inductive Binary64 where
  | nan
  | infinite (negative : Bool)
  | finite (negative : Bool) (significand exponent : Nat)
  deriving DecidableEq,Repr

namespace Binary64

def twoTo (n : Nat) : Nat := Nat.pow 2 n

def tenTo (n : Nat) : Nat := Nat.pow 10 n

def scale : Nat := 1074

-- The least significand of a normal number; its double is out of range.
def hidden : Nat := twoTo 52

def topExponent : Nat := 2045

def zero (negative : Bool) : Binary64 := .finite negative 0 0

def isFinite : Binary64 → Bool
  | .finite _ _ _ => true
  | _ => false

-- Zero is the only number that counts as false; an undefined value counts as true.
def isTruthy : Binary64 → Bool
  | .finite _ significand _ => significand != 0
  | _ => true

def units (significand exponent : Nat) : Nat := significand * twoTo exponent

def toInt? : Binary64 → Option Int
  | .finite negative significand exponent =>
    let magnitude := units significand exponent
    if magnitude % twoTo scale = 0 then
      let whole : Int := (magnitude / twoTo scale : Nat)
      some (if negative then -whole else whole)
    else none
  | _ => none

def isNonNegative : Binary64 → Bool
  | .nan => false
  | .infinite negative => !negative
  | .finite negative significand _ => !negative || significand == 0

def isBelow (n : Nat) : Binary64 → Bool
  | .nan => false
  | .infinite negative => negative
  | .finite true significand _ => 0 < n || significand != 0
  | .finite false significand exponent => units significand exponent < n * twoTo scale

def isAbove (n : Nat) : Binary64 → Bool
  | .nan => false
  | .infinite negative => !negative
  | .finite true _ _ => false
  | .finite false significand exponent => n * twoTo scale < units significand exponent

def roundQuotient (numerator denominator : Nat) : Nat :=
  let floor := numerator / denominator
  let rest := numerator % denominator
  if 2 * rest < denominator then floor
  else if denominator < 2 * rest then floor + 1
  else floor + floor % 2

-- Beyond the top exponent a number is infinite, and a carry out of the significand moves the
-- exponent up by one.
def assemble (negative : Bool) (significand exponent : Nat) : Binary64 :=
  if significand = 2 * hidden then
    if exponent + 1 > topExponent then .infinite negative else .finite negative hidden (exponent + 1)
  else if exponent > topExponent then .infinite negative
  else .finite negative significand exponent

-- The exponent is the least one at which the quotient stays below twice the hidden bit.
def ofQuotient (negative : Bool) (numerator denominator : Nat) : Binary64 :=
  let scaled := numerator * twoTo scale
  let whole := scaled / denominator
  let exponent := if whole < 2 * hidden then 0 else whole.log2 - 52
  assemble negative (roundQuotient scaled (denominator * twoTo exponent)) exponent

def ofInt (n : Int) : Binary64 := ofQuotient (n < 0) n.natAbs 1

-- Past these decimal exponents the answer is known without computing the power of ten.
def decimalCeiling : Int := 400

def ofDecimal (negative : Bool) (digits : Nat) (exponent : Int) : Binary64 :=
  if digits = 0 then zero negative
  else
    let leading : Int := exponent + (Nat.log2 digits * 30103 / 100000 : Nat)
    if leading > decimalCeiling then .infinite negative
    else if leading < -decimalCeiling then zero negative
    else if 0 ≤ exponent then ofQuotient negative (digits * tenTo exponent.toNat) 1
    else ofQuotient negative digits (tenTo (-exponent).toNat)

-- A positive quotient `numerator / denominator` and the reals that round to it. The bounds are
-- in quarters of a unit of the denominator, so that half a unit below a power of two is whole.
structure Neighbourhood where
  centre : Nat
  below : Nat
  above : Nat
  denominator : Nat
  closed : Bool

def neighbourhood (significand exponent : Nat) : Neighbourhood :=
  let unit := twoTo exponent
  let lower := if significand = hidden ∧ 0 < exponent then unit else 2 * unit
  { centre := 4 * significand * unit
    below := 4 * significand * unit - lower
    above := 4 * significand * unit + 2 * unit
    denominator := 4 * twoTo scale
    closed := significand % 2 = 0 }

def Neighbourhood.contains (near : Neighbourhood) (digits up down : Nat) : Bool :=
  let point := digits * up * near.denominator
  if near.closed then near.below * down ≤ point && point ≤ near.above * down
  else near.below * down < point && point < near.above * down

structure Digits where
  value : Nat
  place : Int
  deriving DecidableEq,Repr

-- Digits on the grid of one place: the nearer of the two neighbours that reads back.
def Neighbourhood.onGrid (near : Neighbourhood) (place : Int) : Option Digits :=
  let up := if 0 ≤ place then tenTo place.toNat else 1
  let down := if 0 ≤ place then 1 else tenTo (-place).toNat
  let numerator := near.centre * down
  let step := near.denominator * up
  let floor := numerator / step
  let rest := numerator % step
  let low := near.contains floor up down
  let high := near.contains (floor + 1) up down
  let preferHigh := if 2 * rest = step then floor % 2 = 1 else step < 2 * rest
  if low && high then some ⟨if preferHigh then floor + 1 else floor,place⟩
  else if low then some ⟨floor,place⟩
  else if high then some ⟨floor + 1,place⟩
  else none

-- The power of ten of the leading digit, searched downwards from a bound above it.
def leadingPlace (centre denominator : Nat) : Nat → Int → Int
  | 0,place => place
  | fuel + 1,place =>
    let reached :=
      if 0 ≤ place then denominator * tenTo place.toNat ≤ centre
      else denominator ≤ centre * tenTo (-place).toNat
    if reached then place else leadingPlace centre denominator fuel (place - 1)

-- Seventeen digits always suffice; the grids are tried from the coarsest.
def Neighbourhood.shortest (near : Neighbourhood) (leading : Int) : Nat → Option Digits
  | 0 => near.onGrid (leading - 16)
  | fuel + 1 =>
    match near.onGrid (leading - (16 - (fuel + 1 : Nat))) with
    | some digits => some digits
    | none => near.shortest leading fuel

def digits (significand exponent : Nat) : Digits :=
  let near := neighbourhood significand exponent
  let guess : Int := (near.centre.log2 * 30103 / 100000 : Nat)
    - (near.denominator.log2 * 30103 / 100000 : Nat) + 2
  let leading := leadingPlace near.centre near.denominator 6 guess
  (near.shortest leading 16).getD ⟨0,0⟩

structure Layout where
  leastPositional : Int
  leastScientific : Int
  exponentWidth : Nat
  nan : String
  infinity : String

-- Positional from 0.0001 up to, but not including, 10 ^ 16; two exponent digits at least.
def Layout.shown : Layout := ⟨-4,16,2,"nan","inf"⟩

def Layout.json : Layout := ⟨-4,16,2,"NaN","Infinity"⟩

def zeros (n : Nat) : List Char := List.replicate n '0'

def trimZeros (digits : List Char) : List Char :=
  (digits.reverse.dropWhile (· == '0')).reverse

def positional (digits : List Char) (exponent : Int) : List Char :=
  if exponent < 0 then '0' :: '.' :: zeros (-exponent - 1).toNat ++ digits
  else
    let whole := exponent.toNat + 1
    if digits.length ≤ whole then digits ++ zeros (whole - digits.length) ++ ['.','0']
    else digits.take whole ++ '.' :: digits.drop whole

def scientific (width : Nat) (digits : List Char) (exponent : Int) : List Char :=
  let mantissa := match digits with
    | [] => []
    | [digit] => [digit]
    | digit :: rest => digit :: '.' :: rest
  let power := Nat.toDigits 10 exponent.natAbs
  mantissa ++ 'e' :: (if exponent < 0 then '-' else '+') :: zeros (width - power.length) ++ power

def magnitudeText (layout : Layout) (significand exponent : Nat) : List Char :=
  if significand = 0 then ['0','.','0']
  else
    let chosen := digits significand exponent
    let all := Nat.toDigits 10 chosen.value
    let power : Int := chosen.place + all.length - 1
    let kept := trimZeros all
    if layout.leastPositional ≤ power ∧ power < layout.leastScientific then positional kept power
    else scientific layout.exponentWidth kept power

def signed (negative : Bool) (text : List Char) : List Char :=
  if negative then '-' :: text else text

def text (layout : Layout) : Binary64 → List Char
  | .nan => layout.nan.toList
  | .infinite negative => signed negative layout.infinity.toList
  | .finite negative significand exponent =>
    signed negative (magnitudeText layout significand exponent)

end Binary64

end ExtractionSchema
