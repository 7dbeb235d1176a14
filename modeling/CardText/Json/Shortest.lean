import CardText.Json.Binary64

/-! The fewest decimal digits that read back as the same binary value, and their layout. -/
namespace CardText.Binary64

/-- The values that round to one value, ends included when its mantissa is even, as
numerators over one denominator. -/
structure Interval where
  low : Nat
  value : Nat
  high : Nat
  denominator : Nat
  closed : Bool

def interval (x : Binary64) : Interval :=
  let unit := powerOfTwo x.exponent.toNat
  let below := if x.mantissa == powerOfTwo 52 && x.exponent > leastExponent then unit else 2 * unit
  { low := 4 * x.numerator - below
    value := 4 * x.numerator
    high := 4 * x.numerator + 2 * unit
    denominator := 4 * x.denominator
    closed := x.mantissa % 2 == 0 }

/-- Position of the first digit of `num / den`, counted from the units. -/
def leadingPlace (num den : Nat) : Int :=
  if den ≤ num then ((Nat.toDigits 10 (num / den)).length : Int) - 1
  else
    match (List.range 400).find? fun j => den ≤ num * powerOfTen j with
    | some j => -(j : Int)
    | none => 0

/-- A point of the grid of powers `10 ^ place` that reads back, the nearer one of two. -/
def gridPoint? (i : Interval) (place : Int) : Option Nat :=
  let up := powerOfTen (-place).toNat
  let den := i.denominator * powerOfTen place.toNat
  let inside (n : Nat) : Bool :=
    if i.closed then i.low * up ≤ n * den && n * den ≤ i.high * up
    else i.low * up < n * den && n * den < i.high * up
  let value := i.value * up
  let floor := value / den
  match inside floor, inside (floor + 1) with
  | true, true => some (Binary64.roundRatio value den)
  | true, false => some floor
  | false, true => some (floor + 1)
  | false, false => none

/-- The digits, and the position of the first one. -/
def shortest (x : Binary64) : List Char × Int :=
  let i := x.interval
  let lead := leadingPlace i.value i.denominator
  let found := (List.range 17).findSome? fun (n : Nat) =>
    (gridPoint? i (lead - n)).map fun point => (point, lead - n)
  match found with
  | none => (['0'], 0)
  | some (point, place) =>
      let digits := Nat.toDigits 10 point
      let kept := (digits.reverse.dropWhile (· == '0')).reverse
      (kept, place + digits.length - 1)

/-- Positional between these places of the first digit, with an exponent outside. -/
def leastPositional : Int := -5

def greatestPositional : Int := 15

def fraction (digits : List Char) : List Char := if digits.isEmpty then ['0'] else digits

def zeros (n : Nat) : List Char := List.replicate n '0'

def positional (digits : List Char) (place : Int) : List Char :=
  if place < 0 then '0' :: '.' :: zeros (-place - 1).toNat ++ digits
  else
    let whole := place.toNat + 1
    digits.take whole ++ zeros (whole - digits.length) ++ '.' :: fraction (digits.drop whole)

def scientific (digits : List Char) (place : Int) : List Char :=
  let after := digits.drop 1
  digits.take 1 ++ (if after.isEmpty then [] else '.' :: after) ++
    'e' :: (if place < 0 then '-' else '+') :: Nat.toDigits 10 place.natAbs

def text (x : Binary64) : String :=
  if x.isZero then "0.0"
  else
    let (digits, place) := x.shortest
    String.ofList
      (if leastPositional ≤ place && place ≤ greatestPositional then positional digits place
      else scientific digits place)

end CardText.Binary64
