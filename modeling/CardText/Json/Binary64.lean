/-! Binary floating point with 53 significant bits, without sign: what a number of a
document becomes when it is no whole number that fits 64 bits. All rounding is to
nearest, ties to even, in exact arithmetic. -/
namespace CardText

/-- The value `mantissa * 2 ^ exponent`. A mantissa below `2 ^ 52` has the least exponent. -/
structure Binary64 where
  mantissa : Nat
  exponent : Int
  deriving DecidableEq, Repr

namespace Binary64

def powerOfTwo (n : Nat) : Nat := Nat.pow 2 n

def powerOfTen (n : Nat) : Nat := Nat.pow 10 n

def leastExponent : Int := -1074

def greatestExponent : Int := 971

def zero : Binary64 := ⟨0, leastExponent⟩

def isZero (x : Binary64) : Bool := x.mantissa == 0

def roundRatio (num den : Nat) : Nat :=
  let q := num / den
  let r := num % den
  if 2 * r < den || (2 * r == den && q % 2 == 0) then q else q + 1

/-- The ratio of `num` to `den * 2 ^ shift`, as a pair. -/
def shifted (num den : Nat) (shift : Int) : Nat × Nat :=
  (num * powerOfTwo (-shift).toNat, den * powerOfTwo shift.toNat)

/-- The nearest value to `num / den`; none is large enough from `2 ^ 1024` on. -/
def ofRatio? (num den : Nat) : Option Binary64 :=
  if num == 0 then some zero
  else
    let guess : Int := (num.log2 : Int) - den.log2
    let (a, b) := shifted num den guess
    let log := if a < b then guess - 1 else guess
    let exponent := max (log - 52) leastExponent
    let (a, b) := shifted num den exponent
    let mantissa := roundRatio a b
    let rounded : Binary64 :=
      if mantissa == powerOfTwo 53 then ⟨powerOfTwo 52, exponent + 1⟩ else ⟨mantissa, exponent⟩
    if rounded.exponent > greatestExponent then none else some rounded

def numerator (x : Binary64) : Nat := x.mantissa * powerOfTwo x.exponent.toNat

def denominator (x : Binary64) : Nat := powerOfTwo (-x.exponent).toNat

def mul? (x y : Binary64) : Option Binary64 :=
  ofRatio? (x.numerator * y.numerator) (x.denominator * y.denominator)

def div? (x y : Binary64) : Option Binary64 :=
  ofRatio? (x.numerator * y.denominator) (x.denominator * y.numerator)

def ofNat? (n : Nat) : Option Binary64 := ofRatio? n 1

/-- The largest power of ten that is below `2 ^ 1024`. -/
def decimalReach : Nat := 308

def timesTen? (x : Binary64) (places : Nat) : Option Binary64 := (ofNat? (powerOfTen places)).bind x.mul?

def overTen? (x : Binary64) (places : Nat) : Option Binary64 := (ofNat? (powerOfTen places)).bind x.div?

/-- Division by a power of ten, in steps that each stay within reach. -/
def shrink (x : Binary64) (places : Nat) : Option Binary64 :=
  if x.isZero then some x
  else if decimalReach < places then
    (x.overTen? decimalReach).bind fun y => shrink y (places - decimalReach)
  else x.overTen? places
termination_by places
decreasing_by simp only [decimalReach] at *; omega

def grow (x : Binary64) (places : Nat) : Option Binary64 :=
  if x.isZero then some x
  else if decimalReach < places then none
  else x.timesTen? places

/-- A decimal is scaled after its digits are rounded, so it may be one step off the
nearest value. -/
def ofDecimal? (significand : Nat) (exponent : Int) : Option Binary64 :=
  (ofNat? significand).bind fun x =>
    if exponent < 0 then x.shrink (-exponent).toNat else x.grow exponent.toNat

end Binary64
end CardText
