/-!
# Double — binary floating point of double precision

Numbers in settings and clocks are doubles.  They are kept as what they stand for, a sign, a
mantissa and an exponent of two, and every operation rounds an exact result once.
-/

namespace SourceOutline

/-- A double.  A finite value is `mantissa * 2 ^ exponent` with a sign; `Double.ofRatio` gives it a
mantissa below `2 ^ 53`, and one of at least `2 ^ 52` unless the exponent is the least one.
Not-a-number has a sign too, which shows in its bits only. -/
inductive Double where
  | nan (negative : Bool)
  | infinite (negative : Bool)
  | finite (negative : Bool) (mantissa : Nat) (exponent : Int)
  deriving DecidableEq

def roundDiv (num den : Nat) : Nat :=
  let q := num / den
  let twice := 2 * (num % den)
  if den < twice ∨ (twice = den ∧ q % 2 = 1) then q + 1 else q

namespace Double

def leastExponent : Int := -1074

def greatestExponent : Int := 971

def zero (negative : Bool) : Double :=
  .finite negative 0 leastExponent

def twoTo (n : Nat) : Nat :=
  Nat.pow 2 n

def tenTo (n : Nat) : Nat :=
  Nat.pow 10 n

/-- The quotient of `num` by `den * 2 ^ exponent`, as numerator and denominator. -/
def scaled (num den : Nat) (exponent : Int) : Nat × Nat :=
  if exponent < 0 then (num * twoTo (-exponent).toNat, den) else (num, den * twoTo exponent.toNat)

def exponentFor (num den : Nat) : Int :=
  let guess : Int := (Nat.log2 num : Int) - (Nat.log2 den : Int) - 52
  let s := scaled num den guess
  let exact := if s.1 < twoTo 52 * s.2 then guess - 1 else guess
  max exact leastExponent

def ofRatio (negative : Bool) (num den : Nat) : Double :=
  if num = 0 then zero negative
  else
    let e := exponentFor num den
    let s := scaled num den e
    let m := roundDiv s.1 s.2
    if m = twoTo 53 then
      if e + 1 > greatestExponent then .infinite negative else .finite negative (twoTo 52) (e + 1)
    else if e > greatestExponent then .infinite negative
    else .finite negative m e

def ofInt (n : Int) : Double :=
  ofRatio (n < 0) n.natAbs 1

/-- The double nearest to `digits * 10 ^ exponent`.  Exponents far outside the range of doubles are
decided without the power. -/
def ofDecimal (negative : Bool) (digits : Nat) (exponent : Int) : Double :=
  if digits = 0 then zero negative
  else
    let magnitude : Int := exponent + (Nat.log2 digits : Int)
    if exponent > 400 then .infinite negative
    else if magnitude < -4000 then zero negative
    else if exponent < 0 then ofRatio negative digits (tenTo (-exponent).toNat)
    else ofRatio negative (digits * tenTo exponent.toNat) 1

def invalid : Double :=
  .nan true

def neg : Double → Double
  | nan s => nan (!s)
  | infinite s => infinite (!s)
  | finite s m e => finite (!s) m e

def units (negative : Bool) (mantissa : Nat) (exponent least : Int) : Int :=
  let n : Int := ((mantissa * twoTo (exponent - least).toNat : Nat) : Int)
  if negative then -n else n

/-- The sum, rounded once.  A sum that cancels exactly is positive zero.  Not-a-number stays what it
is. -/
def add : Double → Double → Double
  | nan s, _ => nan s
  | _, nan t => nan t
  | infinite s, infinite t => if s = t then infinite s else invalid
  | infinite s, _ => infinite s
  | _, infinite t => infinite t
  | finite s m e, finite t n f =>
    let least := min e f
    let sum := units s m e least + units t n f least
    if sum = 0 then zero (s && t && m == 0 && n == 0)
    else
      let parts := scaled sum.natAbs 1 (-least)
      ofRatio (sum < 0) parts.1 parts.2

def sub (x y : Double) : Double :=
  match y with
  | nan _ => x.add y
  | _ => x.add y.neg

def mul : Double → Double → Double
  | nan s, _ => nan s
  | _, nan t => nan t
  | infinite s, infinite t => infinite (s != t)
  | infinite s, finite t n _ => if n = 0 then invalid else infinite (s != t)
  | finite s m _, infinite t => if m = 0 then invalid else infinite (s != t)
  | finite s m e, finite t n f =>
    let parts := scaled (m * n) 1 (-(e + f))
    ofRatio (s != t) parts.1 parts.2

def isZero : Double → Bool
  | finite _ m _ => m == 0
  | _ => false

def toRat? : Double → Option Rat
  | finite s m e =>
    let q : Rat := if e < 0 then mkRat m (twoTo (-e).toNat) else ((m * twoTo e.toNat : Nat) : Rat)
    some (if s then -q else q)
  | _ => none

/-! ## Integers near a value -/

def whole : Double → Int
  | finite s m e =>
    let n : Int := ((if e < 0 then m / twoTo (-e).toNat else m * twoTo e.toNat : Nat) : Int)
    if s then -n else n
  | _ => 0

def floor (x : Double) : Int :=
  match x.toRat? with
  | some q => q.floor
  | none => 0

def nearest : Double → Int
  | finite s m e =>
    let n : Nat := if e < 0 then roundDiv m (twoTo (-e).toNat) else m * twoTo e.toNat
    if s then -(n : Int) else n
  | _ => 0

/-! ## Bits -/

def toBits : Double → Nat
  | nan s => (if s then twoTo 63 else 0) + 0x7FF8000000000000
  | infinite s => (if s then twoTo 63 else 0) + 0x7FF0000000000000
  | finite s m e =>
    let body :=
      if m < twoTo 52 then m else (e + 1075).toNat * twoTo 52 + (m - twoTo 52)
    (if s then twoTo 63 else 0) + body

end Double

end SourceOutline
