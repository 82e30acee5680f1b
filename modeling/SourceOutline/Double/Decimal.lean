import SourceOutline.Double.Basic

/-!
# Decimal — doubles as decimal text

A double is shown by the fewest digits that read back as it, and durations by a fixed number of
places.
-/

namespace SourceOutline

namespace Double

/-! ## Shortest digits -/

/-- The open or closed interval of the reals that round to a finite double, as numerators over one
denominator; `closed` says whether its ends belong to it. -/
structure Interval where
  low : Nat
  value : Nat
  high : Nat
  den : Nat
  closed : Bool

/-- The interval of `mantissa * 2 ^ exponent`.  Below a power of two the gap is half as wide. -/
def Interval.of (mantissa : Nat) (exponent : Int) : Interval :=
  let narrow := mantissa = twoTo 52 ∧ exponent > leastExponent
  let low := if narrow then 4 * mantissa - 1 else 4 * mantissa - 2
  let up := if exponent < 0 then 1 else twoTo exponent.toNat
  let down := if exponent < 0 then twoTo (-exponent).toNat else 1
  { low := low * up, value := 4 * mantissa * up, high := (4 * mantissa + 2) * up,
    den := 4 * down, closed := mantissa % 2 == 0 }

def Interval.holds (i : Interval) (digits : Nat) (place : Int) : Bool :=
  let n := if place < 0 then digits else digits * tenTo place.toNat
  let d := if place < 0 then tenTo (-place).toNat else 1
  let low := compare (i.low * d) (n * i.den)
  let high := compare (n * i.den) (i.high * d)
  let within (o : Ordering) := o == .lt || (i.closed && o == .eq)
  within low && within high

/-- The number of whole units of `10 ^ place` in the value, and twice the rest against one unit. -/
def Interval.onGrid (i : Interval) (place : Int) : Nat × Ordering :=
  let n := if place < 0 then i.value * tenTo (-place).toNat else i.value
  let d := if place < 0 then i.den else i.den * tenTo place.toNat
  (n / d, compare (2 * (n % d)) d)

/-- The grid point of `10 ^ place` that reads back, the nearer one where both neighbours do. -/
def Interval.pick? (i : Interval) (place : Int) : Option Nat :=
  let (q, half) := i.onGrid place
  let below := q != 0 && i.holds q place
  let above := i.holds (q + 1) place
  if below && above then
    match half with
    | .lt => some q
    | .gt => some (q + 1)
    | .eq => some (if q % 2 = 0 then q else q + 1)
  else if below then some q
  else if above then some (q + 1)
  else none

/-- The first grid, from coarse to fine, on which the value has a point. -/
def Interval.search (i : Interval) : Nat → Int → Nat × Int
  | 0, place => ((i.onGrid place).1, place)
  | fuel + 1, place =>
    match i.pick? place with
    | some digits => (digits, place)
    | none => i.search fuel (place - 1)

/-- The decimal digits and the power of ten of a positive finite value, as few digits as read back
as it.  The search starts above the value and takes at most eighteen grids below its first digit. -/
def shortest (mantissa : Nat) (exponent : Int) : Nat × Int :=
  let i := Interval.of mantissa exponent
  let bits : Int := (Nat.log2 mantissa : Int) + exponent
  i.search 24 (bits * 30103 / 100000 + 2)

/-! ## Layout -/

/-- Where positional notation ends: the decimal point may stand from `leastPoint` to `greatestPoint`
places right of the first digit, and an exponent has at least `exponentWidth` digits. -/
structure Layout where
  leastPoint : Int
  greatestPoint : Int
  exponentWidth : Nat

/-- Doubles are positional from `1e-4` up to below `1e16`. -/
def layout : Layout := ⟨-3, 16, 2⟩

def padLeft (width : Nat) (s : String) : String :=
  String.ofList (List.replicate (width - s.length) '0') ++ s

/-- The digits of a positive value laid out, with a point or an exponent in any case. -/
def Layout.write (l : Layout) (digits : Nat) (place : Int) : String :=
  let ds := toString digits
  let trimmed := ((ds.toList.reverse.dropWhile (· == '0')).reverse)
  let point : Int := ds.length + place
  if l.leastPoint ≤ point ∧ point ≤ l.greatestPoint then
    if point ≤ 0 then
      "0." ++ String.ofList (List.replicate (-point).toNat '0' ++ trimmed)
    else
      let whole := trimmed.take point.toNat
      let zeros := List.replicate (point.toNat - whole.length) '0'
      let rest := trimmed.drop point.toNat
      String.ofList (whole ++ zeros) ++ "." ++ (if rest.isEmpty then "0" else String.ofList rest)
  else
    let e := point - 1
    let head := String.ofList (trimmed.take 1)
    let rest := trimmed.drop 1
    let mark := if rest.isEmpty then "" else "." ++ String.ofList rest
    let sign := if e < 0 then "-" else "+"
    head ++ mark ++ "e" ++ sign ++ padLeft l.exponentWidth (toString e.natAbs)

/-- A double as text: the fewest digits that read back as it. -/
def render : Double → String
  | nan _ => "nan"
  | infinite s => if s then "-inf" else "inf"
  | finite s m e =>
    let body :=
      if m = 0 then "0.0"
      else
        let d := shortest m e
        layout.write d.1 d.2
    if s then "-" ++ body else body

/-! ## Fixed places -/

def fixed (places : Nat) : Double → String
  | nan _ => "nan"
  | infinite s => if s then "-inf" else "inf"
  | finite s m e =>
    let parts := scaled (m * tenTo places) 1 (-e)
    let n := roundDiv parts.1 parts.2
    let text := padLeft (places + 1) (toString n)
    let cut := text.length - places
    let whole := String.ofList (text.toList.take cut)
    let rest := String.ofList (text.toList.drop cut)
    (if s then "-" else "") ++ whole ++ (if places = 0 then "" else "." ++ rest)

end Double

end SourceOutline
