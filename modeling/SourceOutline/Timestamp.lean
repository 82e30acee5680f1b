import SourceOutline.Calendar
import SourceOutline.Double.Decimal
import SourceOutline.Value.Number

/-!
# Timestamp — points in time

* `Timestamp` — a date and a time of day, with an offset from universal time or without;
* `Timestamp.isValid` — whether there is such a time;
* `Timestamp.render` — the date and the time, microseconds only when there are some;
* `Timestamp.same` — whether two timestamps are one point in time;
* `Timestamp.ofEpoch` — the timestamp of a number of seconds since the start of 1970.
-/

namespace SourceOutline

/-- A point in time; `offset` is in minutes. -/
structure Timestamp where
  date : Date
  hour : Nat
  minute : Nat
  second : Nat
  microsecond : Nat
  offset : Option Int := none
  deriving DecidableEq

def paddedNumber (width : Nat) (n : Nat) : String :=
  Double.padLeft width (toString n)

def Date.render (d : Date) : String :=
  paddedNumber 4 d.year ++ "-" ++ paddedNumber 2 d.month ++ "-" ++ paddedNumber 2 d.day

namespace Timestamp

/-! ## Validity -/

/-- Whether there is such a time: the date is in the calendar, and the offset is less than a day. -/
def isValid (t : Timestamp) : Bool :=
  t.date.isValid && t.hour < 24 && t.minute < 60 && t.second < 60 && t.microsecond < 1000000 &&
    (match t.offset with
      | some m => -1440 < m && m < 1440
      | none => true)

/-! ## Writing -/

def renderOffset (minutes : Int) : String :=
  let n := minutes.natAbs
  (if minutes < 0 then "-" else "+") ++ paddedNumber 2 (n / 60) ++ ":" ++ paddedNumber 2 (n % 60)

/-- The date, a mark, the time, the microseconds if there are some, and the offset if there is
one. -/
def renderWith (mark : String) (t : Timestamp) : String :=
  t.date.render ++ mark ++ paddedNumber 2 t.hour ++ ":" ++ paddedNumber 2 t.minute ++ ":" ++
    paddedNumber 2 t.second ++
    (if t.microsecond = 0 then "" else "." ++ paddedNumber 6 t.microsecond) ++
    (match t.offset with
      | some m => renderOffset m
      | none => "")

def render (t : Timestamp) : String :=
  t.renderWith "T"

/-! ## Equality -/

/-- The microseconds since the start of 1970 by the timestamp's own clock. -/
def localMicroseconds (t : Timestamp) : Int :=
  let seconds : Int := t.date.dayNumber * 86400 + ((t.hour * 60 + t.minute) * 60 + t.second : Nat)
  seconds * 1000000 + t.microsecond

/-- Whether two timestamps are one point in time.  One with an offset is never one without. -/
def same (t u : Timestamp) : Bool :=
  match t.offset, u.offset with
  | none, none => t.localMicroseconds == u.localMicroseconds
  | some m, some n =>
    t.localMicroseconds - m * 60000000 == u.localMicroseconds - n * 60000000
  | _, _ => false

/-! ## Seconds -/

/-- Whole seconds, and the parts of a second counted in units of which `scale` make one.  The parts
are multiplied out as a double and then made an integer by `round`. -/
def splitSeconds (scale : Nat) (round : Double → Int) (x : Double) : Int × Int :=
  let whole := x.whole
  let parts := round ((x.sub (Double.ofInt whole)).mul (Double.ofInt scale))
  if (scale : Int) ≤ parts then (whole + 1, parts - scale)
  else if parts < 0 then (whole - 1, parts + scale)
  else (whole, parts)

def kept (x : Double) : Double :=
  let (seconds, nanoseconds) := splitSeconds 1000000000 Double.floor x
  (Double.ofInt seconds).add ((Double.ofRatio false 1 1000000000).mul (Double.ofInt nanoseconds))

def ofSeconds (seconds microseconds : Int) : Timestamp :=
  let time := (seconds % 86400).toNat
  { date := Date.ofDayNumber (seconds / 86400), hour := time / 3600, minute := time / 60 % 60,
    second := time % 60, microsecond := microseconds.toNat }

/-- The timestamp, without an offset, of seconds since the start of 1970, as a file keeps them and
rounded to the nearest microsecond. -/
def ofEpoch (seconds : Number) : Timestamp :=
  match seconds with
  | .int n => ofSeconds n 0
  | .flag b => ofSeconds (if b then 1 else 0) 0
  | .float x =>
    let (whole, micros) := splitSeconds 1000000 Double.nearest (kept x)
    ofSeconds whole micros

end Timestamp

end SourceOutline
