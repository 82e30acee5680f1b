import SourceOutline.Double.Decimal

/-!
# Number — the numbers of a document

A document gives a number as an integer of any size, as a double, or as a truth value, which counts
as one or nought.  Numbers of different kinds are compared by their exact values.
-/

namespace SourceOutline

/-- The greatest number of decimal digits that an integer may be read from or written with. -/
def decimalLimit : Nat := 4300

def isShowable (n : Int) : Bool :=
  n.natAbs < Double.tenTo decimalLimit

inductive Number where
  | int (n : Int)
  | float (x : Double)
  | flag (b : Bool)
  deriving DecidableEq

inductive Extended where
  | negInfinity
  | real (q : Rat)
  | posInfinity

namespace Extended

def lt : Extended → Extended → Bool
  | negInfinity, negInfinity => false
  | negInfinity, _ => true
  | real _, negInfinity => false
  | real p, real q => p < q
  | real _, posInfinity => true
  | posInfinity, _ => false

def le (x y : Extended) : Bool :=
  !lt y x

end Extended

def Double.value? : Double → Option Extended
  | .nan _ => none
  | .infinite s => some (if s then .negInfinity else .posInfinity)
  | x@(.finite _ _ _) => x.toRat?.map .real

namespace Number

def value? : Number → Option Extended
  | int n => some (.real n)
  | float x => x.value?
  | flag b => some (.real (if b then 1 else 0))

def lt (x y : Number) : Bool :=
  match x.value?, y.value? with
  | some a, some b => a.lt b
  | _, _ => false

def le (x y : Number) : Bool :=
  match x.value?, y.value? with
  | some a, some b => a.le b
  | _, _ => false

def same (x y : Number) : Bool :=
  x.le y && y.le x

def toDouble : Number → Double
  | int n => Double.ofInt n
  | float x => x
  | flag b => Double.ofInt (if b then 1 else 0)

/-- The double nearest to a number; an integer beyond all doubles has none. -/
def toDouble? : Number → Option Double
  | int n =>
    match Double.ofInt n with
    | .infinite _ => none
    | x => some x
  | x => some x.toDouble

def toInt? : Number → Option Int
  | int n => some n
  | flag b => some (if b then 1 else 0)
  | float _ => none

/-- The sum of two numbers: an integer if neither is a double, else a double. -/
def add? (x y : Number) : Option Number :=
  match x.toInt?, y.toInt? with
  | some m, some n => some (int (m + n))
  | _, _ =>
    match x.toDouble?, y.toDouble? with
    | some a, some b => some (float (a.add b))
    | _, _ => none

/-- Whether a count is a whole multiple of the number.  No count is a multiple of an infinity, of
not-a-number or of nought. -/
def divides (x : Number) (count : Nat) : Bool :=
  match x.value? with
  | some (.real q) => q != 0 && (((count : Int) : Rat) / q).den == 1
  | _ => false

def render : Number → String
  | int n => toString n
  | float x => x.render
  | flag b => if b then "True" else "False"

end Number

end SourceOutline
