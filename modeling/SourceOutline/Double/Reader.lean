import SourceOutline.Double.Basic
import SourceOutline.Text.Blank
import SourceOutline.Text.Digit

/-!
# Reader — doubles written by people

A number is written with an optional sign, digits with an optional point among them, and an optional
power of ten.  Digits may be those of any script, and single underscores may part the characters.
The two infinities and not-a-number are written as words in any case.  White space around the number
does not matter, apart from the information separators, which are no part of a number.
-/

namespace SourceOutline

namespace Double

def isDigit (c : Char) : Bool :=
  '0' ≤ c && c ≤ '9'

def digitRun (cs : List Char) : List Char × List Char :=
  (cs.takeWhile isDigit, cs.dropWhile isDigit)

def ofDigits (ds : List Char) : Nat :=
  ds.foldl (fun n c => n * 10 + (c.toNat - 48)) 0

def signed (cs : List Char) : Bool × List Char :=
  match cs with
  | '-' :: rest => (true, rest)
  | '+' :: rest => (false, rest)
  | _ => (false, cs)

/-- The power of ten that is written at the end; nothing stands for nought. -/
def powerOfTen? (cs : List Char) : Option Int :=
  match cs with
  | [] => some 0
  | mark :: rest =>
    if mark = 'e' ∨ mark = 'E' then
      let (negative, digits) := signed rest
      let (ds, after) := digitRun digits
      if ds.isEmpty || !after.isEmpty then none
      else
        let n : Int := ofDigits ds
        some (if negative then -n else n)
    else none

def ofPoint? (negative : Bool) (cs : List Char) : Option Double :=
  let (before, afterwards) := digitRun cs
  let (fraction, rest) :=
    match afterwards with
    | '.' :: more => digitRun more
    | _ => ([], afterwards)
  if before.isEmpty && fraction.isEmpty then none
  else
    (powerOfTen? rest).map fun power =>
      ofDecimal negative (ofDigits (before ++ fraction)) (power - (fraction.length : Int))

/-- The double that characters write, with ASCII digits and nothing around it. -/
def ofPlain? (cs : List Char) : Option Double :=
  let (negative, rest) := signed cs
  match String.ofList (rest.map Char.toLower) with
  | "inf" | "infinity" => some (.infinite negative)
  | "nan" => some (.nan negative)
  | _ => ofPoint? negative rest

/-- White space around a number: ASCII white space, and what is blank beyond ASCII. -/
def isMargin (c : Char) : Bool :=
  c == ' ' || (9 ≤ c.toNat && c.toNat ≤ 13) || (0x80 ≤ c.toNat && isBlankCode c.toNat)

def toAsciiDigit (c : Char) : Char :=
  match decimalDigit? c with
  | some d => Char.ofNat (48 + d)
  | none => c

/-- Characters without the underscores that part them.  An underscore at an end, or one after
another, parts nothing. -/
def dropParting? (cs : List Char) : Option (List Char) :=
  let parts (c : Option Char) := c == some '_'
  let doubled := (cs.zip (cs.drop 1)).any fun p => p.1 == '_' && p.2 == '_'
  if parts cs.head? || parts cs.getLast? || doubled then none else some (cs.filter (· != '_'))

def ofText? (s : String) : Option Double :=
  (dropParting? ((trimBy isMargin s.toList).map toAsciiDigit)).bind ofPlain?

end Double

end SourceOutline
