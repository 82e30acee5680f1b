import SourceOutline.Value.Basic

/-!
# Scalar — what a plain scalar means

A scalar without quotes is a text unless its form is that of something else.  Some forms of numbers
and dates are met by characters that mean no number and no date.
-/

namespace SourceOutline

namespace Yaml

inductive Plain where
  | null
  | bool (b : Bool)
  | int (n : Int)
  | float (x : Double)
  | date (d : Date)
  | moment (t : Timestamp)
  /-- The mark under which a mapping takes over the entries of others. -/
  | merge
  /-- The mark for the value of a mapping, which is a text where it is a key. -/
  | standIn
  /-- The form of a number or of a date, which means none. -/
  | malformed
  /-- The form of a number beyond what a double can be multiplied by. -/
  | tooLarge
  | text

/-! ## Character classes -/

def isDecimal (c : Char) : Bool :=
  '0' ≤ c && c ≤ '9'

def isGrouped (c : Char) : Bool :=
  isDecimal c || c == '_'

def digitValue (c : Char) : Nat :=
  if isDecimal c then c.toNat - 48
  else if 'a' ≤ c && c ≤ 'f' then c.toNat - 87
  else if 'A' ≤ c && c ≤ 'F' then c.toNat - 55
  else 0

/-- The number that digits write in a base; underscores do not count. -/
def readDigits (base : Nat) (cs : List Char) : Nat :=
  (cs.filter (· != '_')).foldl (fun n c => n * base + digitValue c) 0

/-- How many digits there are, not counting underscores. -/
def countDigits (cs : List Char) : Nat :=
  (cs.filter (· != '_')).length

/-! ## Integers -/

/-- A sign and what follows it; without a sign the number is positive. -/
def splitSign : List Char → Bool × List Char
  | '-' :: rest => (true, rest)
  | '+' :: rest => (false, rest)
  | rest => (false, rest)

/-- The groups after colons in a number of base sixty, each below sixty and of one or two digits. -/
def sixtieths : List Char → Option (List Nat)
  | [] => some []
  | ':' :: a :: b :: rest =>
    if isDecimal a && isDecimal b then
      if a ≤ '5' then (sixtieths rest).map ((digitValue a * 10 + digitValue b) :: ·) else none
    else if isDecimal a then (sixtieths (b :: rest)).map (digitValue a :: ·)
    else none
  | [':', a] => if isDecimal a then some [digitValue a] else none
  | _ => none

/-- A number whose first group and further groups are given in base sixty. -/
def sexagesimal (first : Nat) (groups : List Nat) : Nat :=
  groups.foldl (fun n g => n * 60 + g) first

def signedInt (negative : Bool) (n : Nat) : Plain :=
  .int (if negative then -(n : Int) else n)

def basedInt (negative : Bool) (base : Nat) (digits : List Char) : Plain :=
  if countDigits digits = 0 then .malformed else signedInt negative (readDigits base digits)

def unsignedInteger? (negative : Bool) (cs : List Char) : Option Plain :=
  match cs with
  | '0' :: 'b' :: rest =>
    if !rest.isEmpty && rest.all (fun c => c == '0' || c == '1' || c == '_') then
      some (basedInt negative 2 rest)
    else none
  | '0' :: 'x' :: rest =>
    let isHex (c : Char) := isGrouped c || ('a' ≤ c && c ≤ 'f') || ('A' ≤ c && c ≤ 'F')
    if !rest.isEmpty && rest.all isHex then some (basedInt negative 16 rest) else none
  | '0' :: rest =>
    if rest.all (fun c => ('0' ≤ c && c ≤ '7') || c == '_') then
      some (signedInt negative (readDigits 8 rest))
    else none
  | c :: _ =>
    if '1' ≤ c && c ≤ '9' then
      let first := cs.takeWhile isGrouped
      (sixtieths (cs.dropWhile isGrouped)).map fun groups =>
        if decimalLimit < countDigits first then .malformed
        else signedInt negative (sexagesimal (readDigits 10 first) groups)
    else none
  | [] => none

def integer? (cs : List Char) : Option Plain :=
  let (negative, rest) := splitSign cs
  unsignedInteger? negative rest

/-! ## Numbers with a point -/

/-- A power of ten after a mantissa: nothing, or a mark, a sign and digits. -/
def exponent? : List Char → Option Int
  | [] => some 0
  | mark :: sign :: digits =>
    if (mark == 'e' || mark == 'E') && (sign == '+' || sign == '-') && !digits.isEmpty &&
        digits.all isDecimal then
      let n : Int := readDigits 10 digits
      some (if sign == '-' then -n else n)
    else none
  | _ => none

/-- A number with a point: digits before it, digits after it, and a power of ten. -/
def pointed (negative : Bool) (whole fraction : List Char) (power : Int) : Double :=
  Double.ofDecimal negative (readDigits 10 (whole ++ fraction)) (power - countDigits fraction)

/-- The sum of the groups of base sixty, least first, each multiplied by its power of sixty and
rounded on its way.  There is none where a power is beyond the doubles. -/
def sumOfSixtieths : Nat → Double → List Double → Option Double
  | _, sum, [] => some sum
  | power, sum, group :: rest =>
    match Double.ofInt power with
    | .infinite _ => none
    | factor => sumOfSixtieths (power * 60) (sum.add (group.mul factor)) rest

/-- A number in base sixty whose last group has a fraction. -/
def pointedSixtieths (negative : Bool) (whole : List Char) (groups : List Nat)
    (fraction : List Char) : Plain :=
  let scale := countDigits fraction
  let last := Double.ofDecimal false
    (groups.getLast?.getD 0 * Double.tenTo scale + readDigits 10 fraction) (-(scale : Int))
  let middle := groups.dropLast.reverse.map fun (n : Nat) => Double.ofInt n
  match sumOfSixtieths 1 (Double.zero false)
      (last :: middle ++ [pointed false whole [] 0]) with
  | some x => .float (if negative then x.neg else x)
  | none => .tooLarge

def floating? (cs : List Char) : Option Plain :=
  let (negative, rest) := splitSign cs
  match rest with
  | '.' :: name =>
    let word := String.ofList name
    if word = "inf" ∨ word = "Inf" ∨ word = "INF" then some (.float (.infinite negative))
    else if cs.length = 4 ∧ (word = "nan" ∨ word = "NaN" ∨ word = "NAN") then
      some (.float Double.invalid)
    else if rest.length = cs.length ∧ (name.head?.map isDecimal).getD false then
      let fraction := name.takeWhile isGrouped
      (exponent? (name.dropWhile isGrouped)).map fun power =>
        .float (pointed false [] fraction power)
    else none
  | c :: _ =>
    if isDecimal c then
      let whole := rest.takeWhile isGrouped
      let colons := (rest.dropWhile isGrouped).takeWhile (· != '.')
      match (rest.dropWhile isGrouped).dropWhile (· != '.') with
      | '.' :: tail =>
        let fraction := tail.takeWhile isGrouped
        let after := tail.dropWhile isGrouped
        match sixtieths colons with
        | none => none
        | some [] =>
          (exponent? after).map fun power => .float (pointed negative whole fraction power)
        | some groups =>
          if after.isEmpty then some (pointedSixtieths negative whole groups fraction) else none
      | _ => none
    else none
  | [] => none

/-! ## Dates -/

def oneOrTwo : List Char → Option (Nat × List Char)
  | a :: b :: rest =>
    if isDecimal a then
      some (if isDecimal b then (digitValue a * 10 + digitValue b, rest)
        else (digitValue a, b :: rest))
    else none
  | [a] => if isDecimal a then some (digitValue a, []) else none
  | [] => none

def exactlyTwo : List Char → Option (Nat × List Char)
  | a :: b :: rest =>
    if isDecimal a && isDecimal b then some (digitValue a * 10 + digitValue b, rest) else none
  | _ => none

def afterChar (c : Char) : List Char → Option (List Char)
  | d :: rest => if d = c then some rest else none
  | [] => none

/-- Whether a character separates the parts of a time. -/
def isGap (c : Char) : Bool :=
  c == ' ' || c == '\t'

/-- The offset from universal time in minutes, where nothing stands for none: a Z, or a sign, hours,
and perhaps minutes. -/
def zone? (cs : List Char) : Option (Option Int) :=
  match cs with
  | [] => some none
  | ['Z'] => some (some 0)
  | sign :: rest =>
    if sign == '+' || sign == '-' then do
      let (hours, more) ← oneOrTwo rest
      let minutes ←
        if more.isEmpty then some 0
        else do
          let (n, after) ← (afterChar ':' more).bind exactlyTwo
          if after.isEmpty then some n else none
      let offset : Int := ((hours * 60 + minutes : Nat) : Int)
      some (some (if sign == '-' then -offset else offset))
    else none

/-- The microseconds that the digits after a point write; further digits do not count. -/
def microseconds (digits : List Char) : Nat :=
  readDigits 10 ((digits ++ List.replicate 6 '0').take 6)

/-- A time of day on a date, with an optional fraction and an optional zone. -/
def time? (date : Date) (cs : List Char) : Option Timestamp := do
  let (hour, cs) ← oneOrTwo cs
  let (minute, cs) ← (afterChar ':' cs).bind exactlyTwo
  let (second, cs) ← (afterChar ':' cs).bind exactlyTwo
  let (fraction, cs) :=
    match cs with
    | '.' :: more => (more.takeWhile isDecimal, more.dropWhile isDecimal)
    | _ => ([], cs)
  let rest := cs.dropWhile isGap
  if rest.isEmpty && !cs.isEmpty then none
  else
    let offset ← zone? rest
    some { date, hour, minute, second, microsecond := microseconds fraction, offset }

/-- What characters mean that have the form of a date, or of a date with a time. -/
def date? (cs : List Char) : Option Plain :=
  let year := cs.take 4
  if year.length = 4 && year.all isDecimal then
    let rest := cs.drop 4
    let strict := do
      let (month, rest) ← (afterChar '-' rest).bind exactlyTwo
      let (day, rest) ← (afterChar '-' rest).bind exactlyTwo
      if rest.isEmpty then some ({ year := readDigits 10 year, month, day } : Date) else none
    let timed := do
      let (month, rest) ← (afterChar '-' rest).bind oneOrTwo
      let (day, rest) ← (afterChar '-' rest).bind oneOrTwo
      let date : Date := { year := readDigits 10 year, month, day }
      match rest with
      | c :: more =>
        if c == 'T' || c == 't' then time? date more
        else if isGap c then time? date (more.dropWhile isGap)
        else none
      | [] => none
    match strict, timed with
    | some d, _ => some (if d.isValid then .date d else .malformed)
    | none, some t => some (if t.isValid then .moment t else .malformed)
    | none, none => none
  else none

/-! ## Meaning -/

def trueWords : List String :=
  ["yes", "Yes", "YES", "true", "True", "TRUE", "on", "On", "ON"]

def falseWords : List String :=
  ["no", "No", "NO", "false", "False", "FALSE", "off", "Off", "OFF"]

def nullWords : List String :=
  ["", "~", "null", "Null", "NULL"]

def Plain.resolve (s : String) : Plain :=
  let cs := s.toList
  if trueWords.contains s then bool true
  else if falseWords.contains s then bool false
  else if nullWords.contains s then null
  else if s = "<<" then merge
  else if s = "=" then standIn
  else (((integer? cs).or (floating? cs)).or (date? cs)).getD text

end Yaml

end SourceOutline
