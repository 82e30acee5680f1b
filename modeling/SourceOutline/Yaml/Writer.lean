import SourceOutline.Yaml.Scalar

/-!
# Writer — a value as a document's text

Maps and lists are written in lines, two columns deeper for each map inside a map; lists stand no
deeper than the key they belong to.  A key that is long or has line ends stands after a question
mark.
-/

namespace SourceOutline

namespace Yaml

/-! ## Styles -/

/-- Which characters are written as themselves: those of ASCII, or nearly all that can be shown. -/
inductive Alphabet where
  | ascii
  | unicode
  deriving DecidableEq

inductive Style where
  | plain
  | single
  | double
  deriving DecidableEq

def isTextBreak (c : Char) : Bool :=
  c == '\n' || c.toNat == 0x85 || c.toNat == 0x2028 || c.toNat == 0x2029

/-- White space next to which an indicator counts. -/
def isWhite (c : Char) : Bool :=
  c == ' ' || c == '\t' || c == '\r' || c.toNat == 0 || isTextBreak c

/-- The length, that of the name of its kind included, from which on a key stands on lines of its
own. -/
def simpleKeyLimit : Nat := 128

/-- Whether a character needs no quotes that allow escapes. -/
def Alphabet.shows (a : Alphabet) (c : Char) : Bool :=
  let n := c.toNat
  c == '\n' || (0x20 ≤ n && n ≤ 0x7E) ||
    (a == .unicode && n != 0xFEFF &&
      (n == 0x85 || (0xA0 ≤ n && n ≤ 0xFFFD) || (0x10000 ≤ n && n < 0x10FFFF)))

/-- Characters that begin no plain text. -/
def isLeadIndicator (c : Char) : Bool :=
  "#,[]&*!|>%@".toList.contains c ||
    [0x7B, 0x7D, 0x27, 0x22, 0x60].contains c.toNat

/-- Whether a text holds an indicator that keeps it from being plain.  `white` tells whether white
space stands before it. -/
def hasIndicator (first white : Bool) : List Char → Bool
  | [] => false
  | c :: rest =>
    let followed := (rest.head?.map isWhite).getD true
    let here :=
      if first then isLeadIndicator c || ((c == '?' || c == ':' || c == '-') && followed)
      else (c == ':' && followed) || (c == '#' && white)
    here || hasIndicator false (isWhite c) rest

/-- Whether a text begins like a mark between documents. -/
def startsLikeMark (cs : List Char) : Bool :=
  cs.take 3 == ['-', '-', '-'] || cs.take 3 == ['.', '.', '.']

def hasPair (p q : Char → Bool) : List Char → Bool
  | a :: b :: rest => (p a && q b) || hasPair p q (b :: rest)
  | _ => false

def styleOf (a : Alphabet) (s : String) : Style :=
  let cs := s.toList
  let edge (c : Option Char) := (c.map fun c => c == ' ' || isTextBreak c).getD false
  let multiline := cs.any isTextBreak
  let special := cs.any (fun c => !a.shows c) || hasPair (· == ' ') isTextBreak cs
  let unquotable := special || hasPair isTextBreak (· == ' ') cs
  let isText : Bool :=
    match Plain.resolve s with
    | .text => true
    | _ => false
  if isText && !cs.isEmpty && !edge cs.head? && !edge cs.getLast? && !unquotable && !multiline &&
      !startsLikeMark cs && !hasIndicator true true cs then
    .plain
  else if !unquotable then .single
  else .double

/-! ## Texts -/

/-- A text that is being written: its characters, latest first, and the column reached. -/
structure Line where
  out : List Char := []
  column : Nat := 0

namespace Line

def add (l : Line) (cs : List Char) : Line :=
  { out := cs.reverse ++ l.out, column := l.column + cs.length }

def wrap (l : Line) (indent : Nat) : Line :=
  { out := List.replicate indent ' ' ++ '\n' :: l.out, column := indent }

def lineEnd (l : Line) (c : Char) : Line :=
  { out := c :: l.out, column := 0 }

end Line

/-- The widest column after which a text is folded. -/
def bestWidth : Nat := 80

/-- A run of spaces, of line ends, or of other characters. -/
def segments : List Char → List (List Char)
  | [] => []
  | c :: rest =>
    let kind (d : Char) : Nat := if d == ' ' then 0 else if isTextBreak d then 1 else 2
    match segments rest with
    | (d :: run) :: more =>
      if kind c = kind d then (c :: d :: run) :: more else [c] :: (d :: run) :: more
    | other => [c] :: other

/-- Writes the segments of a text without escapes.  `quote` doubles single quotes, and `atStart`
says that nothing of the text stands before. -/
def writeSegments (fold quote : Bool) (indent : Nat) (atStart : Bool) :
    List (List Char) → Line → Line
  | [], l => l
  | run :: rest, l =>
    let next :=
      match run with
      | [' '] =>
        let foldsHere := !quote || (!atStart && !rest.isEmpty)
        if fold && l.column > bestWidth && foldsHere then l.wrap indent else l.add run
      | c :: _ =>
        if isTextBreak c then
          let opened := if c == '\n' then l.lineEnd '\n' else l
          (run.foldl (fun k d => k.lineEnd d) opened).add (List.replicate indent ' ')
        else if quote then
          l.add (run.flatMap fun d => if d.toNat = 0x27 then [d, d] else [d])
        else l.add run
      | [] => l
    writeSegments fold quote indent false rest next

def letterEscapes : List (Nat × Char) :=
  [(0, '0'), (7, 'a'), (8, 'b'), (9, 't'), (10, 'n'), (11, 'v'), (12, 'f'), (13, 'r'), (0x1B, 'e'),
    (0x22, Char.ofNat 0x22), (0x5C, Char.ofNat 0x5C), (0x85, 'N'), (0xA0, '_'), (0x2028, 'L'),
    (0x2029, 'P')]

def upperHex (width n : Nat) : List Char :=
  (Quoted.hexDigits width n).map Char.toUpper

/-- Whether a code point is written as itself between double quotes. -/
def Alphabet.keeps (a : Alphabet) (n : Nat) : Bool :=
  (0x20 ≤ n && n ≤ 0x7E && n != 0x22 && n != 0x5C) ||
    (a == .unicode && n != 0x2028 && n != 0x2029 && n != 0xFEFF &&
      ((0xA0 ≤ n && n ≤ 0xD7FF) || (0xE000 ≤ n && n ≤ 0xFFFD)))

def escape? (a : Alphabet) (n : Nat) : Option (List Char) :=
  if a.keeps n then none
  else
    match letterEscapes.lookup n with
    | some letter => some [Quoted.backslash, letter]
    | none =>
      some (if n ≤ 0xFF then Quoted.backslash :: 'x' :: upperHex 2 n
        else if n ≤ 0xFFFF then Quoted.backslash :: 'u' :: upperHex 4 n
        else Quoted.backslash :: 'U' :: upperHex 8 n)

/-- Writes what stands between double quotes.  `pending` holds the characters that are not written
yet, latest first, and `position` counts the code points read. -/
def writeEscaped (a : Alphabet) (fold : Bool) (indent size : Nat) :
    Nat → List Char → Text → Line → Line
  | _, pending, [], l => l.add pending.reverse
  | position, pending, c :: rest, l =>
    let escape := escape? a c.val
    let flushed := if escape.isSome then (l.add pending.reverse).add (escape.getD []) else l
    let held := if escape.isSome then [] else pending
    let startsHere := escape.isSome || held.isEmpty
    let reached := flushed.column + held.length
    let limit := if escape.isSome then bestWidth + 1 else bestWidth
    let inside := 0 < position && position + 1 < size
    if fold && inside && (c.val == 0x20 || startsHere) && reached > limit then
      let wrapped := ((flushed.add held.reverse).add [Quoted.backslash]).wrap indent
      let following := if escape.isSome then rest.head? else some c
      let marked :=
        if following.map CodePoint.val == some 0x20 then wrapped.add [Quoted.backslash] else wrapped
      writeEscaped a fold indent size (position + 1) (if escape.isSome then [] else [c.toChar]) rest
        marked
    else
      writeEscaped a fold indent size (position + 1)
        (if escape.isSome then [] else c.toChar :: held) rest flushed

def writeDouble (a : Alphabet) (isKey : Bool) (column indent : Nat) (t : Text) : String :=
  let double := Quoted.doubleQuote
  let opened : Line := ({ column } : Line).add [double]
  String.ofList ((writeEscaped a (!isKey) indent t.length 0 [] t opened).add [double]).out.reverse

def writePlain (isKey : Bool) (column indent : Nat) (s : String) : String :=
  let written := writeSegments (!isKey) false indent true (segments s.toList) { column }
  String.ofList written.out.reverse

/-- A text in its style, where the column reached and the indent of further lines are given.  A key
is not folded. -/
def writeText (a : Alphabet) (isKey : Bool) (column indent : Nat) (s : String) : String :=
  match styleOf a s with
  | .plain => writePlain isKey column indent s
  | .single =>
    let single := Quoted.singleQuote
    let opened : Line := ({ column } : Line).add [single]
    let line := writeSegments (!isKey) true indent true (segments s.toList) opened
    String.ofList (line.add [single]).out.reverse
  | .double => writeDouble a isKey column indent (Text.ofString s)

/-! ## Values -/

def writeFloat (x : Double) : String :=
  match x with
  | .nan _ => ".nan"
  | .infinite s => if s then "-.inf" else ".inf"
  | .finite _ _ _ =>
    let s := x.render
    if s.toList.contains '.' then s
    else String.ofList (s.toList.flatMap fun c => if c == 'e' then ['.', '0', 'e'] else [c])

def writeScalar (a : Alphabet) (isKey : Bool) (column indent : Nat) : Value → String
  | .null => "null"
  | .bool b => if b then "true" else "false"
  | .int n => toString n
  | .float x => writeFloat x
  | .date d => d.render
  | .moment t => writePlain isKey column indent (t.renderWith " ")
  | .text s => writeText a isKey column indent s
  | .surrogateText t => writeDouble a isKey column indent t
  | .list _ => "[]"
  | .map _ => "\x7b\x7d"

/-- The name of a scalar's kind, which a key is measured with. -/
def kindTag : Value → String
  | .null => "!!null"
  | .bool _ => "!!bool"
  | .int _ => "!!int"
  | .float _ => "!!float"
  | .date _ => "!!timestamp"
  | .moment _ => "!!timestamp"
  | .text _ => "!!str"
  | .surrogateText _ => "!!str"
  | .list _ => "!!seq"
  | .map _ => "!!map"

/-- Whether a key can stand on one line before its colon: it is short and has no line ends. -/
def isSimpleKey (a : Alphabet) (k : Value) : Bool :=
  let fits (size : Nat) := (kindTag k).length + size < simpleKeyLimit
  match k with
  | .text s => s != "" && fits s.length && !s.toList.any isTextBreak
  | .surrogateText t => fits t.length && !t.any fun c => isTextBreak c.toChar
  | k => fits (writeScalar a true 0 0 k).length

def newLine (indent : Nat) : String :=
  String.ofList ('\n' :: List.replicate indent ' ')

mutual

/-- What stands after a key's colon, in a map at a column. -/
def writeAfterKey (a : Alphabet) (indent column : Nat) : Value → String
  | .map (e :: es) => newLine (indent + 2) ++ writeEntries a (indent + 2) (e :: es)
  | .list (v :: vs) => newLine indent ++ writeItems a indent (v :: vs)
  | v => " " ++ writeScalar a false (column + 1) (indent + 2) v

/-- What stands after the dash of an item, in a list at a column. -/
def writeAfterDash (a : Alphabet) (indent : Nat) : Value → String
  | .map (e :: es) => " " ++ writeEntries a (indent + 2) (e :: es)
  | .list (v :: vs) => " " ++ writeItems a (indent + 2) (v :: vs)
  | v => " " ++ writeScalar a false (indent + 2) (indent + 2) v

/-- The entries of a map, of which the first begins on the present line. -/
def writeEntries (a : Alphabet) (indent : Nat) : List (Value × Value) → String
  | [] => ""
  | (k, v) :: rest =>
    let entry :=
      if isSimpleKey a k then
        let key := writeScalar a true indent (indent + 2) k
        key ++ ":" ++ writeAfterKey a indent (indent + key.length + 1) v
      else
        "? " ++ writeScalar a false (indent + 2) (indent + 2) k ++ newLine indent ++ ":" ++
          writeAfterDash a indent v
    if rest.isEmpty then entry else entry ++ newLine indent ++ writeEntries a indent rest

/-- The items of a list, of which the first begins on the present line. -/
def writeItems (a : Alphabet) (indent : Nat) : List Value → String
  | [] => ""
  | v :: rest =>
    let item := "-" ++ writeAfterDash a indent v
    if rest.isEmpty then item else item ++ newLine indent ++ writeItems a indent rest

end

def isOpenEnded (a : Alphabet) : Value → Bool
  | .text s => styleOf a s == .plain
  | .surrogateText _ => false
  | .list _ => false
  | .map _ => false
  | _ => true

/-- The text of a value.  A plain scalar alone is followed by the mark that ends a document. -/
def writeIn (a : Alphabet) (v : Value) : String :=
  match v with
  | .map (e :: es) => writeEntries a 0 (e :: es) ++ "\n"
  | .list (x :: xs) => writeItems a 0 (x :: xs) ++ "\n"
  | v => writeScalar a false 0 2 v ++ "\n" ++ (if isOpenEnded a v then "...\n" else "")

def write (v : Value) : String :=
  writeIn .ascii v

end Yaml

end SourceOutline
