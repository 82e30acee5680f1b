import SourceOutline.Yaml.Scalar

/-!
# Token — the parts of a document's text

A document's text is cut into tokens.  Indentation becomes tokens too: a block opens where a line
stands further right than the block around it, and closes where a line stands further left.  A key
is recognised only at the colon after it, so its token is put in before what has been read since.
-/

namespace SourceOutline

namespace Yaml

inductive Token where
  | documentStart
  | documentEnd
  | blockSequence
  | blockMapping
  | blockEnd
  | flowSequence
  | flowMapping
  | flowSequenceEnd
  | flowMappingEnd
  | entry
  | comma
  | key
  | value
  | plain (text : List Char)
  | quoted (text : Text)
  /-- An escape by a number that no code point has.  Nothing is read after it. -/
  | noCodePoint (number : Nat)
  deriving DecidableEq

/-! ## Characters -/

def isBreak (c : Char) : Bool :=
  c == '\n' || c.toNat == 0x2028 || c.toNat == 0x2029

def isSeparator (c : Char) : Bool :=
  c == ' ' || c == '\t' || isBreak c

/-- Whether a token ends before these characters. -/
def endsToken : List Char → Bool
  | [] => true
  | c :: _ => isSeparator c

/-- Characters that have a meaning of their own in collections written in brackets. -/
def isFlowMark (c : Char) : Bool :=
  c == ',' || c == '[' || c == ']' || c.toNat == 0x7B || c.toNat == 0x7D

def isAllowed (c : Char) : Bool :=
  let n := c.toNat
  n == 9 || n == 10 || n == 13 || (0x20 ≤ n && n ≤ 0x7E) || n == 0x85 || (0xA0 ≤ n && n ≤ 0xD7FF) ||
    (0xE000 ≤ n && n ≤ 0xFFFD) || 0x10000 ≤ n

def unifyBreaks : List Char → List Char
  | [] => []
  | '\r' :: '\n' :: rest => '\n' :: unifyBreaks rest
  | '\r' :: rest => '\n' :: unifyBreaks rest
  | c :: rest => (if c.toNat = 0x85 then '\n' else c) :: unifyBreaks rest

/-! ## Cursor -/

/-- Where a text stands: characters read, lines read, and characters of the line read. -/
structure Place where
  index : Nat := 0
  line : Nat := 0
  column : Nat := 0

def Place.after (p : Place) (c : Char) : Place :=
  if isBreak c then { index := p.index + 1, line := p.line + 1, column := 0 }
  else if c.toNat = 0xFEFF then { p with index := p.index + 1 }
  else { p with index := p.index + 1, column := p.column + 1 }

structure Cursor where
  rest : List Char
  place : Place := {}

namespace Cursor

def skip : Nat → Cursor → Cursor
  | 0, c => c
  | n + 1, c =>
    match c.rest with
    | [] => c
    | x :: rest => skip n { rest, place := c.place.after x }

def run (p : Char → Bool) (c : Cursor) : List Char × Cursor :=
  let taken := c.rest.takeWhile p
  (taken, c.skip taken.length)

/-- Whether a line of three dashes or three dots begins here. -/
def atDocumentMark (c : Cursor) : Bool :=
  match c.rest with
  | x :: y :: z :: rest => (x == '-' || x == '.') && x == y && y == z && endsToken rest
  | _ => false

/-- Skips spaces, comments and line ends; tells whether a line end was among them. -/
def skipBlank (comment seen : Bool) (place : Place) : List Char → Cursor × Bool
  | [] => ({ rest := [], place }, seen)
  | c :: rest =>
    if isBreak c then skipBlank false true (place.after c) rest
    else if comment || c == ' ' then skipBlank comment seen (place.after c) rest
    else if c == '#' then skipBlank true seen (place.after c) rest
    else ({ rest := c :: rest, place }, seen)

/-- The line ends after a first one, without the blanks around them, or nothing where a mark between
documents stands in the way. -/
def furtherBreaks (isBlank : Char → Bool) : Nat → Cursor → Option (List Char × Cursor)
  | 0, _ => none
  | fuel + 1, c =>
    if c.atDocumentMark then none
    else
      let d := (c.run isBlank).2
      match d.rest with
      | x :: _ =>
        if isBreak x then
          (furtherBreaks isBlank fuel (d.skip 1)).map fun r => (x :: r.1, r.2)
        else some ([], d)
      | [] => some ([], d)

/-- What a line end and the further ones stand for in a scalar: a single line feed is a space. -/
def fold (first : Char) (further : List Char) : List Char :=
  if first != '\n' then first :: further
  else if further.isEmpty then [' ']
  else further

end Cursor

/-! ## Plain scalars -/

/-- The characters of a plain scalar up to the next separator or mark. -/
def plainRun (inFlow : Bool) : List Char → List Char
  | [] => []
  | c :: rest =>
    let stopsAtColon := c == ':' &&
      (endsToken rest || (inFlow && (rest.head?.map isFlowMark).getD false))
    if isSeparator c || stopsAtColon || (inFlow && (isFlowMark c || c == '?')) then []
    else c :: plainRun inFlow rest

/-- The rest of a plain scalar: its characters, the cursor after it, and whether it went over a line
end.  `indent` is the least column of its further lines. -/
def scanPlain (inFlow : Bool) (indent : Int) : Nat → List Char → Bool → Cursor →
    List Char × Cursor × Bool
  | 0, done, broken, c => (done, c, broken)
  | fuel + 1, done, broken, c =>
    if c.rest.head? = some '#' then (done, c, broken)
    else
      let word := plainRun inFlow c.rest
      if word.isEmpty then (done, c, broken)
      else
        let text := done ++ word
        let after := c.skip word.length
        let (spaces, d) := after.run (· == ' ')
        match d.rest with
        | x :: _ =>
          if isBreak x then
            match (d.skip 1).furtherBreaks (· == ' ') (d.rest.length + 1) with
            | none => (text, d.skip 1, true)
            | some (further, e) =>
              if e.rest.head? = some '#' || (!inFlow && (e.place.column : Int) < indent) ||
                  (plainRun inFlow e.rest).isEmpty then
                (text, e, true)
              else scanPlain inFlow indent fuel (text ++ Cursor.fold x further) false e
          else if spaces.isEmpty || x == '#' || (plainRun inFlow d.rest).isEmpty then
            (text, d, false)
          else scanPlain inFlow indent fuel (text ++ spaces) false d
        | [] => (text, d, false)

/-! ## Quoted scalars -/

def shortEscapes : List (Char × Nat) :=
  [('0', 0), ('a', 7), ('b', 8), ('t', 9), ('\t', 9), ('n', 10), ('v', 11), ('f', 12), ('r', 13),
    ('e', 0x1B), (' ', 0x20), ('/', 0x2F), ('N', 0x85), ('_', 0xA0), ('L', 0x2028), ('P', 0x2029)]

def longEscape? (c : Char) : Option Nat :=
  if c == 'x' then some 2 else if c == 'u' then some 4 else if c == 'U' then some 8 else none

def isHexadecimal (c : Char) : Bool :=
  isDecimal c || ('a' ≤ c && c ≤ 'f') || ('A' ≤ c && c ≤ 'F')

inductive QuotedReading where
  | done (text : Text) (after : Cursor)
  | noCodePoint (number : Nat)
  | broken

def isSpaceOrTab (c : Char) : Bool :=
  c == ' ' || c == '\t'

def pushAll (cs : List Char) (read : Text) : Text :=
  cs.foldl (fun t c => CodePoint.ofChar c :: t) read

/-- The rest of a scalar between quotes; `isDouble` tells the kind of quotes, and `read` holds what
was read, latest first. -/
def scanQuoted (isDouble : Bool) : Nat → Text → Cursor → QuotedReading
  | 0, _, _ => .broken
  | fuel + 1, read, c =>
    match c.rest with
    | [] => .broken
    | x :: rest =>
      if x.toNat = 0x27 ∧ !isDouble then
        match rest with
        | y :: _ =>
          if y.toNat = 0x27 then scanQuoted isDouble fuel (CodePoint.ofChar x :: read) (c.skip 2)
          else .done read.reverse (c.skip 1)
        | [] => .done read.reverse (c.skip 1)
      else if x.toNat = 0x22 ∧ isDouble then .done read.reverse (c.skip 1)
      else if x.toNat = 0x5C ∧ isDouble then
        match rest with
        | [] => .broken
        | y :: _ =>
          if isBreak y then
            match (c.skip 2).furtherBreaks isSpaceOrTab (rest.length + 1) with
            | none => .broken
            | some (further, d) => scanQuoted isDouble fuel (pushAll further read) d
          else if y.toNat = 0x22 ∨ y.toNat = 0x5C then
            scanQuoted isDouble fuel (CodePoint.ofChar y :: read) (c.skip 2)
          else
            match shortEscapes.lookup y, longEscape? y with
            | some n, _ => scanQuoted isDouble fuel (CodePoint.ofNat n :: read) (c.skip 2)
            | none, some width =>
              let digits := (c.skip 2).rest.take width
              if digits.length = width && digits.all isHexadecimal then
                let n := readDigits 16 digits
                if n < 0x110000 then
                  scanQuoted isDouble fuel (CodePoint.ofNat n :: read) (c.skip (2 + width))
                else .noCodePoint n
              else .broken
            | none, none => .broken
      else if isSeparator x then
        let (spaces, d) := c.run isSpaceOrTab
        match d.rest with
        | [] => .broken
        | y :: _ =>
          if isBreak y then
            match (d.skip 1).furtherBreaks isSpaceOrTab (d.rest.length + 1) with
            | none => .broken
            | some (further, e) =>
              scanQuoted isDouble fuel (pushAll (Cursor.fold y further) read) e
          else scanQuoted isDouble fuel (pushAll spaces read) d
      else scanQuoted isDouble fuel (CodePoint.ofChar x :: read) (c.skip 1)

/-! ## Scanner -/

/-- A place where a key may begin, if a colon follows on the same line. -/
structure KeyStart where
  /-- How many brackets are open there. -/
  depth : Nat
  /-- How many tokens stand before it. -/
  position : Nat
  /-- Whether nothing but a key can stand there. -/
  required : Bool
  place : Place

/-- What is known between two tokens. -/
structure Scanner where
  cursor : Cursor
  /-- The tokens so far, latest first. -/
  tokens : List Token := []
  /-- How many tokens there are. -/
  count : Nat := 0
  /-- How many brackets are open. -/
  depth : Nat := 0
  /-- The column of the block, or minus one outside any. -/
  indent : Int := -1
  /-- The columns of the blocks around it. -/
  outer : List Int := []
  keyAllowed : Bool := true
  keyStarts : List KeyStart := []

namespace Scanner

def emit (s : Scanner) (t : Token) : Scanner :=
  { s with tokens := t :: s.tokens, count := s.count + 1 }

def insert (s : Scanner) (position : Nat) (ts : List Token) : Scanner :=
  let later := s.count - position
  { s with
    tokens := s.tokens.take later ++ ts.reverse ++ s.tokens.drop later
    count := s.count + ts.length }

/-- Closes blocks that stand further right than a column. -/
def unwind (column : Int) : List Int → Scanner → Scanner
  | outer, s =>
    if s.depth = 0 ∧ column < s.indent then
      match outer with
      | [] => { s with indent := -1, outer := [] }.emit .blockEnd
      | up :: further =>
        unwind column further ({ s with indent := up, outer := further }.emit .blockEnd)
    else s
termination_by outer => outer.length

/-- Opens a block at a column further right than the block around it. -/
def deepen (s : Scanner) (column : Int) : Option Scanner :=
  if s.indent < column then some { s with indent := column, outer := s.indent :: s.outer } else none

/-- Drops the places where a key can no longer begin; one that needed a key is a mistake. -/
def dropStale (s : Scanner) : Option Scanner :=
  let place := s.cursor.place
  let stale (k : KeyStart) : Bool :=
    k.place.line != place.line || place.index > k.place.index + 1024
  if s.keyStarts.any fun k => stale k && k.required then none
  else some { s with keyStarts := s.keyStarts.filter fun k => !stale k }

/-- Forgets where a key may begin at the present depth. -/
def forgetKey (s : Scanner) : Option Scanner :=
  if s.keyStarts.any fun k => k.depth == s.depth && k.required then none
  else some { s with keyStarts := s.keyStarts.filter fun k => k.depth != s.depth }

/-- Remembers that a key may begin here. -/
def rememberKey (s : Scanner) : Option Scanner :=
  if s.keyAllowed then
    let required := s.depth == 0 && s.indent == (s.cursor.place.column : Int)
    s.forgetKey.map fun t =>
      { t with keyStarts := ⟨s.depth, s.count, required, s.cursor.place⟩ :: t.keyStarts }
  else some s

def skip (s : Scanner) (n : Nat) : Scanner :=
  { s with cursor := s.cursor.skip n }

def finish (s : Scanner) : Option (List Token) :=
  (unwind (-1) s.outer s).forgetKey.map (·.tokens.reverse)

def documentMark (s : Scanner) (t : Token) : Option Scanner :=
  (unwind (-1) s.outer s).forgetKey.map fun u => ({ u with keyAllowed := false }.skip 3).emit t

def openFlow (s : Scanner) (t : Token) : Option Scanner :=
  s.rememberKey.map fun u => ({ u with depth := u.depth + 1, keyAllowed := true }.skip 1).emit t

def closeFlow (s : Scanner) (t : Token) : Option Scanner :=
  if s.depth = 0 then none
  else s.forgetKey.map fun u => ({ u with depth := u.depth - 1, keyAllowed := false }.skip 1).emit t

def flowComma (s : Scanner) : Option Scanner :=
  ({ s with keyAllowed := true } : Scanner).forgetKey.map fun u => (u.skip 1).emit .comma

def blockDash (s : Scanner) : Option Scanner :=
  let opened : Option Scanner :=
    if s.depth = 0 then
      if s.keyAllowed then
        match s.deepen s.cursor.place.column with
        | some t => some (t.emit .blockSequence)
        | none => some s
      else none
    else some s
  opened.bind fun t =>
    ({ t with keyAllowed := true } : Scanner).forgetKey.map fun u => (u.skip 1).emit .entry

def explicitKey (s : Scanner) : Option Scanner :=
  let opened : Option Scanner :=
    if s.depth = 0 then
      if s.keyAllowed then
        match s.deepen s.cursor.place.column with
        | some t => some (t.emit .blockMapping)
        | none => some s
      else none
    else some s
  opened.bind fun t =>
    ({ t with keyAllowed := t.depth == 0 } : Scanner).forgetKey.map fun u => (u.skip 1).emit .key

/-- A colon: what stands where a key may begin becomes the key. -/
def colon (s : Scanner) : Option Scanner :=
  match s.keyStarts.find? fun k => k.depth == s.depth with
  | some k =>
    let t := { s with keyStarts := s.keyStarts.filter fun j => j.depth != s.depth }
    let u :=
      match if t.depth = 0 then t.deepen k.place.column else none with
      | some v => v.insert k.position [.blockMapping, .key]
      | none => t.insert k.position [.key]
    some (({ u with keyAllowed := false }.skip 1).emit .value)
  | none =>
    let opened : Option Scanner :=
      if s.depth = 0 then
        if s.keyAllowed then
          match s.deepen s.cursor.place.column with
          | some t => some (t.emit .blockMapping)
          | none => some s
        else none
      else some s
    opened.bind fun t =>
      let ready : Scanner := { t with keyAllowed := t.depth == 0 }
      ready.forgetKey.map fun u => (u.skip 1).emit .value

def quotedScalar (s : Scanner) (isDouble : Bool) : Option Scanner :=
  s.rememberKey.bind fun t =>
    match scanQuoted isDouble (t.cursor.rest.length + 1) [] (t.cursor.skip 1) with
    | .done text cursor => some ({ t with cursor, keyAllowed := false }.emit (.quoted text))
    | .noCodePoint n => some (t.emit (.noCodePoint n))
    | .broken => none

def plainScalar (s : Scanner) : Option Scanner :=
  s.rememberKey.map fun t =>
    let (text, cursor, broken) :=
      scanPlain (0 < t.depth) (t.indent + 1) (t.cursor.rest.length + 1) [] false t.cursor
    { t with cursor, keyAllowed := broken }.emit (.plain text)

def startsPlain (inFlow : Bool) : List Char → Bool
  | [] => false
  | c :: rest =>
    let indicators := "-?:,[]#&*!|>%@".toList ++ [Char.ofNat 0x7B, Char.ofNat 0x7D, Char.ofNat 0x27,
      Char.ofNat 0x22, Char.ofNat 0x60]
    if isSeparator c then false
    else if indicators.contains c then
      !endsToken rest && (c == '-' || (!inFlow && (c == '?' || c == ':')))
    else true

/-- Reads the token that begins at the cursor, which stands at no blank. -/
def token? (s : Scanner) : Option Scanner :=
  let inFlow := decide (0 < s.depth)
  match s.cursor.rest with
  | [] => none
  | c :: rest =>
    if s.cursor.place.column == 0 && c == '%' then none
    else if s.cursor.place.column == 0 && s.cursor.atDocumentMark then
      s.documentMark (if c == '-' then .documentStart else .documentEnd)
    else if c == '[' then s.openFlow .flowSequence
    else if c.toNat == 0x7B then s.openFlow .flowMapping
    else if c == ']' then s.closeFlow .flowSequenceEnd
    else if c.toNat == 0x7D then s.closeFlow .flowMappingEnd
    else if c == ',' then s.flowComma
    else if c == '-' && endsToken rest then s.blockDash
    else if c == '?' && (inFlow || endsToken rest) then s.explicitKey
    else if c == ':' && (inFlow || endsToken rest) then s.colon
    else if c.toNat == 0x27 then s.quotedScalar false
    else if c.toNat == 0x22 then s.quotedScalar true
    else if startsPlain inFlow s.cursor.rest then s.plainScalar
    else none

/-- Reads all tokens, or those up to an escape that stands for nothing.  Each takes a character at
least, so the length of the text bounds them. -/
def scanAll : Nat → Scanner → Option (List Token)
  | 0, _ => none
  | fuel + 1, s =>
    let (cursor, sawBreak) := Cursor.skipBlank false false s.cursor.place s.cursor.rest
    let t := { s with cursor, keyAllowed := s.keyAllowed || (sawBreak && s.depth == 0) }
    t.dropStale.bind fun u =>
      let v := unwind u.cursor.place.column u.outer u
      if v.cursor.rest.isEmpty then v.finish
      else
        v.token?.bind fun w =>
          match w.tokens with
          | .noCodePoint _ :: _ => some w.tokens.reverse
          | _ => scanAll fuel w

end Scanner

def Token.scan? (text : List Char) : Option (List Token) :=
  if text.all isAllowed then
    let unified := unifyBreaks text
    let body := if unified.head?.map Char.toNat = some 0xFEFF then unified.drop 1 else unified
    Scanner.scanAll (body.length + 2) { cursor := { rest := body } }
  else none

end Yaml

end SourceOutline
