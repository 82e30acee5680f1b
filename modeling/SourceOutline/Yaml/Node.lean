import SourceOutline.Failure.Basic
import SourceOutline.Yaml.Token

/-!
# Node — the structure that a document's text writes

Tokens are put together to nodes, in which a scalar still is what was written.  The functions take a
fuel that the number of tokens bounds, since each of them passes over a token or hands on to one
that does.
-/

namespace SourceOutline

namespace Yaml

/-- What keeps a document from being read: it breaks the rules of documents, or something else stops
the reader, such as a number that is too large for its form. -/
inductive DocumentFault where
  | brokenRule
  | raised (why : Fault)
  deriving DecidableEq

/-- A part of a document as it is written.  A map that should take over the entries of something
that has none is kept as `unmergeable`. -/
inductive Node where
  | plain (s : String)
  | quoted (t : Text)
  | list (items : List Node)
  | map (entries : List (Node × Node))
  | unmergeable

abbrev Reading := Except DocumentFault (Node × List Token)

/-- What is wrong where a token is not in its place.  A number of more than thirty-one bits is too
large for any code point. -/
def misplaced : List Token → DocumentFault
  | .noCodePoint n :: _ => .raised (if n < 0x80000000 then .badValue else .tooLarge)
  | _ => .brokenRule

def begins (marks : List Token) : List Token → Bool
  | [] => true
  | t :: _ => marks.contains t

def Node.empty : Node :=
  .plain ""

mutual

/-- A node.  `dashes` allows a sequence that stands no further right than its key. -/
def readNode (dashes : Bool) : Nat → List Token → Reading
  | 0, _ => .error .brokenRule
  | fuel + 1, ts =>
    match ts with
    | .plain s :: rest => .ok (.plain (String.ofList s), rest)
    | .quoted t :: rest => .ok (.quoted t, rest)
    | .flowSequence :: rest => readFlowList fuel [] true rest
    | .flowMapping :: rest => readFlowMap fuel [] true rest
    | .blockSequence :: rest => readDashes true fuel [] rest
    | .blockMapping :: rest => readBlockMap fuel [] rest
    | .entry :: _ => if dashes then readDashes false fuel [] ts else .error (misplaced ts)
    | _ => .error (misplaced ts)

def readOptional (dashes : Bool) (marks : List Token) : Nat → List Token → Reading
  | 0, _ => .error .brokenRule
  | fuel + 1, ts => if begins marks ts then .ok (.empty, ts) else readNode dashes fuel ts

/-- The entries of a sequence written with dashes, after those in `done`, latest first; `closed`
tells whether a block of its own ends it. -/
def readDashes (closed : Bool) : Nat → List Node → List Token → Reading
  | 0, _, _ => .error .brokenRule
  | fuel + 1, done, ts =>
    match ts with
    | .entry :: rest => do
      let marks : List Token :=
        if closed then [.entry, .blockEnd] else [.entry, .key, .value, .blockEnd]
      let (v, more) ← readOptional false marks fuel rest
      readDashes closed fuel (v :: done) more
    | .blockEnd :: rest => .ok (.list done.reverse, if closed then rest else ts)
    | _ => if closed then .error (misplaced ts) else .ok (.list done.reverse, ts)

/-- The entries of a mapping written in lines, after those in `done`, latest first. -/
def readBlockMap : Nat → List (Node × Node) → List Token → Reading
  | 0, _, _ => .error .brokenRule
  | fuel + 1, done, ts =>
    let marks : List Token := [.key, .value, .blockEnd]
    match ts with
    | .blockEnd :: rest => .ok (.map done.reverse, rest)
    | .key :: rest => do
      let (k, more) ← readOptional true marks fuel rest
      match more with
      | .value :: after =>
        let (v, others) ← readOptional true marks fuel after
        readBlockMap fuel ((k, v) :: done) others
      | _ => readBlockMap fuel ((k, .empty) :: done) more
    | _ => .error (misplaced ts)

def readFlowList : Nat → List Node → Bool → List Token → Reading
  | 0, _, _, _ => .error .brokenRule
  | fuel + 1, done, first, ts =>
    match ts with
    | .flowSequenceEnd :: rest => .ok (.list done.reverse, rest)
    | .comma :: rest => if first then .error (misplaced ts) else readFlowItem fuel done rest
    | _ => if first then readFlowItem fuel done ts else .error (misplaced ts)

/-- An item of a list in brackets, which may be a single key with its value, and the items after
it. -/
def readFlowItem : Nat → List Node → List Token → Reading
  | 0, _, _ => .error .brokenRule
  | fuel + 1, done, ts =>
    match ts with
    | .flowSequenceEnd :: rest => .ok (.list done.reverse, rest)
    | .key :: rest => do
      let (k, more) ← readOptional false [.value, .comma, .flowSequenceEnd] fuel rest
      match more with
      | .value :: after =>
        let (v, others) ← readOptional false [.comma, .flowSequenceEnd] fuel after
        readFlowList fuel (.map [(k, v)] :: done) false others
      | _ => readFlowList fuel (.map [(k, .empty)] :: done) false more
    | _ => do
      let (v, more) ← readNode false fuel ts
      readFlowList fuel (v :: done) false more

def readFlowMap : Nat → List (Node × Node) → Bool → List Token → Reading
  | 0, _, _, _ => .error .brokenRule
  | fuel + 1, done, first, ts =>
    match ts with
    | .flowMappingEnd :: rest => .ok (.map done.reverse, rest)
    | .comma :: rest => if first then .error (misplaced ts) else readFlowEntry fuel done rest
    | _ => if first then readFlowEntry fuel done ts else .error (misplaced ts)

/-- An entry of a mapping in braces, and the entries after it.  A node alone is a key without a
value. -/
def readFlowEntry : Nat → List (Node × Node) → List Token → Reading
  | 0, _, _ => .error .brokenRule
  | fuel + 1, done, ts =>
    match ts with
    | .flowMappingEnd :: rest => .ok (.map done.reverse, rest)
    | .key :: rest => do
      let (k, more) ← readOptional false [.value, .comma, .flowMappingEnd] fuel rest
      match more with
      | .value :: after =>
        let (v, others) ← readOptional false [.comma, .flowMappingEnd] fuel after
        readFlowMap fuel ((k, v) :: done) false others
      | _ => readFlowMap fuel ((k, .empty) :: done) false more
    | _ => do
      let (k, more) ← readNode false fuel ts
      readFlowMap fuel ((k, .empty) :: done) false more

end

def dropEnds : List Token → List Token
  | .documentEnd :: rest => dropEnds rest
  | ts => ts

namespace Node

def ofDocument (ts : List Token) : Except DocumentFault Node := do
  let (node, rest) ← readOptional false [.documentStart, .documentEnd] (4 * ts.length + 16) ts
  let after := dropEnds rest
  if after.isEmpty then pure node else throw (misplaced after)

def ofTokens (ts : List Token) : Except DocumentFault Node :=
  match ts with
  | .documentStart :: rest => ofDocument rest
  | .documentEnd :: _ => .error .brokenRule
  | _ => ofDocument ts

end Node

end Yaml

end SourceOutline
