import SourceOutline.Text.Quoted

/-!
# Json — results for other programs

Results are written in ASCII only: any other code point is escaped, and one that does not fit in
four digits is written as two.
-/

namespace SourceOutline

inductive Json where
  | null
  | bool (b : Bool)
  | int (n : Int)
  | text (t : Text)
  | list (items : List Json)
  | object (entries : List (String × Json))

namespace Json

instance : Inhabited Json := ⟨null⟩

def string (s : String) : Json :=
  text (Text.ofString s)

def strings (items : List String) : Json :=
  list (items.map string)

def string? : Option String → Json
  | some s => string s
  | none => null

/-! ## Texts -/

def numericEscape (n : Nat) : List Char :=
  let part (m : Nat) := Quoted.backslash :: 'u' :: Quoted.hexDigits 4 m
  if n < 0x10000 then part n
  else part (0xD800 + (n - 0x10000) / 1024) ++ part (0xDC00 + (n - 0x10000) % 1024)

def letterEscapes : List (Nat × Char) :=
  [(10, 'n'), (13, 'r'), (9, 't'), (8, 'b'), (12, 'f')]

def writeOne (c : CodePoint) : List Char :=
  if c.val = 0x22 ∨ c.val = 0x5C then [Quoted.backslash, Char.ofNat c.val]
  else if 0x20 ≤ c.val ∧ c.val ≤ 0x7E then [Char.ofNat c.val]
  else
    match letterEscapes.lookup c.val with
    | some letter => [Quoted.backslash, letter]
    | none => numericEscape c.val

def writeText (t : Text) : String :=
  String.ofList (Quoted.doubleQuote :: t.flatMap writeOne ++ [Quoted.doubleQuote])

/-! ## Values -/

mutual

def compact : Json → String
  | null => "null"
  | bool b => if b then "true" else "false"
  | int n => toString n
  | text t => writeText t
  | list items => "[" ++ compactItems items ++ "]"
  | object entries => "\x7b" ++ compactEntries entries ++ "\x7d"

def compactItems : List Json → String
  | [] => ""
  | [v] => v.compact
  | v :: rest => v.compact ++ "," ++ compactItems rest

def compactEntries : List (String × Json) → String
  | [] => ""
  | [(k, v)] => writeText (Text.ofString k) ++ ":" ++ v.compact
  | (k, v) :: rest =>
    writeText (Text.ofString k) ++ ":" ++ v.compact ++ "," ++ compactEntries rest

end

def lineBreak (indent : Nat) : String :=
  "\n" ++ String.ofList (List.replicate (2 * indent) ' ')

mutual

def prettyAt (indent : Nat) : Json → String
  | null => "null"
  | bool b => if b then "true" else "false"
  | int n => toString n
  | text t => writeText t
  | list [] => "[]"
  | list (v :: rest) =>
    "[" ++ lineBreak (indent + 1) ++ v.prettyAt (indent + 1) ++ prettyItems (indent + 1) rest ++
      lineBreak indent ++ "]"
  | object [] => "\x7b\x7d"
  | object ((k, v) :: rest) =>
    "\x7b" ++ lineBreak (indent + 1) ++ writeText (Text.ofString k) ++ ": " ++
      v.prettyAt (indent + 1) ++ prettyEntries (indent + 1) rest ++ lineBreak indent ++ "\x7d"

def prettyItems (indent : Nat) : List Json → String
  | [] => ""
  | v :: rest => "," ++ lineBreak indent ++ v.prettyAt indent ++ prettyItems indent rest

def prettyEntries (indent : Nat) : List (String × Json) → String
  | [] => ""
  | (k, v) :: rest =>
    "," ++ lineBreak indent ++ writeText (Text.ofString k) ++ ": " ++ v.prettyAt indent ++
      prettyEntries indent rest

end

def pretty (v : Json) : String :=
  v.prettyAt 0

end Json

end SourceOutline
