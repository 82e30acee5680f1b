import SourceOutline.Text.Quoted

/-!
# Markup — text that is not to be read as markup

In console texts a pair of brackets may be a tag.  `escapeMarkup` puts a backslash before each
bracket that would open one.
-/

namespace SourceOutline

def opensTag (c : Char) : Bool :=
  ('a' ≤ c && c ≤ 'z') || c == '#' || c == '/' || c == '@'

/-- Whether the characters after an opening bracket make a tag: one that can begin a tag, and a
closing bracket before any further opening one. -/
def isTag : List Char → Bool
  | [] => false
  | c :: rest => opensTag c && (rest.dropWhile fun d => d != ']' && d != '[').head? == some ']'

def backslashes (n : Nat) : List Char :=
  List.replicate n Quoted.backslash

/-- Escapes tags, where `pending` backslashes have been read and not written.  Backslashes before a
tag are doubled. -/
def escapeChars (pending : Nat) : List Char → List Char
  | [] => backslashes pending
  | c :: rest =>
    if c = Quoted.backslash then escapeChars (pending + 1) rest
    else if c = '[' ∧ isTag rest = true then
      backslashes (2 * pending + 1) ++ '[' :: escapeChars 0 rest
    else backslashes pending ++ c :: escapeChars 0 rest

def trailingBackslashes (cs : List Char) : Nat :=
  (cs.reverse.takeWhile (· == Quoted.backslash)).length

/-- A text in which no bracket opens a tag.  A single backslash at the end is doubled, so that it
does not escape what follows. -/
def escapeMarkup (s : String) : String :=
  let escaped := escapeChars 0 s.toList
  String.ofList (if trailingBackslashes escaped = 1 then escaped ++ backslashes 1 else escaped)

end SourceOutline
