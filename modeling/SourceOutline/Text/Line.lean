/-!
# Line — the lines of a text

* `isLineBreak` — the characters that end a line;
* `textLines` — the lines of a text, without the breaks.
-/

namespace SourceOutline

/-- Whether a character ends a line: the newline and its kin in ASCII, the three upper separators,
the next-line character, and the separators of lines and paragraphs. -/
def isLineBreak (c : Char) : Bool :=
  let n := c.toNat
  (0x0A ≤ n && n ≤ 0x0D) || (0x1C ≤ n && n ≤ 0x1E) || n == 0x85 || n == 0x2028 || n == 0x2029

/-- The lines of a text.  A carriage return and a newline right after it end one line together, and
the last line needs no end. -/
def textLines : List Char → List (List Char)
  | [] => []
  | '\r' :: '\n' :: rest => [] :: textLines rest
  | c :: rest =>
    if isLineBreak c then [] :: textLines rest
    else
      match textLines rest with
      | [] => [[c]]
      | line :: others => (c :: line) :: others

end SourceOutline
