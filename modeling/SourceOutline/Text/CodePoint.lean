/-!
# CodePoint — text as a sequence of code points

A text that comes from outside may hold a surrogate on its own, which no `Char` can be.  So text
that is hashed or shown in full is kept as a list of code points.
-/

namespace SourceOutline

abbrev Bytes := List UInt8

/-- A Unicode code point, surrogates included. -/
structure CodePoint where
  val : Nat
  isLt : val < 0x110000
  deriving DecidableEq

namespace CodePoint

instance : LT CodePoint :=
  ⟨fun c d => c.val < d.val⟩

instance : DecidableLT CodePoint :=
  fun c d => inferInstanceAs (Decidable (c.val < d.val))

def ofChar (c : Char) : CodePoint :=
  ⟨c.toNat, by
    have h : c.toNat.isValidChar := c.valid
    simp only [Nat.isValidChar] at h
    omega⟩

def replacement : CodePoint := ⟨0xFFFD, by decide⟩

def ofNat (n : Nat) : CodePoint :=
  if h : n < 0x110000 then ⟨n, h⟩ else replacement

/-- Surrogates are the code points that are no character. -/
def isSurrogate (c : CodePoint) : Bool :=
  0xD800 ≤ c.val && c.val ≤ 0xDFFF

/-- The character of a code point; a surrogate becomes the replacement character. -/
def toChar (c : CodePoint) : Char :=
  if c.isSurrogate then Char.ofNat 0xFFFD else Char.ofNat c.val

/-- The surrogates that stand for bytes which are no text, in names that the system gives. -/
def standsForByte (c : CodePoint) : Bool :=
  0xDC80 ≤ c.val && c.val ≤ 0xDCFF

/-- Code points that no name given to the system can hold: the surrogates that stand for no byte. -/
def isUnencodable (c : CodePoint) : Bool :=
  c.isSurrogate && !c.standsForByte

def newline : CodePoint := ⟨10, by decide⟩

end CodePoint

abbrev Text := List CodePoint

namespace Text

def ofString (s : String) : Text :=
  s.toList.map CodePoint.ofChar

def toString (t : Text) : String :=
  String.ofList (t.map CodePoint.toChar)

end Text

end SourceOutline
