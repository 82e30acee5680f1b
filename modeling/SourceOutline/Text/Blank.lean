import SourceOutline.Text.CodePoint

/-!
# Blank — white space in bytes and in text

Two notions of white space are in use.  Bytes are blank when they are ASCII white space, which is
asked before a file is parsed; code points are blank by the Unicode property, which is asked of
decoded text.
-/

namespace SourceOutline

/-! ## White space -/

/-- ASCII white space: the space and the five controls from tab to carriage return. -/
def isBlankByte (b : UInt8) : Bool :=
  b == 32 || (9 ≤ b && b ≤ 13)

/-- A content is blank when it holds ASCII white space only. -/
def Bytes.isBlank (bs : Bytes) : Bool :=
  bs.all isBlankByte

/-- Unicode white space, the four information separators included. -/
def isBlankCode (n : Nat) : Bool :=
  (9 ≤ n && n ≤ 13) || (0x1C ≤ n && n ≤ 0x20) || n == 0x85 || n == 0xA0 || n == 0x1680 ||
    (0x2000 ≤ n && n ≤ 0x200A) || n == 0x2028 || n == 0x2029 || n == 0x202F || n == 0x205F ||
    n == 0x3000

def Text.isBlank (t : Text) : Bool :=
  t.all fun c => isBlankCode c.val

/-! ## Trimming -/

def trimBy {α : Type} (p : α → Bool) (xs : List α) : List α :=
  ((xs.dropWhile p).reverse.dropWhile p).reverse

def Text.strip (t : Text) : Text :=
  trimBy (fun c => isBlankCode c.val) t

def stripString (s : String) : String :=
  String.ofList (trimBy (fun c => isBlankCode c.toNat) s.toList)

/-! ## Lines -/

def Text.firstLine (t : Text) : Text :=
  t.takeWhile (· != CodePoint.newline)

def Text.signature (t : Text) : Text :=
  t.firstLine.strip

/-- The number of newline-separated lines; a content without a newline is one line. -/
def countLines (bs : Bytes) : Nat :=
  bs.count 10 + 1

end SourceOutline
