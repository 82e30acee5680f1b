import SourceOutline.Text.CodePoint

/-!
# Utf16 — text in units of two bytes

A text in this form begins with a mark that tells which byte of a unit comes first.  The mark is a
code point of its own and stays part of the text.
-/

namespace SourceOutline

namespace Utf16

inductive ByteOrder where
  | little
  | big
  deriving DecidableEq

def ByteOrder.ofMark? : Bytes → Option ByteOrder
  | 0xFF :: 0xFE :: _ => some .little
  | 0xFE :: 0xFF :: _ => some .big
  | _ => none

def unit (order : ByteOrder) (first second : UInt8) : Nat :=
  match order with
  | .little => second.toNat * 256 + first.toNat
  | .big => first.toNat * 256 + second.toNat

def units? (order : ByteOrder) : Bytes → Option (List Nat)
  | [] => some []
  | first :: second :: rest => (units? order rest).map (unit order first second :: ·)
  | [_] => none

def isHigh (n : Nat) : Bool :=
  0xD800 ≤ n && n ≤ 0xDBFF

def isLow (n : Nat) : Bool :=
  0xDC00 ≤ n && n ≤ 0xDFFF

/-- The text of units; a surrogate without its partner has no meaning. -/
def ofUnits? : List Nat → Option Text
  | [] => some []
  | [n] => if isHigh n || isLow n then none else some [CodePoint.ofNat n]
  | n :: m :: rest =>
    if isHigh n then
      if isLow m then
        (ofUnits? rest).map
          (CodePoint.ofNat (0x10000 + (n - 0xD800) * 1024 + (m - 0xDC00)) :: ·)
      else none
    else if isLow n then none
    else (ofUnits? (m :: rest)).map (CodePoint.ofNat n :: ·)

def decode? (order : ByteOrder) (bs : Bytes) : Option Text :=
  (units? order bs).bind ofUnits?

end Utf16

end SourceOutline
