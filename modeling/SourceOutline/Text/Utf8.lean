import SourceOutline.Text.CodePoint

/-!
# Utf8 — the byte form of text

Decoding reads one byte at a time.  Between two bytes it remembers at most one unfinished sequence,
a `Sequence`: the bits read so far, how many bytes are missing, and the bounds of the next byte.
The bounds exclude overlong forms, surrogates and numbers from `0x110000` on.
-/

namespace SourceOutline

namespace Utf8

/-! ## Encoding -/

def encodeOne (c : CodePoint) : Bytes :=
  if c.val < 0x80 then
    [UInt8.ofNat c.val]
  else if c.val < 0x800 then
    [UInt8.ofNat (0xC0 + c.val / 64), UInt8.ofNat (0x80 + c.val % 64)]
  else if c.val < 0x10000 then
    [UInt8.ofNat (0xE0 + c.val / 4096), UInt8.ofNat (0x80 + c.val / 64 % 64),
      UInt8.ofNat (0x80 + c.val % 64)]
  else
    [UInt8.ofNat (0xF0 + c.val / 262144), UInt8.ofNat (0x80 + c.val / 4096 % 64),
      UInt8.ofNat (0x80 + c.val / 64 % 64), UInt8.ofNat (0x80 + c.val % 64)]

def encode (t : Text) : Bytes :=
  t.flatMap encodeOne

/-! ## Decoding -/

/-- An unfinished sequence: its bits so far, the bytes still missing (at least one), and the bounds
of the next byte. -/
structure Sequence where
  bits : Nat
  missing : Nat
  low : Nat
  high : Nat

/-- The sequence that a byte opens, if it opens one. -/
def Sequence.ofLead? (b : Nat) : Option Sequence :=
  if 0xC2 ≤ b ∧ b ≤ 0xDF then some ⟨b - 0xC0, 1, 0x80, 0xBF⟩
  else if b = 0xE0 then some ⟨0, 2, 0xA0, 0xBF⟩
  else if b = 0xED then some ⟨0xD, 2, 0x80, 0x9F⟩
  else if 0xE1 ≤ b ∧ b ≤ 0xEF then some ⟨b - 0xE0, 2, 0x80, 0xBF⟩
  else if b = 0xF0 then some ⟨0, 3, 0x90, 0xBF⟩
  else if 0xF1 ≤ b ∧ b ≤ 0xF3 then some ⟨b - 0xF0, 3, 0x80, 0xBF⟩
  else if b = 0xF4 then some ⟨4, 3, 0x80, 0x8F⟩
  else none

/-- A decoder between two bytes: the text read, latest first, and an unfinished sequence. -/
structure Decoder where
  read : Text := []
  unfinished : Option Sequence := none

namespace Decoder

/-- Reads a byte that continues nothing. -/
def restart (read : Text) (b : Nat) : Decoder :=
  if b < 0x80 then { read := CodePoint.ofNat b :: read }
  else
    match Sequence.ofLead? b with
    | some s => { read := read, unfinished := some s }
    | none => { read := CodePoint.replacement :: read }

/-- Reads one byte.  A byte out of bounds ends the unfinished sequence with one replacement and is
read afresh. -/
def push (d : Decoder) (byte : UInt8) : Decoder :=
  match d.unfinished with
  | none => restart d.read byte.toNat
  | some s =>
    if s.low ≤ byte.toNat ∧ byte.toNat ≤ s.high then
      if s.missing ≤ 1 then
        { read := CodePoint.ofNat (s.bits * 64 + byte.toNat % 64) :: d.read }
      else
        { read := d.read,
          unfinished := some ⟨s.bits * 64 + byte.toNat % 64, s.missing - 1, 0x80, 0xBF⟩ }
    else
      restart (CodePoint.replacement :: d.read) byte.toNat

def finish (d : Decoder) : Text :=
  match d.unfinished with
  | none => d.read.reverse
  | some _ => (CodePoint.replacement :: d.read).reverse

end Decoder

/-- The text of any bytes, with one replacement for each maximal part that begins no character. -/
def decode (bs : Bytes) : Text :=
  (bs.foldl Decoder.push {}).finish

/-- The text of well-formed bytes: those that encoding the decoded text gives back. -/
def decode? (bs : Bytes) : Option Text :=
  let t := decode bs
  if encode t = bs then some t else none

end Utf8

def utf8Bytes (s : String) : Bytes :=
  Utf8.encode (Text.ofString s)

end SourceOutline
