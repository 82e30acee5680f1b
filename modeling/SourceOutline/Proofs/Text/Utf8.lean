import Mathlib.Data.List.Basic
import Mathlib.Tactic.SplitIfs
import SourceOutline.Text.Utf8

/-!
# Utf8 — a text is determined by its byte form

The first byte of a code point tells how many bytes it has, so code points can be read off the bytes
of a text one by one.  The reader used here is no decoder: it does not check its bytes, and it gives
surrogates back as they were.
-/

namespace SourceOutline

/-! ## Strings as texts -/

theorem CodePoint.ofChar_injective : Function.Injective CodePoint.ofChar := by
  intro c d h
  have hval : c.toNat = d.toNat := congrArg CodePoint.val h
  exact Char.toNat_inj.1 hval

/-- A string is determined by its code points. -/
theorem Text.ofString_injective : Function.Injective Text.ofString := by
  intro s t h
  have hlist : s.toList = t.toList := List.map_injective_iff.2 CodePoint.ofChar_injective h
  exact String.toList_injective hlist

namespace Utf8

/-! ## One code point -/

def readOne? : Bytes → Option (Nat × Bytes)
  | [] => none
  | a :: bs =>
    if a.toNat < 0x80 then some (a.toNat, bs)
    else if a.toNat < 0xE0 then
      match bs with
      | b :: rest => some ((a.toNat - 0xC0) * 64 + (b.toNat - 0x80), rest)
      | _ => none
    else if a.toNat < 0xF0 then
      match bs with
      | b :: c :: rest =>
        some ((a.toNat - 0xE0) * 4096 + (b.toNat - 0x80) * 64 + (c.toNat - 0x80), rest)
      | _ => none
    else
      match bs with
      | b :: c :: d :: rest =>
        some ((a.toNat - 0xF0) * 262144 + (b.toNat - 0x80) * 4096 + (c.toNat - 0x80) * 64 +
          (d.toNat - 0x80), rest)
      | _ => none

theorem readOne?_encodeOne_append (c : CodePoint) (bs : Bytes) :
    readOne? (encodeOne c ++ bs) = some (c.val, bs) := by
  have hlt := c.isLt
  have hbyte : ∀ {n : Nat}, n < 256 → (UInt8.ofNat n).toNat = n := UInt8.toNat_ofNat_of_lt'
  unfold encodeOne
  -- The ranges of the number are those of the first byte.
  split_ifs with h1 h2 h3
  · have hlead := hbyte (n := c.val) (by omega)
    simp [readOne?, hlead, h1]
  · have hlead := hbyte (n := 0xC0 + c.val / 64) (by omega)
    have hlast := hbyte (n := 0x80 + c.val % 64) (by omega)
    have hlow : ¬ 0xC0 + c.val / 64 < 0x80 := by omega
    have hhigh : 0xC0 + c.val / 64 < 0xE0 := by omega
    have hnumber : c.val / 64 * 64 + c.val % 64 = c.val := Nat.div_add_mod' c.val 64
    simp only [List.cons_append, List.nil_append, readOne?, hlead, hlast, if_neg hlow, if_pos hhigh,
      Nat.add_sub_cancel_left, hnumber]
  · have hlead := hbyte (n := 0xE0 + c.val / 4096) (by omega)
    have hsecond := hbyte (n := 0x80 + c.val / 64 % 64) (by omega)
    have hlast := hbyte (n := 0x80 + c.val % 64) (by omega)
    have hlow : ¬ 0xE0 + c.val / 4096 < 0x80 := by omega
    have hlow' : ¬ 0xE0 + c.val / 4096 < 0xE0 := by omega
    have hhigh : 0xE0 + c.val / 4096 < 0xF0 := by omega
    have hnumber : c.val / 4096 * 4096 + c.val / 64 % 64 * 64 + c.val % 64 = c.val := by omega
    simp only [List.cons_append, List.nil_append, readOne?, hlead, hsecond, hlast, if_neg hlow,
      if_neg hlow', if_pos hhigh, Nat.add_sub_cancel_left, hnumber]
  · have hlead := hbyte (n := 0xF0 + c.val / 262144) (by omega)
    have hsecond := hbyte (n := 0x80 + c.val / 4096 % 64) (by omega)
    have hthird := hbyte (n := 0x80 + c.val / 64 % 64) (by omega)
    have hlast := hbyte (n := 0x80 + c.val % 64) (by omega)
    have hlow : ¬ 0xF0 + c.val / 262144 < 0x80 := by omega
    have hlow' : ¬ 0xF0 + c.val / 262144 < 0xE0 := by omega
    have hlow'' : ¬ 0xF0 + c.val / 262144 < 0xF0 := by omega
    have hnumber : c.val / 262144 * 262144 + c.val / 4096 % 64 * 4096 + c.val / 64 % 64 * 64 +
        c.val % 64 = c.val := by omega
    simp only [List.cons_append, List.nil_append, readOne?, hlead, hsecond, hthird, hlast,
      if_neg hlow, if_neg hlow', if_neg hlow'', Nat.add_sub_cancel_left, hnumber]

/-- Two code points with more bytes after them can be told apart by the bytes. -/
theorem encodeOne_append_inj {c d : CodePoint} {bs cs : Bytes}
    (h : encodeOne c ++ bs = encodeOne d ++ cs) : c = d ∧ bs = cs := by
  have hread : some (c.val, bs) = some (d.val, cs) := by
    rw [← readOne?_encodeOne_append c bs, h, readOne?_encodeOne_append d cs]
  cases c
  cases d
  cases hread
  exact ⟨rfl, rfl⟩

theorem encodeOne_append_ne_nil (c : CodePoint) (bs : Bytes) : encodeOne c ++ bs ≠ [] := by
  intro h
  have hread := readOne?_encodeOne_append c bs
  rw [h] at hread
  cases hread

/-! ## Texts -/

/-- Different texts have different byte forms, whether or not they hold surrogates. -/
theorem encode_injective : Function.Injective encode := by
  intro s
  -- Every code point has a byte, so the texts end together.
  induction s with
  | nil =>
      intro t h
      cases t with
      | nil => rfl
      | cons d t => exact absurd h.symm (encodeOne_append_ne_nil d (encode t))
  | cons c s ih =>
      intro t h
      cases t with
      | nil => exact absurd h (encodeOne_append_ne_nil c (encode s))
      | cons d t =>
          have hparts : c = d ∧ encode s = encode t := encodeOne_append_inj h
          rw [hparts.1, ih hparts.2]

end Utf8

end SourceOutline
