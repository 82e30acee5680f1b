import Mathlib.Tactic.SplitIfs
import SourceOutline.Text.Utf8

/-!
# Newline — decoding neither swallows newlines nor makes them

Lines are counted on bytes, texts are decoded from bytes.  The two fit together because a newline
is never part of a longer sequence: it is out of the bounds of every unfinished sequence, and what a
sequence stands for is never a newline.  This holds of any bytes, well-formed or not.
-/

namespace SourceOutline

/-! ## Code points -/

theorem CodePoint.ofNat_ne_newline {n : Nat} (h : 10 < n) : CodePoint.ofNat n ≠ newline := by
  intro heq
  have hval : (CodePoint.ofNat n).val = 10 := congrArg CodePoint.val heq
  unfold CodePoint.ofNat at hval
  split at hval
  · have hten : n = 10 := hval
    omega
  · exact absurd hval (by decide)

theorem CodePoint.ofNat_eq_newline_iff {n : Nat} (h : n < 0x80) :
    CodePoint.ofNat n = newline ↔ n = 10 := by
  have hlt : n < 0x110000 := by omega
  simp [CodePoint.ofNat, CodePoint.newline, hlt]

namespace Utf8

/-! ## Unfinished sequences -/

/-- The next byte of an unfinished sequence is a continuation byte, and whatever it is, the number
read with it lies above that of the newline. -/
structure Sequence.IsProper (s : Sequence) : Prop where
  low_ge : 0x80 ≤ s.low
  high_le : s.high ≤ 0xBF
  number_gt : 10 < s.bits * 64 + (s.low - 0x80)

namespace Sequence

/-- What a lead byte leaves of the number may be nought, but then the next byte is bounded from
below. -/
theorem isProper_of_ofLead? {b : Nat} {s : Sequence} (h : ofLead? b = some s) : s.IsProper := by
  unfold ofLead? at h
  split_ifs at h <;> simp only [Option.some.injEq] at h <;> subst h <;>
    constructor <;> dsimp only <;> omega

variable {s : Sequence} {b : Nat}

theorem IsProper.number_of_next (h : s.IsProper) (hlow : s.low ≤ b) (hhigh : b ≤ s.high) :
    10 < s.bits * 64 + b % 64 := by
  have hcontinues := h.low_ge
  have hlast := h.high_le
  have hnumber := h.number_gt
  omega

theorem IsProper.next (h : s.IsProper) (hlow : s.low ≤ b) (hhigh : b ≤ s.high) :
    IsProper ⟨s.bits * 64 + b % 64, s.missing - 1, 0x80, 0xBF⟩ := by
  have hnumber := h.number_of_next hlow hhigh
  refine ⟨Nat.le_refl _, Nat.le_refl _, ?_⟩
  dsimp only
  omega

end Sequence

/-! ## One byte -/

namespace Decoder

def IsProper (d : Decoder) : Prop :=
  ∀ s, d.unfinished = some s → s.IsProper

variable {d : Decoder}

theorem isProper_of_unfinished_eq_none {read : Text} : IsProper { read } := by
  intro s hs
  cases hs

theorem restart_step (read : Text) (b : Nat) :
    (restart read b).IsProper ∧
      (restart read b).read.count CodePoint.newline =
        read.count CodePoint.newline + if b = 10 then 1 else 0 := by
  unfold restart
  by_cases hascii : b < 0x80
  · have hnewline := CodePoint.ofNat_eq_newline_iff hascii
    rw [if_pos hascii]
    refine ⟨isProper_of_unfinished_eq_none, ?_⟩
    simp [List.count_cons, hnewline]
  · have hten : b ≠ 10 := by omega
    rw [if_neg hascii]
    cases hlead : Sequence.ofLead? b with
    | some s =>
        refine ⟨?_, by simp [hten]⟩
        intro s' hs'
        cases hs'
        exact Sequence.isProper_of_ofLead? hlead
    | none =>
        have hreplacement : CodePoint.replacement ≠ CodePoint.newline := by decide
        refine ⟨isProper_of_unfinished_eq_none, ?_⟩
        simp [hten, hreplacement]

theorem push_step (h : d.IsProper) (byte : UInt8) :
    (d.push byte).IsProper ∧
      (d.push byte).read.count CodePoint.newline =
        d.read.count CodePoint.newline + if byte.toNat = 10 then 1 else 0 := by
  unfold push
  cases hunfinished : d.unfinished with
  | none => exact restart_step d.read byte.toNat
  | some s =>
      have hs := h s hunfinished
      by_cases hbounds : s.low ≤ byte.toNat ∧ byte.toNat ≤ s.high
      · -- A continuation byte is no newline, and neither is a number that it completes.
        have hten : byte.toNat ≠ 10 := by
          have hlow := hs.low_ge
          omega
        have hnumber := CodePoint.ofNat_ne_newline (hs.number_of_next hbounds.1 hbounds.2)
        simp only [if_pos hbounds]
        by_cases hlast : s.missing ≤ 1
        · rw [if_pos hlast]
          refine ⟨isProper_of_unfinished_eq_none, ?_⟩
          simp [hten, hnumber]
        · rw [if_neg hlast]
          refine ⟨?_, by simp [hten]⟩
          intro s' hs'
          cases hs'
          exact hs.next hbounds.1 hbounds.2
      · -- The sequence ends in a replacement, and the byte is read afresh.
        have hreplacement : CodePoint.replacement ≠ CodePoint.newline := by decide
        have hrestart := restart_step (CodePoint.replacement :: d.read) byte.toNat
        simp only [if_neg hbounds]
        simpa [List.count_cons, hreplacement] using hrestart

/-! ## All bytes -/

theorem count_read_foldl_push (h : d.IsProper) (bs : Bytes) :
    (bs.foldl push d).read.count CodePoint.newline =
      d.read.count CodePoint.newline + bs.count 10 := by
  induction bs generalizing d with
  | nil => rfl
  | cons byte rest ih =>
      have hstep := push_step h byte
      have hbyte : (byte.toNat = 10) = (byte = 10) := by
        rw [← UInt8.toNat_inj]
        rfl
      rw [List.foldl_cons, ih hstep.1, hstep.2, List.count_cons]
      simp only [hbyte, beq_iff_eq]
      omega

theorem count_finish (d : Decoder) :
    d.finish.count CodePoint.newline = d.read.count CodePoint.newline := by
  have hreplacement : CodePoint.replacement ≠ CodePoint.newline := by decide
  unfold finish
  cases d.unfinished with
  | none => rw [List.count_reverse]
  | some s => rw [List.count_reverse, List.count_cons_of_ne hreplacement]

end Decoder

/-- The text of any bytes has as many newlines as the bytes. -/
theorem count_decode (bs : Bytes) : (decode bs).count CodePoint.newline = bs.count 10 := by
  have hproper : ({} : Decoder).IsProper := Decoder.isProper_of_unfinished_eq_none
  calc
    (decode bs).count CodePoint.newline
        = (bs.foldl Decoder.push {}).read.count CodePoint.newline := Decoder.count_finish _
    _ = ([] : Text).count CodePoint.newline + bs.count 10 :=
          Decoder.count_read_foldl_push hproper bs
    _ = bs.count 10 := by simp

end Utf8

end SourceOutline
