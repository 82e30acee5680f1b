import Mathlib.Tactic.Ring
import Mathlib.Tactic.SplitIfs
import SourceOutline.Proofs.Text.Newline
import SourceOutline.Proofs.Text.Surrogate

/-!
# WellFormed — the bytes that decoding and encoding give back

Decoding never fails: what begins no character is replaced.  So encoding the decoded text gives the
bytes back exactly if nothing had to be replaced, that is if they are characters in a row, each in
its shortest form, none of them a surrogate or beyond the last code point.
-/

namespace SourceOutline

namespace Utf8

open CodePoint (isSurrogate_eq_false_iff ofNat_eq)

/-! ## Well-formed bytes -/

/-- A byte that only continues a character. -/
structure IsTail (b : UInt8) : Prop where
  ge : 0x80 ≤ b.toNat
  le : b.toNat ≤ 0xBF

/-- The bytes of one character.  After the least lead byte of a length the second byte is bounded
from below, so that no shorter form exists; after `0xED` and `0xF4` it is bounded from above, which
leaves out the surrogates and what lies beyond the last code point. -/
inductive IsCharacter : Bytes → Prop
  | one {a : UInt8} (ha : a.toNat ≤ 0x7F) : IsCharacter [a]
  | two {a b : UInt8} (hlow : 0xC2 ≤ a.toNat) (hhigh : a.toNat ≤ 0xDF) (hb : IsTail b) :
      IsCharacter [a, b]
  | three {a b c : UInt8} (hlow : 0xE0 ≤ a.toNat) (hhigh : a.toNat ≤ 0xEF) (hb : IsTail b)
      (hc : IsTail c) (hshortest : a.toNat = 0xE0 → 0xA0 ≤ b.toNat)
      (hscalar : a.toNat = 0xED → b.toNat ≤ 0x9F) : IsCharacter [a, b, c]
  | four {a b c d : UInt8} (hlow : 0xF0 ≤ a.toNat) (hhigh : a.toNat ≤ 0xF4) (hb : IsTail b)
      (hc : IsTail c) (hd : IsTail d) (hshortest : a.toNat = 0xF0 → 0x90 ≤ b.toNat)
      (hlast : a.toNat = 0xF4 → b.toNat ≤ 0x8F) : IsCharacter [a, b, c, d]

inductive IsWellFormed : Bytes → Prop
  | nil : IsWellFormed []
  | append {character rest : Bytes} (hfirst : IsCharacter character) (hrest : IsWellFormed rest) :
      IsWellFormed (character ++ rest)

/-! ## Encoded characters -/

theorem toNat_ofNat {n : Nat} (h : n < 256) : (UInt8.ofNat n).toNat = n :=
  UInt8.toNat_ofNat_of_lt' h

theorem eq_ofNat {b : UInt8} {n : Nat} (h : b.toNat = n) : UInt8.ofNat n = b := by
  rw [← h]
  exact UInt8.ofNat_toNat

theorem isTail_ofNat {n : Nat} (h : n < 64) : IsTail (UInt8.ofNat (0x80 + n)) := by
  have hbyte := toNat_ofNat (n := 0x80 + n) (by omega)
  constructor <;> omega

theorem isCharacter_encodeOne {c : CodePoint} (h : c.isSurrogate = false) :
    IsCharacter (encodeOne c) := by
  have hlt := c.isLt
  rw [isSurrogate_eq_false_iff] at h
  unfold encodeOne
  split_ifs with h1 h2 h3
  · have hlead := toNat_ofNat (n := c.val) (by omega)
    exact .one (by omega)
  · have hlead := toNat_ofNat (n := 0xC0 + c.val / 64) (by omega)
    exact .two (by omega) (by omega) (isTail_ofNat (by omega))
  · have hlead := toNat_ofNat (n := 0xE0 + c.val / 4096) (by omega)
    have hsecond := toNat_ofNat (n := 0x80 + c.val / 64 % 64) (by omega)
    exact .three (by omega) (by omega) (isTail_ofNat (by omega)) (isTail_ofNat (by omega))
      (by omega) (by omega)
  · have hlead := toNat_ofNat (n := 0xF0 + c.val / 262144) (by omega)
    have hsecond := toNat_ofNat (n := 0x80 + c.val / 4096 % 64) (by omega)
    exact .four (by omega) (by omega) (isTail_ofNat (by omega)) (isTail_ofNat (by omega))
      (isTail_ofNat (by omega)) (by omega) (by omega)

theorem IsCharacter.exists_encodeOne_eq {bs : Bytes} (h : IsCharacter bs) :
    ∃ c : CodePoint, c.isSurrogate = false ∧ encodeOne c = bs := by
  cases h with
  | @one a ha =>
      refine ⟨⟨a.toNat, by omega⟩, isSurrogate_eq_false_iff.2 (by dsimp only; omega), ?_⟩
      have h1 : a.toNat < 0x80 := by omega
      simp only [encodeOne, if_pos h1, eq_ofNat rfl]
  | @two a b hlow hhigh hb =>
      have hb₁ := hb.ge
      have hb₂ := hb.le
      -- The number is put together from the bits of the lead byte and of the tails.
      obtain ⟨n, hn⟩ : ∃ n, n = (a.toNat - 0xC0) * 64 + (b.toNat - 0x80) := ⟨_, rfl⟩
      refine ⟨⟨n, by omega⟩, isSurrogate_eq_false_iff.2 (by dsimp only; omega), ?_⟩
      have h1 : ¬ n < 0x80 := by omega
      have h2 : n < 0x800 := by omega
      have hlead : UInt8.ofNat (0xC0 + n / 64) = a := eq_ofNat (by omega)
      have hlast : UInt8.ofNat (0x80 + n % 64) = b := eq_ofNat (by omega)
      simp only [encodeOne, if_neg h1, if_pos h2, hlead, hlast]
  | @three a b c hlow hhigh hb hc hshortest hscalar =>
      have hb₁ := hb.ge
      have hb₂ := hb.le
      have hc₁ := hc.ge
      have hc₂ := hc.le
      obtain ⟨n, hn⟩ : ∃ n, n = (a.toNat - 0xE0) * 4096 + (b.toNat - 0x80) * 64 +
        (c.toNat - 0x80) := ⟨_, rfl⟩
      refine ⟨⟨n, by omega⟩, isSurrogate_eq_false_iff.2 (by dsimp only; omega), ?_⟩
      have h1 : ¬ n < 0x80 := by omega
      have h2 : ¬ n < 0x800 := by omega
      have h3 : n < 0x10000 := by omega
      have hlead : UInt8.ofNat (0xE0 + n / 4096) = a := eq_ofNat (by omega)
      have hsecond : UInt8.ofNat (0x80 + n / 64 % 64) = b := eq_ofNat (by omega)
      have hlast : UInt8.ofNat (0x80 + n % 64) = c := eq_ofNat (by omega)
      simp only [encodeOne, if_neg h1, if_neg h2, if_pos h3, hlead, hsecond, hlast]
  | @four a b c d hlow hhigh hb hc hd hshortest hlast =>
      have hb₁ := hb.ge
      have hb₂ := hb.le
      have hc₁ := hc.ge
      have hc₂ := hc.le
      have hd₁ := hd.ge
      have hd₂ := hd.le
      obtain ⟨n, hn⟩ : ∃ n, n = (a.toNat - 0xF0) * 262144 + (b.toNat - 0x80) * 4096 +
        (c.toNat - 0x80) * 64 + (d.toNat - 0x80) := ⟨_, rfl⟩
      refine ⟨⟨n, by omega⟩, isSurrogate_eq_false_iff.2 (by dsimp only; omega), ?_⟩
      have h1 : ¬ n < 0x80 := by omega
      have h2 : ¬ n < 0x800 := by omega
      have h3 : ¬ n < 0x10000 := by omega
      have hlead : UInt8.ofNat (0xF0 + n / 262144) = a := eq_ofNat (by omega)
      have hsecond : UInt8.ofNat (0x80 + n / 4096 % 64) = b := eq_ofNat (by omega)
      have hthird : UInt8.ofNat (0x80 + n / 64 % 64) = c := eq_ofNat (by omega)
      have hfourth : UInt8.ofNat (0x80 + n % 64) = d := eq_ofNat (by omega)
      simp only [encodeOne, if_neg h1, if_neg h2, if_neg h3, hlead, hsecond, hthird, hfourth]

theorem isWellFormed_encode {t : Text} (h : ∀ c ∈ t, c.isSurrogate = false) :
    IsWellFormed (encode t) := by
  induction t with
  | nil => exact .nil
  | cons c rest ih =>
      rw [List.forall_mem_cons] at h
      exact .append (isCharacter_encodeOne h.1) (ih h.2)

theorem isWellFormed_iff {bs : Bytes} :
    IsWellFormed bs ↔ ∃ t : Text, (∀ c ∈ t, c.isSurrogate = false) ∧ encode t = bs := by
  constructor
  · intro h
    induction h with
    | nil => exact ⟨[], by simp, rfl⟩
    | append hfirst hrest ih =>
        rcases hfirst.exists_encodeOne_eq with ⟨c, hc, rfl⟩
        rcases ih with ⟨t, ht, rfl⟩
        exact ⟨c :: t, List.forall_mem_cons.2 ⟨hc, ht⟩, rfl⟩
  · rintro ⟨t, ht, rfl⟩
    exact isWellFormed_encode ht

/-! ## Decoding what was encoded -/

namespace Decoder

variable {read : Text} {s : Sequence} {b : UInt8}

theorem push_ascii (h : b.toNat < 0x80) :
    push { read } b = { read := CodePoint.ofNat b.toNat :: read } := by
  simp only [push, restart, if_pos h]

theorem push_lead (hnot : ¬ b.toNat < 0x80) (h : Sequence.ofLead? b.toNat = some s) :
    push { read } b = { read, unfinished := some s } := by
  simp only [push, restart, if_neg hnot, h]

theorem push_more (hlow : s.low ≤ b.toNat) (hhigh : b.toNat ≤ s.high) (hmore : 1 < s.missing) :
    push { read, unfinished := some s } b =
      { read, unfinished := some ⟨s.bits * 64 + b.toNat % 64, s.missing - 1, 0x80, 0xBF⟩ } := by
  simp only [push, if_pos (And.intro hlow hhigh), if_neg (Nat.not_le.2 hmore)]

theorem push_last (hlow : s.low ≤ b.toNat) (hhigh : b.toNat ≤ s.high) (hlast : s.missing ≤ 1) :
    push { read, unfinished := some s } b =
      { read := CodePoint.ofNat (s.bits * 64 + b.toNat % 64) :: read } := by
  simp only [push, if_pos (And.intro hlow hhigh), if_pos hlast]

end Decoder

theorem exists_ofLead?_three {c : CodePoint} (h : c.isSurrogate = false) (hlow : 0x800 ≤ c.val)
    (hhigh : c.val < 0x10000) :
    ∃ low high, Sequence.ofLead? (0xE0 + c.val / 4096) = some ⟨c.val / 4096, 2, low, high⟩ ∧
      low ≤ 0x80 + c.val / 64 % 64 ∧ 0x80 + c.val / 64 % 64 ≤ high := by
  rw [isSurrogate_eq_false_iff] at h
  unfold Sequence.ofLead?
  split_ifs
  -- Three kinds of lead bytes are left, with bounds of their own.
  all_goals
    try omega
  · exact ⟨0xA0, 0xBF, by simp; omega, by omega, by omega⟩
  · exact ⟨0x80, 0x9F, by simp; omega, by omega, by omega⟩
  · exact ⟨0x80, 0xBF, by simp, by omega, by omega⟩

theorem exists_ofLead?_four {c : CodePoint} (hlow : 0x10000 ≤ c.val) :
    ∃ low high, Sequence.ofLead? (0xF0 + c.val / 262144) = some ⟨c.val / 262144, 3, low, high⟩ ∧
      low ≤ 0x80 + c.val / 4096 % 64 ∧ 0x80 + c.val / 4096 % 64 ≤ high := by
  have hlt := c.isLt
  unfold Sequence.ofLead?
  split_ifs
  all_goals
    try omega
  · exact ⟨0x90, 0xBF, by simp; omega, by omega, by omega⟩
  · exact ⟨0x80, 0xBF, by simp, by omega, by omega⟩
  · exact ⟨0x80, 0x8F, by simp; omega, by omega, by omega⟩

namespace Decoder

theorem foldl_push_encodeOne {c : CodePoint} (h : c.isSurrogate = false) (read : Text) :
    (encodeOne c).foldl push { read } = { read := c :: read } := by
  have hlt := c.isLt
  unfold encodeOne
  -- The lead byte opens a sequence, and each tail lies within its bounds.
  split_ifs with h1 h2 h3
  · have hlead := toNat_ofNat (n := c.val) (by omega)
    rw [List.foldl_cons, push_ascii (by omega), ofNat_eq hlead, List.foldl_nil]
  · have hlead := toNat_ofNat (n := 0xC0 + c.val / 64) (by omega)
    have hlast := toNat_ofNat (n := 0x80 + c.val % 64) (by omega)
    have hopen : Sequence.ofLead? (0xC0 + c.val / 64) = some ⟨c.val / 64, 1, 0x80, 0xBF⟩ := by
      rw [Sequence.ofLead?, if_pos (by omega), Nat.add_sub_cancel_left]
    rw [List.foldl_cons, push_lead (by omega) (hlead ▸ hopen), List.foldl_cons,
      push_last (by simp only; omega) (by simp only; omega) (Nat.le_refl 1),
      ofNat_eq (c := c) (by simp only; omega), List.foldl_nil]
  · have hlead := toNat_ofNat (n := 0xE0 + c.val / 4096) (by omega)
    have hsecond := toNat_ofNat (n := 0x80 + c.val / 64 % 64) (by omega)
    have hlast := toNat_ofNat (n := 0x80 + c.val % 64) (by omega)
    rcases exists_ofLead?_three h (by omega) h3 with ⟨low, high, hopen, hlow, hhigh⟩
    rw [List.foldl_cons, push_lead (by omega) (hlead ▸ hopen), List.foldl_cons,
      push_more (by simp only; omega) (by simp only; omega) (by simp only; omega), List.foldl_cons,
      push_last (by simp only; omega) (by simp only; omega) (by simp only; omega),
      ofNat_eq (c := c) (by simp only; omega), List.foldl_nil]
  · have hlead := toNat_ofNat (n := 0xF0 + c.val / 262144) (by omega)
    have hsecond := toNat_ofNat (n := 0x80 + c.val / 4096 % 64) (by omega)
    have hthird := toNat_ofNat (n := 0x80 + c.val / 64 % 64) (by omega)
    have hlast := toNat_ofNat (n := 0x80 + c.val % 64) (by omega)
    rcases exists_ofLead?_four (c := c) (by omega) with ⟨low, high, hopen, hlow, hhigh⟩
    rw [List.foldl_cons, push_lead (by omega) (hlead ▸ hopen), List.foldl_cons,
      push_more (by simp only; omega) (by simp only; omega) (by simp only; omega), List.foldl_cons,
      push_more (by simp only; omega) (by simp only; omega) (by simp only; omega), List.foldl_cons,
      push_last (by simp only; omega) (by simp only; omega) (by simp only; omega),
      ofNat_eq (c := c) (by simp only; omega), List.foldl_nil]

theorem foldl_push_encode {t : Text} (h : ∀ c ∈ t, c.isSurrogate = false) (read : Text) :
    (encode t).foldl push { read } = { read := t.reverse ++ read } := by
  induction t generalizing read with
  | nil => rfl
  | cons c rest ih =>
      rw [List.forall_mem_cons] at h
      rw [encode, List.flatMap_cons, List.foldl_append, foldl_push_encodeOne h.1]
      refine (ih h.2 (c :: read)).trans ?_
      rw [List.reverse_cons, List.append_assoc]
      rfl

end Decoder

/-- Decoding gives back a text without surrogates that was encoded. -/
theorem decode_encode {t : Text} (h : ∀ c ∈ t, c.isSurrogate = false) : decode (encode t) = t := by
  rw [decode, Decoder.foldl_push_encode h, Decoder.finish]
  simp

/-! ## What decoding gives -/

namespace Sequence

/-- Whatever completes the sequence within its bounds, its number is that of no surrogate: all its
numbers lie below the surrogates, or all lie above them. -/
structure IsScalar (s : Sequence) : Prop where
  proper : s.IsProper
  apart : (s.bits * 64 + (s.high - 0x80) + 1) * 64 ^ (s.missing - 1) ≤ 0xD800 ∨
    0xE000 ≤ (s.bits * 64 + (s.low - 0x80)) * 64 ^ (s.missing - 1)

theorem isScalar_of_ofLead? {b : Nat} {s : Sequence} (h : ofLead? b = some s) : s.IsScalar := by
  refine ⟨isProper_of_ofLead? h, ?_⟩
  unfold ofLead? at h
  -- A question about each kind of lead byte.
  split_ifs at h <;> simp only [Option.some.injEq] at h <;> subst h <;> dsimp only <;> omega

variable {s : Sequence} {b : Nat}

theorem IsScalar.next (h : s.IsScalar) (hlow : s.low ≤ b) (hhigh : b ≤ s.high)
    (hmore : 1 < s.missing) :
    IsScalar ⟨s.bits * 64 + b % 64, s.missing - 1, 0x80, 0xBF⟩ := by
  refine ⟨h.proper.next hlow hhigh, ?_⟩
  have hge := h.proper.low_ge
  have hle := h.proper.high_le
  have hpower : 64 ^ (s.missing - 1) = 64 * 64 ^ (s.missing - 1 - 1) := by
    rw [← Nat.pow_succ']
    congr 1
    omega
  -- The byte lies within its bounds, so the numbers with it lie among those without it.
  have hbelow : (s.bits * 64 + b % 64 + 1) * 64 ^ (s.missing - 1) ≤
      (s.bits * 64 + (s.high - 0x80) + 1) * 64 ^ (s.missing - 1) :=
    Nat.mul_le_mul_right _ (by omega)
  have habove : (s.bits * 64 + (s.low - 0x80)) * 64 ^ (s.missing - 1) ≤
      (s.bits * 64 + b % 64) * 64 ^ (s.missing - 1) :=
    Nat.mul_le_mul_right _ (by omega)
  have hapart := h.apart
  dsimp only
  rw [hpower] at hbelow habove hapart
  rcases hapart with hapart | hapart
  · left
    calc
      ((s.bits * 64 + b % 64) * 64 + (0xBF - 0x80) + 1) * 64 ^ (s.missing - 1 - 1)
          = (s.bits * 64 + b % 64 + 1) * (64 * 64 ^ (s.missing - 1 - 1)) := by ring
      _ ≤ 0xD800 := hbelow.trans hapart
  · right
    calc
      0xE000 ≤ (s.bits * 64 + b % 64) * (64 * 64 ^ (s.missing - 1 - 1)) := hapart.trans habove
      _ = ((s.bits * 64 + b % 64) * 64 + (0x80 - 0x80)) * 64 ^ (s.missing - 1 - 1) := by ring

theorem IsScalar.isSurrogate_ofNat (h : s.IsScalar) (hlow : s.low ≤ b) (hhigh : b ≤ s.high)
    (hlast : s.missing ≤ 1) : (CodePoint.ofNat (s.bits * 64 + b % 64)).isSurrogate = false := by
  have hge := h.proper.low_ge
  have hle := h.proper.high_le
  have hapart := h.apart
  have hnone : s.missing - 1 = 0 := by omega
  rw [hnone] at hapart
  rw [isSurrogate_eq_false_iff]
  unfold CodePoint.ofNat
  split
  · dsimp only
    omega
  · exact Or.inr (by decide)

end Sequence

namespace Decoder

/-- No surrogate was read, and none can come of an unfinished sequence. -/
structure IsScalar (d : Decoder) : Prop where
  read : ∀ c ∈ d.read, c.isSurrogate = false
  unfinished : ∀ s, d.unfinished = some s → s.IsScalar

theorem isScalar_of_read {read : Text} (h : ∀ c ∈ read, c.isSurrogate = false) :
    IsScalar { read } :=
  ⟨h, fun _ hs => by cases hs⟩

theorem isScalar_restart {read : Text} (h : ∀ c ∈ read, c.isSurrogate = false) (b : Nat) :
    (restart read b).IsScalar := by
  unfold restart
  split
  · rename_i hascii
    refine isScalar_of_read (List.forall_mem_cons.2 ⟨?_, h⟩)
    rw [isSurrogate_eq_false_iff, CodePoint.ofNat, dif_pos (by omega)]
    dsimp only
    omega
  · cases hlead : Sequence.ofLead? b with
    | some s =>
        refine ⟨h, fun s' hs' => ?_⟩
        cases hs'
        exact Sequence.isScalar_of_ofLead? hlead
    | none => exact isScalar_of_read (List.forall_mem_cons.2 ⟨by decide, h⟩)

theorem IsScalar.push {d : Decoder} (h : d.IsScalar) (byte : UInt8) : (d.push byte).IsScalar := by
  unfold Decoder.push
  cases hunfinished : d.unfinished with
  | none => exact isScalar_restart h.read byte.toNat
  | some s =>
      have hs := h.unfinished s hunfinished
      dsimp only
      split
      · rename_i hbounds
        split
        · rename_i hlast
          exact isScalar_of_read (List.forall_mem_cons.2
            ⟨hs.isSurrogate_ofNat hbounds.1 hbounds.2 hlast, h.read⟩)
        · rename_i hmore
          refine ⟨h.read, fun s' hs' => ?_⟩
          cases hs'
          exact hs.next hbounds.1 hbounds.2 (Nat.not_le.1 hmore)
      -- A byte out of bounds is read anew, behind a replacement.
      · exact isScalar_restart (List.forall_mem_cons.2 ⟨by decide, h.read⟩) byte.toNat

theorem IsScalar.foldl_push {d : Decoder} (h : d.IsScalar) (bs : Bytes) :
    (bs.foldl Decoder.push d).IsScalar := by
  induction bs generalizing d with
  | nil => exact h
  | cons byte rest ih => exact ih (h.push byte)

theorem IsScalar.isSurrogate_of_mem_finish {d : Decoder} (h : d.IsScalar) :
    ∀ c ∈ d.finish, c.isSurrogate = false := by
  have hreplaced : ∀ c ∈ CodePoint.replacement :: d.read, c.isSurrogate = false :=
    List.forall_mem_cons.2 ⟨by decide, h.read⟩
  unfold finish
  split
  · intro c hc
    exact h.read c (List.mem_reverse.1 hc)
  · intro c hc
    exact hreplaced c (List.mem_reverse.1 hc)

end Decoder

theorem isSurrogate_of_mem_decode (bs : Bytes) : ∀ c ∈ decode bs, c.isSurrogate = false := by
  have hstart : ({} : Decoder).IsScalar := Decoder.isScalar_of_read (by simp)
  exact (hstart.foldl_push bs).isSurrogate_of_mem_finish

/-- Encoding undoes decoding on well-formed bytes and on no others. -/
theorem encode_decode_eq_iff {bs : Bytes} : encode (decode bs) = bs ↔ IsWellFormed bs := by
  rw [isWellFormed_iff]
  constructor
  · intro h
    exact ⟨decode bs, isSurrogate_of_mem_decode bs, h⟩
  · rintro ⟨t, ht, rfl⟩
    rw [decode_encode ht]

end Utf8

end SourceOutline
