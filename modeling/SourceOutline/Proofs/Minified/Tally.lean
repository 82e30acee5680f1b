import Mathlib.Data.List.Infix
import Mathlib.Order.Bounds.Basic
import Mathlib.Order.MinMax
import SourceOutline.Minified

/-!
# Tally — the verdict on a content in one pass over its bytes

The checks on a content look at its lines, but need no more of it than five numbers, and these can
be kept up to date byte by byte.

* `Thresholds.isMinified?_eq_some` — the verdict in steps is always reached and is the verdict.
-/

namespace SourceOutline

/-- Numbers of a content: its bytes, its newlines, the bytes since the last newline, the most bytes
in a row without a newline, and its visible blanks. -/
structure ByteTally where
  size : Nat := 0
  newlines : Nat := 0
  run : Nat := 0
  longest : Nat := 0
  blanks : Nat := 0

namespace ByteTally

def push (s : ByteTally) (b : UInt8) : ByteTally where
  size := s.size + 1
  newlines := if b = 10 then s.newlines + 1 else s.newlines
  run := if b = 10 then 0 else s.run + 1
  longest := if b = 10 then s.longest else max s.longest (s.run + 1)
  blanks := if isVisibleBlank b then s.blanks + 1 else s.blanks

def of (content : Bytes) : ByteTally :=
  content.foldl push {}

/-- How many lines there are: one for each newline, and one more if bytes follow the last. -/
def lines (s : ByteTally) : Nat :=
  s.newlines + if s.run = 0 then 0 else 1

variable {s : ByteTally} {content line : Bytes} {b : UInt8} {n : Nat}

theorem of_concat : of (content ++ [b]) = (of content).push b := by
  simp [of]

/-! ## What the numbers stand for -/

def runLengths (IsPart : Bytes → Prop) : Set Nat :=
  {n | ∃ line, IsPart line ∧ 10 ∉ line ∧ line.length = n}

structure IsOf (s : ByteTally) (content : Bytes) : Prop where
  size : s.size = content.length
  newlines : s.newlines = content.count 10
  run : IsGreatest (runLengths (· <:+ content)) s.run
  longest : IsGreatest (runLengths (· <:+: content)) s.longest
  blanks : s.blanks = content.count 32 + content.count 9 + content.count 10 + content.count 13

theorem isOf_nil : IsOf {} [] where
  size := rfl
  newlines := rfl
  run := ⟨⟨[], by simp⟩, by rintro n ⟨line, hpart, -, rfl⟩; simp [List.suffix_nil.1 hpart]⟩
  longest := ⟨⟨[], by simp⟩, by rintro n ⟨line, hpart, -, rfl⟩; simp [List.infix_nil.1 hpart]⟩
  blanks := rfl

theorem notMem_concat (hline : 10 ∉ line) (hb : b ≠ 10) : 10 ∉ line ++ [b] := by
  simp [hline, hb.symm]

/-- What ends in the new byte is the byte after what ended where the content did. -/
theorem isGreatest_suffix_concat (h : IsGreatest (runLengths (· <:+ content)) n) :
    IsGreatest (runLengths (· <:+ content ++ [b])) (if b = 10 then 0 else n + 1) := by
  obtain ⟨⟨line, hpart, hline, rfl⟩, hmax⟩ := h
  constructor
  · by_cases hb : b = 10
    -- Behind a newline only the empty stretch ends.
    · exact ⟨[], by simp [hb]⟩
    · refine ⟨line ++ [b], ?_, notMem_concat hline hb, by simp [hb]⟩
      exact List.suffix_concat_iff.2 (.inr ⟨line, rfl, hpart⟩)
  · rintro n ⟨other, hother, hno, rfl⟩
    rcases List.suffix_concat_iff.1 hother with rfl | ⟨before, rfl, hbefore⟩
    · exact Nat.zero_le _
    -- A stretch that ends in the byte has one behind it that ends where the content did.
    · obtain ⟨hfree, hb⟩ : 10 ∉ before ∧ b ≠ 10 := by
        simpa [eq_comm] using hno
      have hle : before.length ≤ line.length := hmax ⟨before, hbefore, hfree, rfl⟩
      simp [hb, hle]

/-- A stretch ends in the new byte, or it was there before. -/
theorem isGreatest_infix_concat {last : Nat} (hlast : IsGreatest (runLengths (· <:+ content)) last)
    (h : IsGreatest (runLengths (· <:+: content)) n) :
    IsGreatest (runLengths (· <:+: content ++ [b])) (if b = 10 then n else max n (last + 1)) := by
  have hnew := isGreatest_suffix_concat (b := b) hlast
  -- Only stretches that end in the new byte are new.
  have hmem : ∀ m, m ∈ runLengths (· <:+: content ++ [b]) ↔
      m ∈ runLengths (· <:+ content ++ [b]) ∨ m ∈ runLengths (· <:+: content) := by
    intro m
    simp only [runLengths, Set.mem_ofPred_eq, List.infix_concat_iff, or_and_right, exists_or]
  by_cases hb : b = 10
  · rw [if_pos hb] at hnew ⊢
    refine ⟨(hmem n).2 (.inr h.1), fun m hm => ?_⟩
    rcases (hmem m).1 hm with hm | hm
    · exact (hnew.2 hm).trans (Nat.zero_le n)
    · exact h.2 hm
  · rw [if_neg hb] at hnew ⊢
    refine ⟨(hmem _).2 ?_, fun m hm => ?_⟩
    · rcases max_choice n (last + 1) with heq | heq
      · rw [heq]
        exact .inr h.1
      · rw [heq]
        exact .inl hnew.1
    · rcases (hmem m).1 hm with hm | hm
      · exact (hnew.2 hm).trans (le_max_right _ _)
      · exact (h.2 hm).trans (le_max_left _ _)

theorem countP_isVisibleBlank : content.countP isVisibleBlank =
    content.count 32 + content.count 9 + content.count 10 + content.count 13 := by
  induction content with
  | nil => rfl
  | cons b content ih =>
    simp only [List.countP_cons, List.count_cons, ih, isVisibleBlank]
    by_cases hblank : b = 32 ∨ b = 9 ∨ b = 10 ∨ b = 13
    -- A blank counts once, under its own value.
    · rcases hblank with rfl | rfl | rfl | rfl <;>
        · simp
          omega
    · simp only [not_or] at hblank
      simp [hblank]

theorem IsOf.push (h : s.IsOf content) : (s.push b).IsOf (content ++ [b]) where
  size := by simp [ByteTally.push, h.size]
  newlines := by
    by_cases hb : b = 10
    · simp [ByteTally.push, h.newlines, hb]
    · simp [ByteTally.push, h.newlines, hb, List.count_append]
  run := isGreatest_suffix_concat h.run
  longest := isGreatest_infix_concat h.run h.longest
  blanks := by
    rw [← countP_isVisibleBlank, List.countP_append, countP_isVisibleBlank, ← h.blanks]
    cases hb : isVisibleBlank b <;> simp [ByteTally.push, hb]

theorem isOf_of : (of content).IsOf content := by
  -- The pass goes on at the end, so the induction takes away the last byte.
  induction content using List.reverseRecOn with
  | nil => exact isOf_nil
  | append_singleton content b ih => rw [of_concat]; exact ih.push

/-- Without bytes since the last newline, a content is empty or ends in that newline. -/
theorem run_of_eq_zero_iff (hcontent : content ≠ []) :
    (of content).run = 0 ↔ content.getLast? = some 10 := by
  obtain ⟨before, b, rfl⟩ : ∃ before b, content = before ++ [b] := by
    simpa using (List.eq_nil_or_concat content).resolve_left hcontent
  by_cases hb : b = 10 <;> simp [of_concat, push, hb]

theorem lines_of (hcontent : content ≠ []) : (of content).lines =
    content.count 10 + if content.getLast? = some 10 then 0 else 1 := by
  simp only [lines, isOf_of.newlines, run_of_eq_zero_iff hcontent]

theorem lines_of_pos (hcontent : content ≠ []) : 0 < (of content).lines := by
  rw [lines_of hcontent]
  split
  · next hlast => exact Nat.lt_add_right 0 (List.count_pos_iff.2 (List.mem_of_getLast? hlast))
  · exact Nat.succ_pos _

end ByteTally

/-! ## Lines -/

section Lines

variable {content last : Bytes} {lines : List Bytes} {b : UInt8}

theorem exists_splitLines_concat (content : Bytes) (b : UInt8) : ∃ lines last,
    splitLines content = lines ++ [last] ∧
      splitLines (content ++ [b]) =
        if b = 10 then lines ++ [last, []] else lines ++ [last ++ [b]] := by
  have hcons (c : UInt8) (rest : Bytes) : splitLines (c :: rest) = joinPiece c (splitLines rest) :=
    rfl
  induction content with
  | nil => exact ⟨[], [], rfl, by simp [splitLines, joinPiece]⟩
  | cons c content ih =>
    obtain ⟨lines, last, hsplit, hconcat⟩ := ih
    rw [List.cons_append, hcons, hcons, hsplit, hconcat]
    by_cases hc : c = 10
    · exact ⟨[] :: lines, last, by simp [joinPiece, hc], by split <;> simp [joinPiece, hc]⟩
    -- The byte in front joins the first piece, which may be the last one too.
    · cases lines with
      | nil => exact ⟨[], c :: last, by simp [joinPiece, hc], by split <;> simp [joinPiece, hc]⟩
      | cons line lines =>
        exact ⟨(c :: line) :: lines, last, by simp [joinPiece, hc],
          by split <;> simp [joinPiece, hc]⟩

theorem longestLine_concat :
    longestLine (lines ++ [last]) = max (longestLine lines) last.length := by
  simp [longestLine]

theorem max?_lengths (hlines : lines ≠ []) :
    (lines.map List.length).max? = some (longestLine lines) := by
  cases lines with
  | nil => contradiction
  | cons line lines =>
    rw [List.map_cons, List.max?_cons', List.foldl_map]
    simp [longestLine]

/-- The pieces of a content in terms of its numbers: the last one is what follows the last
newline. -/
theorem exists_splitLines (content : Bytes) : ∃ lines last,
    splitLines content = lines ++ [last] ∧
      lines.length = (ByteTally.of content).newlines ∧
      last.length = (ByteTally.of content).run ∧
      max (longestLine lines) last.length = (ByteTally.of content).longest := by
  induction content using List.reverseRecOn with
  | nil => exact ⟨[], [], rfl, rfl, rfl, rfl⟩
  | append_singleton content b ih =>
    obtain ⟨lines, last, hsplit, hlines, hlast, hlongest⟩ := ih
    obtain ⟨lines', last', hsplit', hconcat⟩ := exists_splitLines_concat content b
    obtain ⟨rfl, rfl⟩ := List.append_singleton_inj.1 (hsplit.symm.trans hsplit')
    rw [ByteTally.of_concat, hconcat]
    by_cases hb : b = 10
    · refine ⟨lines ++ [last], [], by simp [hb], ?_, ?_, ?_⟩
      · simp [ByteTally.push, hb, hlines]
      · simp [ByteTally.push, hb]
      · simp [ByteTally.push, hb, longestLine_concat, hlongest]
    · refine ⟨lines, last ++ [b], by simp [hb], ?_, ?_, ?_⟩
      · simp [ByteTally.push, hb, hlines]
      · simp [ByteTally.push, hb, hlast]
      · simp only [ByteTally.push, if_neg hb, ← hlongest, ← hlast, List.length_append,
          List.length_singleton]
        omega

theorem contentLines_eq (hcontent : content ≠ []) :
    contentLines content ≠ [] ∧
      (contentLines content).length = (ByteTally.of content).lines ∧
      longestLine (contentLines content) = (ByteTally.of content).longest := by
  obtain ⟨lines, last, hsplit, hlines, hlast, hlongest⟩ := exists_splitLines content
  have hpos := ByteTally.lines_of_pos hcontent
  unfold ByteTally.lines at hpos ⊢
  rw [← hlines, ← hlast] at hpos ⊢
  rw [← hlongest]
  -- The last piece is left out exactly if no byte follows the last newline.
  cases last with
  | nil =>
    have hsome : lines ≠ [] := by
      rintro rfl
      simp at hpos
    have hdrop : contentLines content = lines := by
      simp [contentLines, hsplit, List.length_pos_iff.2 hsome]
    simp [hdrop, hsome]
  | cons b last =>
    have hkeep : contentLines content = lines ++ [b :: last] := by
      simp [contentLines, hsplit]
    simp [hkeep, longestLine_concat]

end Lines

/-! ## The checks -/

/-- The double nearest to a quotient of lengths; there is none by zero.  Lengths of contents are too
small for a quotient outside the doubles. -/
def quotient? (num den : Nat) : Option Double :=
  if den = 0 then none else some (Double.ofRatio false num den)

namespace Thresholds

variable {t : Thresholds} {content : Bytes} {path : String}

/-- The checks on the numbers of a content. -/
def IsExceededBy (t : Thresholds) (s : ByteTally) : Prop :=
  t.maxAvgLineLength.lt (.float (Double.ofRatio false s.size s.lines)) = true ∨
    t.maxSingleLineSize.lt (.int s.longest) = true ∨
    (t.minSizeForWhitespaceCheck.le (.int s.size) = true ∧
      Number.lt (.float (Double.ofRatio false s.blanks s.size)) t.minWhitespaceRatio = true)

/-- The checks on the lines of a content, one after the other.  There is no verdict if a step that is
reached divides by zero or looks for the longest of no lines. -/
def judge? (t : Thresholds) (content : Bytes) : Option Bool := do
  let lines := contentLines content
  let average ← quotient? content.length (max 1 lines.length)
  if t.maxAvgLineLength.lt (.float average) then
    return true
  let longest ← (lines.map List.length).max?
  if t.maxSingleLineSize.lt (.int longest) then
    return true
  if t.minSizeForWhitespaceCheck.le (.int content.length) then
    let ratio ← quotient? (content.countP isVisibleBlank) content.length
    return Number.lt (.float ratio) t.minWhitespaceRatio
  return false

/-- Whether a file was generated, by `judge?` if its path does not tell. -/
def isMinified? (t : Thresholds) (content : Bytes) (path : String) : Option Bool :=
  if content.isEmpty || path == "" then some false
  else if hasMinToken path || hasMinifiedName path then some true
  else t.judge? content

theorem judge?_eq_some (hcontent : content ≠ []) :
    t.judge? content = some (t.exceeded content) := by
  -- Neither divisor is zero, and there is a longest line.
  have hsize : content.length ≠ 0 := by simpa using hcontent
  have hcount : max 1 (contentLines content).length ≠ 0 := by omega
  have hmax := max?_lengths (contentLines_eq hcontent).1
  simp only [judge?, exceeded, quotient?, if_neg hsize, if_neg hcount, hmax, Option.bind_eq_bind,
    Option.bind_some, Option.pure_def]
  split
  · simp [*]
  · split
    · simp [*]
    · split <;> simp [*]

theorem exceeded_iff (hcontent : content ≠ []) :
    t.exceeded content = true ↔ t.IsExceededBy (ByteTally.of content) := by
  obtain ⟨-, hlines, hlongest⟩ := contentLines_eq hcontent
  have hpos := ByteTally.lines_of_pos hcontent
  have hmax : max 1 (contentLines content).length = (ByteTally.of content).lines := by omega
  have htally : (ByteTally.of content).IsOf content := ByteTally.isOf_of
  simp only [exceeded, IsExceededBy, hmax, hlongest, htally.size, htally.blanks,
    ByteTally.countP_isVisibleBlank, Bool.or_eq_true, Bool.and_eq_true, or_assoc]

/-- For a content that is not empty there is always a verdict, and without a mark in the path it is
the one on the numbers of the content. -/
theorem isMinified?_eq_some (hcontent : content ≠ []) (hpath : path ≠ "") :
    t.isMinified? content path = some (t.isMinified content path) ∧
      (hasMinToken path = false → hasMinifiedName path = false →
        (t.isMinified content path = true ↔ t.IsExceededBy (ByteTally.of content))) ∧
      (ByteTally.of content).IsOf content ∧
      (ByteTally.of content).lines =
        content.count 10 + (if content.getLast? = some 10 then 0 else 1) ∧
      0 < content.length ∧ 0 < (contentLines content).length ∧
      (contentLines content).length = (ByteTally.of content).lines := by
  have hguard : (content.isEmpty || path == "") = false := by simp [hcontent, hpath]
  obtain ⟨hne, hlines, -⟩ := contentLines_eq hcontent
  refine ⟨?_, ?_, ByteTally.isOf_of, ByteTally.lines_of hcontent, List.length_pos_iff.2 hcontent,
    List.length_pos_iff.2 hne, hlines⟩
  · simp only [isMinified?, isMinified, hguard, judge?_eq_some hcontent]
    cases hasMinToken path <;> cases hasMinifiedName path <;> simp
  · intro htoken hname
    simp only [isMinified, hguard, htoken, hname, Bool.false_or, Bool.false_eq_true, if_false]
    exact exceeded_iff hcontent

/-- A second line without a newline at its end counts, here as one that is too long. -/
theorem isMinified?_second_line :
    ([97, 10, 98, 98] : Bytes) ≠ [] ∧ "a.js" ≠ "" ∧
      ({ maxSingleLineSize := .int 1 } : Thresholds).isMinified? [97, 10, 98, 98] "a.js" =
        some true := by
  have hcontent : ([97, 10, 98, 98] : Bytes) ≠ [] := by decide
  have hpath : "a.js" ≠ "" := by decide
  obtain ⟨hsome, hiff, -⟩ :=
    isMinified?_eq_some (t := { maxSingleLineSize := .int 1 }) hcontent hpath
  have hexceeded : ({ maxSingleLineSize := .int 1 } : Thresholds).IsExceededBy
      (ByteTally.of [97, 10, 98, 98]) := .inr (.inl (by decide))
  have hverdict := (hiff (by decide +kernel) (by decide +kernel)).2 hexceeded
  exact ⟨hcontent, hpath, by rw [hsome, hverdict]⟩

end Thresholds

end SourceOutline
