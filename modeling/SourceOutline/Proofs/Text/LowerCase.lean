import SourceOutline.Proofs.Text.Surrogate
import SourceOutline.Text.Letter

/-!
# LowerCase — putting a string in lower case twice changes nothing more

* `Letter.isLower_of_mem_lowerOne` — the case change gives code points that it leaves as they are;
* `isLowerCase_lowerCase` — the same for strings.
-/

namespace SourceOutline

namespace Letter

variable {n m : Nat}

/-! ## Runs -/

/-- The run of the other cases of a run. -/
def CaseRun.image (r : CaseRun) : CaseRun where
  first := (r.first + r.shift).toNat
  last := (r.last + r.shift).toNat
  step := r.step
  shift := 0

/-- Whether two runs are seen at a glance to have no code point in common: one ends before the other
begins, or they go in steps of two and start at an odd distance. -/
def CaseRun.apart (r other : CaseRun) : Bool :=
  Nat.blt r.last other.first || Nat.blt other.last r.first ||
    ((r.step == 2 || r.first == r.last) && other.step == 2 && (r.first + other.first) % 2 == 1)

/-- What lower-case text has none of: the letters with a lower case, the two of them that the tables
leave to a rule of their own, and what is no character at all. -/
def nonLower : List CaseRun :=
  ⟨0x130, 0x130, 1, 0⟩ :: ⟨0x3A3, 0x3A3, 1, 0⟩ :: ⟨0xD800, 0xDFFF, 1, 0⟩ :: lowerRuns

def IsLower (n : Nat) : Prop :=
  n < 0x110000 ∧ ∀ r ∈ nonLower, r.holds n = false

theorem CaseRun.holds_iff {r : CaseRun} :
    r.holds n = true ↔ r.first ≤ n ∧ n ≤ r.last ∧ (n - r.first) % r.step = 0 := by
  simp [CaseRun.holds, and_assoc]

theorem CaseRun.holds_image {r : CaseRun} (h : r.holds n = true) (hshift : 0 ≤ r.first + r.shift) :
    r.image.holds (Int.ofNat n + r.shift).toNat = true := by
  rcases holds_iff.1 h with ⟨hfirst, hlast, hstep⟩
  have hdistance : (Int.ofNat n + r.shift).toNat - (r.first + r.shift).toNat = n - r.first := by
    have hn : Int.ofNat n = (n : Int) := rfl
    omega
  refine holds_iff.2 ⟨?_, ?_, ?_⟩
  · exact Int.toNat_le_toNat (by simpa using hfirst)
  · exact Int.toNat_le_toNat (by simpa using hlast)
  · exact (congrArg (· % r.step) hdistance).trans hstep

theorem CaseRun.holds_eq_false_of_apart {r other : CaseRun} (hapart : r.apart other = true)
    (h : r.holds n = true) : other.holds n = false := by
  rcases holds_iff.1 h with ⟨hfirst, hlast, hstep⟩
  rw [← Bool.not_eq_true, holds_iff]
  rintro ⟨hofirst, holast, hostep⟩
  simp only [apart, Bool.or_eq_true, Bool.and_eq_true, Nat.blt_eq, beq_iff_eq] at hapart
  rcases hapart with (hbefore | hafter) | ⟨⟨hpace, hopace⟩, hodd⟩
  · omega
  · omega
  · -- In steps of two, a run keeps the parity of its start.
    rw [hopace] at hostep
    rcases hpace with htwo | hsingle
    · rw [htwo] at hstep
      omega
    · omega

theorem apart_nonLower_of_mem_lowerRuns {r : CaseRun} (h : r ∈ lowerRuns) :
    ∀ other ∈ nonLower, r.image.apart other = true := by
  have hall : (lowerRuns.map CaseRun.image).all (fun r => nonLower.all r.apart) = true := by
    decide +kernel
  exact List.all_eq_true.1 (List.all_eq_true.1 hall r.image (List.mem_map_of_mem h))

theorem bounds_of_mem_lowerRuns {r : CaseRun} (h : r ∈ lowerRuns) :
    0 ≤ r.first + r.shift ∧ r.image.last < 0x110000 := by
  have hall : lowerRuns.all (fun r => decide (0 ≤ r.first + r.shift) &&
      decide (r.image.last < 0x110000)) = true := by decide +kernel
  simpa using List.all_eq_true.1 hall r h

/-! ## Code points -/

theorem IsLower.isValidChar (h : IsLower n) : n.isValidChar := by
  have hsurrogate := h.2 ⟨0xD800, 0xDFFF, 1, 0⟩ (by simp [nonLower])
  rw [← Bool.not_eq_true, CaseRun.holds_iff] at hsurrogate
  have hbound := h.1
  simp only [Nat.mod_one, and_true] at hsurrogate
  unfold Nat.isValidChar
  omega

theorem IsLower.toNat_ofNat (h : IsLower n) : (Char.ofNat n).toNat = n := by
  rw [Char.ofNat, dif_pos h.isValidChar]
  rfl

theorem isLower_convert (hvalid : n.isValidChar) (hdotted : n ≠ 0x130) (hsigma : n ≠ 0x3A3) :
    IsLower (convert lowerRuns n) := by
  unfold convert
  cases hfind : lowerRuns.find? (·.holds n) with
  | some r =>
      have hmem := List.mem_of_find?_eq_some hfind
      rcases bounds_of_mem_lowerRuns hmem with ⟨hshift, hlast⟩
      have hholds := CaseRun.holds_image (by simpa using List.find?_some hfind) hshift
      refine ⟨Nat.lt_of_le_of_lt (CaseRun.holds_iff.1 hholds).2.1 hlast, ?_⟩
      intro other hother
      have hapart := apart_nonLower_of_mem_lowerRuns hmem other hother
      exact CaseRun.holds_eq_false_of_apart hapart hholds
  | none =>
      -- What no run holds stays as it is, and was lower case before.
      have hnone : ∀ r ∈ lowerRuns, r.holds n = false := by
        intro r hr
        exact Bool.not_eq_true _ ▸ List.find?_eq_none.1 hfind r hr
      unfold Nat.isValidChar at hvalid
      refine ⟨by simp only; omega, ?_⟩
      intro r hr
      rw [nonLower, List.mem_cons, List.mem_cons, List.mem_cons] at hr
      rw [← Bool.not_eq_true, CaseRun.holds_iff]
      rcases hr with rfl | rfl | rfl | hr
      · simp only
        omega
      · simp only
        omega
      · simp only
        omega
      · rw [← CaseRun.holds_iff, hnone r hr]
        exact Bool.false_ne_true

theorem lowerOne_eq_convert (hdotted : n ≠ 0x130) (hsigma : n ≠ 0x3A3) (before after : List Nat) :
    lowerOne before n after = [convert lowerRuns n] := by
  rw [lowerOne, if_neg hdotted, if_neg hsigma]
  by_cases hascii : n < 0x80
  · -- The first run of the table is the only one in ASCII.
    have hothers : ∀ r ∈ lowerRuns.tail, 0x80 ≤ r.first := by decide +kernel
    have hnone : lowerRuns.tail.find? (·.holds n) = none := by
      refine List.find?_eq_none.2 ?_
      intro r hr hholds
      have hfirst := hothers r hr
      have hle := (CaseRun.holds_iff.1 hholds).1
      omega
    have hruns : lowerRuns = ⟨0x41, 0x5A, 1, 32⟩ :: lowerRuns.tail := rfl
    rw [if_pos hascii, convert, hruns, List.find?_cons, hnone]
    by_cases hupper : 0x41 ≤ n ∧ n ≤ 0x5A
    · have hholds : CaseRun.holds ⟨0x41, 0x5A, 1, 32⟩ n = true :=
        CaseRun.holds_iff.2 ⟨hupper.1, hupper.2, Nat.mod_one _⟩
      rw [if_pos hupper, hholds]
      rfl
    · have hholds : CaseRun.holds ⟨0x41, 0x5A, 1, 32⟩ n = false := by
        rw [← Bool.not_eq_true, CaseRun.holds_iff]
        exact fun h => hupper ⟨h.1, h.2.1⟩
      rw [if_neg hupper, hholds]
  · rw [if_neg hascii]

theorem isLower_of_mem_lowerOne {before after : List Nat} (hvalid : n.isValidChar)
    (h : m ∈ lowerOne before n after) : IsLower m := by
  have hspecial : ∀ m ∈ [0x69, 0x307, 0x3C2, 0x3C3], IsLower m := by
    unfold IsLower
    decide +kernel
  by_cases hdotted : n = 0x130
  · rw [lowerOne, if_pos hdotted] at h
    exact hspecial m (List.mem_append_left [0x3C2, 0x3C3] h)
  · by_cases hsigma : n = 0x3A3
    · rw [lowerOne, if_neg hdotted, if_pos hsigma] at h
      split at h
      · rw [List.mem_singleton.1 h]
        exact hspecial 0x3C2 (by decide)
      · rw [List.mem_singleton.1 h]
        exact hspecial 0x3C3 (by decide)
    · rw [lowerOne_eq_convert hdotted hsigma, List.mem_singleton] at h
      rw [h]
      exact isLower_convert hvalid hdotted hsigma

theorem lowerOne_of_isLower (h : IsLower n) (before after : List Nat) :
    lowerOne before n after = [n] := by
  have hdotted : n ≠ 0x130 := by
    rintro rfl
    exact absurd (h.2 ⟨0x130, 0x130, 1, 0⟩ (by simp [nonLower])) (by decide)
  have hsigma : n ≠ 0x3A3 := by
    rintro rfl
    exact absurd (h.2 ⟨0x3A3, 0x3A3, 1, 0⟩ (by simp [nonLower])) (by decide)
  have hfind : lowerRuns.find? (·.holds n) = none := by
    refine List.find?_eq_none.2 ?_
    intro r hr
    rw [h.2 r (by simp [nonLower, hr])]
    exact Bool.false_ne_true
  rw [lowerOne_eq_convert hdotted hsigma, convert, hfind]

theorem isLower_of_mem_lowerFrom {codes : List Nat} (hvalid : ∀ n ∈ codes, n.isValidChar)
    (before : List Nat) : ∀ m ∈ lowerFrom before codes, IsLower m := by
  induction codes generalizing before with
  | nil =>
      simp [lowerFrom]
  | cons n codes ih =>
      intro m hm
      rw [lowerFrom, List.mem_append] at hm
      rcases hm with hm | hm
      · exact isLower_of_mem_lowerOne (hvalid n List.mem_cons_self) hm
      · exact ih (fun n hn => hvalid n (List.mem_cons_of_mem _ hn)) (n :: before) m hm

theorem lowerFrom_of_isLower {codes : List Nat} (h : ∀ n ∈ codes, IsLower n) (before : List Nat) :
    lowerFrom before codes = codes := by
  induction codes generalizing before with
  | nil =>
      rfl
  | cons n codes ih =>
      rw [lowerFrom, lowerOne_of_isLower (h n List.mem_cons_self),
        ih fun n hn => h n (List.mem_cons_of_mem _ hn)]
      rfl

end Letter

/-! ## Strings -/

variable {s : String}

def IsLowerCase (s : String) : Prop :=
  ∀ c ∈ s.toList, Letter.IsLower c.toNat

theorem map_ofNat_map_toNat (cs : List Char) : (cs.map Char.toNat).map Char.ofNat = cs := by
  rw [List.map_map]
  exact List.map_id'' Char.ofNat_toNat cs

theorem lowerCase_of_isLowerCase (h : IsLowerCase s) : lowerCase s = s := by
  have hcodes : ∀ n ∈ s.toList.map Char.toNat, Letter.IsLower n := by
    intro n hn
    rcases List.mem_map.1 hn with ⟨c, hc, rfl⟩
    exact h c hc
  rw [lowerCase, Letter.lowerFrom_of_isLower hcodes, map_ofNat_map_toNat, String.ofList_toList]

theorem isLower_of_mem_lowerFrom_toNat {m : Nat}
    (h : m ∈ Letter.lowerFrom [] (s.toList.map Char.toNat)) : Letter.IsLower m := by
  refine Letter.isLower_of_mem_lowerFrom ?_ [] m h
  intro n hn
  rcases List.mem_map.1 hn with ⟨c, _, rfl⟩
  exact c.valid

theorem isLowerCase_lowerCase (s : String) : IsLowerCase (lowerCase s) := by
  intro c hc
  rw [lowerCase, String.toList_ofList] at hc
  rcases List.mem_map.1 hc with ⟨m, hm, rfl⟩
  have hlower := isLower_of_mem_lowerFrom_toNat hm
  rw [hlower.toNat_ofNat]
  exact hlower

theorem head?_lowerCase_of_dot (h : s.toList.head? = some '.') :
    (lowerCase s).toList.head? = some '.' := by
  rcases List.head?_eq_some_iff.1 h with ⟨rest, hrest⟩
  rw [lowerCase, hrest, String.toList_ofList, List.map_cons, Letter.lowerFrom]
  rfl

end SourceOutline
