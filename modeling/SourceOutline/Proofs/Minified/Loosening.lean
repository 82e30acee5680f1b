import Mathlib.Algebra.Order.Ring.Unbundled.Rat
import SourceOutline.Minified

/-!
# Loosening — looser limits never find more files

A content is compared with two upper limits, and from a certain size on with a lower one.  Each of
these checks lets more contents pass when its limits are moved outwards.  Which of the checks a
content fails may change with the limits, but a file that is found with the looser limits is found
with the stricter ones too.

* `Thresholds.isMinified_of_loosensTo` — looser limits call no further files generated.
-/

namespace SourceOutline

/-! ## Comparisons one after the other -/

namespace Extended

variable {a b c : Extended}

-- Where an infinity stands only some comparisons are possible; the others are between rationals.

theorem lt_of_le_of_lt (hab : a.le b = true) (hbc : b.lt c = true) : a.lt c = true := by
  cases a <;> cases b <;> cases c <;> simp [le, lt] at hab hbc ⊢
  exact hab.trans_lt hbc

theorem lt_of_lt_of_le (hab : a.lt b = true) (hbc : b.le c = true) : a.lt c = true := by
  cases a <;> cases b <;> cases c <;> simp [le, lt] at hab hbc ⊢
  exact hab.trans_le hbc

theorem le_trans (hab : a.le b = true) (hbc : b.le c = true) : a.le c = true := by
  cases a <;> cases b <;> cases c <;> simp [le, lt] at hab hbc ⊢
  exact hab.trans hbc

end Extended

namespace Number

variable {x y z : Number}

theorem lt_eq_true_iff :
    x.lt y = true ↔ ∃ a b, x.value? = some a ∧ y.value? = some b ∧ a.lt b = true := by
  unfold lt
  cases x.value? <;> cases y.value? <;> simp

theorem le_eq_true_iff :
    x.le y = true ↔ ∃ a b, x.value? = some a ∧ y.value? = some b ∧ a.le b = true := by
  unfold le
  cases x.value? <;> cases y.value? <;> simp

theorem lt_of_le_of_lt (hxy : x.le y = true) (hyz : y.lt z = true) : x.lt z = true := by
  rcases le_eq_true_iff.1 hxy with ⟨a, b, hx, hy, hab⟩
  rcases lt_eq_true_iff.1 hyz with ⟨b', c, hy', hz, hbc⟩
  cases hy.symm.trans hy'
  exact lt_eq_true_iff.2 ⟨a, c, hx, hz, Extended.lt_of_le_of_lt hab hbc⟩

theorem lt_of_lt_of_le (hxy : x.lt y = true) (hyz : y.le z = true) : x.lt z = true := by
  rcases lt_eq_true_iff.1 hxy with ⟨a, b, hx, hy, hab⟩
  rcases le_eq_true_iff.1 hyz with ⟨b', c, hy', hz, hbc⟩
  cases hy.symm.trans hy'
  exact lt_eq_true_iff.2 ⟨a, c, hx, hz, Extended.lt_of_lt_of_le hab hbc⟩

theorem le_trans (hxy : x.le y = true) (hyz : y.le z = true) : x.le z = true := by
  rcases le_eq_true_iff.1 hxy with ⟨a, b, hx, hy, hab⟩
  rcases le_eq_true_iff.1 hyz with ⟨b', c, hy', hz, hbc⟩
  cases hy.symm.trans hy'
  exact le_eq_true_iff.2 ⟨a, c, hx, hz, Extended.le_trans hab hbc⟩

end Number

/-! ## Looser limits -/

namespace Thresholds

variable {t u : Thresholds} {content : Bytes} {path : String}

/-- The second limits are at least as loose as the first ones: those for lengths and the size from
which white space counts are not lower, and the least ratio of white space is not higher.
Not-a-number is not comparable, so it is none of the limits. -/
structure LoosensTo (t u : Thresholds) : Prop where
  average : t.maxAvgLineLength.le u.maxAvgLineLength = true
  line : t.maxSingleLineSize.le u.maxSingleLineSize = true
  ratio : u.minWhitespaceRatio.le t.minWhitespaceRatio = true
  size : t.minSizeForWhitespaceCheck.le u.minSizeForWhitespaceCheck = true

/-- A content that exceeds the looser limits exceeds the stricter ones. -/
theorem exceeded_of_loosensTo (h : t.LoosensTo u) (hu : u.exceeded content = true) :
    t.exceeded content = true := by
  -- The lengths that are compared are those of the content, whatever the limits are.
  simp only [exceeded, Bool.or_eq_true, Bool.and_eq_true] at hu ⊢
  rcases hu with (haverage | hline) | ⟨hsize, hratio⟩
  · exact .inl (.inl (Number.lt_of_le_of_lt h.average haverage))
  · exact .inl (.inr (Number.lt_of_le_of_lt h.line hline))
  · exact .inr ⟨Number.le_trans h.size hsize, Number.lt_of_lt_of_le hratio h.ratio⟩

/-- A file that is found with looser limits is found with stricter ones. -/
theorem isMinified_of_loosensTo (h : t.LoosensTo u) (hu : u.isMinified content path = true) :
    t.isMinified content path = true := by
  unfold isMinified at hu ⊢
  split at hu
  · cases hu
  · rw [if_neg ‹_›]
    -- The marks in the path do not depend on the limits.
    rcases Bool.or_eq_true_iff.1 hu with hnamed | hexceeded
    · rw [hnamed, Bool.true_or]
    · rw [exceeded_of_loosensTo h hexceeded, Bool.or_true]

end Thresholds

namespace DenseLine

def content : Bytes := [97, 97, 97, 97]

/-- Limits that the letters exceed by their number. -/
def strict : Thresholds where
  maxAvgLineLength := .int 3
  maxSingleLineSize := .int 10
  minWhitespaceRatio := .flag true
  minSizeForWhitespaceCheck := .int 0

/-- Looser limits, which they exceed only because there is no white space among them. -/
def loose : Thresholds where
  maxAvgLineLength := .float (.infinite false)
  maxSingleLineSize := .int 10
  minWhitespaceRatio := .float (Double.ofRatio false 1 20)
  minSizeForWhitespaceCheck := .int 4

/-- The checks that the content fails are not the same ones. -/
theorem isMinified_strict :
    strict.LoosensTo loose ∧ loose.isMinified content "a.js" = true ∧
      loose.maxAvgLineLength.lt (.int 4) = false ∧ strict.maxAvgLineLength.lt (.int 4) = true ∧
      strict.isMinified content "a.js" = true := by
  have hlooser : strict.LoosensTo loose := by constructor <;> decide +kernel
  have hloose : loose.isMinified content "a.js" = true := by decide +kernel
  exact ⟨hlooser, hloose, by decide +kernel, by decide +kernel,
    Thresholds.isMinified_of_loosensTo hlooser hloose⟩

end DenseLine

end SourceOutline
