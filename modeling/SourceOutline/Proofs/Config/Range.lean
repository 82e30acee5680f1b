import Mathlib.Algebra.Order.Ring.Unbundled.Rat
import SourceOutline.Proofs.Config.Acceptance

/-!
# Range — the numbers in accepted settings

Settings are refused if a comparison says that a number is out of bounds.  No comparison holds of
not-a-number, so a check that asks for what is forbidden lets it through, and a check that asks for
what is allowed does not.

* `Config.isInRange_of_ofValue` — accepted settings keep these bounds and have these truth values;
* `UnboundedInterval.not_reaches_one` — accepted settings with an interval that is not one or more.
-/

namespace SourceOutline

/-! ## Comparisons with an integer -/

namespace Number

variable {x : Number} {m n : Int}

/-- The number is not-a-number, which has no place in the order. -/
def IsNaN (x : Number) : Prop :=
  ∃ negative, x = .float (.nan negative)

/-- The number is infinite, or a rational number that is at least `q`. -/
def Reaches (x : Number) (q : Rat) : Prop :=
  x.value? = some .posInfinity ∨ ∃ p, x.value? = some (.real p) ∧ q ≤ p

/-- The number is infinite, or a rational number above `q`. -/
def Exceeds (x : Number) (q : Rat) : Prop :=
  x.value? = some .posInfinity ∨ ∃ p, x.value? = some (.real p) ∧ q < p

/-- The number is a rational number between two others. -/
def IsBetween (x : Number) (q r : Rat) : Prop :=
  ∃ p, x.value? = some (.real p) ∧ q ≤ p ∧ p ≤ r

theorem value?_eq_none_iff : x.value? = none ↔ x.IsNaN := by
  cases x with
  | int n => simp [value?, IsNaN]
  | flag b => simp [value?, IsNaN]
  | float d => cases d <;> simp [value?, Double.value?, Double.toRat?, IsNaN]

theorem value?_int : (int n).value? = some (.real n) := rfl

theorem lt_eq_false_iff : x.lt (.int n) = false ↔ x.IsNaN ∨ x.Reaches n := by
  -- A number has no value, an infinite one, or a rational one.
  rw [← value?_eq_none_iff, Reaches]
  rcases hx : x.value? with - | (- | p | -) <;> simp [lt, hx, value?_int, Extended.lt]

theorem le_eq_false_iff : x.le (.int n) = false ↔ x.IsNaN ∨ x.Exceeds n := by
  rw [← value?_eq_none_iff, Exceeds]
  rcases hx : x.value? with - | (- | p | -) <;> simp [le, hx, value?_int, Extended.le, Extended.lt]

theorem le_and_le_iff :
    (Number.le (.int m) x && x.le (.int n)) = true ↔ x.IsBetween m n := by
  rw [IsBetween]
  rcases hx : x.value? with - | (- | p | -) <;> simp [le, hx, value?_int, Extended.le, Extended.lt]

end Number

/-! ## Bounds for settings -/

/-- All settings are within their bounds.  Four of the numbers may be not-a-number instead. -/
structure Config.IsInRange (c : Config) : Prop where
  interval : c.chunking.checkInterval.IsNaN ∨ c.chunking.checkInterval.Reaches 1
  average : c.minified.maxAvgLineLength.IsNaN ∨ c.minified.maxAvgLineLength.Exceeds 0
  line : c.minified.maxSingleLineSize.IsNaN ∨ c.minified.maxSingleLineSize.Exceeds 0
  ratio : c.minified.minWhitespaceRatio.IsBetween 0 1
  size : c.minified.minSizeForWhitespaceCheck.IsNaN ∨ c.minified.minSizeForWhitespaceCheck.Reaches 0
  level : c.logging.level ∈ levelNames

/-- The truth value that a value stands for: itself, or what a word means in any case and with any
white space around it. -/
inductive Value.MeansFlag : Value → Bool → Prop
  | bool (b : Bool) : MeansFlag (.bool b) b
  | yes (s : String) (h : lowerCase (stripString s) ∈ yesWords) : MeansFlag (.text s) true
  | no (s : String) (h : lowerCase (stripString s) ∈ noWords) : MeansFlag (.text s) false

/-- Both flags are truth values that the values for them stand for; without a value they are true. -/
structure Config.HasFlags (given : Value) (c : Config) : Prop where
  skip : ((given.at? "chunking" "skip_minified").getD (.bool true)).MeansFlag
    c.chunking.skipMinified
  references : ((given.at? "chunking" "legacy_enabled").getD (.bool true)).MeansFlag
    c.chunking.referencesEnabled

theorem meansFlag_of_parseBool {name : String} {v : Value} {b : Bool}
    (h : parseBool name v = .ok b) : v.MeansFlag b := by
  unfold parseBool at h
  split at h
  · cases h
    exact .bool b
  · rename_i s
    dsimp only at h
    split at h
    · rename_i hyes
      cases h
      exact .yes s (List.contains_iff_mem.1 hyes)
    · split at h
      · rename_i hno
        cases h
        exact .no s (List.contains_iff_mem.1 hno)
      · cases h
  · cases h

theorem mem_levelNames_of_readLevel {v : Value} {level : String} (h : readLevel v = .ok level) :
    level ∈ levelNames := by
  unfold readLevel at h
  split at h
  · dsimp only at h
    split at h
    · rename_i hname
      cases h
      exact List.contains_iff_mem.1 hname
    · cases h
  · cases h
  · cases h

namespace Config

variable {env : Environment} {v : Value} {basePath : FilePath} {c : Config}

/-- Settings that a value gives are within their bounds, except for not-a-number in the places of
the numbers that are only checked for being too small, and their flags are truth values. -/
theorem isInRange_of_ofValue (h : ofValue env v basePath = .ok c) :
    c.IsInRange ∧ c.HasFlags (v.orEmpty.expand env) := by
  have hread := (ofValue_eq_ok_iff.1 h).1
  rcases hread.chunking with ⟨found, hfound, hchunking⟩
  rcases hread.minified with ⟨_, _, hminified⟩
  rcases hread.logging with ⟨_, _, hlogging⟩
  refine ⟨?_, ?_⟩
  · exact
      { interval := by simpa using Number.lt_eq_false_iff.1 hchunking.interval
        average := by simpa using Number.le_eq_false_iff.1 hminified.averagePositive
        line := by simpa using Number.le_eq_false_iff.1 hminified.linePositive
        ratio := by simpa using Number.le_and_le_iff.1 hminified.ratioInRange
        size := by simpa using Number.lt_eq_false_iff.1 hminified.sizeNotNegative
        level := mem_levelNames_of_readLevel hlogging.level }
  · have hskip := meansFlag_of_parseBool hchunking.skip
    have hreferences := meansFlag_of_parseBool hchunking.references
    -- The flags are looked up in the section, which has the keys that the value has there.
    rw [readSection_get? hfound] at hskip hreferences
    exact ⟨hskip, hreferences⟩

end Config

/-! ## An interval that is not-a-number -/

namespace UnboundedInterval

def directory : FilePath := { anchor := "/", parts := ["project"] }

def document (interval : Value) : Value :=
  .map [(.text "chunking", .map [(.text "check_interval", interval)])]

def settings (interval : Number) : Config :=
  { chunking := { checkInterval := interval }, basePath := directory }

/-- An interval of seven is accepted and within its bounds. -/
theorem isInRange_seven :
    Config.ofValue {} (document (.int 7)) directory = .ok (settings (.int 7)) ∧
      (settings (.int 7)).IsInRange := by
  have h : Config.ofValue {} (document (.int 7)) directory = .ok (settings (.int 7)) := by rfl
  exact ⟨h, (Config.isInRange_of_ofValue h).1⟩

/-- Not-a-number is accepted as an interval, and it is not one or more. -/
theorem not_reaches_one :
    Config.ofValue {} (document (.float (.nan true))) directory =
        .ok (settings (.float (.nan true))) ∧
      ¬ (settings (.float (.nan true))).chunking.checkInterval.Reaches 1 := by
  refine ⟨by rfl, ?_⟩
  rintro (h | ⟨p, h, -⟩) <;> cases h

end UnboundedInterval

end SourceOutline
