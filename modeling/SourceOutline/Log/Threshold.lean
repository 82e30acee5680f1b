import SourceOutline.Failure.Basic
import SourceOutline.Log.Record

/-!
# Threshold — what a logger lets through

* `Threshold` — a severity from which on records pass, or none of a logger's own;
* `Threshold.ofName` — the threshold that a name means.
-/

namespace SourceOutline

/-- What a logger lets through: all that is at least as grave as a severity, or what the loggers
above it let through. -/
inductive Threshold where
  | inherited
  | atLeast (severity : Severity)
  deriving DecidableEq

namespace Threshold

def severity? : Threshold → Option Severity
  | inherited => none
  | atLeast s => some s

/-- Whether a sink with this threshold takes records of a severity; without a severity it takes
all. -/
def admits : Threshold → Severity → Bool
  | inherited, _ => true
  | atLeast least, s => least.rank ≤ s.rank

/-- The threshold that a name means, in letters of any case.  A name that means none is taken as a
warning, apart from two that are reserved for what is no threshold. -/
def ofName (s : String) : Except Fault Threshold :=
  match upperCase s with
  | "NOTSET" => .ok inherited
  | "BASIC_FORMAT" => .error .badValue
  | "_STYLES" => .error .badType
  | _ => .ok (atLeast ((Severity.ofName? s).getD .warning))

end Threshold

end SourceOutline
