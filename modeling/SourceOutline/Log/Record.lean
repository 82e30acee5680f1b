import SourceOutline.Entries
import SourceOutline.Text.Letter
import SourceOutline.Value.Basic

/-!
# Record — what is written to a log

A log record has a severity, the name of the logger that made it, and a message.  Details are given
as named fields, which stand after the message.
-/

namespace SourceOutline

/-! ## Severity -/

inductive Severity where
  | debug
  | info
  | warning
  | error
  | critical
  deriving DecidableEq

namespace Severity

def rank : Severity → Nat
  | debug => 10
  | info => 20
  | warning => 30
  | error => 40
  | critical => 50

def name : Severity → String
  | debug => "DEBUG"
  | info => "INFO"
  | warning => "WARNING"
  | error => "ERROR"
  | critical => "CRITICAL"

/-- The severity that a name means, in letters of any case; two of the severities have a second
name. -/
def ofName? (s : String) : Option Severity :=
  match upperCase s with
  | "DEBUG" => some debug
  | "INFO" => some info
  | "WARN" | "WARNING" => some warning
  | "ERROR" => some error
  | "CRITICAL" | "FATAL" => some critical
  | _ => none

end Severity

/-! ## Fields -/

/-- Named values in the order in which their names were first given. -/
abbrev Fields := List (String × Value)

namespace Fields

def merge (fields further : Fields) : Fields :=
  further.foldl (fun fs f => putEntry f.1 f.2 fs) fields

def render (message : String) (fields : Fields) : String :=
  fields.foldl (fun s f => s ++ " | " ++ f.1 ++ "=" ++ f.2.display) message

end Fields

/-! ## Records -/

structure Record where
  severity : Severity
  logger : String
  message : String
  deriving DecidableEq

namespace Record

def of (severity : Severity) (logger message : String) (fields : Fields) : Record :=
  { severity, logger, message := fields.render message }

def visible (threshold : Severity) (records : List Record) : List Record :=
  records.filter fun r => threshold.rank ≤ r.severity.rank

def padRight (width : Nat) (s : String) : String :=
  s ++ String.ofList (List.replicate (width - s.length) ' ')

def text (r : Record) : String :=
  padRight 8 r.severity.name ++ " | " ++ r.logger ++ " | " ++ r.message

end Record

end SourceOutline
