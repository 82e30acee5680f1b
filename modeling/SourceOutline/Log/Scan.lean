import SourceOutline.Failure.Basic
import SourceOutline.Log.Record

/-!
# Scan — the tally of a batch of files

* `Scan` — how many files of a batch were chunked, skipped and failed, and how many chunks came out;
* `Scan.addDone`, `Scan.addSkipped`, `Scan.addFailed` — one file more, with the record of it;
* `Scan.summary` — the record that closes a batch.
-/

namespace SourceOutline

/-- The tally of a batch, with what it was started for and when. -/
structure Scan where
  root : Value
  started : Double
  done : Nat := 0
  failed : Nat := 0
  skipped : Nat := 0
  chunks : Number := .int 0

structure Entry where
  severity : Severity
  message : String
  fields : Fields

namespace Scan

def loggerName : String := "chunkforge.scan"

def record (e : Entry) : Record :=
  .of e.severity loggerName e.message e.fields

/-- A file was chunked.  It counts as done even where what is given for its chunks cannot be added
to the others. -/
def addDone (s : Scan) (path chunks : Value) : Scan × Except Fault Entry :=
  let counted := { s with done := s.done + 1 }
  match chunks.number? with
  | none => (counted, .error .badType)
  | some n =>
    match s.chunks.add? n with
    | none => (counted, .error .tooLarge)
    | some total =>
      ({ counted with chunks := total },
        .ok ⟨.debug, "Chunked file", [("path", path), ("chunks", chunks)]⟩)

def addSkipped (s : Scan) (path reason : Value) : Scan × Except Fault Entry :=
  ({ s with skipped := s.skipped + 1 },
    .ok ⟨.info, "Skipped file", [("path", path), ("reason", reason)]⟩)

def addFailed (s : Scan) (path error : Value) : Scan × Except Fault Entry :=
  ({ s with failed := s.failed + 1 },
    .ok ⟨.warning, "Failed to chunk file", [("path", path), ("error", error)]⟩)

def summary (s : Scan) (clock : Double) : Entry :=
  ⟨.info, "Scan completed",
    [("root", s.root), ("files", .int s.done), ("skipped", .int s.skipped),
      ("failed", .int s.failed), ("chunks", .ofNumber s.chunks),
      ("duration_sec", .text ((clock.sub s.started).fixed 2))]⟩

end Scan

end SourceOutline
