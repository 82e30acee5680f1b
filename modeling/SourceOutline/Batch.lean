import SourceOutline.Console.Report
import SourceOutline.Course
import SourceOutline.Log.Scan
import SourceOutline.Minified
import SourceOutline.Registry

/-!
# Batch — many files, one after the other

A failure of one file is reported and does not keep the others from being chunked, unless it is one
that nobody expects, which ends the batch.
-/

namespace SourceOutline

/-! ## One file -/

/-- How the files of a batch are to be chunked, where the log is kept, and what the batch meets. -/
structure BatchOptions where
  useReferences : Bool := false
  skipMinified : Bool := true
  thresholds : Thresholds := {}
  timeout : Option Number := none
  verbose : Bool := false
  log? : Option LogFile := none
  course : Course := {}

/-- A file as a batch finds it after records have been logged. -/
def BatchOptions.found (options : BatchOptions) (records : List Record) (l : Listing) : Listing :=
  match options.log? with
  | some log => log.grown options.course records l
  | none => l

inductive FileOutcome where
  | skipped (path : String)
  | chunked (o : Outline)

/-- Chunks a file with the chunker written for its language, if that is wanted and there is one, and
else by the registry. -/
def chunkOne (tools : Toolchain) (r : Registry) (useReferences : Bool) (file : SourceFile)
    (poll : Poll) : Call Outline :=
  let language? := if useReferences then r.languageFor file.extension else none
  match language?.bind r.reference?, language? with
  | some reference, some language => reference.chunk tools (file.withLanguage language) (some poll)
  | _, _ => r.chunk tools file (some poll)

/-- Skips or chunks a file.  The clock is read for the deadline first, and then by the checks. -/
def processFile (tools : Toolchain) (r : Registry) (options : BatchOptions) (met : Encounter)
    (l : Listing) : Call FileOutcome := do
  match met.fault? with
  | some why => throw (.fault why)
  | none =>
    let file := l.toSourceFile
    if options.skipMinified && options.thresholds.isMinified file.content file.path then
      pure (.skipped file.path)
    else
      match Token.starting (met.clock 0) options.timeout none with
      | .error why => throw (.fault why)
      | .ok token =>
        pure (.chunked (← chunkOne tools r options.useReferences file (token.poll met.clock none)))

/-! ## All files -/

/-- A batch between two files: the session, the tally, how many files there were, what was shown,
the outlines, and the failure that ended it, if there is one. -/
structure Batch where
  session : Session
  scan : Scan
  number : Nat := 0
  prints : List Print := []
  outlines : List Outline := []
  raised : Option Failure := none

namespace Batch

def log (b : Batch) (e : Entry) : Batch :=
  { b with session := { b.session with records := b.session.records ++ [Scan.record e] } }

/-- Enters one file more into the tally and logs it; a tally that fails ends the batch. -/
def count (b : Batch) : Scan × Except Fault Entry → Batch
  | (scan, .ok e) => { b with scan }.log e
  | (scan, .error why) => { b with scan, raised := some (.fault why) }

def enter (options : BatchOptions) (b : Batch) (l : Listing) :
    Except Failure FileOutcome → Batch
  | .ok (.skipped path) => b.count (b.scan.addSkipped (.text path) (.text "minified"))
  | .ok (.chunked o) =>
    { b with outlines := b.outlines ++ [o] }.count
      (b.scan.addDone (.text o.file.path) (.int o.chunks.length))
  | .error why =>
    if why.isContained then
      let path := l.path.toString
      let shown := (Report.ofFailure why).prints ("While chunking " ++ path) options.verbose
      { b with prints := b.prints ++ shown }.count
        (b.scan.addFailed (.text path) (.text why.message))
    else { b with raised := some why }

/-- What becomes of the next file, and the session after it.  The checks of a file are counted from
its start. -/
def next (tools : Toolchain) (r : Registry) (options : BatchOptions) (b : Batch) (l : Listing) :
    Except Failure FileOutcome × Session :=
  (processFile tools r options (options.course.atFile b.number)
    (options.found b.session.records l)).outcome { b.session with checks := 0 }

/-- Processes one more file, unless the batch has ended. -/
def step (tools : Toolchain) (r : Registry) (options : BatchOptions) (b : Batch) (l : Listing) :
    Batch :=
  match b.raised with
  | some _ => b
  | none =>
    let (outcome, session) := b.next tools r options l
    { b with session, number := b.number + 1 }.enter options l outcome

def run (tools : Toolchain) (r : Registry) (options : BatchOptions) (files : List Listing)
    (b : Batch) : Batch :=
  files.foldl (step tools r options) b

end Batch

end SourceOutline
