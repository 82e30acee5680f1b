import SourceOutline.Double.Basic
import SourceOutline.Log.File
import SourceOutline.SourceListing

/-!
# Course — what a run meets on its way

Not all that a run over files comes to is settled when it begins.  Time goes by, a file may turn out
not to be readable, the console may refuse a markup, and the log file grows, which may itself be one
of the files.  What comes from outside is given here as it comes, and nothing is assumed of it.

Files have one place each: there are no links.
-/

namespace SourceOutline

/-- What a run meets at one file: what the clock shows at each reading, and what keeps its content
from being read or the time of its last change from being told, if anything does. -/
structure Encounter where
  clock : Nat → Double := fun _ => Double.zero false
  refusal? : Option Fault := none
  timeless? : Option Fault := none

def Encounter.fault? (met : Encounter) : Option Fault :=
  met.refusal?.or met.timeless?

structure Course where
  /-- What the clock shows when the run begins and when it ends. -/
  started : Double := Double.zero false
  finished : Double := Double.zero false
  /-- What is met at the files, in the order in which the run comes to them. -/
  atFile : Nat → Encounter := fun _ => {}
  /-- The time in front of each line of the log file. -/
  lineTime : Nat → String := fun _ => "0000-00-00 00:00:00"
  /-- The time of the last change of the log file, by the number of its new lines. -/
  modified : Nat → Number := fun _ => .int 0
  /-- Whether the console refuses a markup. -/
  refuses : String → Bool := fun _ => false

def Course.only (c : Course) (number : Nat) : Course :=
  { c with atFile := fun _ => c.atFile number }

/-! ## The log file -/

/-- The place of a path that starts from a directory: its components from the top, where two dots
lead back. -/
def FilePath.placeFrom (start p : FilePath) : List String :=
  (start.join p).parts.foldl
    (fun place name => if name = ".." then place.dropLast else place ++ [name]) []

/-- The file that a run keeps its log in, by its path from a directory, and the least grave records
that are written to it. -/
structure LogFile where
  start : FilePath
  path : FilePath
  threshold : Severity

namespace LogFile

def isAt (log : LogFile) (p : FilePath) : Bool :=
  p.placeFrom log.start == log.path.placeFrom log.start

def lines (log : LogFile) (course : Course) (records : List Record) : List String :=
  (Record.visible log.threshold records).mapIdx fun n r =>
    course.lineTime n ++ " | " ++ r.fileText none

def grown (log : LogFile) (course : Course) (records : List Record) (l : Listing) : Listing :=
  let lines := log.lines course records
  if log.isAt l.path && !lines.isEmpty then
    { l with
        contents := .bytes (l.contents.toBytes ++ utf8Bytes (String.join lines))
        modified := course.modified lines.length }
  else l

end LogFile

end SourceOutline
