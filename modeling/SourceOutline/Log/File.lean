import SourceOutline.FileTree
import SourceOutline.Log.Record
import SourceOutline.Text.Line

/-!
# File — records in files

A log file holds one text per record, and each text may have several lines.  The time at the front
of a record comes from outside, so it is no part of the text, and lines are read without anything
that has the form of one.
-/

namespace SourceOutline

/-! ## Writing -/

def Record.noOrigin : String := "NoneType: None"

/-- What a record adds to a log file: its text, then the origin of a failure, if one is to be shown,
on a line of its own. -/
def Record.fileText (r : Record) (origin : Option String) : String :=
  match origin with
  | none => r.text ++ "\n"
  | some o => r.text ++ (if r.text.toList.getLast? = some '\n' then "" else "\n") ++ o ++ "\n"

/-- The files after a text has been added to one of them, which is made if need be.  A file that
cannot be written stays as it is. -/
def Workspace.append (w : Workspace) (p : FilePath) (text : String) : Workspace :=
  let written := w.update p fun found =>
    match found with
    | some (.file c modified) => .file (.bytes (c.toBytes ++ utf8Bytes text)) modified
    | _ => .file (.bytes (utf8Bytes text)) (.int 0)
  match written with
  | .ok next => next
  | .error _ => w

/-! ## Reading -/

def timeForm : List Char := "0000-00-00 00:00:00 | ".toList

def hasForm : (form line : List Char) → Bool
  | [], _ => true
  | _ :: _, [] => false
  | f :: form, c :: line => (if f = '0' then c.isDigit else c = f) && hasForm form line

def withoutTime (line : List Char) : List Char :=
  if hasForm timeForm line then line.drop timeForm.length else line

def Workspace.logLines (w : Workspace) (p : FilePath) : Except Fault (List String) :=
  (w.read p).map fun c =>
    (textLines (Utf8.decode c.toBytes).toString.toList).map fun line =>
      String.ofList (withoutTime line)

end SourceOutline
