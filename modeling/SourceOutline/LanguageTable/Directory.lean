import SourceOutline.DocumentReader
import SourceOutline.FileTree
import SourceOutline.LanguageTable.Packaged
import SourceOutline.Log.Record

/-!
# Directory — language tables kept in files

Each file of a directory whose suffix is that of a document holds one table.  A file that cannot be
used does not keep the others from being loaded: it becomes a failure of its own.
-/

namespace SourceOutline

def WrittenTable.ofReading (source : String) (read : Except Yaml.DocumentFault Document) :
    Except Failure WrittenTable :=
  match read with
  | .error why => .error (.ofUnread (.table (.syntaxError source)) why)
  | .ok (.value v) => (WrittenTable.ofDocument source v).mapError .table
  | .ok (.foreign d) => (d.table.mapError (LanguageTable.failure source)).mapError .table

def WrittenTable.parse (d : DocumentReader) (source : String) (c : Contents) :
    Except Failure WrittenTable :=
  WrittenTable.ofReading source (c.readMarked d)

def LanguageTable.ofReading (source : String) (read : Except Yaml.DocumentFault Document) :
    Except Failure LanguageTable :=
  (WrittenTable.ofReading source read).map WrittenTable.table

/-- The table in a file.  Bytes that are no text are a fault, not a failure of the table. -/
def LanguageTable.load (d : DocumentReader) (w : Workspace) (path : FilePath) :
    Except Failure LanguageTable :=
  match w.read path with
  | .error _ => .error (.table (.unreadable path.toString))
  | .ok c => LanguageTable.ofReading path.toString (c.readText d)

/-- The tables that could be loaded, the failures of the other files, and what is logged. -/
structure TableShelf where
  tables : List LanguageTable := []
  failures : List TableFailure := []
  records : List Record := []

namespace TableShelf

def loggerName : String := "chunkforge.languages.table"

def suffixes : List String := [".yaml", ".yml"]

def holdsTable (path : FilePath) (t : FileTree) : Bool :=
  t.isFile && suffixes.contains (lowerCase path.suffix)

/-- Puts the outcome of one file on the shelf.  A failure that is not one of tables stops the
loading. -/
def put (shelf : TableShelf) (outcome : Except Failure LanguageTable) :
    Except Failure TableShelf :=
  match outcome with
  | .ok t => .ok { shelf with tables := shelf.tables ++ [t] }
  | .error (.table why) => .ok { shelf with failures := shelf.failures ++ [why] }
  | .error other => .error other

def record (directory : String) (shelf : TableShelf) : Record :=
  .of .debug loggerName "Loaded language tables"
    [("directory", .text directory), ("tables", .int shelf.tables.length),
      ("errors", .int shelf.failures.length)]

/-- The files of a directory that hold tables, in the order of their names. -/
def files (directory : FilePath) (t : FileTree) : List FilePath :=
  let sorted := t.entries.mergeSort fun a b => !(b.1 < a.1)
  (sorted.filter fun e => holdsTable (directory.child e.1) e.2).map fun e => directory.child e.1

def ofDirectory (d : DocumentReader) (w : Workspace) (directory : FilePath) :
    Except Failure TableShelf :=
  match w.find? directory with
  | some t@(.directory _) => do
    let shelf ← (files directory t).foldlM
      (fun (s : TableShelf) path => s.put (LanguageTable.load d w path)) {}
    pure { shelf with records := [record directory.toString shelf] }
  | _ => .ok { failures := [.noDirectory directory.toString] }

def packaged (place : String) : TableShelf :=
  let shelf : TableShelf := { tables := LanguageTable.packaged }
  { shelf with records := [record place shelf] }

end TableShelf

end SourceOutline
