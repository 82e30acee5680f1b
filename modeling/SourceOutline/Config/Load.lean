import SourceOutline.Course
import SourceOutline.DocumentReader
import SourceOutline.FileTree
import SourceOutline.Log.Record

/-!
# Load — settings kept in files

Settings come from a file that is named, or from one of two files in a directory, or they are the
usual ones.  Two variables of the environment override what a file says.
-/

namespace SourceOutline

/-- What a run finds around it, and what it meets on its way. -/
structure Surroundings where
  workspace : Workspace := {}
  environment : Environment := {}
  documents : DocumentReader := .plain
  tablesPlace : String := "languages"
  course : Course := {}

namespace Config

def loggerName : String := "chunkforge.core.config_loaders"

/-- The names of files that hold settings, in the order in which they are looked for. -/
def fileNames : List String := ["chunkforge.yaml", "config.yaml"]

def levelVariable : String := "CHUNKFORGE_LOG_LEVEL"

def languagesVariable : String := "CHUNKFORGE_LANGUAGES_DIR"

def setVariable? (env : Environment) (name : String) : Option Text :=
  match env.get? name with
  | some t => if t = [] then none else some t
  | none => none

def withLevel (c : Config) (level : Text) : Except Failure Config := do
  let level ← readLevel (.ofText level)
  pure { c with logging := { c.logging with level } }

def override (env : Environment) (c : Config) : Except Failure Config := do
  let c ← match setVariable? env levelVariable with
    | some level => c.withLevel level
    | none => pure c
  match setVariable? env languagesVariable with
  | some t =>
    let p ← readPath env t
    pure { c with chunking := { c.chunking with languagesDir := some p } }
  | none => pure c

def readFile (s : Surroundings) (path basePath : FilePath) : Except Failure Config := do
  let contents ← (s.workspace.read path).mapError fun _ => .config (.unreadable path.toString)
  match contents.readFile s.documents with
  | .error why => throw (.ofUnread (.config (.unreadable path.toString)) why)
  | .ok (.foreign d) => d.settings s.environment basePath
  | .ok (.value v) =>
    if v.isTruthy then
      match v with
      | .map _ => ofValue s.environment v basePath
      | _ => throw (.config (.notMapping path.toString))
    else ofValue s.environment v basePath

def findFile? (w : Workspace) (directory : FilePath) : Option FilePath :=
  (fileNames.map directory.child).find? w.contains

def loadFile (s : Surroundings) (path : FilePath) (basePath : Option FilePath) :
    Except Failure Config × List Record :=
  match readFile s path (basePath.getD path.parent) with
  | .error why => (.error why, [])
  | .ok c =>
    (c.override s.environment,
      [.of .debug loggerName "Loaded configuration" [("path", .text path.toString)]])

/-- Loads settings: from the named file, else from a file in the base directory, else the usual
ones. -/
def load (s : Surroundings) (path basePath : Option FilePath) :
    Except Failure Config × List Record :=
  match path with
  | some p =>
    if s.workspace.contains p then loadFile s p basePath
    else (.error (.config (.missingFile p.toString)), [])
  | none =>
    let directory := basePath.getD s.workspace.cwd
    match findFile? s.workspace directory with
    | some p => loadFile s p basePath
    | none => (({ basePath := directory } : Config).override s.environment, [])

/-- Writes settings to a file.  An integer with too many digits cannot be written. -/
def save (c : Config) (w : Workspace) (path : FilePath) : Except Fault Workspace :=
  if c.toValue.isShowable then w.write path (.document c.toValue) else .error .badValue

end Config

end SourceOutline
