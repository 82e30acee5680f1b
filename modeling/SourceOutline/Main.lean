import SourceOutline.CommandLine.Run
import SourceOutline.Console.Plain

/-!
# Main — the command line

Reads the files below the working directory and the environment, runs the command line on them,
shows what it gives, and writes the files that it made.  No parser is linked to this program: the
packaged grammars load and every tree is a single node, so that files are chunked as wholes.
-/

namespace SourceOutline

namespace Main

/-- All packaged grammars load, and the parser finds nothing below the root. -/
def tools : Toolchain where
  refusal? := fun key =>
    if (LanguageTable.packaged.map LanguageTable.grammar).contains key then none
    else some ("no grammar named " ++ key)
  parse := fun _ source => .tree (.leafOver "root" source)

/-- Reads a directory with all below it; links and what cannot be read are left out. -/
partial def readTree (t : FileTree) (names : List String) (entries : List IO.FS.DirEntry) :
    IO FileTree := do
  let mut tree := t
  for entry in entries do
    let here := names ++ [entry.fileName]
    let found ← (entry.path.symlinkMetadata : IO _).toBaseIO
    match found with
    | .error _ => pure ()
    | .ok metadata =>
      match metadata.type with
      | .dir =>
        let below ← (entry.path.readDir : IO _).toBaseIO
        match below with
        | .ok es => tree ← readTree (tree.place (.directory []) here) here es.toList
        | .error _ => pure ()
      | .file =>
        let bytes ← (IO.FS.readBinFile entry.path : IO _).toBaseIO
        match bytes with
        | .ok b =>
          tree := tree.place (.file (.bytes b.toList) (.int metadata.modified.sec)) here
        | .error _ => pure ()
      | _ => pure ()
  pure tree

def readEnvironment (text : String) : Environment where
  values := (text.splitOn (String.singleton (Char.ofNat 0))).filterMap fun line =>
    match line.toList.span (· != '=') with
    | (_, []) => none
    | (name, _ :: value) => some (name.map CodePoint.ofChar, value.map CodePoint.ofChar)

def showPrint (p : Print) : IO Unit := do
  for line in p.item.plain do
    if p.isError then IO.eprintln line else IO.println line

/-- Whether a file is new, or was written from a document or grew. -/
def isChanged (before : FileTree) (found : List String × FileTree) : Bool :=
  match found.2, before.get? found.1 with
  | .file (.bytes now) _, some (.file (.bytes old) _) => now != old
  | .file _ _, _ => true
  | .directory _, _ => false

end Main

end SourceOutline

open SourceOutline in
def main (words : List String) : IO UInt32 := do
  let top ← IO.currentDir
  let cwd := FilePath.ofString top.toString
  let empty := (FileTree.directory []).place (.directory []) cwd.parts
  let files ← SourceOutline.Main.readTree empty cwd.parts (← top.readDir).toList
  let environment := SourceOutline.Main.readEnvironment (← IO.FS.readFile "/proc/self/environ")
  let around : Surroundings :=
    { workspace := { files, cwd }, environment }
  let result := CommandLine.run SourceOutline.Main.tools around words
  for r in result.records do IO.eprintln r.text
  for p in result.prints do SourceOutline.Main.showPrint p
  IO.print result.output
  if result.exit = 2 then IO.eprint CommandLine.helpText
  for found in result.workspace.files.descendants do
    if SourceOutline.Main.isChanged files found then
      match found.2 with
      | .file contents _ =>
        let place (names : List String) := "/" ++ FilePath.joinParts names
        IO.FS.createDirAll (place found.1.dropLast)
        IO.FS.writeBinFile (place found.1) ⟨contents.toBytes.toArray⟩
      | .directory _ => pure ()
  match result.raised with
  | some why => IO.eprintln why.message
  | none => pure ()
  pure (UInt32.ofNat result.exit)
