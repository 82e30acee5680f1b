import SourceOutline.Chunker.Basic
import SourceOutline.Entries
import SourceOutline.LanguageTable.Directory

/-!
# Registry — which chunker is for which file

A registry is built once from language tables.  A table whose grammar cannot be loaded is left out.
An extension belongs to the first table that claims it, and a language to the last table that has
its name.
-/

namespace SourceOutline

/-- An extension without white space around it, in lower case and with a dot in front unless it is
empty. -/
def normalizeExtension (ext : String) : String :=
  let plain := lowerCase (stripString ext)
  if plain = "" ∨ plain.toList.head? = some '.' then plain else "." ++ plain

/-- Chunkers by extension and by language, and the chunkers written for one language. -/
structure Registry where
  byExtension : List (String × TableChunker) := []
  byLanguage : List (String × TableChunker) := []
  references : List Reference := []

namespace Registry

def loggerName : String := "chunkforge.chunking.registry"

/-! ## Building -/

def claim (c : TableChunker) (r : Registry × List Record) (ext : String) :
    Registry × List Record :=
  match r.1.byExtension.lookup ext with
  | some holder =>
    (r.1, r.2 ++
      [.of .warning loggerName "Extension claimed by two languages"
        [("extension", .text ext), ("kept", .text holder.language),
          ("ignored", .text c.language)]])
  | none => ({ r.1 with byExtension := r.1.byExtension ++ [(ext, c)] }, r.2)

/-- Takes a chunker in: under its language, and under the extensions that are still free. -/
def add (r : Registry) (c : TableChunker) : Registry × List Record :=
  let named := { r with byLanguage := putEntry c.language c r.byLanguage }
  c.table.extensions.foldl (claim c) (named, [])

def skipRecord (t : LanguageTable) (why : Failure) : Record :=
  .of .warning loggerName "Skipping language table"
    [("language", .text t.language), ("grammar", .text t.grammar), ("error", .text why.message)]

def addTable (tools : Toolchain) (interval : Number) (r : Registry) (t : LanguageTable) :
    Call Registry := do
  match ← Call.attempt (TableChunker.create (some tools) (some t) interval) with
  | .error why =>
    if why.kind?.isSome then
      Call.log (skipRecord t why)
      pure r
    else throw why
  | .ok c =>
    let (next, records) := r.add c
    records.forM Call.log
    pure next

def build (tools : Toolchain) (tables : List LanguageTable) (references : List Reference)
    (interval : Number) : Call Registry :=
  tables.foldlM (addTable tools interval) { references }

/-! ## Look-up -/

def lookup (r : Registry) (ext : String) : Chunker × Bool :=
  match r.byExtension.lookup (normalizeExtension ext) with
  | some c => (.table c, true)
  | none => (.fallback, false)

def pick (r : Registry) (ext : String) : Chunker :=
  (r.lookup ext).1

def languageFor (r : Registry) (ext : String) : Option String :=
  (r.byExtension.lookup (normalizeExtension ext)).map TableChunker.language

def supportedLanguages (r : Registry) : List String :=
  sortedUnique (r.byLanguage.map (·.1))

def isSupported (r : Registry) (language : String) : Bool :=
  (r.byLanguage.lookup language).isSome

def extensions (r : Registry) : List String :=
  sortedUnique (r.byExtension.map (·.1))

def tableFor? (r : Registry) (language : String) : Option LanguageTable :=
  (r.byLanguage.lookup language).map TableChunker.table

def reference? (r : Registry) (language : String) : Option Reference :=
  r.references.find? fun ref => ref.language == language

def render (r : Registry) : String :=
  "ChunkerRegistry(languages=" ++ toString r.byLanguage.length ++ ", extensions=" ++
    toString r.byExtension.length ++ ")"

/-! ## Chunking -/

/-- Chunks a file with the chunker for its extension.  A file that a table covers gets the language
of the table. -/
def chunk (tools : Toolchain) (r : Registry) (file : SourceFile) (poll : Option Poll) :
    Call Outline :=
  match r.lookup file.extension with
  | (chunker, true) => chunker.chunk tools (file.withLanguage chunker.language) poll
  | (chunker, false) => chunker.chunk tools file poll

end Registry

end SourceOutline
