import SourceOutline.Config.Load
import SourceOutline.Registry

/-!
# Registry — the registry that settings ask for

The tables come from the directory that is set, or they are the packaged ones.

* `TableShelf.ofConfig` — the tables;
* `Registry.ofConfig` — the registry of the tables whose grammars load.
-/

namespace SourceOutline

def TableShelf.ofConfig (s : Surroundings) (c : Config) : Except Failure TableShelf :=
  match c.languagesPath with
  | some path =>
    match path.toFilePath? with
    | some directory => TableShelf.ofDirectory s.documents s.workspace directory
    | none => .ok { failures := [.noDirectory path.toText.toString] }
  | none => .ok (TableShelf.packaged s.tablesPlace)

def tableFailureRecord (why : TableFailure) : Record :=
  .of .warning Registry.loggerName "Invalid language table"
    [("path", .text why.source), ("error", .text why.message)]

/-- The registry that settings ask for.  There must be a table, and a table whose grammar loads. -/
def Registry.ofConfig (tools : Toolchain) (s : Surroundings) (c : Config) : Call Registry := do
  match TableShelf.ofConfig s c with
  | .error why => throw why
  | .ok shelf =>
    shelf.records.forM Call.log
    (shelf.failures.map tableFailureRecord).forM Call.log
    if shelf.tables.isEmpty then
      throw (.noTables ((c.languagesPath.map (·.toText.toString)).getD "package data"))
    let references := if c.chunking.referencesEnabled then [Reference.python, Reference.go] else []
    let r ← Registry.build tools shelf.tables references c.chunking.checkInterval
    if r.byLanguage.isEmpty then throw .noLoadableGrammar
    pure r

end SourceOutline
