import SourceOutline.Batch
import SourceOutline.Chunk.Export
import SourceOutline.CommandLine.Arguments
import SourceOutline.Config.Registry
import SourceOutline.Console.OutlineTree

/-!
# Run — what a command line does

A run takes the words of a command line and what is around it, and gives an exit code, what is
shown, what is written to standard output, the log, and the files afterwards.  The options for all
commands take effect before the words of the command itself are read.
-/

namespace SourceOutline

structure RunResult where
  exit : Nat
  prints : List Print := []
  output : String := ""
  records : List Record := []
  workspace : Workspace
  raised : Option Failure := none

namespace CommandLine

def versionText : String := "ChunkForge 0.3.0\n"

def helpText : String :=
  "Usage: chunkforge [--version] [--log-level LEVEL] [--config FILE] [--verbose] COMMAND\n\n" ++
    "Commands:\n" ++
    "  chunk PATH...     chunk files and directories\n" ++
    "  minified PATH...  report minified and generated files\n" ++
    "  languages         list the configured languages\n" ++
    "  init-config PATH  write the settings to a file\n"

/-- What the commands need: what is installed, what is around, the settings, whether failures are
shown with their origin, and where the log is kept. -/
structure Context where
  tools : Toolchain
  surroundings : Surroundings
  config : Config
  verbose : Bool
  log? : Option LogFile := none

namespace Context

def workspace (c : Context) : Workspace :=
  c.surroundings.workspace

def course (c : Context) : Course :=
  c.surroundings.course

/-- A run that ended with a failure: one of a family is shown, any other is raised. -/
def failed (c : Context) (why : Failure) (context : String) (records : List Record) : RunResult :=
  if why.kind?.isSome then
    { exit := 1, prints := (Report.ofFailure why).prints context c.verbose, records,
      workspace := c.workspace }
  else { exit := 1, records, workspace := c.workspace, raised := some why }

def withRegistry (c : Context) (go : Registry → Session → RunResult) : RunResult :=
  match (Registry.ofConfig c.tools c.surroundings c.config).outcome {} with
  | (.ok r, session) => go r session
  | (.error why, session) => c.failed why "While loading language tables" session.records

/-! ## Commands -/

def summary (scan : Scan) : Print :=
  ⟨true, .text ("[dim]" ++ toString scan.done ++ " chunked, " ++ toString scan.skipped ++
    " skipped, " ++ toString scan.failed ++ " failed, " ++ scan.chunks.render ++
    " chunks[/dim]")⟩

def present (c : Context) (options : ChunkOptions) (batch : Batch) : RunResult :=
  let closed := batch.log (batch.scan.summary c.course.finished)
  let trees := closed.outlines.map fun o => Print.mk false (.tree o.branch)
  let hints :=
    if 0 < closed.scan.skipped && !options.includeMinified then
      [tip "Use --include-minified to chunk skipped files"]
    else []
  { exit := if 0 < closed.scan.failed then 1 else 0
    prints := closed.prints ++ (if options.json then [] else trees) ++
      summary closed.scan :: hints
    output := if options.json then
        (Json.list (closed.outlines.map Outline.toJson)).pretty ++ "\n"
      else ""
    records := closed.session.records
    workspace := c.workspace }

def chunk (c : Context) (paths : List FilePath) (options : ChunkOptions) : RunResult :=
  c.withRegistry fun r session =>
    let root := joinWith ", " (paths.map FilePath.toString)
    let batchOptions : BatchOptions :=
      { useReferences := options.useReferences
        skipMinified := c.config.chunking.skipMinified && !options.includeMinified
        thresholds := c.config.minified
        timeout := options.timeout.map .float
        verbose := c.verbose
        log? := c.log?
        course := c.course }
    let batch := Batch.run c.tools r batchOptions (c.workspace.sourceFiles paths)
      { session, scan := { root := .text root, started := c.course.started } }
    match batch.raised with
    | some why =>
      { exit := 1, prints := batch.prints, records := batch.session.records,
        workspace := c.workspace, raised := some why }
    | none => c.present options batch

def minifiedRow (t : Thresholds) (l : Listing) : List String :=
  let path := l.path.toString
  if t.isMinified l.contents.toBytes path then
    let named := hasMinToken path || hasMinifiedName path
    [path, "[red]yes[/red]", if named then "file name" else "content"]
  else [path, "no", ""]

def unreadable? (c : Context) (files : List Listing) : Option (Listing × Fault) :=
  files.zipIdx.findSome? fun (l, number) =>
    (c.course.atFile number).refusal?.map fun why => (l, why)

def minified (c : Context) (paths : List FilePath) : RunResult :=
  let files := c.workspace.sourceFiles paths
  match c.unreadable? files with
  | some (l, why) =>
    let shown :=
      (Report.ofFailure (.fault why)).prints ("While reading " ++ l.path.toString) c.verbose
    if why.isSystem then { exit := 1, prints := shown, workspace := c.workspace }
    else { exit := 1, workspace := c.workspace, raised := some (.fault why) }
  | none =>
    let rows := files.map (minifiedRow c.config.minified)
    { exit := 0
      prints := [⟨false, .table "Minified detection" ["Path", "Minified", "Signal"] rows⟩]
      workspace := c.workspace }

def languageRow? (r : Registry) (language : String) : Option (List String) :=
  (r.tableFor? language).map fun t =>
    [language, t.displayName, joinWith " " t.extensions, t.grammar,
      if (r.reference? language).isSome then "yes" else ""]

def languages (c : Context) : RunResult :=
  c.withRegistry fun r session =>
    { exit := 0
      prints := [⟨false, .table "Languages"
        ["Language", "Name", "Extensions", "Grammar", "Reference"]
        (r.supportedLanguages.filterMap (languageRow? r))⟩]
      records := session.records
      workspace := c.workspace }

/-- Writes the settings to a file, which is not overwritten unless that is asked for. -/
def initConfig (c : Context) (path : FilePath) (force : Bool) : RunResult :=
  if c.workspace.contains path && !force then
    { exit := 1
      prints := [⟨true, .notice ("[red]" ++ path.toString ++ " already exists[/red]")⟩,
        tip "Use --force to overwrite"]
      workspace := c.workspace }
  else
    match c.config.save c.workspace path with
    | .error why => { exit := 1, workspace := c.workspace, raised := some (.fault why) }
    | .ok workspace =>
      { exit := 0, prints := [⟨false, .notice ("Wrote " ++ path.toString)⟩], workspace }

/-- What is shown of a run.  A markup that the console refuses ends the run. -/
def onConsole (c : Context) (result : RunResult) : RunResult :=
  let isRefused (p : Print) : Bool := p.item.isRefused c.course.refuses
  if result.prints.any isRefused then
    { result with
        exit := 1
        prints := result.prints.takeWhile fun p => !isRefused p
        raised := some (.fault (.other "MarkupError" false)) }
  else result

def perform (c : Context) : Command → RunResult
  | .help => { exit := 0, output := helpText, workspace := c.workspace }
  | .chunk paths options => c.onConsole (c.chunk paths options)
  | .minified paths => c.onConsole (c.minified paths)
  | .languages => c.onConsole c.languages
  | .initConfig path force => c.onConsole (c.initConfig path force)

/-- The files of a run after its records have been written to the log file. -/
def logged (c : Context) (result : RunResult) : Workspace :=
  match c.log? with
  | some log =>
    let lines := log.lines c.course result.records
    if lines.isEmpty then result.workspace
    else result.workspace.append log.path (String.join lines)
  | none => result.workspace

end Context

/-! ## Runs -/

def loadSettings (s : Surroundings) (g : Globals) : Except Failure Config := do
  let config ← (Config.load s g.config none).1
  match g.logLevel with
  | some level => if level = "" then pure config else config.withLevel (Text.ofString level)
  | none => pure config

/-- The files after the log file has been made that settings ask for, and the path of the log file.
A file whose name holds bytes that are no text is not among them. -/
def openLog (s : Surroundings) (config : Config) :
    Except Failure (Workspace × Option FilePath) := do
  match ← config.logFilePath s.environment with
  | none => pure (s.workspace, none)
  | some path =>
    match path.toFilePath? with
    | some file => pure (← (s.workspace.touch file).mapError .fault, some file)
    | none => if path.isEncodable then pure (s.workspace, none) else throw (.fault .unencodable)

/-- Loads the settings, makes the log file, and goes on.  Of the log, what is at least as grave as
the settings ask for is kept. -/
def withSettings (tools : Toolchain) (s : Surroundings) (g : Globals)
    (go : Context → RunResult) : RunResult :=
  match loadSettings s g with
  | .error why =>
    let bare : Context :=
      { tools, surroundings := s, config := { basePath := s.workspace.cwd }, verbose := g.verbose }
    bare.failed why "While loading configuration" []
  | .ok config =>
    match openLog s config with
    | .error why => { exit := 1, workspace := s.workspace, raised := some why }
    | .ok (workspace, file?) =>
      let threshold := (Severity.ofName? config.logging.level).getD .warning
      let context : Context :=
        { tools, surroundings := { s with workspace }, config, verbose := g.verbose
          log? := file?.map fun path => { start := workspace.cwd, path, threshold } }
      let result := go context
      { result with
          records := Record.visible threshold result.records
          workspace := context.logged result }

/-- Whether words that should begin with a command ask for help.  They begin with none after two
hyphens, where an option can stand in the place of the command. -/
def asksForHelp (words : List String) : Bool :=
  match readGlobals words with
  | some (g, _) => g.help
  | none => false

def run (tools : Toolchain) (s : Surroundings) (words : List String) : RunResult :=
  let misused : RunResult := { exit := 2, workspace := s.workspace }
  let help : RunResult := { exit := 0, output := helpText, workspace := s.workspace }
  match readGlobals words with
  | none => misused
  | some (g, rest) =>
    if g.help then help
    else if (rest.head?.bind commandForms?).isNone && !rest.isEmpty then
      if asksForHelp rest then help else misused
    else if g.version then { exit := 0, output := versionText, workspace := s.workspace }
    else
      withSettings tools s g fun context =>
        match rest with
        | [] => { help with workspace := context.workspace }
        | name :: more =>
          match readCommand context.workspace name more with
          | none => { misused with workspace := context.workspace }
          | some command => context.perform command

end CommandLine

end SourceOutline
