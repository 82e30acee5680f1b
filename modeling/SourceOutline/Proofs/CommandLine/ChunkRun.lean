import SourceOutline.CommandLine.Run
import SourceOutline.Proofs.Batch.Account
import SourceOutline.Proofs.FileTree.Descendants

/-!
# ChunkRun — a run over many files is the runs over each of them

A run of the chunk command shows what became of its files: the panels of those that failed, the
outlines of those that were chunked, and the tally.  What becomes of a file is the same when the run
is over that file alone and meets the same there, whatever the other files are and wherever the file
stands among them.  Only a file in which the run keeps its log is another file each time.

* `CommandLine.Context.chunk_shows_each_file` — what a run shows, and what a run over one file does;
* `GrowingLog.chunk_shows_log_file` — a log file that is left out of a run, and chunked by itself.
-/

namespace SourceOutline

mutual

theorem Branch.isRefused_of_lenient (b : Branch) : b.isRefused (fun _ => false) = false := by
  cases b with
  | node label branches => exact Branch.anyRefused_of_lenient branches

theorem Branch.anyRefused_of_lenient (bs : List Branch) :
    Branch.anyRefused (fun _ => false) bs = false := by
  cases bs with
  | nil => rfl
  | cons b rest =>
      rw [Branch.anyRefused, b.isRefused_of_lenient, Branch.anyRefused_of_lenient rest]
      rfl

end

namespace CommandLine

def tallyLine (fates : Fates) : Print :=
  ⟨true, .text ("[dim]" ++ toString fates.chunked ++ " chunked, " ++ toString fates.skipped ++
    " skipped, " ++ toString fates.failed ++ " failed, " ++ toString fates.chunkTotal ++
    " chunks[/dim]")⟩

def chunkEntry (c : Chunk) : Json :=
  .object
    [("id", .string c.id), ("file_path", .string c.path), ("start_line", .int c.startLine),
      ("end_line", .int c.endLine), ("level", .string c.level.name),
      ("language", .string c.language), ("name", .text c.name), ("signature", .text c.signature),
      ("parent_id", (c.parentId.map Json.string).getD .null),
      ("content_hash", .string c.contentHash),
      ("last_modified", (c.lastModified.map fun t => Json.string t.render).getD .null),
      ("content", .text c.content)]

def entry (o : Outline) : Json :=
  .object
    [("path", .string o.file.path), ("language", .string o.file.language),
      ("chunks", .list (o.chunks.map chunkEntry)), ("errors", .list (o.errors.map Json.string))]

theorem toJson_eq_entry (o : Outline) : o.toJson = entry o := by
  have hoptional : ∀ s? : Option String, Json.string? s? = (s?.map Json.string).getD .null := by
    rintro (_ | s)
    · rfl
    · rfl
  have hchunk : Chunk.toJson = chunkEntry := by
    funext c
    simp only [Chunk.toJson, chunkEntry, hoptional, Option.map_map]
    rfl
  simp only [Outline.toJson, entry, hchunk, Json.strings]

namespace Context

def batchOptions (c : Context) (options : ChunkOptions) : BatchOptions where
  useReferences := options.useReferences
  skipMinified := c.config.chunking.skipMinified && !options.includeMinified
  thresholds := c.config.minified
  timeout := options.timeout.map .float
  verbose := c.verbose
  log? := c.log?
  course := c.course

/-- A run shows what became of files: nothing was raised, the exit code tells whether a file failed,
the list that is written holds the outlines, and what is shown are the panels of the failures, the
outlines as trees unless they are written, the tally, and a hint if files were skipped. -/
structure Shows (c : Context) (options : ChunkOptions) (fates : Fates) (result : RunResult) :
    Prop where
  raised : result.raised = none
  exit : result.exit = if 0 < fates.failed then 1 else 0
  output : result.output =
    if options.json then (Json.list (fates.outlines.map entry)).pretty ++ "\n" else ""
  prints : result.prints =
    fates.panels c.verbose ++
      (if options.json then [] else fates.outlines.map fun o => ⟨false, .tree o.branch⟩) ++
        tallyLine fates ::
          if 0 < fates.skipped && !options.includeMinified then
            [tip "Use --include-minified to chunk skipped files"]
          else []

/-- The console takes what is to be shown of outlines, unless they are written. -/
def TakesTrees (c : Context) (options : ChunkOptions) (fates : Fates) : Prop :=
  options.json = true ∨ ∀ o ∈ fates.outlines, o.branch.isRefused c.course.refuses = false

variable {c : Context} {options : ChunkOptions} {r : Registry} {s : Session}

/-- A batch that accounts for files from the start on is shown as what became of them. -/
theorem shows_present {fates : Fates} {b : Batch} {session : Session} {root : Value}
    {started : Double}
    (h : Batch.Accounts c.verbose fates { session, scan := { root, started } } b) :
    c.Shows options fates (c.present options b) := by
  have hdone : b.scan.done = fates.chunked := h.done.trans (Nat.zero_add _)
  have hskipped : b.scan.skipped = fates.skipped := h.skipped.trans (Nat.zero_add _)
  have hfailed : b.scan.failed = fates.failed := h.failed.trans (Nat.zero_add _)
  have hchunks : b.scan.chunks = .int fates.chunkTotal := by
    rw [h.chunks 0 rfl, Nat.zero_add]
  have houtlines : b.outlines = fates.outlines := h.outlines
  have hprints : b.prints = fates.panels c.verbose := h.prints
  have hsummary : summary b.scan = tallyLine fates := by
    rw [summary, tallyLine, hdone, hskipped, hfailed, hchunks]
    rfl
  refine ⟨rfl, ?_, ?_, ?_⟩
  · exact congrArg (fun n => if 0 < n then 1 else 0) hfailed
  · rw [← houtlines, ← funext toJson_eq_entry]
    rfl
  · rw [← houtlines, ← hprints, ← hskipped, ← hsummary]
    rfl

def startBatch (c : Context) (s : Session) (paths : List FilePath) : Batch where
  session := s
  scan :=
    { root := .text (joinWith ", " (paths.map FilePath.toString))
      started := c.course.started }

def batch (c : Context) (options : ChunkOptions) (r : Registry) (s : Session)
    (paths : List FilePath) : Batch :=
  Batch.run c.tools r (c.batchOptions options) (c.workspace.sourceFiles paths)
    (c.startBatch s paths)

def fates (c : Context) (options : ChunkOptions) (r : Registry) (s : Session)
    (paths : List FilePath) : Fates :=
  Batch.fates c.tools r (c.batchOptions options) (c.startBatch s paths)
    (c.workspace.sourceFiles paths)

theorem onConsole_eq_self {result : RunResult}
    (h : ∀ p ∈ result.prints, p.item.isRefused c.course.refuses = false) :
    c.onConsole result = result := by
  have hnone : result.prints.any (fun p => p.item.isRefused c.course.refuses) = false := by
    rw [List.any_eq_false]
    intro p hp
    rw [h p hp]
    exact Bool.false_ne_true
  simp only [onConsole, hnone, Bool.false_eq_true, if_false]

theorem isRefused_panel {refuses : String → Bool} {verbose : Bool} {l : Listing} {fate : Fate}
    {p : Print} (hp : p ∈ fate.panel verbose l) : p.item.isRefused refuses = false := by
  rcases fate with why | outcome
  · rcases List.mem_cons.1 hp with rfl | hp
    · rfl
    · cases verbose with
      | false => cases hp
      | true =>
          simp only [if_true, List.mem_cons, List.not_mem_nil, or_false] at hp
          rcases hp with rfl | rfl | rfl
          · rfl
          · rfl
          · rfl
  · cases hp

theorem Shows.onConsole {fates : Fates} {result : RunResult} (h : c.Shows options fates result)
    (htrees : c.TakesTrees options fates) : c.onConsole result = result := by
  refine onConsole_eq_self ?_
  rw [h.prints]
  intro p hp
  rcases List.mem_append.1 hp with hp | hp
  · rcases List.mem_append.1 hp with hp | hp
    · rcases List.mem_flatMap.1 hp with ⟨f, _, hp⟩
      exact isRefused_panel hp
    · rcases htrees with hjson | htrees
      · rw [if_pos hjson] at hp
        cases hp
      · split at hp
        · cases hp
        · rcases List.mem_map.1 hp with ⟨o, ho, rfl⟩
          exact htrees o ho
  · rcases List.mem_cons.1 hp with rfl | hp
    · rfl
    · split at hp
      · rw [List.mem_singleton.1 hp]
        rfl
      · cases hp

section Built

variable (hbuild : (Registry.ofConfig c.tools c.surroundings c.config).outcome {} = (.ok r, s))
include hbuild

theorem chunk_of_not_raised {paths : List FilePath}
    (hraised : (c.batch options r s paths).raised = none) :
    c.chunk paths options = c.present options (c.batch options r s paths) := by
  rw [chunk, withRegistry, hbuild]
  dsimp only
  split
  · rename_i why hwhy
    exact absurd (hraised.symm.trans hwhy) (by simp)
  · rfl

theorem shows_chunk (paths : List FilePath)
    (hexpected : ∀ f ∈ c.fates options r s paths, f.2.isExpected = true)
    (htrees : c.TakesTrees options (c.fates options r s paths)) :
    c.Shows options (c.fates options r s paths) (c.perform (.chunk paths options)) := by
  have hrun : Batch.Accounts c.verbose (c.fates options r s paths) (c.startBatch s paths)
      (c.batch options r s paths) :=
    @Batch.accounts_run c.tools r (c.batchOptions options) (c.startBatch s paths) _ 0 rfl rfl
      hexpected
  -- No file ended the batch, so it is presented.
  have hshows : c.Shows options (c.fates options r s paths) (c.chunk paths options) := by
    rw [chunk_of_not_raised hbuild hrun.raised]
    exact shows_present hrun
  have hperform : c.perform (.chunk paths options) = c.chunk paths options :=
    hshows.onConsole htrees
  rwa [hperform]

end Built

/-! ## One file alone -/

def IsApart (c : Context) (l : Listing) : Prop :=
  ∀ log, c.log? = some log → log.isAt l.path = false

/-- The run that meets at each file what this run meets at the file with a number. -/
def meeting (c : Context) (number : Nat) : Context :=
  { c with surroundings := { c.surroundings with course := c.course.only number } }

/-- If the log is kept elsewhere, what becomes of a file is what becomes of it alone. -/
theorem fates_alone {paths : List FilePath}
    (hapart : ∀ l ∈ c.workspace.sourceFiles paths, c.IsApart l)
    (hexpected : ∀ f ∈ c.fates options r s paths, f.2.isExpected = true)
    {number : Nat} {l : Listing} (hl : (c.workspace.sourceFiles paths)[number]? = some l)
    (halone : c.workspace.sourceFiles [l.path] = [l]) :
    (c.fates options r s paths)[number]? =
      some (l, fateOf c.tools r (c.batchOptions options) s (c.course.atFile number) l) ∧
    (c.meeting number).fates options r s [l.path] =
      [(l, fateOf c.tools r (c.batchOptions options) s (c.course.atFile number) l)] := by
  constructor
  · have hfates : c.fates options r s paths = _ :=
      @Batch.fates_eq c.tools r (c.batchOptions options) (c.startBatch s paths) s
        (c.workspace.sourceFiles paths) 0 rfl rfl (fun _ => rfl) hapart hexpected
    have hnumber : (c.startBatch s paths).number + number = number := Nat.zero_add number
    rw [hfates, List.getElem?_map, List.getElem?_zipIdx, hl]
    simp only [Option.map_some, hnumber]
    rfl
  · -- The run over the file alone comes to it first, and meets the same there.
    have hone : (c.meeting number).workspace.sourceFiles [l.path] = [l] := halone
    have hl : ((c.meeting number).batchOptions options).IsApart l :=
      hapart l (List.mem_of_getElem? hl)
    have hnext := @Batch.next_eq_fateOf c.tools r ((c.meeting number).batchOptions options)
      ((c.meeting number).startBatch s [l.path]) s (fun _ => rfl) l hl
    rw [fates, hone, Batch.fates, Batch.fates]
    exact congrArg (fun fate => [(l, fate)]) hnext

/-- A run of the chunk command, in which the registry is built, every failure of a file is an
expected one and the console takes the trees, shows what became of its files.  Each file is counted
once, and the exit code is one exactly if a file failed.  If the log is kept in none of the files, a
run over one of them alone that meets the same there shows the same of it. -/
theorem chunk_shows_each_file
    (hbuild : (Registry.ofConfig c.tools c.surroundings c.config).outcome {} = (.ok r, s))
    (options : ChunkOptions) (paths : List FilePath)
    (hexpected : ∀ f ∈ c.fates options r s paths, f.2.isExpected = true)
    (htrees : c.TakesTrees options (c.fates options r s paths)) :
    let files := c.workspace.sourceFiles paths
    let fates := c.fates options r s paths
    let result := c.perform (.chunk paths options)
    c.Shows options fates result ∧
      fates.map Prod.fst = files ∧
      fates.chunked + fates.skipped + fates.failed = files.length ∧
      (result.exit = 1 ↔ ∃ f ∈ fates, f.2.isFailed = true) ∧
      (c.workspace.files.IsTree → (∀ l ∈ files, c.IsApart l) →
        ∀ number f, fates[number]? = some f →
          (c.meeting number).Shows options [f]
            ((c.meeting number).perform (.chunk [f.1.path] options))) := by
  intro files fates result
  have hshows : c.Shows options fates result := shows_chunk hbuild paths hexpected htrees
  have hfiles : fates.map Prod.fst = files := Batch.map_fst_fates _ _ _ _ _
  refine ⟨hshows, hfiles, ?_, ?_, ?_⟩
  · rw [Fates.chunked_add_skipped_add_failed, ← hfiles, List.length_map]
  · rw [hshows.exit, ← Fates.failed_pos_iff]
    split
    · rename_i hpos
      exact ⟨fun _ => hpos, fun _ => rfl⟩
    · rename_i hzero
      exact ⟨fun h => absurd h (by decide), fun h => absurd h hzero⟩
  · intro htree hapart number f hf
    have hl : files[number]? = some f.1 := by
      rw [← hfiles, List.getElem?_map, hf]
      rfl
    -- The path of the file stands for it alone.
    have hmem : f.1 ∈ files := List.mem_of_getElem? hl
    have halone : c.workspace.sourceFiles [f.1.path] = [f.1] :=
      Workspace.sourceFiles_path htree hmem
    -- Its fate in the run is its fate alone, so the run over it alone has only expected failures,
    -- and shows no tree that the run does not show.
    rcases fates_alone hapart hexpected hl halone with ⟨hsame, hone⟩
    rw [Option.some.inj (hsame.symm.trans hf)] at hone
    rw [← hone]
    have hbuild' : (Registry.ofConfig (c.meeting number).tools (c.meeting number).surroundings
        (c.meeting number).config).outcome {} = (.ok r, s) := hbuild
    refine shows_chunk hbuild' _ ?_ ?_
    · rw [hone]
      intro g hg
      rw [List.mem_singleton.1 hg]
      exact hexpected _ (List.mem_of_getElem? hf)
    · rcases htrees with hjson | htrees
      · exact .inl hjson
      · refine .inr fun o ho => htrees o ?_
        rw [hone] at ho
        rcases List.mem_filterMap.1 ho with ⟨g, hg, hgo⟩
        rw [List.mem_singleton.1 hg] at hgo
        exact List.mem_filterMap.2 ⟨_, List.mem_of_getElem? hf, hgo⟩

end Context

namespace MixedRun

/-- One grammar is installed, and its parser gives a tree for one source only. -/
def tools : Toolchain where
  refusal? := fun key => if key = "python" then none else some "not found"
  parse := fun _ source =>
    if source = [0x78] then .tree (.node "module" ⟨0, 1, 0, 0⟩ none []) else .noTree

/-- A file that parses, one that does not, and one that was generated. -/
def directory : FileTree :=
  .directory [("a.py", .file (.bytes [0x78]) (.int 0)), ("b.py", .file (.bytes [0x79]) (.int 0)),
    ("c.min.js", .file (.bytes [0x78]) (.int 0))]

def context : Context where
  tools := tools
  surroundings :=
    { workspace := { files := .directory [("CWD", .directory [("src", directory)])] } }
  config := { basePath := {} }
  verbose := false

def path : FilePath where
  parts := ["src"]

def listing (name : String) (byte : UInt8) : Listing where
  path := path.child name
  contents := .bytes [byte]
  modified := .int 0

def files : List Listing :=
  [listing "a.py" 0x78, listing "b.py" 0x79, listing "c.min.js" 0x78]

theorem sourceFiles_context : context.workspace.sourceFiles [path] = files := by
  have hfind : context.workspace.find? path = some directory := rfl
  rw [Workspace.sourceFiles, List.flatMap_singleton, Workspace.filesUnder, hfind]
  exact FileTree.sourceFiles_of_pairwise (by decide +kernel) path

theorem isTree_files : context.workspace.files.IsTree := by
  have hdirectory : directory.IsTree := by
    refine .directory _ ⟨by decide, by decide⟩ ?_
    intro e he
    simp only [List.mem_cons, List.not_mem_nil, or_false] at he
    rcases he with rfl | rfl | rfl
    · exact .file _ _
    · exact .file _ _
    · exact .file _ _
  exact .singleton (by decide) (.singleton (by decide) hdirectory)

/-- Whether a registry was built with which the first file is chunked, the second one fails as
expected and the third one is skipped. -/
def isMixed : Except Failure Registry × Session → Bool
  | (.error _, _) => false
  | (.ok r, s) =>
    let fates := Batch.fates tools r (context.batchOptions {}) (context.startBatch s [path]) files
    fates.all (fun f => f.2.isExpected) &&
      fates.map (fun f => f.2.isFailed) == [false, true, false] &&
      fates.chunked == 1 && fates.skipped == 1 && fates.failed == 1 && fates.chunkTotal == 1

/-- The failure of one file neither ends the run nor touches the others. -/
theorem shows_each_of_three :
    ∃ r s, (Registry.ofConfig context.tools context.surroundings context.config).outcome {} =
        (.ok r, s) ∧
      (∀ f ∈ context.fates {} r s [path], f.2.isExpected = true) ∧
      context.TakesTrees {} (context.fates {} r s [path]) ∧
      context.workspace.files.IsTree ∧
      (context.perform (.chunk [path] {})).raised = none ∧
      (context.perform (.chunk [path] {})).exit = 1 ∧
      ⟨true, .text "[dim]1 chunked, 1 skipped, 1 failed, 1 chunks[/dim]"⟩ ∈
        (context.perform (.chunk [path] {})).prints ∧
      ((context.meeting 0).perform (.chunk [path.child "a.py"] {})).exit = 0 ∧
      ((context.meeting 1).perform (.chunk [path.child "b.py"] {})).exit = 1 := by
  -- The fates are computed once; the registry they depend on has no short form.
  have hfates : isMixed ((Registry.ofConfig context.tools context.surroundings
      context.config).outcome {}) = true := by decide +kernel
  rcases hbuild : (Registry.ofConfig context.tools context.surroundings context.config).outcome {}
    with ⟨result, s⟩
  rw [hbuild] at hfates
  cases result with
  | error why =>
      cases hfates
  | ok r =>
      have hrun :
          Batch.fates tools r (context.batchOptions {}) (context.startBatch s [path]) files =
            context.fates {} r s [path] := by
        rw [Context.fates, sourceFiles_context]
        rfl
      simp only [isMixed, hrun, Bool.and_eq_true, beq_iff_eq] at hfates
      rcases hfates with ⟨⟨⟨⟨⟨hall, hwhich⟩, hchunked⟩, hskipped⟩, hfailed⟩, htotal⟩
      have hexpected : ∀ f ∈ context.fates {} r s [path], f.2.isExpected = true :=
        List.all_eq_true.1 hall
      have htrees : context.TakesTrees {} (context.fates {} r s [path]) :=
        .inr fun o _ => o.branch.isRefused_of_lenient
      rcases Context.chunk_shows_each_file hbuild {} [path] hexpected htrees with
        ⟨hshows, hfiles, _, _, halone⟩
      rw [sourceFiles_context] at hfiles halone
      have hapart : ∀ l ∈ files, context.IsApart l := fun _ _ _ hlog => nomatch hlog
      have htally : tallyLine (context.fates {} r s [path]) =
          ⟨true, .text "[dim]1 chunked, 1 skipped, 1 failed, 1 chunks[/dim]"⟩ := by
        rw [tallyLine, hchunked, hskipped, hfailed, htotal]
        rfl
      -- The fate of each file, with the exit code of the run over it alone.
      have hexit : ∀ number l failed, files[number]? = some l →
          [false, true, false][number]? = some failed →
          ((context.meeting number).perform (.chunk [l.path] {})).exit =
            if failed then 1 else 0 := by
        intro number l failed hl hfailed
        rw [← hfiles, List.getElem?_map, Option.map_eq_some_iff] at hl
        rcases hl with ⟨f, hf, rfl⟩
        rw [← hwhich, List.getElem?_map, hf] at hfailed
        cases hfailed
        rw [(halone isTree_files hapart number f hf).exit, Fates.failed, List.countP_singleton]
        dsimp only
        by_cases hfailed : f.2.isFailed = true
        · simp only [hfailed, if_true]
          rfl
        · simp only [hfailed]
          rfl
      refine ⟨r, s, rfl, hexpected, htrees, isTree_files, hshows.raised, ?_, ?_, ?_, ?_⟩
      · rw [hshows.exit, hfailed]
        rfl
      · rw [hshows.prints, htally]
        exact List.mem_append_right _ List.mem_cons_self
      · exact hexit 0 (listing "a.py" 0x78) false rfl rfl
      · exact hexit 1 (listing "b.py" 0x79) true rfl rfl

end MixedRun

/-! ## The log file as one of the files -/

namespace GrowingLog

/-- A file with the name of a generated one, and the file that the log is kept in, still empty. -/
def workspace : Workspace where
  files := .directory [("CWD", .directory [("a.min.js", .file (.bytes [0x78]) (.int 0)),
    ("z.log", .file (.bytes []) (.int 0))])]

def log : LogFile where
  start := workspace.cwd
  path := { parts := ["z.log"] }
  threshold := .info

/-- Lines of more than five bytes on average are too long. -/
def context : Context where
  tools := .answering (.node "module" ⟨0, 1, 0, 0⟩ none [])
  surroundings := { workspace }
  config :=
    { basePath := {}
      logging := { level := "INFO", file := .text "z.log" }
      minified := { maxAvgLineLength := .int 5 } }
  verbose := false
  log? := some log

def first : FilePath where
  parts := ["a.min.js"]

def isShown (markup : String) (result : RunResult) : Bool :=
  result.prints.any fun p =>
    match p.item with
    | .text m => m == markup
    | _ => false

/-- Leaving out the first file is logged, which makes the log file one to be left out too.  By
itself the log file is still empty and is chunked. -/
theorem chunk_shows_log_file :
    ((Registry.ofConfig context.tools context.surroundings
        context.config).outcome {}).1.isOk = true ∧
      (context.perform (.chunk [first, log.path] {})).raised.isNone = true ∧
      isShown "[dim]0 chunked, 2 skipped, 0 failed, 0 chunks[/dim]"
        (context.perform (.chunk [first, log.path] {})) = true ∧
      isShown "[dim]1 chunked, 0 skipped, 0 failed, 1 chunks[/dim]"
        (context.perform (.chunk [log.path] {})) = true := by
  refine ⟨?_, ?_, ?_, ?_⟩
  · decide +kernel
  · decide +kernel
  · decide +kernel
  · decide +kernel

end GrowingLog

end CommandLine

end SourceOutline
