import SourceOutline.LanguageTable.Directory
import SourceOutline.Proofs.FileTree.Listing
import SourceOutline.Proofs.LanguageTable.Format

/-!
# Shelf — what loading a directory of language tables gives

The files of a directory that hold tables are loaded one after the other, in the order of their
paths.  What a file gives depends on its own contents only: a table, a failure that is reported with
the path of the file, or a fault.  Without a fault every file has its outcome on the shelf; the
first file with a fault stops the loading, and then there is no shelf at all.  This holds of every
reader of documents, whatever it makes of them.

* `TableShelf.ofDirectory_complete_or_stopped` — what loading a directory gives.
-/

namespace SourceOutline

/-! ## Contents -/

/-- The fault that contents give: what stops the reader of documents and is no rule that they
break, or bytes that are no text and never come to the reader. -/
def Contents.unreadFault? (d : DocumentReader) (c : Contents) : Option Fault :=
  match c.readText d with
  | .error (.raised why) => some why
  | _ => none

namespace LanguageTable

variable {d : DocumentReader} {source : String} {c : Contents}

def ofContents (d : DocumentReader) (source : String) (c : Contents) :
    Except Failure LanguageTable :=
  ofReading source (c.readText d)

theorem source_failure (source : String) (faults : List LocatedFault) :
    (failure source faults).source = source := by
  cases faults <;> rfl

theorem source_of_ofDocument {v : Value} {why : TableFailure}
    (h : ofDocument source v = .error why) : why.source = source := by
  rw [ofDocument, Except.map_eq_error_iff] at h
  exact WrittenTable.source_of_ofDocument h

theorem ofContents_of_unreadFault? {fault : Fault} (h : c.unreadFault? d = some fault) :
    ofContents d source c = .error (.fault fault) := by
  unfold Contents.unreadFault? at h
  unfold ofContents
  split at h
  · rename_i hread
    cases h
    rw [hread]
    rfl
  · cases h

theorem exists_ofContents_eq (source : String) (h : c.unreadFault? d = none) :
    ∃ result : Except TableFailure LanguageTable,
      ofContents d source c = result.mapError .table ∧
        ∀ why, result = .error why → why.source = source := by
  unfold Contents.unreadFault? at h
  unfold ofContents
  cases hread : c.readText d with
  | ok document =>
      cases document with
      | value v =>
          exact ⟨ofDocument source v, Except.map_mapError _ _ _, fun why => source_of_ofDocument⟩
      | foreign o =>
          -- What is wrong with such a document comes with it and is reported for this source.
          refine ⟨(o.table.mapError (failure source)).map WrittenTable.table,
            Except.map_mapError _ _ _, fun why hwhy => ?_⟩
          rw [Except.map_eq_error_iff] at hwhy
          rcases Except.mapError_eq_error_iff.1 hwhy with ⟨faults, -, rfl⟩
          exact source_failure source faults
  | error why =>
      rw [hread] at h
      cases why with
      | brokenRule =>
          refine ⟨.error (.syntaxError source), rfl, fun why hwhy => ?_⟩
          cases hwhy
          rfl
      | raised fault =>
          cases h

theorem load_eq_ofContents {w : Workspace} {path : FilePath} (h : w.read path = .ok c) :
    load d w path = ofContents d path.toString c := by
  rw [load, h]
  rfl

end LanguageTable

/-! ## Files -/

def Workspace.unreadFault? (d : DocumentReader) (w : Workspace) (path : FilePath) : Option Fault :=
  (w.read path).toOption.bind (Contents.unreadFault? d)

/-- A file that should hold a table, and what became of it. -/
structure LoadedFile where
  path : FilePath
  result : Except TableFailure LanguageTable

namespace LoadedFile

def table? (f : LoadedFile) : Option LanguageTable :=
  f.result.toOption

def failure? (f : LoadedFile) : Option TableFailure :=
  match f.result with
  | .ok _ => none
  | .error why => some why

/-- The file has the same outcome when it is loaded alone, and its failure is reported with its
path. -/
structure IsFrom (d : DocumentReader) (w : Workspace) (f : LoadedFile) : Prop where
  load_eq : LanguageTable.load d w f.path = f.result.mapError .table
  reported : ∀ why, f.result = .error why →
    ∃ d, (Failure.table why).diagnostic? = some d ∧ d.kind = .languageTable ∧
      d.path = some f.path.toString

theorem IsFrom.result_eq {w : Workspace} {f : LoadedFile} (hf : f.IsFrom d w)
    {result : Except TableFailure LanguageTable}
    (h : LanguageTable.load d w f.path = result.mapError .table) : f.result = result := by
  have hsame : f.result.mapError Failure.table = result.mapError Failure.table :=
    hf.load_eq.symm.trans h
  cases hresult : f.result with
  | ok t =>
      rw [hresult] at hsame
      cases result with
      | ok u =>
          cases hsame
          rfl
      | error why =>
          cases hsame
  | error why =>
      rw [hresult] at hsame
      cases result with
      | ok u =>
          cases hsame
      | error why' =>
          cases hsame
          rfl

theorem exists_isFrom {w : Workspace} {path : FilePath} (h : w.unreadFault? d path = none) :
    ∃ f : LoadedFile, f.path = path ∧ f.IsFrom d w := by
  -- The report of a failure has the path that the failure names.
  have hreported : ∀ why : TableFailure, why.source = path.toString →
      ∃ d, (Failure.table why).diagnostic? = some d ∧ d.kind = .languageTable ∧
        d.path = some path.toString := by
    intro why hsource
    exact ⟨_, rfl, rfl, congrArg some hsource⟩
  unfold Workspace.unreadFault? at h
  cases hread : w.read path with
  | error why =>
      -- What cannot be read at all is a failure of the table.
      refine ⟨⟨path, .error (.unreadable path.toString)⟩, rfl, ⟨?_, ?_⟩⟩
      · simp only [LanguageTable.load, hread]
        rfl
      · intro why heq
        cases heq
        exact hreported _ rfl
  | ok c =>
      rw [hread] at h
      rcases LanguageTable.exists_ofContents_eq path.toString h with
        ⟨result, hresult, hsource⟩
      refine ⟨⟨path, result⟩, rfl, ⟨(LanguageTable.load_eq_ofContents hread).trans hresult, ?_⟩⟩
      intro why heq
      exact hreported why (hsource why heq)

end LoadedFile

theorem LanguageTable.load_of_unreadFault? {w : Workspace} {path : FilePath} {fault : Fault}
    (h : w.unreadFault? d path = some fault) : load d w path = .error (.fault fault) := by
  unfold Workspace.unreadFault? at h
  cases hread : w.read path with
  | error why =>
      rw [hread] at h
      cases h
  | ok c =>
      rw [hread] at h
      rw [load_eq_ofContents hread]
      exact ofContents_of_unreadFault? h

/-! ## Shelves -/

namespace TableShelf

variable {d : DocumentReader} {w : Workspace} {directory : FilePath}
  {entries : List (String × FileTree)}

def add (shelf : TableShelf) (loaded : List LoadedFile) : TableShelf :=
  { shelf with
      tables := shelf.tables ++ loaded.filterMap LoadedFile.table?
      failures := shelf.failures ++ loaded.filterMap LoadedFile.failure? }

theorem add_nil (shelf : TableShelf) : shelf.add [] = shelf := by
  simp [add]

theorem add_add (shelf : TableShelf) (xs ys : List LoadedFile) :
    (shelf.add xs).add ys = shelf.add (xs ++ ys) := by
  simp [add]

theorem put_load (shelf : TableShelf) {f : LoadedFile} (hf : f.IsFrom d w) :
    shelf.put (LanguageTable.load d w f.path) = .ok (shelf.add [f]) := by
  rw [hf.load_eq]
  cases hresult : f.result with
  | ok t =>
      simp [put, Except.mapError, add, LoadedFile.table?, LoadedFile.failure?, hresult,
        Except.toOption]
  | error why =>
      simp [put, Except.mapError, add, LoadedFile.table?, LoadedFile.failure?, hresult,
        Except.toOption]

def loadAll (d : DocumentReader) (w : Workspace) (paths : List FilePath) (shelf : TableShelf) :
    Except Failure TableShelf :=
  paths.foldlM (fun (s : TableShelf) path => s.put (LanguageTable.load d w path)) shelf

theorem loadAll_cons (path : FilePath) (paths : List FilePath) (shelf : TableShelf) :
    loadAll d w (path :: paths) shelf =
      (shelf.put (LanguageTable.load d w path)).bind (loadAll d w paths) := rfl

theorem loadAll_append (before after : List FilePath) (shelf : TableShelf) :
    loadAll d w (before ++ after) shelf = (loadAll d w before shelf).bind (loadAll d w after) :=
  List.foldlM_append

/-- Files without a fault put all their outcomes on the shelf, in order. -/
theorem exists_loadAll_eq (shelf : TableShelf) {paths : List FilePath}
    (h : ∀ path ∈ paths, w.unreadFault? d path = none) :
    ∃ loaded : List LoadedFile, loaded.map LoadedFile.path = paths ∧ (∀ f ∈ loaded, f.IsFrom d w) ∧
      loadAll d w paths shelf = .ok (shelf.add loaded) := by
  induction paths generalizing shelf with
  | nil =>
      exact ⟨[], rfl, by simp, congrArg Except.ok (add_nil shelf).symm⟩
  | cons path paths ih =>
      -- The first file has an outcome, and the others are put on the shelf that has it.
      rcases LoadedFile.exists_isFrom (h path List.mem_cons_self) with ⟨f, rfl, hf⟩
      rcases ih (shelf.add [f]) (fun path hpath => h path (List.mem_cons_of_mem f.path hpath)) with
        ⟨loaded, hpaths, hloaded, hrun⟩
      refine ⟨f :: loaded, by rw [List.map_cons, hpaths], ?_, ?_⟩
      · intro g hg
        rcases List.mem_cons.1 hg with rfl | hg
        · exact hf
        · exact hloaded g hg
      · calc loadAll d w (f.path :: paths) shelf
            = loadAll d w paths (shelf.add [f]) := by rw [loadAll_cons, put_load shelf hf]; rfl
          _ = .ok ((shelf.add [f]).add loaded) := hrun
          _ = .ok (shelf.add (f :: loaded)) := congrArg Except.ok (add_add shelf [f] loaded)

theorem loadAll_of_fault (shelf : TableShelf) {paths : List FilePath} {fault : Fault}
    (h : paths.findSome? (w.unreadFault? d) = some fault) :
    loadAll d w paths shelf = .error (.fault fault) := by
  -- The files before it are put on the shelf, and the shelf is lost with the fault.
  rcases List.findSome?_eq_some_iff.1 h with ⟨before, path, after, rfl, hfault, hbefore⟩
  rcases exists_loadAll_eq shelf hbefore with ⟨loaded, _, _, hrun⟩
  calc loadAll d w (before ++ path :: after) shelf
      = loadAll d w (path :: after) (shelf.add loaded) := by rw [loadAll_append, hrun]; rfl
    _ = .error (.fault fault) := by
        rw [loadAll_cons, LanguageTable.load_of_unreadFault? hfault]
        rfl

/-! ## Directories -/

theorem mem_files_iff {path : FilePath} :
    path ∈ files directory (.directory entries) ↔
      ∃ name c modified, (name, FileTree.file c modified) ∈ entries ∧
        lowerCase path.suffix ∈ suffixes ∧ path = directory.child name := by
  simp only [files, List.mem_map, List.mem_filter, List.mem_mergeSort, FileTree.entries, holdsTable,
    Bool.and_eq_true, List.contains_iff_mem]
  constructor
  · rintro ⟨⟨name, t⟩, ⟨hmem, hfile, hsuffix⟩, rfl⟩
    cases t with
    | file c modified =>
        exact ⟨name, c, modified, hmem, hsuffix, rfl⟩
    | directory _ =>
        -- A directory holds no table, whatever its name.
        cases hfile
  · rintro ⟨name, c, modified, hmem, hsuffix, rfl⟩
    exact ⟨(name, .file c modified), ⟨hmem, rfl, hsuffix⟩, rfl⟩

theorem pairwise_files (hlisting : FileTree.IsListing entries) :
    (files directory (.directory entries)).Pairwise fun p q => p.before q = true ∧ p ≠ q := by
  let byName : String × FileTree → String × FileTree → Bool := fun a b => !(b.1 < a.1)
  have hle : ∀ a b, byName a b = true ↔ a.1 ≤ b.1 := by
    intro a b
    simp only [byName, Bool.not_eq_true', decide_eq_false_iff_not, String.not_lt]
  have hsorted : (entries.mergeSort byName).Pairwise fun a b => byName a b = true := by
    refine List.pairwise_mergeSort ?_ ?_ entries
    · intro a b c hab hbc
      exact (hle a c).2 (String.le_trans ((hle a b).1 hab) ((hle b c).1 hbc))
    · intro a b
      rw [Bool.or_eq_true, hle, hle]
      exact String.le_total a.1 b.1
  -- Sorting only permutes the names, so they stay different and the order is strict.
  have hnames : ((entries.mergeSort byName).map Prod.fst).Nodup :=
    ((List.mergeSort_perm entries byName).map Prod.fst).nodup_iff.2 hlisting.nodup
  have hdistinct : (entries.mergeSort byName).Pairwise fun a b => a.1 ≠ b.1 :=
    List.pairwise_map.1 hnames
  refine List.pairwise_map.2 (((hsorted.and hdistinct).imp ?_).filter _)
  rintro a b ⟨hab, hne⟩
  exact ⟨FilePath.before_child_iff.2 ((hle a b).1 hab), fun heq => hne (FilePath.eq_of_child_eq heq)⟩

theorem ofDirectory_eq (hfind : w.find? directory = some (.directory entries)) :
    ofDirectory d w directory =
      (loadAll d w (files directory (.directory entries)) {}).map fun shelf =>
        { shelf with records := [record directory.toString shelf] } := by
  rw [ofDirectory, hfind]
  rfl

/-- The files of a directory that hold tables are loaded in the order of their paths, each once.
What a file gives depends on its own contents only.  If no file has a fault, all of them have
their outcome on the shelf, a table or a failure with the path of the file.  Otherwise loading
ends with the fault of the first such file, and nothing is kept of the others. -/
theorem ofDirectory_complete_or_stopped (hfind : w.find? directory = some (.directory entries))
    (hlisting : FileTree.IsListing entries) :
    (∀ path, path ∈ files directory (.directory entries) ↔
      ∃ name c modified, (name, FileTree.file c modified) ∈ entries ∧
        lowerCase path.suffix ∈ suffixes ∧ path = directory.child name) ∧
    (files directory (.directory entries)).Pairwise (fun p q => p.before q = true ∧ p ≠ q) ∧
    (∀ name c modified, (name, FileTree.file c modified) ∈ entries →
      w.unreadFault? d (directory.child name) = c.unreadFault? d ∧
        LanguageTable.load d w (directory.child name) =
          LanguageTable.ofContents d (directory.child name).toString c) ∧
    match (files directory (.directory entries)).findSome? (w.unreadFault? d) with
    | none =>
      ∃ (loaded : List LoadedFile) (shelf : TableShelf),
        loaded.map LoadedFile.path = files directory (.directory entries) ∧
          (∀ f ∈ loaded, f.IsFrom d w) ∧ ofDirectory d w directory = .ok shelf ∧
          shelf.tables = loaded.filterMap LoadedFile.table? ∧
          shelf.failures = loaded.filterMap LoadedFile.failure?
    | some fault => ofDirectory d w directory = .error (.fault fault) := by
  refine ⟨fun path => mem_files_iff, pairwise_files hlisting, ?_, ?_⟩
  · intro name c modified hmem
    have hread := Workspace.read_child hfind hlisting hmem
    exact ⟨by rw [Workspace.unreadFault?, hread]; rfl, LanguageTable.load_eq_ofContents hread⟩
  · -- The first file with a fault decides, if there is one.
    cases hfault : (files directory (.directory entries)).findSome? (w.unreadFault? d) with
    | none =>
        rcases exists_loadAll_eq {} (List.findSome?_eq_none_iff.1 hfault) with
          ⟨loaded, hpaths, hloaded, hrun⟩
        refine ⟨loaded, { TableShelf.add {} loaded with
          records := [record directory.toString (TableShelf.add {} loaded)] }, hpaths, hloaded, ?_,
          rfl, rfl⟩
        rw [ofDirectory_eq hfind, hrun]
        rfl
    | some fault =>
        simp only
        rw [ofDirectory_eq hfind, loadAll_of_fault {} hfault]
        rfl

end TableShelf

/-! ## A directory of tables -/

namespace TableDirectory

def toy : LanguageTable where
  language := "toy"
  extensions := [".toy"]
  grammar := "toy"
  methodTypes := ["function"]

def document : Value :=
  .map [(.text "language", .text "toy"), (.text "extensions", .list [.text ".toy"]),
    (.text "tree_sitter", .map [(.text "grammar", .text "toy")]),
    (.text "chunk_mappings", .map [(.text "method", .list [.text "function"])])]

def path : FilePath := { parts := ["d"] }

/-- The files of the system, of which those of the directory are given. -/
def workspace (entries : List (String × FileTree)) : Workspace where
  files := .directory [("CWD", .directory [("d", .directory entries)])]

/-- A file with a table, a file with a list in place of a map, and a note that is no text. -/
def mixed : List (String × FileTree) :=
  [("a.yaml", .file (.document document) (.int 0)), ("b.YML", .file (.document (.list [])) (.int 0)),
    ("note.txt", .file (.bytes [0xFF]) (.int 0))]

theorem files_mixed : TableShelf.files path (.directory mixed) =
    [path.child "a.yaml", path.child "b.YML"] := by
  have hsorted : mixed.mergeSort (fun a b => !(b.1 < a.1)) = mixed :=
    List.mergeSort_of_pairwise (by decide)
  rw [TableShelf.files, FileTree.entries, hsorted]
  decide +kernel

/-- The file that is no map does not keep the table of the other one from being loaded. -/
theorem shelf_of_mixed :
    (workspace mixed).find? path = some (.directory mixed) ∧ FileTree.IsListing mixed ∧
      ∃ shelf, TableShelf.ofDirectory .plain (workspace mixed) path = .ok shelf ∧ shelf.tables = [toy] ∧
        shelf.failures.map TableFailure.message = ["d/b.YML must contain a mapping"] := by
  have hfind : (workspace mixed).find? path = some (.directory mixed) := rfl
  have hlisting : FileTree.IsListing mixed := ⟨by decide, by decide⟩
  refine ⟨hfind, hlisting, ?_⟩
  have hall := (TableShelf.ofDirectory_complete_or_stopped (d := .plain) hfind hlisting).2.2.2
  have hfault : [path.child "a.yaml", path.child "b.YML"].findSome?
      ((workspace mixed).unreadFault? .plain) = none := by
    decide
  rw [files_mixed, hfault] at hall
  rcases hall with ⟨loaded, shelf, hpaths, hloaded, hshelf, htables, hfailures⟩
  rcases List.map_eq_cons_iff.1 hpaths with ⟨f, rest, rfl, hf, hrest⟩
  rcases List.map_eq_singleton_iff.1 hrest with ⟨g, rfl, hg⟩
  have hfirst : f.result = .ok toy := by
    refine (hloaded f (by simp)).result_eq ?_
    rw [hf]
    exact eq_ok_of_toOption (by decide +kernel)
  have hsecond : g.result = .error (.notMapping "d/b.YML") := by
    refine (hloaded g (by simp)).result_eq ?_
    rw [hg]
    rfl
  refine ⟨shelf, hshelf, ?_, ?_⟩
  · rw [htables]
    simp [LoadedFile.table?, hfirst, hsecond, Except.toOption]
  · rw [hfailures]
    simp only [LoadedFile.failure?, hfirst, hsecond, List.filterMap_cons, List.filterMap_nil]
    rfl

/-- A file that is no text before a file with a table. -/
def spoiled : List (String × FileTree) :=
  [("a.yaml", .file (.bytes [0xFF]) (.int 0)), ("b.yaml", .file (.document document) (.int 0))]

/-- The file that is no text keeps the table of the other one, which loads alone, from being
loaded. -/
theorem no_shelf_of_spoiled :
    (workspace spoiled).find? path = some (.directory spoiled) ∧ FileTree.IsListing spoiled ∧
      LanguageTable.load .plain (workspace spoiled) (path.child "b.yaml") = .ok toy ∧
      ¬ ∃ shelf, TableShelf.ofDirectory .plain (workspace spoiled) path = .ok shelf := by
  have hfiles : TableShelf.files path (.directory spoiled) =
      [path.child "a.yaml", path.child "b.yaml"] := by
    have hsorted : spoiled.mergeSort (fun a b => !(b.1 < a.1)) = spoiled :=
      List.mergeSort_of_pairwise (by decide)
    rw [TableShelf.files, FileTree.entries, hsorted]
    decide +kernel
  have hfind : (workspace spoiled).find? path = some (.directory spoiled) := rfl
  refine ⟨hfind, ⟨by decide, by decide⟩, eq_ok_of_toOption (by decide +kernel), ?_⟩
  rintro ⟨shelf, hshelf⟩
  rw [TableShelf.ofDirectory_eq hfind, hfiles] at hshelf
  cases hshelf

end TableDirectory

end SourceOutline
