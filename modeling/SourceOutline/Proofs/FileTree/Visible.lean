import Mathlib.Data.List.Forall2
import Mathlib.Data.List.Nodup
import SourceOutline.Proofs.FileTree.Descendants

/-!
# Visible — the files that paths stand for, all of them and in order

The listing of a directory takes everything below it, sorts it, and then leaves out directories and
whatever lies behind a name that begins with a dot.  What is left can be said without the listing,
by looking paths up: a file is listed exactly if its path leads to it and no name after the
directory begins with a dot.  The paths stand in strictly ascending order, component by component,
so none of them stands there twice, and there is only one list with these members in this order.

* `Workspace.sourceFiles_complete` — the files that paths stand for, each at its place.
-/

namespace SourceOutline

/-! ## The order of paths -/

theorem FilePath.partsBefore_iff {as bs : List String} : partsBefore as bs = true ↔ ¬ bs < as := by
  induction as generalizing bs with
  | nil =>
      simp [partsBefore]
  | cons a as ih =>
      cases bs with
      | nil =>
          simp [partsBefore]
      | cons b bs =>
          simp only [partsBefore, List.cons_lt_cons_iff, Bool.or_eq_true, Bool.and_eq_true,
            decide_eq_true_eq, beq_iff_eq, ih]
          by_cases hab : a = b
          · simp only [hab, String.lt_irrefl, false_or, true_and]
          -- Of different names the first one decides.
          · have hlt : a < b ↔ ¬ b < a := by
              constructor
              · exact fun h h' => String.lt_irrefl a (String.lt_trans h h')
              · intro h
                refine Decidable.not_not.1 fun h' => hab ?_
                exact String.le_antisymm (String.not_lt.1 h) (String.not_lt.1 h')
            simp [hab, Ne.symm hab, hlt]

theorem FilePath.partsBefore_trans {as bs cs : List String} (hab : partsBefore as bs = true)
    (hbc : partsBefore bs cs = true) : partsBefore as cs = true := by
  rw [partsBefore_iff, List.not_lt] at *
  exact List.le_trans hab hbc

theorem FilePath.partsBefore_total (as bs : List String) :
    partsBefore as bs = true ∨ partsBefore bs as = true := by
  rw [partsBefore_iff, partsBefore_iff, List.not_lt, List.not_lt]
  exact List.le_total as bs

theorem FilePath.lt_of_partsBefore {as bs : List String} (h : partsBefore as bs = true)
    (hne : as ≠ bs) : as < bs := by
  refine Decidable.not_not.1 fun hnot => hne ?_
  exact List.le_antisymm (List.not_lt.1 (partsBefore_iff.1 h)) (List.not_lt.1 hnot)

/-! ## What is below a directory -/

namespace FileTree

variable {t u : FileTree} {d : List String × FileTree} {entries : List (String × FileTree)}
  {above : List FileTree} {name : String} {names : List String}

theorem exists_head?_of_mem_descendantsOf (h : d ∈ descendantsOf entries) :
    ∃ e ∈ entries, d.1.head? = some e.1 := by
  rcases mem_descendantsOf.1 h with ⟨e, he, rfl | ⟨below, -, rfl⟩⟩
  · exact ⟨e, he, rfl⟩
  · exact ⟨e, he, rfl⟩

theorem ne_nil_of_mem_descendants (h : d ∈ t.descendants) : d.1 ≠ [] := by
  cases t with
  | file contents modified =>
      cases h
  | directory entries =>
      rcases exists_head?_of_mem_descendantsOf h with ⟨e, -, hhead⟩
      intro hnil
      rw [hnil] at hhead
      cases hhead

theorem nodup_descendantsOf (hnames : (entries.map Prod.fst).Nodup)
    (hbelow : ∀ e ∈ entries, (e.2.descendants.map Prod.fst).Nodup) :
    ((descendantsOf entries).map Prod.fst).Nodup := by
  induction entries with
  | nil =>
      exact List.nodup_nil
  | cons e rest ih =>
      rcases e with ⟨name, t⟩
      rcases List.nodup_cons.1 hnames with ⟨hfresh, hrest⟩
      have hlater := ih hrest fun e he => hbelow e (List.mem_cons_of_mem _ he)
      have hfirst : ((t.descendants.map Prod.fst).map (name :: ·)).Nodup :=
        (hbelow _ List.mem_cons_self).map (List.cons_injective (a := name))
      have heq : (descendantsOf ((name, t) :: rest)).map Prod.fst =
          [name] :: ((t.descendants.map Prod.fst).map (name :: ·) ++
            (descendantsOf rest).map Prod.fst) := by
        simp [descendantsOf, Function.comp_def]
      -- Behind the first entry the names of others come first.
      have hothers : ∀ names ∈ (descendantsOf rest).map Prod.fst, names.head? ≠ some name := by
        intro names hnames hhead
        rcases List.mem_map.1 hnames with ⟨d, hd, rfl⟩
        rcases exists_head?_of_mem_descendantsOf hd with ⟨e, he, hname⟩
        refine hfresh (List.mem_map.2 ⟨e, he, ?_⟩)
        exact Option.some.inj (hname.symm.trans hhead)
      rw [heq, List.nodup_cons, List.nodup_append]
      refine ⟨?_, hfirst, hlater, ?_⟩
      · rw [List.mem_append]
        rintro (hbelow | hother)
        · rcases List.mem_map.1 hbelow with ⟨names, hnames, hsingle⟩
          rcases List.mem_map.1 hnames with ⟨d, hd, rfl⟩
          exact ne_nil_of_mem_descendants hd (List.cons.inj hsingle).2
        · exact hothers _ hother rfl
      · rintro _ hfirst names hother rfl
        rcases List.mem_map.1 hfirst with ⟨below, -, rfl⟩
        exact hothers _ hother rfl

theorem exists_of_follow_cons (hname : name ≠ "..")
    (h : follow above t (name :: names) = .ok u) :
    ∃ next, (name, next) ∈ t.entries ∧ follow (t :: above) next names = .ok u := by
  cases hentry : t.entry? name with
  | none =>
      rw [follow.eq_def] at h
      simp only [if_neg hname, hentry] at h
      split at h
      · cases h
      · cases h
  | some next =>
      rcases List.lookup_eq_some_iff.1 hentry with ⟨before, after, hentries, -⟩
      refine ⟨next, by simp [hentries], ?_⟩
      rw [← h, follow_cons_of_lookup hname hentry]

namespace IsTree

theorem nodup_descendants (h : IsTree t) : (t.descendants.map Prod.fst).Nodup := by
  induction h with
  | file contents modified =>
      exact List.nodup_nil
  | directory entries hlisting hentries ih =>
      exact nodup_descendantsOf hlisting.nodup ih

theorem mem_descendants_iff (h : IsTree t) (hplain : ".." ∉ names) (above : List FileTree) :
    (names, u) ∈ t.descendants ↔ names ≠ [] ∧ follow above t names = .ok u := by
  constructor
  · intro hmem
    exact ⟨ne_nil_of_mem_descendants hmem, h.follow_of_mem_descendants hmem above⟩
  · rintro ⟨hne, hfollow⟩
    induction names generalizing t above with
    | nil =>
        contradiction
    | cons name rest ih =>
        have hname : name ≠ ".." := fun heq => hplain (heq ▸ List.mem_cons_self)
        have hrest : ".." ∉ rest := fun hmem => hplain (List.mem_cons_of_mem _ hmem)
        rcases exists_of_follow_cons hname hfollow with ⟨next, hentry, hnext⟩
        cases h with
        | file contents modified =>
            cases hentry
        | directory entries hlisting hentries =>
            refine mem_descendantsOf.2 ⟨_, hentry, ?_⟩
            -- The last name leads to the entry itself, any other one to something below it.
            cases rest with
            | nil =>
                rw [follow] at hnext
                cases hnext
                exact .inl rfl
            | cons name' rest =>
                have hbelow := ih (hentries _ hentry) hrest _ (List.cons_ne_nil _ _) hnext
                exact .inr ⟨_, hbelow, rfl⟩

end IsTree

end FileTree

/-! ## What paths stand for -/

def IsDotted (name : String) : Prop :=
  ['.'] <+: name.toList

theorem isHidden_eq_false_iff {name : String} : isHidden name = false ↔ ¬ IsDotted name := by
  unfold isHidden IsDotted
  cases name.toList with
  | nil =>
      simp
  | cons c rest =>
      rw [List.head?_cons, List.cons_prefix_cons]
      simp [eq_comm (a := c)]

theorem parts_of_listing? {path : FilePath} {found : List String × FileTree} {l : Listing}
    (h : listing? path found = some l) : l.path.parts = path.parts ++ found.1 := by
  unfold listing? at h
  split at h
  · cases h
  · split at h
    · cases h
    · cases h
      rfl

theorem isDotted_up : IsDotted ".." :=
  ⟨['.'], by decide⟩

/-- The path of a listed file comes before that of another one, by the first component in which
they differ. -/
def Listing.IsBefore (k l : Listing) : Prop :=
  k.path.parts < l.path.parts

theorem Listing.IsBefore.ne {k l : Listing} (h : k.IsBefore l) : k ≠ l := by
  rintro rfl
  exact List.lt_irrefl _ h

namespace Workspace

variable {w : Workspace} {path : FilePath} {l : Listing} {files : List Listing}
  {entries : List (String × FileTree)}

/-- The path of a directory goes on with names that do not begin with a dot, and leads to a file. -/
def ShowsBelow (w : Workspace) (path : FilePath) (l : Listing) : Prop :=
  ∃ names : List String, (∀ name ∈ names, ¬ IsDotted name) ∧
    l.path = { path with parts := path.parts ++ names } ∧
    w.find? l.path = some (.file l.contents l.modified)

/-- What a path stands for: a file for itself, whatever its name is, and a directory for all files
that show below it, in strictly ascending order of the components of their paths. -/
inductive StandsFor (w : Workspace) (path : FilePath) : List Listing → Prop where
  | file (contents : Contents) (modified : Number) :
      w.find? path = some (.file contents modified) →
        StandsFor w path [{ path, contents, modified }]
  | directory (entries : List (String × FileTree)) (files : List Listing) :
      w.find? path = some (.directory entries) →
        (∀ l, l ∈ files ↔ w.ShowsBelow path l) →
          files.Pairwise Listing.IsBefore → StandsFor w path files

theorem StandsFor.unique {files' : List Listing} (h : w.StandsFor path files)
    (h' : w.StandsFor path files') : files = files' := by
  cases h with
  | file contents modified hfind =>
      cases h' with
      | file contents' modified' hfind' =>
          cases hfind.symm.trans hfind'
          rfl
      | directory entries' _ hfind' _ _ =>
          cases hfind.symm.trans hfind'
  | directory entries _ hfind hmem hsorted =>
      cases h' with
      | file contents' modified' hfind' =>
          cases hfind.symm.trans hfind'
      | directory entries' _ hfind' hmem' hsorted' =>
          -- Both lists have the same members, each once, and they are sorted.
          have hperm : files.Perm files' :=
            (List.perm_ext_iff_of_nodup (hsorted.imp Listing.IsBefore.ne)
              (hsorted'.imp Listing.IsBefore.ne)).2 fun l => (hmem l).trans (hmem' l).symm
          refine hperm.eq_of_pairwise ?_ hsorted hsorted'
          exact fun k l _ _ hkl hlk => absurd hlk (List.lt_asymm hkl)

theorem mem_filesUnder_iff (hfiles : w.files.IsTree)
    (hfind : w.find? path = some (.directory entries)) :
    l ∈ w.filesUnder path ↔ w.ShowsBelow path l := by
  have hresolve := resolve_eq_of_find? hfind
  have htree : (FileTree.directory entries).IsTree := hfiles.of_follow (by simp) hresolve
  constructor
  · intro hmem
    have hleads : w.find? l.path = some (.file l.contents l.modified) := by
      rw [find?, resolve_path hfiles hmem]
      rfl
    rw [filesUnder, hfind] at hmem
    rcases List.mem_filterMap.1 hmem with ⟨⟨names, u⟩, -, hlisting⟩
    cases u with
    | directory entries' =>
        cases hlisting
    | file contents modified =>
        simp only [listing?] at hlisting
        split at hlisting
        · cases hlisting
        · rename_i hvisible
          cases hlisting
          refine ⟨names, fun name hname => isHidden_eq_false_iff.1 ?_, rfl, hleads⟩
          exact Bool.eq_false_iff.2 fun hhidden =>
            hvisible (List.any_eq_true.2 ⟨name, hname, hhidden⟩)
  · rintro ⟨names, hvisible, hpath, hleads⟩
    -- Following the whole path is following the names from the directory on.
    rcases FileTree.follow_append hresolve names with ⟨further, hfollow⟩
    have hbelow : FileTree.follow further (.directory entries) names =
        .ok (.file l.contents l.modified) := by
      rw [← hfollow, ← fromTop_append, ← hpath]
      exact resolve_eq_of_find? hleads
    have hplain : ".." ∉ names := fun hmem => hvisible _ hmem isDotted_up
    have hne : names ≠ [] := by
      rintro rfl
      rw [FileTree.follow] at hbelow
      cases hbelow
    have hmem := (htree.mem_descendants_iff hplain further).2 ⟨hne, hbelow⟩
    rw [filesUnder, hfind]
    refine List.mem_filterMap.2 ⟨_, List.mem_mergeSort.2 hmem, ?_⟩
    have hshown : names.any isHidden = false :=
      List.any_eq_false.2 fun name hname =>
        Bool.eq_false_iff.1 (isHidden_eq_false_iff.2 (hvisible name hname))
    rw [listing?, hshown, ← hpath]
    rfl

theorem pairwise_filesUnder (hfiles : w.files.IsTree)
    (hfind : w.find? path = some (.directory entries)) :
    (w.filesUnder path).Pairwise Listing.IsBefore := by
  let byNames : List String × FileTree → List String × FileTree → Bool :=
    fun a b => FilePath.partsBefore a.1 b.1
  let below := (FileTree.directory entries).descendants
  have htree : (FileTree.directory entries).IsTree :=
    hfiles.of_follow (by simp) (resolve_eq_of_find? hfind)
  have hsorted : (below.mergeSort byNames).Pairwise fun a b => byNames a b = true := by
    refine List.pairwise_mergeSort ?_ ?_ below
    · exact fun a b c hab hbc => FilePath.partsBefore_trans hab hbc
    · exact fun a b => Bool.or_eq_true_iff.2 (FilePath.partsBefore_total a.1 b.1)
  -- Sorting only permutes the names, so they stay different and the order is strict.
  have hdistinct : (below.mergeSort byNames).Pairwise fun a b => a.1 ≠ b.1 :=
    List.pairwise_map.1
      (((List.mergeSort_perm below byNames).map Prod.fst).nodup_iff.2 htree.nodup_descendants)
  rw [filesUnder, hfind]
  refine (hsorted.and hdistinct).filterMap _ ?_
  rintro a b ⟨hab, hne⟩ k hk l hl
  rw [Listing.IsBefore, parts_of_listing? hk, parts_of_listing? hl]
  exact List.append_left_lt (FilePath.lt_of_partsBefore hab hne)

theorem standsFor_filesUnder (hfiles : w.files.IsTree) (hpath : w.contains path = true) :
    w.StandsFor path (w.filesUnder path) := by
  rcases Option.isSome_iff_exists.1 hpath with ⟨found, hfind⟩
  cases found with
  | file contents modified =>
      rw [filesUnder, hfind]
      exact .file contents modified hfind
  | directory entries =>
      exact .directory entries _ hfind (fun l => mem_filesUnder_iff hfiles hfind)
        (pairwise_filesUnder hfiles hfind)

/-- Paths that lead somewhere stand for the files that are listed for them, path by path. -/
theorem sourceFiles_complete {paths : List FilePath} (hfiles : w.files.IsTree)
    (hpaths : ∀ path ∈ paths, w.contains path = true) :
    (∃ found, List.Forall₂ w.StandsFor paths found) ∧
      ∀ found, List.Forall₂ w.StandsFor paths found → w.sourceFiles paths = found.flatten := by
  have hlisted : List.Forall₂ w.StandsFor paths (paths.map w.filesUnder) := by
    rw [List.forall₂_map_right_iff, List.forall₂_same]
    exact fun path hpath => standsFor_filesUnder hfiles (hpaths path hpath)
  refine ⟨⟨_, hlisted⟩, fun found hfound => ?_⟩
  have hsame : found = paths.map w.filesUnder :=
    List.right_unique_forall₂' (fun _ _ _ h h' => h.unique h') hfound hlisted
  rw [hsame, sourceFiles, List.flatMap_def]

end Workspace

namespace HiddenEntries

def leaf : FileTree := .file (.bytes [0x78]) (.int 0)

/-- A hidden directory, a hidden file, and two directories whose names begin alike. -/
def entries : List (String × FileTree) :=
  [(".cache", .directory [("skip.py", leaf)]), (".env", leaf), ("a", .directory [("x", leaf)]),
    ("a-b", .directory [("x", leaf)]), ("z", leaf)]

def workspace : Workspace where
  files := .directory [("CWD", .directory [("src", .directory entries)])]

def src : FilePath where
  parts := ["src"]

/-- A directory, and a hidden directory and a hidden file of it. -/
def paths : List FilePath :=
  [src, src.child ".cache", src.child ".env"]

theorem isTree_files : workspace.files.IsTree := by
  have hentries : (FileTree.directory entries).IsTree := by
    refine .directory _ ⟨by decide, by decide⟩ ?_
    intro e he
    simp only [entries, List.mem_cons, List.not_mem_nil, or_false] at he
    rcases he with rfl | rfl | rfl | rfl | rfl
    · exact .singleton (by decide) (.file _ _)
    · exact .file _ _
    · exact .singleton (by decide) (.file _ _)
    · exact .singleton (by decide) (.file _ _)
    · exact .file _ _
  exact .singleton (by decide) (.singleton (by decide) hentries)

/-- The components of paths are compared, and not the paths as texts; what a path names itself is
not hidden. -/
theorem sourceFiles_of_paths :
    workspace.files.IsTree ∧ (∀ path ∈ paths, workspace.contains path = true) ∧
      (∃ found, List.Forall₂ workspace.StandsFor paths found) ∧
      ∀ found, List.Forall₂ workspace.StandsFor paths found →
        found.flatten.map (fun l => l.path.toString) =
          ["src/a/x", "src/a-b/x", "src/z", "src/.cache/skip.py", "src/.env"] := by
  have hcontains : ∀ path ∈ paths, workspace.contains path = true := by decide
  rcases Workspace.sourceFiles_complete isTree_files hcontains with ⟨hexists, heq⟩
  refine ⟨isTree_files, hcontains, hexists, fun found hfound => ?_⟩
  -- The entries stand in the order of their names, so all that is below them is in order.
  have hsrc : workspace.filesUnder src =
      (FileTree.directory entries).descendants.filterMap (listing? src) :=
    FileTree.sourceFiles_of_pairwise (by decide +kernel) src
  have hcache : workspace.filesUnder (src.child ".cache") =
      (FileTree.directory [("skip.py", leaf)]).descendants.filterMap
        (listing? (src.child ".cache")) :=
    FileTree.sourceFiles_of_pairwise (by decide +kernel) (src.child ".cache")
  rw [← heq found hfound, Workspace.sourceFiles, paths, List.flatMap_cons, hsrc, List.flatMap_cons,
    hcache]
  decide +kernel

end HiddenEntries

end SourceOutline
