import SourceOutline.Proofs.Entries
import SourceOutline.Proofs.FileTree.Listing
import SourceOutline.SourceListing

/-!
# Descendants — a file that was found is what its path stands for

A file is found below a directory under the names that lead to it.  In a tree whose directories have
entries of different names those names lead back to the file, and so the path of the file stands for
the file alone.
-/

namespace SourceOutline

namespace FileTree

/-- All directories of the tree have entries as a directory has them. -/
inductive IsTree : FileTree → Prop where
  | file (contents : Contents) (modified : Number) : IsTree (.file contents modified)
  | directory (entries : List (String × FileTree)) :
      IsListing entries → (∀ e ∈ entries, IsTree e.2) → IsTree (.directory entries)

variable {t : FileTree} {d : List String × FileTree}

theorem mem_descendantsOf {entries : List (String × FileTree)} :
    d ∈ descendantsOf entries ↔
      ∃ e ∈ entries, d = ([e.1], e.2) ∨
        ∃ below ∈ e.2.descendants, d = (e.1 :: below.1, below.2) := by
  induction entries with
  | nil =>
      simp [descendantsOf]
  | cons entry entries ih =>
      rcases entry with ⟨name, u⟩
      simp only [descendantsOf, List.mem_append, List.mem_cons, List.mem_map, ih,
        exists_eq_or_imp]
      simp only [eq_comm, or_assoc]

theorem sourceFiles_of_pairwise
    (h : t.descendants.Pairwise fun a b => FilePath.partsBefore a.1 b.1 = true) (path : FilePath) :
    t.sourceFiles path = t.descendants.filterMap (listing? path) := by
  rw [sourceFiles, List.mergeSort_of_pairwise h]

namespace IsTree

theorem follow_of_mem_descendants (h : IsTree t) (hmem : d ∈ t.descendants)
    (above : List FileTree) : follow above t d.1 = .ok d.2 := by
  -- The tree is gone down along the names; what is passed on the way is never needed again.
  induction h generalizing d above with
  | file contents modified =>
      cases hmem
  | directory entries hlisting hentries ih =>
      rcases mem_descendantsOf.1 hmem with ⟨⟨name, u⟩, hentry, hbelow⟩
      have hlookup : (FileTree.directory entries).entries.lookup name = some u :=
        hlisting.lookup_eq hentry
      rcases hbelow with rfl | ⟨below, hbelow, rfl⟩
      · rw [follow_cons_of_lookup (hlisting.ne_up hentry) hlookup, follow]
      · rw [follow_cons_of_lookup (hlisting.ne_up hentry) hlookup]
        exact ih _ hentry hbelow _

theorem singleton {name : String} (hname : name ≠ "..") (h : IsTree t) :
    IsTree (.directory [(name, t)]) := by
  refine .directory _ ⟨by simp, by simpa using hname.symm⟩ ?_
  intro e he
  rw [List.mem_singleton.1 he]
  exact h

theorem entry {here : FileTree} {name : String} (h : IsTree here)
    (hentry : here.entry? name = some t) : IsTree t := by
  cases h with
  | file contents modified =>
      cases hentry
  | directory entries hlisting hentries =>
      exact hentries (name, t) (mem_of_lookup_eq_some hentry)

/-- What a path leads to is a tree again, be it below or above. -/
theorem of_follow {above : List FileTree} {here : FileTree} {parts : List String}
    (hhere : IsTree here) (habove : ∀ u ∈ above, IsTree u)
    (h : follow above here parts = .ok t) : IsTree t := by
  -- A name leads down to an entry, or up to a directory that was passed on the way.
  induction above, here, parts using follow.induct with
  | case1 above here =>
      cases h
      exact hhere
  | case2 above here name parts hfile =>
      rw [follow.eq_def] at h
      simp only [if_pos hfile] at h
      cases h
  | case3 here parts hfile ih =>
      rw [follow, if_neg hfile] at h
      exact ih hhere habove h
  | case4 here parts hfile up further ih =>
      rw [follow, if_neg hfile] at h
      exact ih (habove up List.mem_cons_self) (fun u hu => habove u (List.mem_cons_of_mem _ hu)) h
  | case5 above here name parts hfile hname hentry =>
      rw [follow.eq_def] at h
      simp only [if_neg hfile, if_neg hname, hentry] at h
      cases h
  | case6 above here name parts hfile hname next hentry ih =>
      rw [follow_cons_of_lookup hname hentry] at h
      refine ih (hhere.entry hentry) ?_ h
      intro u hu
      rcases List.mem_cons.1 hu with rfl | hu
      · exact hhere
      · exact habove u hu

end IsTree

end FileTree

namespace Workspace

variable {w : Workspace} {l : Listing} {path : FilePath}

theorem resolve_path (hfiles : w.files.IsTree) (hmem : l ∈ w.filesUnder path) :
    w.resolve l.path = .ok (.file l.contents l.modified) := by
  unfold filesUnder at hmem
  cases hfind : w.find? path with
  | none =>
      rw [hfind] at hmem
      cases hmem
  | some found =>
      rw [hfind] at hmem
      have hresolve := resolve_eq_of_find? hfind
      cases found with
      | file contents modified =>
          rw [List.mem_singleton.1 hmem]
          exact hresolve
      | directory entries =>
          rcases List.mem_filterMap.1 hmem with ⟨⟨names, u⟩, hbelow, hlisting⟩
          rw [List.mem_mergeSort] at hbelow
          cases u with
          | directory entries' =>
              cases hlisting
          | file contents modified =>
              simp only [listing?] at hlisting
              split at hlisting
              · cases hlisting
              · -- The names below the directory continue its path.
                cases hlisting
                have htree : (FileTree.directory entries).IsTree :=
                  hfiles.of_follow (by simp) hresolve
                rcases FileTree.follow_append hresolve names with ⟨further, hfollow⟩
                rw [resolve, fromTop_append, hfollow]
                exact htree.follow_of_mem_descendants hbelow further

/-- The path of a file that was found stands for that file. -/
theorem sourceFiles_path {paths : List FilePath} (hfiles : w.files.IsTree)
    (hmem : l ∈ w.sourceFiles paths) : w.sourceFiles [l.path] = [l] := by
  rcases List.mem_flatMap.1 hmem with ⟨path, -, hunder⟩
  have hfind : w.find? l.path = some (.file l.contents l.modified) := by
    rw [find?, resolve_path hfiles hunder]
    rfl
  rw [sourceFiles, List.flatMap_singleton, filesUnder, hfind]

end Workspace

end SourceOutline
