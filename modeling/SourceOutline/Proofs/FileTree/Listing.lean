import SourceOutline.FileTree

/-!
# Listing — the entries of a directory, by their paths

The entries of a directory have different names, and none of them is called `..`, which stands for
the directory above.  Then the path of a directory with the name of an entry leads to that entry.
Paths of entries of one directory stand in the order of the names.
-/

namespace SourceOutline

/-! ## Paths -/

namespace FilePath

variable {p : FilePath} {a b : String}

theorem eq_of_child_eq (h : p.child a = p.child b) : a = b := by
  have hparts : p.parts ++ [a] = p.parts ++ [b] := congrArg FilePath.parts h
  exact List.singleton_inj.1 (List.append_cancel_left hparts)

theorem partsBefore_append_left (above xs ys : List String) :
    partsBefore (above ++ xs) (above ++ ys) = partsBefore xs ys := by
  induction above with
  | nil =>
      rfl
  | cons name rest ih =>
      simp only [List.cons_append, partsBefore, ih, String.lt_irrefl, beq_self_eq_true]
      simp

theorem before_child_iff : (p.child a).before (p.child b) = true ↔ a ≤ b := by
  have hnames : (p.child a).before (p.child b) = partsBefore [a] [b] :=
    partsBefore_append_left (p.anchor :: p.parts) [a] [b]
  rw [hnames]
  simp only [partsBefore, Bool.and_true, Bool.or_eq_true, decide_eq_true_eq, beq_iff_eq]
  constructor
  · rintro (hlt | rfl)
    · exact String.not_lt.1 fun hle => String.lt_irrefl a (String.lt_trans hlt hle)
    · exact String.le_refl a
  · intro hle
    by_cases hlt : a < b
    · exact .inl hlt
    · exact .inr (String.le_antisymm hle (String.not_lt.1 hlt))

end FilePath

/-! ## Entries -/

namespace FileTree

structure IsListing (entries : List (String × FileTree)) : Prop where
  nodup : (entries.map Prod.fst).Nodup
  plain : ".." ∉ entries.map Prod.fst

variable {entries : List (String × FileTree)} {name : String} {t : FileTree}

theorem IsListing.lookup_eq (h : IsListing entries) (hmem : (name, t) ∈ entries) :
    entries.lookup name = some t := by
  rcases List.append_of_mem hmem with ⟨before, after, rfl⟩
  refine List.lookup_eq_some_iff.2 ⟨before, after, rfl, ?_⟩
  intro e he
  have hnodup := h.nodup
  rw [List.map_append, List.map_cons, List.nodup_append] at hnodup
  have hne := hnodup.2.2 e.1 (List.mem_map_of_mem he) name List.mem_cons_self
  exact bne_iff_ne.2 hne.symm

theorem IsListing.ne_up (h : IsListing entries) (hmem : (name, t) ∈ entries) : name ≠ ".." := by
  rintro rfl
  exact h.plain (List.mem_map_of_mem hmem)

theorem follow_cons_of_lookup {above : List FileTree} {here next : FileTree} (hname : name ≠ "..")
    (hentry : here.entries.lookup name = some next) (rest : List String) :
    follow above here (name :: rest) = follow (here :: above) next rest := by
  cases here with
  | file c modified =>
      -- A file has no entries.
      cases hentry
  | directory entries =>
      rw [follow.eq_def]
      simp [isFile, hname, entry?, hentry]

theorem follow_append {above : List FileTree} {here : FileTree} {parts : List String}
    (h : follow above here parts = .ok t) (rest : List String) :
    ∃ further, follow above here (parts ++ rest) = follow further t rest := by
  induction above, here, parts using follow.induct with
  | case1 above here =>
      cases h
      exact ⟨above, rfl⟩
  | case2 above here name parts hfile =>
      rw [follow.eq_def] at h
      simp only [if_pos hfile] at h
      cases h
  -- At the top, and below it, two dots lead upwards.
  | case3 here parts hfile ih =>
      rw [follow, if_neg hfile] at h
      rw [List.cons_append, follow, if_neg hfile]
      exact ih h
  | case4 here parts hfile up further ih =>
      rw [follow, if_neg hfile] at h
      rw [List.cons_append, follow, if_neg hfile]
      exact ih h
  -- Any other name leads to an entry, or nowhere.
  | case5 above here name parts hfile hname hentry =>
      rw [follow.eq_def] at h
      simp only [if_neg hfile, if_neg hname, hentry] at h
      cases h
  | case6 above here name parts hfile hname next hentry ih =>
      rw [follow_cons_of_lookup hname hentry] at h
      rw [List.cons_append, follow_cons_of_lookup hname hentry]
      exact ih h

end FileTree

/-! ## Files -/

namespace Workspace

variable {w : Workspace} {directory : FilePath} {entries : List (String × FileTree)}
  {name : String} {t : FileTree}

theorem fromTop_append (names : List String) :
    w.fromTop { directory with parts := directory.parts ++ names } =
      w.fromTop directory ++ names := by
  have hsame : ({ directory with parts := directory.parts ++ names } : FilePath).isAbsolute =
      directory.isAbsolute := rfl
  rw [fromTop, fromTop, hsame]
  split
  · rfl
  · exact (List.append_assoc _ _ _).symm

theorem fromTop_child : w.fromTop (directory.child name) = w.fromTop directory ++ [name] :=
  fromTop_append [name]

theorem resolve_eq_of_find? (h : w.find? directory = some t) : w.resolve directory = .ok t := by
  unfold find? at h
  cases hresolve : w.resolve directory with
  | error why =>
      rw [hresolve] at h
      cases h
  | ok found =>
      rw [hresolve] at h
      cases h
      rfl

theorem resolve_child (hfind : w.find? directory = some (.directory entries))
    (hlisting : FileTree.IsListing entries) (hmem : (name, t) ∈ entries) :
    w.resolve (directory.child name) = .ok t := by
  rcases FileTree.follow_append (resolve_eq_of_find? hfind) [name] with ⟨further, hfollow⟩
  have hentry : (FileTree.directory entries).entries.lookup name = some t := hlisting.lookup_eq hmem
  rw [resolve, fromTop_child, hfollow,
    FileTree.follow_cons_of_lookup (hlisting.ne_up hmem) hentry, FileTree.follow]

theorem read_child {c : Contents} {modified : Number}
    (hfind : w.find? directory = some (.directory entries))
    (hlisting : FileTree.IsListing entries) (hmem : (name, .file c modified) ∈ entries) :
    w.read (directory.child name) = .ok c := by
  rw [read, resolve_child hfind hlisting hmem]

end Workspace

end SourceOutline
