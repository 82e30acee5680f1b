import SourceOutline.Proofs.Entries
import SourceOutline.Proofs.FileTree.Listing

/-!
# Writing — a file that was written is found again

Writing makes the directories on the way and then puts the file in its place.  Neither takes away a
directory, so the components of the path lead to the file afterwards, those that lead upwards
included.
-/

namespace SourceOutline

namespace FileTree

variable {t leaf : FileTree} {name : String}

/-! ## Entries -/

theorem entry?_place (t leaf : FileTree) (name : String) (rest : List String) (key : String) :
    entry? (t.place leaf (name :: rest)) key =
      if key = name then some (((t.entry? name).getD (directory [])).place leaf rest)
      else t.entry? key :=
  lookup_putEntry name _ t.entries key

theorem get?_cons (t : FileTree) (name : String) (rest : List String) :
    t.get? (name :: rest) = (t.entry? name).bind (get? · rest) := by
  rw [get?]
  cases t.entry? name <;> rfl

theorem get?_append (t : FileTree) (names rest : List String) :
    t.get? (names ++ rest) = (t.get? names).bind (get? · rest) := by
  induction names generalizing t with
  | nil => rfl
  | cons name names ih =>
      rw [List.cons_append, get?_cons, get?_cons]
      cases t.entry? name with
      | none => rfl
      | some next => exact ih next

theorem get?_concat (t : FileTree) (names : List String) (name : String) :
    t.get? (names ++ [name]) = (t.get? names).bind fun d => d.entry? name := by
  rw [get?_append]
  cases t.get? names with
  | none => rfl
  | some d =>
      rw [Option.bind_some, Option.bind_some, get?_cons]
      cases d.entry? name <;> rfl

/-! ## Places -/

theorem get?_place_self (t leaf : FileTree) (names : List String) :
    (t.place leaf names).get? names = some leaf := by
  induction names generalizing t with
  | nil => rfl
  | cons name names ih =>
      rw [get?_cons, entry?_place, if_pos rfl]
      exact ih _

/-- The names lead to a directory. -/
def HasDirectory (t : FileTree) (names : List String) : Prop :=
  ∃ d, t.get? names = some d ∧ d.isDirectory = true

theorem hasDirectory_cons {rest : List String} :
    t.HasDirectory (name :: rest) ↔ ∃ next, t.entry? name = some next ∧ next.HasDirectory rest := by
  unfold HasDirectory
  rw [get?_cons]
  cases t.entry? name <;> simp

theorem HasDirectory.place {names here : List String} (h : t.HasDirectory names)
    (hfree : ¬ t.HasDirectory here) (leaf : FileTree) : (t.place leaf here).HasDirectory names := by
  induction here generalizing t names with
  | nil =>
      -- A file was replaced, and names lead to no directory from there.
      cases names with
      | nil => exact absurd h hfree
      | cons name rest =>
          rcases hasDirectory_cons.1 h with ⟨next, hentry, -⟩
          cases t with
          | file c modified => cases hentry
          | directory entries => exact absurd ⟨_, rfl, rfl⟩ hfree
  | cons key here ih =>
      cases names with
      | nil => exact ⟨_, rfl, rfl⟩
      | cons name rest =>
          rcases hasDirectory_cons.1 h with ⟨next, hentry, hnext⟩
          rw [hasDirectory_cons, entry?_place]
          by_cases hname : name = key
          · subst hname
            rw [if_pos rfl, hentry]
            refine ⟨_, rfl, ih hnext fun hhere => hfree ?_⟩
            exact hasDirectory_cons.2 ⟨next, hentry, hhere⟩
          · exact ⟨next, by rw [if_neg hname, hentry], hnext⟩

/-! ## Directories on the way -/

/-- From the top, the names go through the directories `above`, nearest first, to `here`. -/
inductive Leads (top : FileTree) : List String → List FileTree → FileTree → Prop
  | top : Leads top [] [] top
  | down {names : List String} {above : List FileTree} {here next : FileTree} {name : String}
    (h : Leads top names above here) (hname : name ≠ "..")
    (hentry : here.entry? name = some next) : Leads top (names ++ [name]) (here :: above) next

theorem Leads.get?_eq {top here : FileTree} {names : List String} {above : List FileTree}
    (h : Leads top names above here) : top.get? names = some here := by
  induction h with
  | top => rfl
  | down h hname hentry ih =>
      rw [get?_concat, ih]
      exact hentry

theorem Leads.follow_up {top here : FileTree} {names : List String} {above : List FileTree}
    (h : Leads top names above here) (hdirectory : here.isDirectory = true) :
    ∃ above' here', Leads top names.dropLast above' here' ∧ here'.isDirectory = true ∧
      ∀ rest, follow above here (".." :: rest) = follow above' here' rest := by
  cases here with
  | file c modified => cases hdirectory
  | directory entries =>
      cases h with
      | top =>
          -- Nothing is above the top, and going upwards stays there.
          refine ⟨[], _, .top, rfl, fun rest => ?_⟩
          rw [follow.eq_def]
          simp [isFile]
      | down h hname hentry =>
          rename_i names above here name
          refine ⟨above, here, by rwa [List.dropLast_concat], ?_, fun rest => ?_⟩
          · cases here with
            | file c modified => cases hentry
            | directory entries => rfl
          · rw [follow.eq_def]
            simp [isFile]

theorem exists_ensure_cons {t' : FileTree} {made made' rest : List String} (hname : name ≠ "..")
    (h : t.ensure made (name :: rest) = .ok (t', made')) :
    ∃ next : FileTree, next.HasDirectory (made ++ [name]) ∧
      (∀ names, t.HasDirectory names → next.HasDirectory names) ∧
      next.ensure (made ++ [name]) rest = .ok (t', made') := by
  rw [ensure.eq_def] at h
  split at h
  · rename_i heq
    cases heq
  · rename_i heq
    cases heq
    exact absurd rfl hname
  · rename_i heq
    cases heq
    dsimp only at h
    split at h
    · cases h
    · rename_i entries hget
      -- The directory is there.
      exact ⟨t, ⟨_, hget, rfl⟩, fun _ hnames => hnames, h⟩
    · rename_i hget
      -- The directory is made where nothing was.
      refine ⟨_, ⟨_, get?_place_self _ _ _, rfl⟩, fun names hnames => hnames.place ?_ _, h⟩
      rintro ⟨d, hd, -⟩
      cases hget.symm.trans hd

theorem HasDirectory.ensure {t' : FileTree} {made made' parts names : List String}
    (hnames : t.HasDirectory names) (h : t.ensure made parts = .ok (t', made')) :
    t'.HasDirectory names := by
  induction parts generalizing t made with
  | nil =>
      cases h
      exact hnames
  | cons name rest ih =>
      by_cases hname : name = ".."
      · subst hname
        -- Going upwards makes nothing.
        rw [FileTree.ensure] at h
        exact ih hnames h
      · rcases exists_ensure_cons hname h with ⟨next, -, hkeeps, hrest⟩
        exact ih (hkeeps names hnames) hrest

/-- In a tree with all directories that were made, following the components leads to the last of
them. -/
theorem exists_follow_of_ensure {top t' here : FileTree} {above : List FileTree}
    {made made' parts : List String} (h : t.ensure made parts = .ok (t', made'))
    (htop : ∀ names, t'.HasDirectory names → top.HasDirectory names)
    (hleads : Leads top made above here) (hdirectory : here.isDirectory = true) :
    ∃ above' here', Leads top made' above' here' ∧
      ∀ rest, follow above here (parts ++ rest) = follow above' here' rest := by
  induction parts generalizing t made above here with
  | nil =>
      cases h
      exact ⟨above, here, hleads, fun _ => rfl⟩
  | cons name rest ih =>
      by_cases hname : name = ".."
      · subst hname
        rw [ensure] at h
        rcases hleads.follow_up hdirectory with ⟨above₁, here₁, hleads₁, hdirectory₁, hup⟩
        rcases ih h hleads₁ hdirectory₁ with ⟨above', here', hleads', hfollow⟩
        exact ⟨above', here', hleads', fun more => (hup (rest ++ more)).trans (hfollow more)⟩
      · rcases exists_ensure_cons hname h with ⟨next, hmade, -, hrest⟩
        -- The directory of this name is still there in the end.
        rcases htop _ (hmade.ensure hrest) with ⟨d, hget, hd⟩
        have hentry : here.entry? name = some d := by
          rw [get?_concat, hleads.get?_eq] at hget
          exact hget
        rcases ih hrest (hleads.down hname hentry) hd with ⟨above', here', hleads', hfollow⟩
        exact ⟨above', here', hleads', fun more =>
          (follow_cons_of_lookup hname hentry _).trans (hfollow more)⟩

/-- A file that is put into the last of the directories that were made is where the components and
its name lead. -/
theorem follow_place_of_ensure {files : FileTree} {made parts : List String}
    (hensure : t.ensure [] parts = .ok (files, made)) (hname : name ≠ "..")
    (hfree : ¬ files.HasDirectory (made ++ [name])) (leaf : FileTree) :
    follow [] (files.place leaf (made ++ [name])) (parts ++ [name]) = .ok leaf := by
  have htop : (files.place leaf (made ++ [name])).isDirectory = true := by
    cases made <;> rfl
  -- The file takes away no directory on the way to it.
  have hkept : ∀ names, files.HasDirectory names →
      (files.place leaf (made ++ [name])).HasDirectory names :=
    fun _ hnames => hnames.place hfree leaf
  rcases exists_follow_of_ensure hensure hkept .top htop with ⟨above, here, hleads, hfollow⟩
  have hentry : here.entry? name = some leaf := by
    have hself := get?_place_self files leaf (made ++ [name])
    rw [get?_concat, hleads.get?_eq] at hself
    exact hself
  calc
    follow [] (files.place leaf (made ++ [name])) (parts ++ [name])
        = follow above here [name] := hfollow [name]
    _ = follow (here :: above) leaf [] := follow_cons_of_lookup hname hentry []
    _ = .ok leaf := by rw [follow]

/-! ## Making again -/

theorem place_self {names : List String} (h : t.get? names = some leaf) :
    t.place leaf names = t := by
  induction names generalizing t with
  | nil =>
      cases h
      rfl
  | cons name rest ih =>
      rw [get?_cons] at h
      rcases Option.bind_eq_some_iff.1 h with ⟨next, hentry, hnext⟩
      cases t with
      | file c modified => cases hentry
      | directory entries =>
          rw [place, hentry, Option.getD_some, ih hnext]
          exact congrArg directory (putEntry_eq_self hentry)

theorem ensure_again {top t' : FileTree} {made made' parts : List String}
    (h : t.ensure made parts = .ok (t', made'))
    (htop : ∀ names, t'.HasDirectory names → top.HasDirectory names) :
    top.ensure made parts = .ok (top, made') := by
  induction parts generalizing t made with
  | nil =>
      cases h
      rfl
  | cons name rest ih =>
      by_cases hname : name = ".."
      · subst hname
        rw [ensure] at h ⊢
        exact ih h
      · rcases exists_ensure_cons hname h with ⟨next, hmade, -, hrest⟩
        rcases htop _ (hmade.ensure hrest) with ⟨d, hget, hd⟩
        cases d with
        | file c modified => cases hd
        | directory entries =>
            rw [ensure.eq_3 _ _ _ _ hname, hget]
            exact ih hrest

end FileTree

/-! ## Files -/

namespace Workspace

variable {w w' : Workspace} {path : FilePath} {c : Contents}

/-- A file that is changed has a name, stands in the directory that is made for it, and does not
replace a directory. -/
theorem update_eq_ok_iff {change : Option FileTree → FileTree} :
    w.update path change = .ok w' ↔
      ∃ files made parts name, w.fromTop path = parts ++ [name] ∧
        w.files.ensure [] parts = .ok (files, made) ∧ name ≠ ".." ∧
        ¬ files.HasDirectory (made ++ [name]) ∧
        w' =
          { w with
              files := files.place (change (files.get? (made ++ [name]))) (made ++ [name]) } := by
  constructor
  · -- Each way out before the last one is a fault.
    intro h
    unfold update at h
    dsimp only at h
    split at h
    · cases h
    · rename_i files made hensure
      split at h
      · cases h
      · rename_i name hlast
        rcases List.getLast?_eq_some_iff.1 hlast with ⟨parts, hparts⟩
        rw [hparts, List.dropLast_concat] at hensure
        split at h
        · cases h
        · rename_i hname
          split at h
          · cases h
          · rename_i hother
            cases h
            refine ⟨files, made, parts, name, hparts, hensure, hname, ?_, rfl⟩
            rintro ⟨d, hget, hdirectory⟩
            cases d with
            | file c modified => cases hdirectory
            | directory entries => exact hother entries hget
  · rintro ⟨files, made, parts, name, hparts, hensure, hname, hfree, rfl⟩
    simp only [update, hparts, List.dropLast_concat, List.getLast?_concat, hensure, if_neg hname]
    split
    · rename_i entries hget
      exact absurd ⟨_, hget, rfl⟩ hfree
    · rfl

theorem resolve_write (h : w.write path c = .ok w') :
    w'.resolve path = .ok (.file c (.int 0)) := by
  rcases update_eq_ok_iff.1 h with ⟨files, made, parts, name, hparts, hensure, hname, hfree, rfl⟩
  have hsame : fromTop { w with files := files.place (.file c (.int 0)) (made ++ [name]) } path =
    parts ++ [name] := hparts
  rw [resolve, hsame]
  exact FileTree.follow_place_of_ensure hensure hname hfree _

theorem read_write (h : w.write path c = .ok w') : w'.read path = .ok c := by
  rw [read, resolve_write h]

theorem touch_touch (h : w.touch path = .ok w') : w'.touch path = .ok w' := by
  rcases update_eq_ok_iff.1 h with ⟨files, made, parts, name, hparts, hensure, hname, hfree, rfl⟩
  generalize hleaf : (files.get? (made ++ [name])).getD (.file (.bytes []) (.int 0)) = leaf
  have hself := FileTree.get?_place_self files leaf (made ++ [name])
  refine update_eq_ok_iff.2 ⟨files.place leaf (made ++ [name]), made, parts, name, hparts, ?_,
    hname, ?_, ?_⟩
  · exact FileTree.ensure_again hensure fun _ hnames => hnames.place hfree leaf
  · -- What was there before the first time was no directory either.
    rintro ⟨d, hget, hdirectory⟩
    cases hself.symm.trans hget
    cases hfound : files.get? (made ++ [name]) with
    | none =>
        rw [hfound] at hleaf
        subst hleaf
        cases hdirectory
    | some found =>
        rw [hfound] at hleaf
        subst hleaf
        exact hfree ⟨_, hfound, hdirectory⟩
  · rw [hself, Option.getD_some, FileTree.place_self hself]

end Workspace

end SourceOutline
