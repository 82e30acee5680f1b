import SourceOutline.Proofs.Registry.FirstClaim

/-!
# Views — the table of an extension and the table of its language

A registry answers in two ways which table is meant: under an extension it has a chunker, and under
a language a table.  Where tables share a language the two can differ, since an extension stays with
the first table that claims it and a language goes to the last table that has it.  The answers
differ exactly if a later table took the language over.

* `Registry.build_shows_last_of_language` — the table that is shown for an extension;
* `SharedLanguage.shows_other_table` — a table that is shown but is not applied.
-/

namespace SourceOutline

namespace Registry

variable {tools : Toolchain} {interval : Number}

/-! ## Languages -/

theorem lookup_byLanguage_add (r : Registry) (c : TableChunker) (language : String) :
    (r.add c).1.byLanguage.lookup language =
      if language = c.language then some c else r.byLanguage.lookup language := by
  have hadd : (r.add c).1.byLanguage = putEntry c.language c r.byLanguage :=
    byLanguage_foldl_claim c c.table.extensions _
  rw [hadd, lookup_putEntry]

theorem lookup_byLanguage_addAll (interval : Number) (tables : List LanguageTable) (r : Registry)
    (language : String) :
    (addAll interval tables r).byLanguage.lookup language =
      ((tables.filter fun t => t.language = language).getLast?.map
        fun t => { table := t, interval }).or (r.byLanguage.lookup language) := by
  induction tables generalizing r with
  | nil =>
      rfl
  | cons t tables ih =>
      have hrest := ih (r.add { table := t, interval }).1
      rw [addAll, List.foldl_cons, ← addAll, hrest, lookup_byLanguage_add, TableChunker.language]
      by_cases heq : t.language = language
      · -- The table counts unless there is a later one.
        rw [List.filter_cons_of_pos (by simpa using heq), List.getLast?_cons, if_pos heq.symm]
        cases (tables.filter fun t => t.language = language).getLast? with
        | none => rfl
        | some last => rfl
      · rw [List.filter_cons_of_neg (by simpa using heq), if_neg (Ne.symm heq)]

/-! ## Building -/

theorem outcome_build_of_lt (hinterval : interval.lt (.int 1) = true) (tables : List LanguageTable)
    (references : List Reference) (s : Session) :
    ((build tools tables references interval).outcome s).1 = .ok { references } := by
  unfold build
  generalize ({ references } : Registry) = r
  induction tables generalizing s with
  | nil =>
      rfl
  | cons t tables ih =>
      have hskip : ∃ s', (addTable tools interval r t).outcome s = (.ok r, s') := by
        unfold addTable TableChunker.create
        rw [Call.outcome_bind, Call.outcome_attempt]
        simp only [hinterval, if_true]
        exact ⟨_, rfl⟩
      rcases hskip with ⟨s', hskip⟩
      rw [List.foldlM_cons, Call.outcome_bind_of_ok hskip, ih]

theorem lookup_of_lookup {r : Registry} {ext : String} {c : TableChunker}
    (h : r.lookup ext = (.table c, true)) : r.byExtension.lookup (normalizeExtension ext) = some c := by
  unfold Registry.lookup at h
  split at h
  · rename_i d hd
    cases h
    exact hd
  · cases h

theorem exists_split_of_lookup {tables : List LanguageTable} {references : List Reference}
    {ext : String} {c : TableChunker}
    (h : (addAll interval tables { references }).lookup ext = (.table c, true)) :
    normalizeExtension ext ∈ c.table.extensions ∧
      ∃ before after, tables = before ++ c.table :: after ∧
        ∀ u ∈ before, normalizeExtension ext ∉ u.extensions := by
  have hlookup := lookup_of_lookup h
  rw [lookup_byExtension_addAll, List.lookup_nil, Option.none_or] at hlookup
  rcases Option.map_eq_some_iff.1 hlookup with ⟨t, hfind, rfl⟩
  rcases List.find?_eq_some_iff_append.1 hfind with ⟨hclaims, before, after, hsplit, hfree⟩
  exact ⟨by simpa using hclaims, before, after, hsplit, fun u hu => by simpa using hfree u hu⟩

/-- In a registry built from any tables, an extension that is found belongs to the first table whose
grammar loads and that claims it.  The table that is shown for its language is the last one that
loads and has that language.  So it is the table of the extension exactly if none with the language
comes later, or the last of those is the same again. -/
theorem build_shows_last_of_language (tools : Toolchain) (interval : Number)
    (tables : List LanguageTable) (references : List Reference) (s : Session) :
    ∃ r, ((build tools tables references interval).outcome s).1 = .ok r ∧
      ∀ ext c, r.lookup ext = (.table c, true) →
        r.pick ext = .table c ∧ r.languageFor ext = some c.table.language ∧
          normalizeExtension ext ∈ c.table.extensions ∧
          ∃ before after,
            tables.filter (·.isLoadable tools s.engine) = before ++ c.table :: after ∧
              (∀ u ∈ before, normalizeExtension ext ∉ u.extensions) ∧
              let later := after.filter fun u => u.language = c.table.language
              (r.languageFor ext).bind r.tableFor? = some (later.getLast?.getD c.table) ∧
                ((r.languageFor ext).bind r.tableFor? = some c.table ↔
                  later = [] ∨ later.getLast? = some c.table) := by
  cases hinterval : interval.lt (.int 1) with
  | true =>
      refine ⟨_, outcome_build_of_lt hinterval tables references s, ?_⟩
      intro ext c h
      cases h
  | false =>
      refine ⟨_, outcome_build hinterval tables references s, ?_⟩
      intro ext c h
      rcases exists_split_of_lookup h with ⟨hclaims, before, after, hsplit, hfree⟩
      -- The extension keeps its first table, its language goes to the last one that has it.
      have hlanguage : (addAll interval (tables.filter (·.isLoadable tools s.engine))
          { references }).languageFor ext = some c.table.language := by
        rw [languageFor, lookup_of_lookup h]
        rfl
      have hshown : (addAll interval (tables.filter (·.isLoadable tools s.engine))
          { references }).tableFor? c.table.language =
            some ((after.filter fun u => u.language = c.table.language).getLast?.getD c.table) := by
        rw [tableFor?, lookup_byLanguage_addAll, hsplit, List.filter_append,
          List.filter_cons_of_pos (by simp), List.getLast?_append_cons, List.getLast?_cons]
        rfl
      refine ⟨by rw [pick, h], hlanguage, hclaims, before, after, hsplit, hfree, ?_⟩
      rw [hlanguage, Option.bind_some, hshown]
      refine ⟨rfl, ?_⟩
      -- Without a later table the two are one; with one they differ unless it is the same again.
      rw [← List.getLast?_eq_none_iff, Option.some.injEq]
      cases (after.filter fun u => u.language = c.table.language).getLast? with
      | none => simp
      | some last => simp

end Registry

namespace SharedLanguage

def table (language ext : String) (types : List String) : LanguageTable where
  language := language
  extensions := [ext]
  grammar := "c"
  methodTypes := types

/-- The first and the last table have one language. -/
def tables : List LanguageTable :=
  [table "c" ".c" ["function"], table "d" ".d" ["function"], table "c" ".h" ["prototype"]]

def tools : Toolchain where
  refusal? := fun _ => none
  parse := fun _ _ => .noTree

def registry : Registry :=
  Registry.addAll (.int 1024) tables {}

theorem filter_isLoadable : tables.filter (·.isLoadable tools ({} : Session).engine) = tables := by
  decide +kernel

theorem outcome_build_tables : ((Registry.build tools tables [] (.int 1024)).outcome {}).1 =
    .ok registry := by
  rw [Registry.outcome_build (by decide), filter_isLoadable]
  rfl

theorem lookup_of_normal {ext : String} {t : LanguageTable} (hform : normalizeExtension ext = ext)
    (hfound : registry.byExtension.lookup ext = some { table := t }) :
    registry.lookup ext = (.table { table := t }, true) := by
  rw [Registry.lookup, hform, hfound]

/-- The table between the others keeps both its extension and its language. -/
theorem shows_table_of_extension :
    registry.lookup ".d" = (.table { table := table "d" ".d" ["function"] }, true) ∧
      (registry.languageFor ".d").bind registry.tableFor? = some (table "d" ".d" ["function"]) := by
  have hlookup : registry.lookup ".d" = (.table { table := table "d" ".d" ["function"] }, true) :=
    lookup_of_normal (by decide +kernel) rfl
  rcases Registry.build_shows_last_of_language tools (.int 1024) tables [] {} with
    ⟨r, hbuild, hviews⟩
  rw [outcome_build_tables] at hbuild
  cases hbuild
  rcases hviews ".d" _ hlookup with ⟨-, -, -, before, after, hsplit, -, -, hiff⟩
  rw [filter_isLoadable] at hsplit
  -- There is only one table with the language in the whole list.
  have hnone : (after.filter fun u => u.language = "d") = [] := by
    have hcount : (tables.filter fun u => u.language = "d").length = 1 := by decide
    rw [hsplit, List.filter_append, List.filter_cons_of_pos (by decide), List.length_append,
      List.length_cons] at hcount
    exact List.length_eq_zero_iff.1 (by omega)
  exact ⟨hlookup, hiff.2 (.inl hnone)⟩

/-- The language of the first extension is shown with the last table, which is not the one that is
applied to the files. -/
theorem shows_other_table :
    (∀ t ∈ tables, t.IsAccepted) ∧
      ((Registry.build tools tables [] (.int 1024)).outcome {}).1 = .ok registry ∧
      registry.lookup ".c" = (.table { table := table "c" ".c" ["function"] }, true) ∧
      (registry.languageFor ".c").bind registry.tableFor? = some (table "c" ".h" ["prototype"]) ∧
      table "c" ".h" ["prototype"] ≠ table "c" ".c" ["function"] := by
  have hform : normalizeExtension ".c" = ".c" := by decide +kernel
  have hall : ∀ t ∈ tables, t.accept.toOption = some t := by decide +kernel
  have hlanguage : registry.languageFor ".c" = some "c" := by
    rw [Registry.languageFor, hform]
    rfl
  refine ⟨fun t ht => LanguageTable.isAccepted_of_toOption_accept (hall t ht),
    outcome_build_tables, lookup_of_normal hform rfl, ?_, by decide⟩
  rw [hlanguage]
  rfl

end SharedLanguage

end SourceOutline
