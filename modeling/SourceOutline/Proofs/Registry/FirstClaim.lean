import SourceOutline.Proofs.Chunker.Creation
import SourceOutline.Proofs.Entries
import SourceOutline.Proofs.LanguageTable.Acceptance

/-!
# FirstClaim — an extension belongs to the first table that claims it

A registry is built from a list of tables in which languages and extensions may occur more than
once, and of which some have no grammar.  What is found under an extension is the first table of the
list that has a grammar and claims the extension; tables without a grammar leave no trace.

* `Registry.build_finds_first_claim` — the answers of a registry, said with the list of tables.
-/

namespace SourceOutline

/-- Whether an engine has the grammar of a table or can load it. -/
def LanguageTable.isLoadable (tools : Toolchain) (e : Engine) (t : LanguageTable) : Bool :=
  (e.refusal? tools (lowerCase t.grammar)).isNone

theorem lookup_isSome_iff_mem {α : Type} {key : String} {entries : List (String × α)} :
    (entries.lookup key).isSome = true ↔ key ∈ entries.map Prod.fst := by
  rw [Option.isSome_iff_ne_none, ne_eq, lookup_eq_none_iff_notMem, not_not]

namespace Registry

variable {tools : Toolchain} {interval : Number} {tables : List LanguageTable}
variable {references : List Reference} {s : Session} {ext language : String}

/-! ## Claims -/

theorem lookup_byExtension_claim (c : TableChunker) (r : Registry × List Record)
    (claimed ext : String) :
    (claim c r claimed).1.byExtension.lookup ext =
      (r.1.byExtension.lookup ext).or (if ext = claimed then some c else none) := by
  unfold claim
  cases hholder : r.1.byExtension.lookup claimed with
  | some holder =>
      by_cases heq : ext = claimed
      · rw [heq, hholder]
        rfl
      · rw [if_neg heq, Option.or_none]
  | none =>
      simp only [List.lookup_append]
      by_cases heq : ext = claimed
      · simp [heq]
      · have hne : (ext == claimed) = false := beq_eq_false_iff_ne.2 heq
        simp [List.lookup_cons, hne, heq]

theorem byLanguage_claim (c : TableChunker) (r : Registry × List Record) (claimed : String) :
    (claim c r claimed).1.byLanguage = r.1.byLanguage := by
  unfold claim
  split
  · rfl
  · rfl

theorem lookup_byExtension_foldl_claim (c : TableChunker) (claimed : List String)
    (r : Registry × List Record) (ext : String) :
    (claimed.foldl (claim c) r).1.byExtension.lookup ext =
      (r.1.byExtension.lookup ext).or (if ext ∈ claimed then some c else none) := by
  induction claimed generalizing r with
  | nil =>
      simp
  | cons first claimed ih =>
      rw [List.foldl_cons, ih, lookup_byExtension_claim, Option.or_assoc]
      by_cases heq : ext = first
      · simp [heq]
      · simp [heq]

theorem byLanguage_foldl_claim (c : TableChunker) (claimed : List String)
    (r : Registry × List Record) : (claimed.foldl (claim c) r).1.byLanguage = r.1.byLanguage := by
  induction claimed generalizing r with
  | nil =>
      rfl
  | cons first claimed ih =>
      rw [List.foldl_cons, ih, byLanguage_claim]

theorem lookup_byExtension_add (r : Registry) (c : TableChunker) (ext : String) :
    (r.add c).1.byExtension.lookup ext =
      (r.byExtension.lookup ext).or (if ext ∈ c.table.extensions then some c else none) :=
  lookup_byExtension_foldl_claim c c.table.extensions _ ext

theorem mem_keys_byLanguage_add {r : Registry} {c : TableChunker} :
    language ∈ (r.add c).1.byLanguage.map Prod.fst ↔
      language ∈ r.byLanguage.map Prod.fst ∨ c.language = language := by
  have hadd : (r.add c).1.byLanguage = putEntry c.language c r.byLanguage :=
    byLanguage_foldl_claim c c.table.extensions _
  rw [hadd, mem_keys_putEntry]

/-! ## Building -/

def addAll (interval : Number) (tables : List LanguageTable) (r : Registry) : Registry :=
  tables.foldl (fun r t => (r.add { table := t, interval }).1) r

theorem lookup_byExtension_addAll (interval : Number) (tables : List LanguageTable) (r : Registry)
    (ext : String) :
    (addAll interval tables r).byExtension.lookup ext =
      (r.byExtension.lookup ext).or
        ((tables.find? fun t => t.extensions.contains ext).map
          fun t => { table := t, interval }) := by
  induction tables generalizing r with
  | nil =>
      exact Option.or_none.symm
  | cons t tables ih =>
      -- Behind what was taken before, the first table is asked, and behind it the others.
      have hrest := ih (r.add { table := t, interval }).1
      rw [addAll, List.foldl_cons, ← addAll, hrest, lookup_byExtension_add, Option.or_assoc,
        List.find?_cons]
      by_cases hmem : ext ∈ t.extensions
      · simp [hmem]
      · simp [hmem]

theorem mem_keys_byLanguage_addAll (interval : Number) (tables : List LanguageTable)
    (r : Registry) (language : String) :
    language ∈ (addAll interval tables r).byLanguage.map Prod.fst ↔
      language ∈ r.byLanguage.map Prod.fst ∨ ∃ t ∈ tables, t.language = language := by
  induction tables generalizing r with
  | nil =>
      simp [addAll]
  | cons t tables ih =>
      have hrest := ih (r.add { table := t, interval }).1
      rw [addAll, List.foldl_cons, ← addAll, hrest, mem_keys_byLanguage_add]
      simp only [List.mem_cons, exists_eq_or_imp, TableChunker.language, or_assoc]

theorem outcome_addTable (hinterval : interval.lt (.int 1) = false) (r : Registry)
    (t : LanguageTable) (s : Session) :
    ∃ s', (addTable tools interval r t).outcome s =
        (.ok (if t.isLoadable tools s.engine then (r.add { table := t, interval }).1 else r), s') ∧
      s'.engine = (s.engine.load tools t.grammar).2.1 := by
  unfold addTable LanguageTable.isLoadable
  rw [Call.outcome_bind, Call.outcome_attempt, TableChunker.outcome_create hinterval]
  cases s.engine.refusal? tools (lowerCase t.grammar) with
  | some reason =>
      exact ⟨_, rfl, rfl⟩
  | none =>
      simp only [Call.outcome_bind, Call.outcome_forM_log]
      exact ⟨_, rfl, rfl⟩

/-- Building succeeds, and takes in the tables whose grammars load with the engine at the start. -/
theorem outcome_build (hinterval : interval.lt (.int 1) = false) (tables : List LanguageTable)
    (references : List Reference) (s : Session) :
    ((build tools tables references interval).outcome s).1 =
      .ok (addAll interval (tables.filter (·.isLoadable tools s.engine)) { references }) := by
  unfold build
  generalize ({ references } : Registry) = r
  induction tables generalizing r s with
  | nil =>
      rfl
  | cons t tables ih =>
      rcases @outcome_addTable tools interval hinterval r t s with ⟨s', houtcome, hengine⟩
      -- Asking for one grammar does not change which of the others can be loaded.
      have hsame : ∀ u : LanguageTable,
          u.isLoadable tools s'.engine = u.isLoadable tools s.engine := by
        intro u
        rw [LanguageTable.isLoadable, hengine, Engine.refusal?_load]
        rfl
      rw [List.foldlM_cons, Call.outcome_bind_of_ok houtcome, ih]
      simp only [hsame]
      cases hloads : t.isLoadable tools s.engine with
      | true =>
          rw [List.filter_cons_of_pos hloads]
          rfl
      | false =>
          rw [List.filter_cons_of_neg (by simp [hloads])]
          rfl

/-! ## Answers -/

/-- A registry can be built from any list of tables.  What it finds for an extension is the first
table whose grammar loads and that has the extension in its usual form, or else the fallback; the
chunker and the language for an extension agree with that.  The extensions and the languages stand
in strict order and are those of the tables whose grammars load.  The same registry is built when
the other tables are left out beforehand. -/
theorem build_finds_first_claim (hinterval : interval.lt (.int 1) = false)
    (tables : List LanguageTable) (references : List Reference) (s : Session) :
    ∃ r, ((build tools tables references interval).outcome s).1 = .ok r ∧
      (∀ ext, r.lookup ext =
        match tables.find? fun t => t.isLoadable tools s.engine &&
          t.extensions.contains (normalizeExtension ext) with
        | some t => (.table { table := t, interval }, true)
        | none => (.fallback, false)) ∧
      (∀ ext, r.pick ext = (r.lookup ext).1 ∧
        r.languageFor ext = if (r.lookup ext).2 then some (r.pick ext).language else none) ∧
      (r.extensions.Pairwise (· < ·) ∧ ∀ ext, ext ∈ r.extensions ↔
        ∃ t ∈ tables, t.isLoadable tools s.engine = true ∧ ext ∈ t.extensions) ∧
      (r.supportedLanguages.Pairwise (· < ·) ∧ ∀ language, language ∈ r.supportedLanguages ↔
        ∃ t ∈ tables, t.isLoadable tools s.engine = true ∧ t.language = language) ∧
      ((build tools (tables.filter (·.isLoadable tools s.engine)) references interval).outcome s).1 =
        .ok r := by
  let loads : LanguageTable → Bool := fun t => t.isLoadable tools s.engine
  let r : Registry := addAll interval (tables.filter loads) { references }
  -- Under an extension there is the first table that loads and has it.
  have hfirst : ∀ ext, r.byExtension.lookup ext =
      (tables.find? fun t => loads t && t.extensions.contains ext).map
        fun t => { table := t, interval } := by
    intro ext
    rw [lookup_byExtension_addAll, List.find?_filter]
    simp
  refine ⟨r, outcome_build hinterval tables references s, ?_, ?_, ⟨pairwise_sortedUnique _, ?_⟩,
    ⟨pairwise_sortedUnique _, ?_⟩, ?_⟩
  · intro ext
    rw [Registry.lookup, hfirst]
    cases tables.find? fun t => loads t && t.extensions.contains (normalizeExtension ext) with
    | none => rfl
    | some t => rfl
  · intro ext
    refine ⟨rfl, ?_⟩
    rw [Registry.pick, Registry.lookup, Registry.languageFor]
    cases r.byExtension.lookup (normalizeExtension ext) with
    | none => rfl
    | some c => rfl
  · intro ext
    rw [Registry.extensions, mem_sortedUnique, ← lookup_isSome_iff_mem, hfirst, Option.isSome_map,
      List.find?_isSome]
    simp [loads]
  · intro language
    rw [Registry.supportedLanguages, mem_sortedUnique, mem_keys_byLanguage_addAll]
    simp [loads, and_assoc]
  · -- Leaving out twice what does not load is leaving it out once.
    rw [outcome_build hinterval, List.filter_filter]
    simp only [Bool.and_self]
    rfl

end Registry

namespace OverlappingTables

def table (language grammar : String) (extensions : List String) : LanguageTable where
  language := language
  extensions := extensions
  grammar := grammar
  methodTypes := ["function"]

/-- One grammar is missing. -/
def tools : Toolchain where
  refusal? := fun key => if key = "missing" then some "not found" else none
  parse := fun _ _ => .noTree

/-- The first table has no grammar; the others share extensions and a language. -/
def tables : List LanguageTable :=
  [table "one" "Missing" [".a"], table "one" "one" [".a", ".b"], table "two" "ONE" [".b", ".c"],
    table "one" "one" [".c", ".d"]]

/-- The table without a grammar does not keep its extension from the next one. -/
theorem first_claims :
    Number.lt (.int 1024) (.int 1) = false ∧
      ∃ r, ((Registry.build tools tables [] (.int 1024)).outcome {}).1 = .ok r ∧
        r.lookup " A" = (.table { table := table "one" "one" [".a", ".b"] }, true) ∧
        r.lookup ".C" = (.table { table := table "two" "ONE" [".b", ".c"] }, true) ∧
        r.lookup "missing" = (.fallback, false) ∧ r.languageFor ".b" = some "one" ∧
        ".d" ∈ r.extensions ∧ "two" ∈ r.supportedLanguages ∧
        ((Registry.build tools (tables.drop 1) [] (.int 1024)).outcome {}).1 = .ok r := by
  have hinterval : Number.lt (.int 1024) (.int 1) = false := by decide
  rcases @Registry.build_finds_first_claim tools (.int 1024) hinterval tables [] {} with
    ⟨r, hbuild, hlookup, hagree, hextensions, hlanguages, hfiltered⟩
  have hfind : ∀ ext t, (tables.find? fun t => t.isLoadable tools ({} : Session).engine &&
      t.extensions.contains (normalizeExtension ext)) = some t →
        r.lookup ext = (.table { table := t }, true) := by
    intro ext t h
    rw [hlookup, h]
  have hb : r.lookup ".b" = (.table { table := table "one" "one" [".a", ".b"] }, true) :=
    hfind ".b" _ (by decide +kernel)
  have hkept : tables.filter (·.isLoadable tools ({} : Session).engine) = tables.drop 1 := by
    decide +kernel
  refine ⟨hinterval, r, hbuild, hfind " A" _ (by decide +kernel), hfind ".C" _ (by decide +kernel),
    ?_, ?_, ?_, ?_, ?_⟩
  · have hnone : (tables.find? fun t => t.isLoadable tools ({} : Session).engine &&
        t.extensions.contains (normalizeExtension "missing")) = none := by decide +kernel
    rw [hlookup, hnone]
  · rw [(hagree ".b").2, (hagree ".b").1, hb]
    rfl
  · exact (hextensions.2 ".d").2 ⟨table "one" "one" [".c", ".d"], by decide, by decide +kernel,
      by decide⟩
  · exact (hlanguages.2 "two").2 ⟨table "two" "ONE" [".b", ".c"], by decide, by decide +kernel, rfl⟩
  · rw [← hkept]
    exact hfiltered

end OverlappingTables

end SourceOutline
