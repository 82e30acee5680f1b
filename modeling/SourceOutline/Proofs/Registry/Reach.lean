import SourceOutline.Proofs.FilePath.Suffix
import SourceOutline.Proofs.Registry.FirstClaim
import SourceOutline.Proofs.Text.Utf8

/-!
# Reach — the extensions of a registry lead to their chunkers

An extension passes three forms before a file gets its chunker: the one in which a table accepts it,
the one in which it is looked up, and the suffix of the file.  They agree for an extension that is a
dot with more behind it, unless it has another dot, a slash, or white space at its end.  With
another dot the file is routed by what stands from the last one on.

* `Registry.build_reaches_extensions` — which files the extensions of a registry route.
-/

namespace SourceOutline

variable {ext : String}

/-- White space ends an extension. -/
def endsBlank (ext : String) : Bool :=
  ext.toList.getLast?.any fun c => isBlankCode c.toNat

/-! ## Forms of an extension -/

namespace LanguageTable

variable {t : LanguageTable}

theorem IsAccepted.isDotted (h : t.IsAccepted) (hext : ext ∈ t.extensions) :
    ext.toList.head? = some '.' := by
  rcases h with ⟨parts, haccept⟩
  rcases faults_eq_nil_of_accept haccept with ⟨hfaults, rfl⟩
  rcases List.mem_map.1 hext with ⟨written, hwritten, rfl⟩
  have hsound := WrittenTable.faults_eq_nil_iff.1 hfaults
  have hdot := hsound.extensions.2 (Text.ofString written) (List.mem_map_of_mem hwritten)
  refine head?_lowerCase_of_dot ?_
  rw [Text.ofString, List.head?_map, Option.map_eq_some_iff] at hdot
  obtain ⟨c, hc, heq⟩ := hdot
  rw [hc, CodePoint.ofChar_injective heq]

theorem IsAccepted.isLowerCase (h : t.IsAccepted) (hext : ext ∈ t.extensions) :
    IsLowerCase ext := by
  rcases h with ⟨parts, haccept⟩
  rcases faults_eq_nil_of_accept haccept with ⟨-, rfl⟩
  rcases List.mem_map.1 hext with ⟨written, -, rfl⟩
  exact isLowerCase_lowerCase written

end LanguageTable

theorem trimBy_eq_self {α : Type} {p : α → Bool} {xs : List α} (hhead : xs.head?.any p = false)
    (hlast : xs.getLast?.any p = false) : trimBy p xs = xs := by
  have hdrop : ∀ {ys : List α}, ys.head?.any p = false → ys.dropWhile p = ys := by
    intro ys h
    cases ys with
    | nil =>
        rfl
    | cons y ys =>
        exact List.dropWhile_cons_of_neg (by simpa using h)
  rw [trimBy, hdrop hhead, hdrop (by rw [List.head?_reverse]; exact hlast), List.reverse_reverse]

/-- An extension in lower case with a dot in front is looked up as it stands, unless it ends in
white space. -/
theorem normalizeExtension_of_isLowerCase (hdot : ext.toList.head? = some '.')
    (hlower : IsLowerCase ext) (hend : endsBlank ext = false) : normalizeExtension ext = ext := by
  have hstrip : stripString ext = ext := by
    -- In front there is a dot, which is no white space.
    rw [stripString, trimBy_eq_self ?_ hend, String.ofList_toList]
    rw [hdot]
    rfl
  unfold normalizeExtension
  simp only [hstrip, lowerCase_of_isLowerCase hlower, hdot, or_true, if_true]

namespace Registry

variable {tools : Toolchain} {interval : Number}

theorem mem_extensions_iff {r : Registry} :
    ext ∈ r.extensions ↔ (r.byExtension.lookup ext).isSome = true := by
  rw [Registry.extensions, mem_sortedUnique, lookup_isSome_iff_mem]

theorem exists_table_of_mem_extensions {tables : List LanguageTable} {references : List Reference}
    (h : ext ∈ (addAll interval tables { references }).extensions) :
    ∃ t ∈ tables, ext ∈ t.extensions ∧
      (addAll interval tables { references }).byExtension.lookup ext =
        some { table := t, interval } := by
  have hlookup := lookup_byExtension_addAll interval tables { references } ext
  rw [List.lookup_nil, Option.none_or] at hlookup
  rw [mem_extensions_iff, hlookup, Option.isSome_map, Option.isSome_iff_exists] at h
  rcases h with ⟨t, hfind⟩
  refine ⟨t, List.mem_of_find?_eq_some hfind, ?_, ?_⟩
  · simpa using List.find?_some hfind
  · rw [hlookup, hfind]
    rfl

/-- Every extension of a registry of accepted tables is found, if it does not end in white space,
and gives the chunker of a table that has it.  A file whose path is a stem with such an extension
behind it, without slashes, is routed by what stands from the last dot of the extension on; so it
is chunked by the chunker for the extension if there is no other dot than the one in front and
more than that. -/
theorem build_reaches_extensions (hinterval : interval.lt (.int 1) = false)
    {tables : List LanguageTable} (haccepted : ∀ t ∈ tables, t.IsAccepted)
    (references : List Reference) (s : Session) :
    ∃ r, ((build tools tables references interval).outcome s).1 = .ok r ∧
      ∀ ext ∈ r.extensions, endsBlank ext = false →
        ∃ c : TableChunker, c.table ∈ tables ∧ ext ∈ c.table.extensions ∧
          r.byExtension.lookup ext = some c ∧ r.lookup ext = (.table c, true) ∧
          ∀ file : SourceFile, file.IsNamed ext → '/' ∉ ext.toList →
            ∀ front last, ext.toList = front ++ '.' :: last → '.' ∉ last →
              file.extension = (if last = [] then "" else String.ofList ('.' :: last)) ∧
              (front = [] → last ≠ [] → ∀ poll, r.chunk tools file poll =
                (Chunker.table c).chunk tools (file.withLanguage c.language) poll) := by
  let loadable := tables.filter (·.isLoadable tools s.engine)
  refine ⟨addAll interval loadable { references }, outcome_build hinterval tables references s, ?_⟩
  intro ext hmem hend
  rcases exists_table_of_mem_extensions hmem with ⟨t, ht, hext, hregistered⟩
  have htable : t ∈ tables := List.mem_of_mem_filter ht
  have hlower := (haccepted t htable).isLowerCase hext
  have hlookup : (addAll interval loadable { references }).lookup ext =
      (.table { table := t, interval }, true) := by
    rw [Registry.lookup,
      normalizeExtension_of_isLowerCase ((haccepted t htable).isDotted hext) hlower hend,
      hregistered]
  refine ⟨{ table := t, interval }, htable, hext, hregistered, hlookup, ?_⟩
  intro file hfile hslash front last hparts hlast
  have hextension := SourceFile.extension_of_isNamed hfile hlower hslash hparts hlast
  refine ⟨hextension, ?_⟩
  rintro rfl hnonempty poll
  -- The extension is the suffix of the file, so both look-ups are the same.
  have hsame : file.extension = ext := by
    rw [hextension, if_neg hnonempty, ← List.nil_append ('.' :: last), ← hparts,
      String.ofList_toList]
  rw [Registry.chunk, hsame, hlookup]
  rfl

end Registry

namespace InnerDot

def table (language ext : String) : LanguageTable where
  language := language
  extensions := [ext]
  grammar := language
  methodTypes := ["function"]

/-- The second extension ends in the first one. -/
def tables : List LanguageTable := [table "ts" ".ts", table "dts" ".d.ts"]

/-- A file that ends in both extensions. -/
def file : SourceFile where
  path := "a.d.ts"
  content := []

def tools : Toolchain where
  refusal? := fun _ => none
  parse := fun _ _ => .noTree

theorem isAccepted_of_mem_tables : ∀ t ∈ tables, t.IsAccepted := by
  have hall : ∀ t ∈ tables, t.accept.toOption = some t := by decide +kernel
  exact fun t ht => LanguageTable.isAccepted_of_toOption_accept (hall t ht)

def registry : Registry :=
  Registry.addAll (.int 1024) tables {}

theorem outcome_build_tables : ((Registry.build tools tables [] (.int 1024)).outcome {}).1 =
    .ok registry := by
  have hloads : tables.filter (·.isLoadable tools ({} : Session).engine) = tables := by
    decide +kernel
  rw [Registry.outcome_build (by decide), hloads]
  rfl

/-- The file goes to the shorter extension. -/
theorem reached_by_last_suffix :
    Number.lt (.int 1024) (.int 1) = false ∧ (∀ t ∈ tables, t.IsAccepted) ∧
      ".ts" ∈ registry.extensions ∧ endsBlank ".ts" = false ∧ file.IsNamed ".ts" ∧
      registry.chunk tools file none =
        (Chunker.table { table := table "ts" ".ts" }).chunk tools (file.withLanguage "ts") none := by
  have hinterval : Number.lt (.int 1024) (.int 1) = false := by decide
  have hfound : registry.byExtension.lookup ".ts" = some { table := table "ts" ".ts" } := rfl
  have hmem : ".ts" ∈ registry.extensions := by
    rw [Registry.mem_extensions_iff, hfound]
    rfl
  have hend : endsBlank ".ts" = false := by decide +kernel
  have hfile : file.IsNamed ".ts" := ⟨"a.d", by decide, by decide, rfl⟩
  rcases @Registry.build_reaches_extensions tools (.int 1024) hinterval tables
    isAccepted_of_mem_tables [] {} with ⟨r, hbuild, hreach⟩
  rw [outcome_build_tables] at hbuild
  cases hbuild
  rcases hreach ".ts" hmem hend with ⟨c, -, -, hregistered, -, hfiles⟩
  rw [hfound] at hregistered
  cases hregistered
  exact ⟨hinterval, isAccepted_of_mem_tables, hmem, hend, hfile,
    (hfiles file hfile (by decide) [] ['t', 's'] rfl (by decide)).2 rfl (by decide) none⟩

/-- The longer extension is found, but the file is not chunked by the chunker for it. -/
theorem not_reached_by_whole_extension :
    (∀ t ∈ tables, t.IsAccepted) ∧
      ((Registry.build tools tables [] (.int 1024)).outcome {}).1 = .ok registry ∧
      ".d.ts" ∈ registry.extensions ∧
      registry.lookup ".d.ts" = (.table { table := table "dts" ".d.ts" }, true) ∧
      file.path = "a" ++ ".d.ts" ∧
      ((registry.chunk tools file none).outcome {}).1 ≠
        (((Chunker.table { table := table "dts" ".d.ts" }).chunk tools (file.withLanguage "dts")
          none).outcome {}).1 := by
  have hfound : registry.byExtension.lookup ".d.ts" = some { table := table "dts" ".d.ts" } := rfl
  have hmem : ".d.ts" ∈ registry.extensions := by
    rw [Registry.mem_extensions_iff, hfound]
    rfl
  have hform : normalizeExtension ".d.ts" = ".d.ts" := by decide +kernel
  have hlookup : registry.lookup ".d.ts" = (.table { table := table "dts" ".d.ts" }, true) := by
    rw [Registry.lookup, hform, hfound]
  have hlast : registry.lookup file.extension = (.table { table := table "ts" ".ts" }, true) := by
    have hsuffix : normalizeExtension file.extension = ".ts" := by decide +kernel
    rw [Registry.lookup, hsuffix]
    rfl
  refine ⟨isAccepted_of_mem_tables, outcome_build_tables, hmem, hlookup, rfl, ?_⟩
  rw [Registry.chunk, hlast]
  -- The file is blank, so its language is all that the outlines differ in.
  have hshort : (((Chunker.table { table := table "ts" ".ts" }).chunk tools
      (file.withLanguage "ts") none).outcome {}).1 = .ok { file := file.withLanguage "ts" } := rfl
  have hlong : (((Chunker.table { table := table "dts" ".d.ts" }).chunk tools
      (file.withLanguage "dts") none).outcome {}).1 = .ok { file := file.withLanguage "dts" } := rfl
  rw [hlong]
  intro h
  have hsame : (Except.ok { file := file.withLanguage "ts" } : Except Failure Outline) =
      .ok { file := file.withLanguage "dts" } := hshort.symm.trans h
  have hlanguage : "ts" = "dts" := congrArg (fun o => o.file.language) (Except.ok.inj hsame)
  exact absurd hlanguage (by decide)

end InnerDot

end SourceOutline
