import SourceOutline.LanguageTable.Directory
import SourceOutline.Proofs.Failure.Sequence
import SourceOutline.Proofs.LanguageTable.Acceptance

/-!
# Format — which documents are language tables

A document is read in two steps: its shape is checked, and then the table that it describes.  Both
together accept exactly one format, and say of everything else that it is no table.

* `WrittenTable.parse_accepts_format` — which documents give a table, and which table.
-/

namespace SourceOutline

/-! ## Documents -/

namespace Value

/-- What stands under a key of a map, if it is of a certain form.  A part that is null is missing. -/
inductive Gives {α : Type} (IsForm : Value → α → Prop) (v : Value) (key : String) :
    Option α → Prop
  | missing (hnone : v.get? key = none) : Gives IsForm v key none
  | null (hnull : v.get? key = some .null) : Gives IsForm v key none
  | given {u : Value} {a : α} (hsome : v.get? key = some u) (hform : IsForm u a) :
      Gives IsForm v key (some a)

def IsTextOf (v : Value) (t : Text) : Prop :=
  v.toText? = some t

def IsTextsOf (v : Value) (ts : List Text) : Prop :=
  ∃ items, v = list items ∧ items.map toText? = ts.map some

def IsSectionOf (v : Value) (u : Value) : Prop :=
  (∃ entries, v = map entries) ∧ u = v

/-- What stands under a key of a section; a missing section has no parts. -/
def GivesIn {α : Type} (name : String) (IsForm : Value → α → Prop) (v : Value) (key : String)
    (r : Option α) : Prop :=
  ∃ s, v.Gives IsSectionOf name s ∧ (s.getD (map [])).Gives IsForm key r

end Value

structure TableDocument where
  language : Option Text
  displayName : Option Text
  extensions : Option (List Text)
  grammar : Option Text
  classTypes : Option (List Text)
  methodTypes : Option (List Text)
  nameField : Option Text

open Value in
/-- A document is a map that gives certain parts of a language table, each in its form. -/
structure Value.LaysOut (v : Value) (d : TableDocument) : Prop where
  isMap : ∃ entries, v = .map entries
  language : v.Gives IsTextOf "language" d.language
  displayName : v.Gives IsTextOf "display_name" d.displayName
  extensions : v.Gives IsTextsOf "extensions" d.extensions
  grammar : v.GivesIn "tree_sitter" IsTextOf "grammar" d.grammar
  classTypes : v.GivesIn "chunk_mappings" IsTextsOf "class" d.classTypes
  methodTypes : v.GivesIn "chunk_mappings" IsTextsOf "method" d.methodTypes
  nameField : v.GivesIn "extraction" IsTextOf "name_field" d.nameField

namespace Value

def AgreesOn (keys : List String) (v w : Value) : Prop :=
  ∀ key ∈ keys, v.get? key = w.get? key

/-- Two values have the same section, or sections that are maps and agree on certain keys. -/
inductive SameSection (name : String) (keys : List String) (v w : Value) : Prop
  | same (hsame : v.get? name = w.get? name)
  | maps {entries entries' : List (Value × Value)} (hv : v.get? name = some (.map entries))
      (hw : w.get? name = some (.map entries')) (hagree : AgreesOn keys (.map entries) (.map entries'))

/-- Two documents have the same parts of a language table.  They may differ in all other keys, also
in those of sections. -/
structure SameParts (v w : Value) : Prop where
  isMap : (∃ entries, v = .map entries) ↔ ∃ entries, w = .map entries
  texts : AgreesOn ["language", "display_name", "extensions"] v w
  tree : SameSection "tree_sitter" ["grammar"] v w
  mappings : SameSection "chunk_mappings" ["class", "method"] v w
  extraction : SameSection "extraction" ["name_field"] v w

end Value

namespace TableDocument

/-- The rules for the parts of a table: language and grammar are given and not empty, there are
extensions and each begins with a dot, there are node types, and none of them stands for classes and
for methods. -/
structure KeepsRules (d : TableDocument) : Prop where
  language : ∃ t, d.language = some t ∧ t ≠ []
  grammar : ∃ t, d.grammar = some t ∧ t ≠ []
  extensions : ∃ exts, d.extensions = some exts ∧ exts ≠ [] ∧
    ∀ ext ∈ exts, ext.head? = some (.ofChar '.')
  types : d.classTypes.getD [] ≠ [] ∨ d.methodTypes.getD [] ≠ []
  apart : ∀ type ∈ d.classTypes.getD [], type ∉ d.methodTypes.getD []

structure IsEncodable (d : TableDocument) : Prop where
  language : ∀ t, d.language = some t → t.any CodePoint.isSurrogate = false
  grammar : ∀ t, d.grammar = some t → t.any CodePoint.isSurrogate = false

/-- The table with given parts: extensions are in lower case, and the field of names has its usual
name if none or an empty one is given. -/
def table (d : TableDocument) : WrittenTable where
  language := d.language.getD []
  displayName := d.displayName.getD []
  extensions := (d.extensions.getD []).map Text.lowerCase
  grammar := d.grammar.getD []
  classTypes := d.classTypes.getD []
  methodTypes := d.methodTypes.getD []
  nameField :=
    match d.nameField with
    | some (c :: rest) => c :: rest
    | _ => Text.ofString "name"

def parts (d : TableDocument) : WrittenTable where
  language := d.language.getD []
  displayName := d.displayName.getD []
  extensions := d.extensions.getD []
  grammar := d.grammar.getD []
  classTypes := d.classTypes.getD []
  methodTypes := d.methodTypes.getD []
  nameField := d.nameField.getD []

variable {d : TableDocument}

theorem normal_parts (d : TableDocument) : d.parts.normal = d.table := by
  rcases hname : d.nameField with _ | _ | ⟨c, rest⟩ <;>
    simp [WrittenTable.normal, parts, table, hname]

theorem getD_nil_ne_nil_iff {α : Type} {r : Option (List α)} :
    r.getD [] ≠ [] ↔ ∃ t, r = some t ∧ t ≠ [] := by
  cases r <;> simp

theorem isSound_parts_iff : d.parts.IsSound ↔ d.KeepsRules ∧ d.IsEncodable := by
  constructor
  · intro h
    obtain ⟨language, hlanguage, hlanguage'⟩ := getD_nil_ne_nil_iff.1 h.language.1
    obtain ⟨grammar, hgrammar, hgrammar'⟩ := getD_nil_ne_nil_iff.1 h.grammar.1
    obtain ⟨extensions, hextensions, hextensions'⟩ := getD_nil_ne_nil_iff.1 h.extensions.1
    have hdotted := h.extensions.2
    have hstring := h.language.2
    have hstring' := h.grammar.2
    simp only [parts, hlanguage, hgrammar, hextensions, Option.getD_some] at hdotted hstring hstring'
    constructor
    · exact ⟨⟨language, hlanguage, hlanguage'⟩, ⟨grammar, hgrammar, hgrammar'⟩,
        ⟨extensions, hextensions, hextensions', hdotted⟩, h.types, h.apart⟩
    · refine ⟨fun t ht => ?_, fun t ht => ?_⟩
      · cases hlanguage.symm.trans ht
        exact hstring
      · cases hgrammar.symm.trans ht
        exact hstring'
  · rintro ⟨h, hencodable⟩
    obtain ⟨language, hlanguage, hlanguage'⟩ := h.language
    obtain ⟨grammar, hgrammar, hgrammar'⟩ := h.grammar
    obtain ⟨extensions, hextensions, hextensions'⟩ := h.extensions
    refine ⟨?_, ?_, ?_, h.types, h.apart⟩
    · simp only [parts, hlanguage, Option.getD_some]
      exact ⟨hlanguage', hencodable.language language hlanguage⟩
    · simp only [parts, hextensions, Option.getD_some]
      exact hextensions'
    · simp only [parts, hgrammar, Option.getD_some]
      exact ⟨hgrammar', hencodable.grammar grammar hgrammar⟩

end TableDocument

/-! ## Reading -/

namespace Found

/-- A reader of a part: it gives the part of a value in its form, finds a fault in any other value,
and takes a missing part for an empty one. -/
structure Reads {α : Type} (read : Option Value → Found α) (empty : α)
    (IsForm : Value → α → Prop) : Prop where
  missing : read none = ⟨empty, []⟩
  given : ∀ {u : Value} {a : α}, IsForm u a → read (some u) = ⟨a, []⟩
  formed : ∀ {u : Value}, (read (some u)).faults = [] → ∃ a, IsForm u a
  notNull : ∀ a, ¬ IsForm .null a

variable {α : Type} {read : Option Value → Found α} {empty : α} {IsForm : Value → α → Prop}
  {v : Value} {key location : String} {r : Option α}

theorem present?_of_ne_null {u : Value} (hsome : v.get? key = some u) (hnull : u ≠ .null) :
    v.present? key = some u := by
  rw [Value.present?, hsome]
  split
  · next heq => exact absurd (Option.some.inj heq) hnull
  · rfl

theorem Reads.eq_of_gives (h : Reads read empty IsForm) (hr : v.Gives IsForm key r) :
    read (v.present? key) = ⟨r.getD empty, []⟩ := by
  cases hr with
  | missing hnone =>
      rw [Value.present?, hnone]
      exact h.missing
  | null hnull =>
      rw [Value.present?, hnull]
      exact h.missing
  | @given u a hsome hform =>
      have hnull : u ≠ .null := by
        rintro rfl
        exact h.notNull a hform
      rw [present?_of_ne_null hsome hnull]
      exact h.given hform

theorem Reads.exists_gives (h : Reads read empty IsForm)
    (hread : (read (v.present? key)).faults = []) : ∃ r, v.Gives IsForm key r := by
  cases hget : v.get? key with
  | none => exact ⟨none, .missing hget⟩
  | some u =>
      -- Null is taken for missing before any form is looked for.
      by_cases hnull : u = .null
      · exact ⟨none, .null (hnull ▸ hget)⟩
      · rw [present?_of_ne_null hget hnull] at hread
        obtain ⟨a, hform⟩ := h.formed hread
        exact ⟨some a, .given hget hform⟩

theorem reads_text (location : String) : Reads (text location) [] Value.IsTextOf where
  missing := rfl
  given h := by
    rw [Value.IsTextOf] at h
    simp only [text, h]
  formed {u} h := by
    cases hu : u.toText? with
    | some t => exact ⟨t, hu⟩
    | none => simp [text, hu] at h
  notNull t h := by cases h

theorem items_eq (location : String) (n : Nat) {us : List Value} {ts : List Text}
    (h : us.map Value.toText? = ts.map some) : items location n us = ⟨ts, []⟩ := by
  induction us generalizing n ts with
  | nil =>
      rw [List.map_nil, eq_comm, List.map_eq_nil_iff] at h
      rw [items, h]
  | cons u us ih =>
      obtain ⟨t, ts, rfl, ht, hts⟩ := List.map_eq_cons_iff.1 h.symm
      have hfirst := (reads_text (location ++ "." ++ toString n)).given ht.symm
      rw [items, hfirst, ih (n + 1) hts.symm]
      rfl

theorem exists_texts_of_items {location : String} {n : Nat} {us : List Value}
    (h : (items location n us).faults = []) :
    ∃ ts : List Text, us.map Value.toText? = ts.map some := by
  induction us generalizing n with
  | nil => exact ⟨[], rfl⟩
  | cons u us ih =>
      simp only [items, List.append_eq_nil_iff] at h
      obtain ⟨t, ht⟩ := (reads_text _).formed h.1
      obtain ⟨ts, hts⟩ := ih h.2
      exact ⟨t :: ts, by rw [List.map_cons, List.map_cons, hts, ht]⟩

theorem reads_texts (location : String) : Reads (texts location) [] Value.IsTextsOf where
  missing := rfl
  given h := by
    obtain ⟨us, rfl, hts⟩ := h
    exact items_eq location 0 hts
  formed {u} h := by
    cases u with
    | list us =>
        obtain ⟨ts, hts⟩ := exists_texts_of_items h
        exact ⟨ts, us, rfl, hts⟩
    | _ => cases h
  notNull t h := by
    obtain ⟨us, hnull, -⟩ := h
    cases hnull

theorem reads_nested (location model : String) :
    Reads (nested location model) (.map []) Value.IsSectionOf where
  missing := rfl
  given h := by
    obtain ⟨⟨entries, rfl⟩, rfl⟩ := h
    rfl
  formed {u} h := by
    cases u with
    | map entries => exact ⟨_, ⟨entries, rfl⟩, rfl⟩
    | _ => cases h
  notNull u h := by
    obtain ⟨⟨entries, hnull⟩, -⟩ := h
    cases hnull

theorem Reads.eq_of_givesIn {name : String} (h : Reads read empty IsForm)
    (hr : v.GivesIn name IsForm key r) (location model : String) :
    (nested location model (v.present? name)).faults = [] ∧
      read ((nested location model (v.present? name)).value.present? key) =
        ⟨r.getD empty, []⟩ := by
  obtain ⟨s, hs, hr⟩ := hr
  rw [(reads_nested location model).eq_of_gives hs]
  exact ⟨rfl, h.eq_of_gives hr⟩

theorem Reads.exists_givesIn {name model : String} (h : Reads read empty IsForm)
    (hsection : (nested location model (v.present? name)).faults = [])
    (hread : (read ((nested location model (v.present? name)).value.present? key)).faults = []) :
    ∃ r, v.GivesIn name IsForm key r := by
  obtain ⟨s, hs⟩ := (reads_nested location model).exists_gives hsection
  rw [(reads_nested location model).eq_of_gives hs] at hread
  obtain ⟨r, hr⟩ := h.exists_gives hread
  exact ⟨r, s, hs, hr⟩

end Found

namespace WrittenTable

open Found

variable {v : Value} {d : TableDocument} {source : String}

theorem shape_of_laysOut (h : v.LaysOut d) : shape v = ⟨d.parts, []⟩ := by
  have hgrammar := (reads_text "tree_sitter.grammar").eq_of_givesIn h.grammar "tree_sitter"
    "_TreeSitterSection"
  have hclassTypes := (reads_texts "chunk_mappings.class").eq_of_givesIn h.classTypes
    "chunk_mappings" "_MappingsSection"
  have hmethodTypes := (reads_texts "chunk_mappings.method").eq_of_givesIn h.methodTypes
    "chunk_mappings" "_MappingsSection"
  have hnameField := (reads_text "extraction.name_field").eq_of_givesIn h.nameField "extraction"
    "_ExtractionSection"
  simp only [shape, (reads_text _).eq_of_gives h.language, (reads_text _).eq_of_gives h.displayName,
    (reads_texts _).eq_of_gives h.extensions, hgrammar, hclassTypes, hmethodTypes, hnameField,
    List.append_nil]
  rfl

theorem exists_laysOut (hmap : ∃ entries, v = .map entries) (h : (shape v).faults = []) :
    ∃ d, v.LaysOut d := by
  -- No fault at all means no fault at any of the places.
  simp only [shape, List.append_eq_nil_iff] at h
  obtain ⟨⟨⟨⟨⟨⟨⟨⟨⟨hlanguage, hdisplay⟩, hextensions⟩, htree⟩, hgrammar⟩, hmappings⟩, hclass⟩,
    hmethod⟩, hextraction⟩, hname⟩ := h
  obtain ⟨language, hlanguage⟩ := (reads_text _).exists_gives hlanguage
  obtain ⟨displayName, hdisplay⟩ := (reads_text _).exists_gives hdisplay
  obtain ⟨extensions, hextensions⟩ := (reads_texts _).exists_gives hextensions
  obtain ⟨grammar, hgrammar⟩ := (reads_text _).exists_givesIn htree hgrammar
  obtain ⟨classTypes, hclass⟩ := (reads_texts _).exists_givesIn hmappings hclass
  obtain ⟨methodTypes, hmethod⟩ := (reads_texts _).exists_givesIn hmappings hmethod
  obtain ⟨nameField, hname⟩ := (reads_text _).exists_givesIn hextraction hname
  exact ⟨⟨language, displayName, extensions, grammar, classTypes, methodTypes, nameField⟩,
    hmap, hlanguage, hdisplay, hextensions, hgrammar, hclass, hmethod, hname⟩

/-- A document is read exactly if it has the layout of a table, its parts keep the rules, and the
names of language and grammar are strings.  The table is the one with these parts. -/
theorem ofDocument_eq_ok_iff {t : WrittenTable} : ofDocument source v = .ok t ↔
    ∃ d, v.LaysOut d ∧ d.KeepsRules ∧ d.IsEncodable ∧ t = d.table := by
  constructor
  · intro h
    unfold ofDocument at h
    split at h
    · next entries =>
      simp only [List.isEmpty_iff] at h
      split at h
      · next hfaults =>
        obtain ⟨d, hd⟩ := exists_laysOut ⟨entries, rfl⟩ hfaults
        rw [shape_of_laysOut hd] at h
        split at h
        · next t' haccept =>
          cases h
          obtain ⟨hsound, rfl⟩ := accept_eq_ok_iff.1 haccept
          obtain ⟨hrules, hencodable⟩ := TableDocument.isSound_parts_iff.1 hsound
          exact ⟨d, hd, hrules, hencodable, TableDocument.normal_parts d⟩
        · cases h
      · cases h
    · cases h
  · -- Of a document with this layout the shape is right, so only acceptance is left.
    rintro ⟨d, hd, hrules, hencodable, rfl⟩
    have haccept : d.parts.accept = .ok d.table :=
      accept_eq_ok_iff.2 ⟨TableDocument.isSound_parts_iff.2 ⟨hrules, hencodable⟩,
        (TableDocument.normal_parts d).symm⟩
    have hshape := shape_of_laysOut hd
    obtain ⟨entries, rfl⟩ := hd.isMap
    simp only [ofDocument, hshape, List.isEmpty_nil, if_true, haccept]

theorem source_failure (source : String) (faults : List LocatedFault) :
    (LanguageTable.failure source faults).source = source := by
  cases faults with
  | nil =>
      rfl
  | cons first others =>
      rfl

theorem source_of_ofDocument {why : TableFailure} (h : ofDocument source v = .error why) :
    why.source = source := by
  unfold ofDocument at h
  split at h
  · simp only at h
    split at h
    · split at h
      · cases h
      · cases h
        exact source_failure source _
    · cases h
      exact source_failure source _
  · cases h
    rfl

/-! ## Unknown keys -/

theorem present?_congr {w : Value} {key : String} (h : v.get? key = w.get? key) :
    v.present? key = w.present? key := by
  rw [Value.present?, Value.present?, h]

theorem nested_of_sameSection {w : Value} {name : String} {keys : List String}
    (h : v.SameSection name keys w) (location model : String) :
    (nested location model (v.present? name)).faults =
        (nested location model (w.present? name)).faults ∧
      ∀ key ∈ keys, (nested location model (v.present? name)).value.present? key =
        (nested location model (w.present? name)).value.present? key := by
  cases h with
  | same hsame =>
      rw [present?_congr hsame]
      exact ⟨rfl, fun _ _ => rfl⟩
  | maps hv hw hagree =>
      rw [present?_of_ne_null hv (by simp), present?_of_ne_null hw (by simp)]
      exact ⟨rfl, fun key hkey => present?_congr (hagree key hkey)⟩

theorem shape_of_sameParts {w : Value} (h : v.SameParts w) : shape v = shape w := by
  obtain ⟨htree, hgrammar⟩ := nested_of_sameSection h.tree "tree_sitter" "_TreeSitterSection"
  obtain ⟨hmappings, htypes⟩ :=
    nested_of_sameSection h.mappings "chunk_mappings" "_MappingsSection"
  obtain ⟨hextraction, hname⟩ :=
    nested_of_sameSection h.extraction "extraction" "_ExtractionSection"
  simp only [shape, present?_congr (h.texts "language" (by simp)),
    present?_congr (h.texts "display_name" (by simp)),
    present?_congr (h.texts "extensions" (by simp)), htree, hgrammar "grammar" (by simp),
    hmappings, htypes "class" (by simp), htypes "method" (by simp), hextraction,
    hname "name_field" (by simp)]

/-- Unknown keys never matter, neither for a table nor for what is said to be wrong with it. -/
theorem ofDocument_of_sameParts {w : Value} (h : v.SameParts w) (source : String) :
    ofDocument source v = ofDocument source w := by
  have hshape := shape_of_sameParts h
  by_cases hmap : ∃ entries, v = .map entries
  · obtain ⟨entries', rfl⟩ := h.isMap.1 hmap
    obtain ⟨entries, rfl⟩ := hmap
    simp only [ofDocument, hshape]
  · have hmap' := fun hw => hmap (h.isMap.2 hw)
    have hother : ∀ {u : Value}, (¬ ∃ entries, u = .map entries) →
        ofDocument source u = .error (.notMapping source) := by
      intro u hu
      cases u with
      | map entries => exact absurd ⟨entries, rfl⟩ hu
      | _ => rfl
    rw [hother hmap, hother hmap']

/-! ## Contents -/

/-- Of contents that hold a document, those in the format of a language table are read as the table
with the parts of the document, whatever else stands in it.  All others are refused with a failure
of the language table that names the source. -/
theorem parse_accepts_format {r : DocumentReader} {c : Contents}
    (h : c.readMarked r = .ok (.value v)) (source : String) :
    (∀ t, parse r source c = .ok t ↔
      ∃ d, v.LaysOut d ∧ d.KeepsRules ∧ d.IsEncodable ∧ t = d.table) ∧
    ((¬ ∃ d, v.LaysOut d ∧ d.KeepsRules ∧ d.IsEncodable) →
      ∃ (why : TableFailure) (report : Diagnostic), parse r source c = .error (.table why) ∧
        (Failure.table why).diagnostic? = some report ∧ report.kind = .languageTable ∧
        report.path = some source) ∧
    ∀ {c' : Contents} {w : Value}, c'.readMarked r = .ok (.value w) → v.SameParts w →
      parse r source c' = parse r source c := by
  -- Once there is a document, all that can fail is the table.
  have hparse : ∀ {c : Contents} {v : Value}, c.readMarked r = .ok (.value v) →
      parse r source c = (ofDocument source v).mapError .table := by
    intro c v h
    rw [parse, h]
    rfl
  refine ⟨fun t => ?_, fun hnone => ?_, fun hw hsame => ?_⟩
  · rw [hparse h, Except.mapError_eq_ok_iff]
    exact ofDocument_eq_ok_iff
  · rw [hparse h]
    -- A document without the format has no table, and its failure names the source.
    cases hread : ofDocument source v with
    | ok t =>
        obtain ⟨d, hd, hrules, hencodable, -⟩ := ofDocument_eq_ok_iff.1 hread
        exact absurd ⟨d, hd, hrules, hencodable⟩ hnone
    | error why =>
        exact ⟨why, _, rfl, rfl, rfl, congrArg some (source_of_ofDocument hread)⟩
  · rw [hparse hw, hparse h, ofDocument_of_sameParts hsame]

end WrittenTable

/-! ## Documents of tables -/

namespace TableText

variable {language : Value} {name : Text}

/-- A document with an extension in capitals, a section that is null, and an unknown key. -/
def document (language : Value) : Value :=
  .map [(.text "language", language), (.text "extensions", .list [.text ".TOY"]),
    (.text "tree_sitter", .map [(.text "grammar", .text "toy"), (.text "query", .int 1)]),
    (.text "chunk_mappings", .map [(.text "method", .list [.text "function"])]),
    (.text "extraction", .null)]

def parts (name : Text) : TableDocument where
  language := some name
  displayName := none
  extensions := some [Text.ofString ".TOY"]
  grammar := some (Text.ofString "toy")
  classTypes := none
  methodTypes := some [Text.ofString "function"]
  nameField := none

theorem laysOut (h : language.IsTextOf name) : (document language).LaysOut (parts name) where
  isMap := ⟨_, rfl⟩
  language := .given rfl h
  displayName := .missing rfl
  extensions := .given rfl ⟨_, rfl, rfl⟩
  grammar := ⟨some _, .given rfl ⟨⟨_, rfl⟩, rfl⟩, .given rfl rfl⟩
  classTypes := ⟨some _, .given rfl ⟨⟨_, rfl⟩, rfl⟩, .missing rfl⟩
  methodTypes := ⟨some _, .given rfl ⟨⟨_, rfl⟩, rfl⟩, .given rfl ⟨_, rfl, rfl⟩⟩
  nameField := ⟨none, .null rfl, .missing rfl⟩

theorem keepsRules (h : name ≠ []) : (parts name).KeepsRules where
  language := ⟨name, rfl, h⟩
  grammar := ⟨_, rfl, by decide⟩
  extensions := ⟨_, rfl, by decide, by decide⟩
  types := .inr (by simp [parts])
  apart := by simp [parts]

def toy : LanguageTable where
  language := "toy"
  extensions := [".toy"]
  grammar := "toy"
  methodTypes := ["function"]

/-- The document is read as the table with the extension in lower case. -/
theorem parse_toy :
    (Contents.document (document (.text "toy"))).readMarked .plain =
        .ok (.value (document (.text "toy"))) ∧
      WrittenTable.parse .plain "toy.yaml" (.document (document (.text "toy"))) =
        .ok toy.written := by
  have hread : (Contents.document (document (.text "toy"))).readMarked .plain =
      .ok (.value (document (.text "toy"))) := rfl
  have hlayout : (document (.text "toy")).LaysOut (parts (Text.ofString "toy")) := laysOut rfl
  have hencodable : (parts (Text.ofString "toy")).IsEncodable := by
    constructor <;>
      · rintro t ⟨⟩
        decide
  have htable : toy.written = (parts (Text.ofString "toy")).table := by decide +kernel
  exact ⟨hread, ((WrittenTable.parse_accepts_format hread "toy.yaml").1 _).2
    ⟨_, hlayout, keepsRules (by decide), hencodable, htable⟩⟩

/-- With one surrogate as the name of the language the document has the layout and keeps the rules,
but the name is no string, so there is no table. -/
theorem parse_surrogate_language :
    (∃ d, (document (.surrogateText [⟨0xD800, by decide⟩])).LaysOut d ∧ d.KeepsRules) ∧
      ∀ t, WrittenTable.parse .plain "toy.yaml"
        (.document (document (.surrogateText [⟨0xD800, by decide⟩]))) ≠ .ok t := by
  refine ⟨⟨parts [⟨0xD800, by decide⟩], laysOut rfl, keepsRules (by decide)⟩, fun t h => ?_⟩
  have hnone : (WrittenTable.parse .plain "toy.yaml"
      (.document (document (.surrogateText [⟨0xD800, by decide⟩])))).toOption = none := by
    decide +kernel
  rw [h] at hnone
  cases hnone

end TableText

end SourceOutline
