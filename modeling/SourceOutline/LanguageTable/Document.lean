import SourceOutline.LanguageTable.Basic

/-!
# Document — language tables written as documents

A language table is written as a map with sections.  A document is first checked for its shape; only
if that is right the table is put together and checked itself.  Null counts as missing throughout.
-/

namespace SourceOutline

/-- What was read, and the faults met on the way. -/
structure Found (α : Type) where
  value : α
  faults : List LocatedFault := []

namespace Found

/-- Reads a text; a missing one is empty. -/
def text (location : String) : Option Value → Found Text
  | none => ⟨[], []⟩
  | some v =>
    match v.toText? with
    | some t => ⟨t, []⟩
    | none => ⟨[], [⟨location, .notText⟩]⟩

def items (location : String) : Nat → List Value → Found (List Text)
  | _, [] => ⟨[], []⟩
  | n, v :: rest =>
    let first := text (location ++ "." ++ toString n) (some v)
    let others := items location (n + 1) rest
    ⟨first.value :: others.value, first.faults ++ others.faults⟩

def texts (location : String) : Option Value → Found (List Text)
  | none => ⟨[], []⟩
  | some (.list vs) => items location 0 vs
  | some _ => ⟨[], [⟨location, .notList⟩]⟩

/-- Reads a section, which is a map; a missing one has no entries. -/
def nested (location model : String) : Option Value → Found Value
  | none => ⟨.map [], []⟩
  | some (.map entries) => ⟨.map entries, []⟩
  | some _ => ⟨.map [], [⟨location, .notSection model⟩]⟩

end Found

def LanguageTable.failure (source : String) : List LocatedFault → TableFailure
  | [] => .notMapping source
  | first :: others => .invalid source first others

namespace WrittenTable

def shape (v : Value) : Found WrittenTable :=
  let language := Found.text "language" (v.present? "language")
  let displayName := Found.text "display_name" (v.present? "display_name")
  let extensions := Found.texts "extensions" (v.present? "extensions")
  let tree := Found.nested "tree_sitter" "_TreeSitterSection" (v.present? "tree_sitter")
  let grammar := Found.text "tree_sitter.grammar" (tree.value.present? "grammar")
  let mappings := Found.nested "chunk_mappings" "_MappingsSection" (v.present? "chunk_mappings")
  let classTypes := Found.texts "chunk_mappings.class" (mappings.value.present? "class")
  let methodTypes := Found.texts "chunk_mappings.method" (mappings.value.present? "method")
  let extraction := Found.nested "extraction" "_ExtractionSection" (v.present? "extraction")
  let nameField := Found.text "extraction.name_field" (extraction.value.present? "name_field")
  { value :=
      { language := language.value
        displayName := displayName.value
        extensions := extensions.value
        grammar := grammar.value
        classTypes := classTypes.value
        methodTypes := methodTypes.value
        nameField := nameField.value }
    faults :=
      language.faults ++ displayName.faults ++ extensions.faults ++ tree.faults ++
        grammar.faults ++ mappings.faults ++ classTypes.faults ++ methodTypes.faults ++
        extraction.faults ++ nameField.faults }

def ofDocument (source : String) (v : Value) : Except TableFailure WrittenTable :=
  match v with
  | .map _ =>
    let found := shape v
    if found.faults.isEmpty then
      match found.value.accept with
      | .ok t => .ok t
      | .error faults => .error (LanguageTable.failure source faults)
    else .error (LanguageTable.failure source found.faults)
  | _ => .error (.notMapping source)

/-! ## Flat maps -/

/-- A text of a flat map, which must be a text if it is there. -/
def flatText (v : Value) (key : String) (missing : Option Text) : Option Text :=
  match v.get? key with
  | none => missing
  | some found => found.toText?

def flatTexts (v : Value) (key : String) (missing : Option (List Text)) : Option (List Text) :=
  match v.get? key with
  | none => missing
  | some found =>
    let read := Found.texts key (some found)
    if read.faults.isEmpty then some read.value else none

def ofRecord? (v : Value) : Option WrittenTable := do
  let language ← flatText v "language" none
  let displayName ← flatText v "display_name" (some [])
  let extensions ← flatTexts v "extensions" none
  let grammar ← flatText v "grammar" none
  let classTypes ← flatTexts v "class_types" (some [])
  let methodTypes ← flatTexts v "method_types" (some [])
  let nameField ← flatText v "name_field" (some (Text.ofString "name"))
  let parts : WrittenTable :=
    { language, displayName, extensions, grammar, classTypes, methodTypes, nameField }
  parts.accept.toOption

end WrittenTable

namespace LanguageTable

def ofDocument (source : String) (v : Value) : Except TableFailure LanguageTable :=
  (WrittenTable.ofDocument source v).map WrittenTable.table

def ofRecord (v : Value) : Except Fault LanguageTable :=
  match WrittenTable.ofRecord? v with
  | some t => .ok t.table
  | none => .error .invalidTable

end LanguageTable

end SourceOutline
