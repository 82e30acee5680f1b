import SourceOutline.LanguageTable.Basic

/-!
# Packaged — the language tables that come with the library

Eleven languages have a table of their own; `LanguageTable.packaged` lists them by name.
-/

namespace SourceOutline

namespace LanguageTable

/-- Structs, records and enumerations count as classes. -/
def csharp : LanguageTable where
  language := "csharp"
  displayName := "C#"
  extensions := [".cs"]
  grammar := "csharp"
  classTypes := ["class_declaration", "struct_declaration", "interface_declaration",
    "record_declaration", "enum_declaration"]
  methodTypes := ["method_declaration", "constructor_declaration"]

/-- Methods are declared beside the type of their receiver, so they belong to the file. -/
def go : LanguageTable where
  language := "go"
  displayName := "Go"
  extensions := [".go"]
  grammar := "go"
  classTypes := ["type_spec"]
  methodTypes := ["function_declaration", "method_declaration"]

/-- Annotation types count as classes. -/
def java : LanguageTable where
  language := "java"
  displayName := "Java"
  extensions := [".java"]
  grammar := "java"
  classTypes := ["class_declaration", "interface_declaration", "enum_declaration",
    "record_declaration", "annotation_type_declaration"]
  methodTypes := ["method_declaration", "constructor_declaration"]

/-- Class expressions count as classes. -/
def javascript : LanguageTable where
  language := "javascript"
  displayName := "JavaScript"
  extensions := [".js", ".jsx", ".mjs", ".cjs"]
  grammar := "javascript"
  classTypes := ["class_declaration", "class"]
  methodTypes := ["function_declaration", "generator_function_declaration", "method_definition"]

/-- There are functions only. -/
def lua : LanguageTable where
  language := "lua"
  displayName := "Lua"
  extensions := [".lua"]
  grammar := "lua"
  methodTypes := ["function_declaration"]

/-- Traits count as classes. -/
def php : LanguageTable where
  language := "php"
  displayName := "PHP"
  extensions := [".php"]
  grammar := "php"
  classTypes := ["class_declaration", "interface_declaration", "trait_declaration",
    "enum_declaration"]
  methodTypes := ["function_definition", "method_declaration"]

/-- One type of node for classes and one for functions. -/
def python : LanguageTable where
  language := "python"
  displayName := "Python"
  extensions := [".py", ".pyi", ".pyw"]
  grammar := "python"
  classTypes := ["class_definition"]
  methodTypes := ["function_definition"]

/-- Modules count as classes. -/
def ruby : LanguageTable where
  language := "ruby"
  displayName := "Ruby"
  extensions := [".rb", ".rake"]
  grammar := "ruby"
  classTypes := ["class", "module"]
  methodTypes := ["method", "singleton_method"]

/-- Implementation blocks have no name, so the functions in them belong to the file. -/
def rust : LanguageTable where
  language := "rust"
  displayName := "Rust"
  extensions := [".rs"]
  grammar := "rust"
  classTypes := ["struct_item", "enum_item", "union_item", "trait_item"]
  methodTypes := ["function_item", "function_signature_item"]

/-- The same node types as for TypeScript, under a grammar of its own. -/
def tsx : LanguageTable where
  language := "tsx"
  displayName := "TSX"
  extensions := [".tsx"]
  grammar := "tsx"
  classTypes := ["class_declaration", "abstract_class_declaration", "interface_declaration",
    "enum_declaration"]
  methodTypes := ["function_declaration", "generator_function_declaration", "method_definition",
    "method_signature", "abstract_method_signature"]

/-- Signatures count as methods. -/
def typescript : LanguageTable where
  language := "typescript"
  displayName := "TypeScript"
  extensions := [".ts", ".mts", ".cts"]
  grammar := "typescript"
  classTypes := ["class_declaration", "abstract_class_declaration", "interface_declaration",
    "enum_declaration"]
  methodTypes := ["function_declaration", "generator_function_declaration", "method_definition",
    "method_signature", "abstract_method_signature"]

def packaged : List LanguageTable :=
  [csharp, go, java, javascript, lua, php, python, ruby, rust, tsx, typescript]

def packaged? (language : String) : Option LanguageTable :=
  packaged.find? fun t => t.language == language

end LanguageTable

end SourceOutline
