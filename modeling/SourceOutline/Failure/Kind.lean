import SourceOutline.Value.Number

/-!
# Kind — the families of errors and how each is explained

Every error of the library belongs to a family, which gives it a code for look-up, a reason, and
advice.  A `Diagnostic` is an error as it is presented: its family, its message, and what replaces
the family's own explanation.
-/

namespace SourceOutline

inductive ErrorKind where
  | general
  | configuration
  | languageTable
  | cancellation
  | cancelled
  | deadlineExceeded
  | unparsable
  | unsupportedLanguage
  deriving DecidableEq

namespace ErrorKind

def all : List ErrorKind :=
  [general, configuration, languageTable, cancellation, cancelled, deadlineExceeded, unparsable,
    unsupportedLanguage]

def title : ErrorKind → String
  | general => "ChunkForgeError"
  | configuration => "ConfigurationError"
  | languageTable => "LanguageConfigError"
  | cancellation => "CancellationError"
  | cancelled => "CancelledError"
  | deadlineExceeded => "DeadlineExceededError"
  | unparsable => "ParseFatalError"
  | unsupportedLanguage => "UnsupportedLanguageError"

/-- The name with the place where the family is at home, as a traceback shows it. -/
def qualifiedTitle (k : ErrorKind) : String :=
  "chunkforge.core.exceptions." ++ k.title

def ancestry : ErrorKind → List ErrorKind
  | general => [general]
  | configuration => [configuration, general]
  | languageTable => [languageTable, configuration, general]
  | cancellation => [cancellation, general]
  | cancelled => [cancelled, cancellation, general]
  | deadlineExceeded => [deadlineExceeded, cancellation, general]
  | unparsable => [unparsable, general]
  | unsupportedLanguage => [unsupportedLanguage, unparsable, general]

def code : ErrorKind → String
  | general => "CF-ERR-000"
  | configuration => "CF-CFG-001"
  | languageTable => "CF-CFG-002"
  | cancellation => "CF-CAN-000"
  | cancelled => "CF-CAN-001"
  | deadlineExceeded => "CF-CAN-002"
  | unparsable => "CF-PARSE-001"
  | unsupportedLanguage => "CF-PARSE-002"

def reason : ErrorKind → String
  | general => "An unexpected error occurred"
  | configuration =>
    "A chunker was created without a parse engine or classification table, or no language " ++
      "tables could be loaded"
  | languageTable =>
    "A language table is not valid YAML or is missing required fields (language, extensions, " ++
      "tree_sitter.grammar)"
  | cancellation => "The operation was stopped before it finished"
  | cancelled => "The caller cancelled the operation"
  | deadlineExceeded => "The operation did not finish before its deadline"
  | unparsable => "The parse engine could not produce a syntax tree"
  | unsupportedLanguage => "No tree-sitter grammar is available for this language"

def advice : ErrorKind → List String
  | general => ["Check the error message for details"]
  | configuration =>
    ["Pass both a ParseEngine and a ClassificationTable to the chunker",
      "Check that languages_dir points at a directory of *.yaml tables",
      "Run 'chunkforge languages' to list the tables that load"]
  | languageTable =>
    ["Validate the YAML syntax of the table file",
      "Make sure every extension starts with a '.'",
      "Declare at least one class or method node type"]
  | cancellation => ["Retry the operation with a fresh cancellation token"]
  | cancelled => ["Retry the operation if the cancellation was unintended"]
  | deadlineExceeded =>
    ["Increase the timeout passed to CancellationToken",
      "Skip very large or minified files before chunking"]
  | unparsable =>
    ["Check that the file is text in the expected language",
      "Reinstall tree-sitter-language-pack if grammars fail to load"]
  | unsupportedLanguage =>
    ["Check the tree_sitter.grammar name in the language table",
      "Run 'chunkforge languages' to list supported languages"]

end ErrorKind

structure Diagnostic where
  kind : ErrorKind
  message : String
  code : String := kind.code
  reason : String := kind.reason
  advice : List String := kind.advice
  /-- The file of a faulty language table. -/
  path : Option String := none
  /-- The language that could not be parsed. -/
  language : Option String := none
  /-- Whether the grammar itself is unknown. -/
  unsupported : Bool := false
  /-- The time limit that has passed. -/
  timeout : Option Number := none

end SourceOutline
