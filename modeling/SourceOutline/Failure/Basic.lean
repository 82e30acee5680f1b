import SourceOutline.Failure.Kind
import SourceOutline.Value.Basic

/-!
# Failure — what can go wrong, by cause

Texts of other programs, such as what is wrong with a document's syntax, are not part of the model:
`detail` stands in their place.
-/

namespace SourceOutline

/-- Stands for the explanation that a document reader or the operating system gives. -/
def detail : String := "<detail>"

/-! ## Interruptions -/

inductive Interruption where
  | cancelled
  | deadlineExceeded (timeout : Option Number)
  deriving DecidableEq

def Interruption.message : Interruption → String
  | cancelled => "Operation cancelled"
  | deadlineExceeded _ => "Operation deadline exceeded"

/-! ## Language tables -/

inductive TableFault where
  | notText
  | brokenText
  | notList
  | notSection (model : String)
  | emptyText
  | noItems
  | undottedExtension (ext : Text)
  | noNodeTypes
  | sharedNodeTypes (types : List Text)
  deriving DecidableEq

def TableFault.message : TableFault → String
  | notText => "Input should be a valid string"
  | brokenText =>
    "Input should be a valid string, unable to parse raw data as a unicode string"
  | notList => "Input should be a valid list"
  | notSection model => "Input should be a valid dictionary or instance of " ++ model
  | emptyText => "String should have at least 1 character"
  | noItems => "Tuple should have at least 1 item after validation, not 0"
  | undottedExtension ext => "Value error, extension " ++ ext.quoted ++ " must start with '.'"
  | noNodeTypes => "Value error, at least one class or method node type is required"
  | sharedNodeTypes types =>
    "Value error, node types cannot be both class and method: " ++ renderTexts types

structure LocatedFault where
  location : String
  fault : TableFault
  deriving DecidableEq

inductive TableFailure where
  | syntaxError (source : String)
  | unreadable (path : String)
  | notMapping (source : String)
  | invalid (source : String) (first : LocatedFault) (others : List LocatedFault)
  | noDirectory (path : String)

def sortedUnique {α : Type} [LT α] [DecidableLT α] [BEq α] (items : List α) : List α :=
  (items.mergeSort fun a b => !(b < a)).eraseReps

namespace TableFailure

def source : TableFailure → String
  | syntaxError s => s
  | unreadable s => s
  | notMapping s => s
  | invalid s _ _ => s
  | noDirectory s => s

def message : TableFailure → String
  | syntaxError s => "Failed to parse YAML in " ++ s ++ ": " ++ detail
  | unreadable s => "Failed to read language table " ++ s ++ ": " ++ detail
  | notMapping s => s ++ " must contain a mapping"
  | invalid s first others =>
    let locations := sortedUnique ((first :: others).map (·.location))
    "Invalid language table " ++ s ++ ": " ++ joinWith ", " locations ++ ": " ++
      first.fault.message
  | noDirectory s => "Language directory not found: " ++ s

end TableFailure

/-! ## Settings -/

inductive ConfigFailure where
  | notBoolean (name : String) (value : Value)
  | intervalTooSmall (value : Number)
  | wrongType
  | averageNotPositive
  | lineSizeNotPositive
  | ratioOutOfRange (value : Number)
  | checkSizeNegative
  | levelNotText (value : Value)
  | unknownLevel (level : String)
  | sectionNotMapping (model kind : String)
  | missingFile (path : String)
  | unreadable (path : String)
  | notMapping (path : String)

/-- The names a log level can have in settings, in order. -/
def levelNames : List String :=
  ["CRITICAL", "DEBUG", "ERROR", "INFO", "WARNING"]

def ConfigFailure.message : ConfigFailure → String
  | notBoolean name value => name ++ " must be true or false, got: " ++ value.render
  | intervalTooSmall value => "chunking.check_interval must be >= 1, got: " ++ value.render
  | wrongType => "Invalid configuration value: " ++ detail
  | averageNotPositive => "minified.max_avg_line_length must be positive"
  | lineSizeNotPositive => "minified.max_single_line_size must be positive"
  | ratioOutOfRange value =>
    "minified.min_whitespace_ratio must be between 0 and 1, got: " ++ value.render
  | checkSizeNegative => "minified.min_size_for_whitespace_check must not be negative"
  | levelNotText value => "logging.level must be a string, got: " ++ value.render
  | unknownLevel level =>
    "logging.level must be one of " ++ renderStrings levelNames ++ ", got: " ++ level
  | sectionNotMapping model kind => "Expected a mapping for " ++ model ++ ", got " ++ kind
  | missingFile path => "Config file not found: " ++ path
  | unreadable path => "Could not load config from " ++ path ++ ": " ++ detail
  | notMapping path => "Config file " ++ path ++ " must contain a mapping"

/-! ## Faults of the surroundings -/

/-- A failure outside the library's own rules. -/
inductive Fault where
  | badValue
  | badType
  | tooLarge
  | noAttribute
  | emptyStack
  | tooDeep
  | runtime (message : String)
  | notUtf8
  | unencodable
  | invalidTable
  | alreadyExists
  | notADirectory
  | isADirectory
  | missing
  /-- An exception of another program, known by its name only, and whether it is one of the file
  system. -/
  | other (name : String) (system : Bool)
  deriving DecidableEq

namespace Fault

def title : Fault → String
  | badValue => "ValueError"
  | badType => "TypeError"
  | tooLarge => "OverflowError"
  | noAttribute => "AttributeError"
  | emptyStack => "IndexError"
  | tooDeep => "RecursionError"
  | runtime _ => "RuntimeError"
  | notUtf8 => "UnicodeDecodeError"
  | unencodable => "UnicodeEncodeError"
  | invalidTable => "ValidationError"
  | alreadyExists => "FileExistsError"
  | notADirectory => "NotADirectoryError"
  | isADirectory => "IsADirectoryError"
  | missing => "FileNotFoundError"
  | other name _ => name

def isSystem : Fault → Bool
  | alreadyExists | notADirectory | isADirectory | missing => true
  | other _ system => system
  | _ => false

end Fault

/-! ## Failures -/

inductive Failure where
  | engineRequired
  | tableRequired
  | intervalBelowOne
  | grammarNotLoadable (grammar language : String)
  | noTables (source : String)
  | noLoadableGrammar
  | config (why : ConfigFailure)
  | table (why : TableFailure)
  | interrupted (why : Interruption)
  | unsupportedLanguage (language reason : String)
  | parserRefused (language reason : String)
  | noTree (language : String)
  | fault (why : Fault)

namespace Failure

def message : Failure → String
  | engineRequired => "A parse engine is required"
  | tableRequired => "A classification table is required"
  | intervalBelowOne => "check_interval must be >= 1"
  | grammarNotLoadable grammar language =>
    "Parse engine cannot load grammar '" ++ grammar ++ "' for language '" ++ language ++ "'"
  | noTables source => "No language tables loaded from " ++ source
  | noLoadableGrammar => "No language table has a loadable grammar"
  | config why => why.message
  | table why => why.message
  | interrupted why => why.message
  | unsupportedLanguage language reason =>
    "Unsupported language: " ++ language ++ " (" ++ reason ++ ")"
  | parserRefused language reason => "Failed to parse " ++ language ++ ": " ++ reason
  | noTree language => "Failed to parse " ++ language ++ ": no tree produced"
  | fault (.runtime m) => m
  | fault _ => detail

/-- The family of a failure; faults of the surroundings have none. -/
def kind? : Failure → Option ErrorKind
  | engineRequired | tableRequired | intervalBelowOne | grammarNotLoadable _ _ | noTables _
  | noLoadableGrammar | config _ => some .configuration
  | table _ => some .languageTable
  | interrupted .cancelled => some .cancelled
  | interrupted (.deadlineExceeded _) => some .deadlineExceeded
  | unsupportedLanguage _ _ => some .unsupportedLanguage
  | parserRefused _ _ | noTree _ => some .unparsable
  | fault _ => none

def diagnostic? (f : Failure) : Option Diagnostic :=
  f.kind?.map fun kind =>
    let plain : Diagnostic := { kind, message := f.message }
    match f with
    | table why => { plain with path := some why.source }
    | interrupted (.deadlineExceeded timeout) => { plain with timeout }
    | unsupportedLanguage language _ =>
      { plain with language := some language, unsupported := true }
    | parserRefused language _ => { plain with language := some language }
    | noTree language => { plain with language := some language }
    | _ => plain

/-- Whether a batch of files goes on after this failure: it belongs to a family, or the file system
failed. -/
def isContained : Failure → Bool
  | fault why => why.isSystem
  | _ => true

end Failure

end SourceOutline
