import SourceOutline.Config.Expand
import SourceOutline.Failure.Basic
import SourceOutline.Minified
import SourceOutline.Text.Blank
import SourceOutline.TextPath

/-!
# Config — the settings of a run

Settings have three sections.  They are read from a value section by section and part by part; the
first part that is not acceptable decides the failure.
-/

namespace SourceOutline

/-! ## Sections -/

/-- Where language tables are, how often chunking is checked on, and what is chunked how. -/
structure ChunkingSettings where
  languagesDir : Option TextPath := none
  checkInterval : Number := .int 1024
  skipMinified : Bool := true
  referencesEnabled : Bool := true

structure LoggingSettings where
  level : String := "WARNING"
  file : Value := .null

/-- All settings, and the directory that their relative paths start from. -/
structure Config where
  chunking : ChunkingSettings := {}
  minified : Thresholds := {}
  logging : LoggingSettings := {}
  basePath : FilePath

/-! ## Reading parts -/

def yesWords : List String := ["true", "yes", "on", "1"]

def noWords : List String := ["false", "no", "off", "0"]

/-- A refusal whose message shows a value.  A value that cannot be shown leaves a fault in its
place. -/
def refusal (shown : Value) (why : ConfigFailure) : Failure :=
  if shown.isShowable then .config why else .fault .badValue

/-- A truth value, or a text that means one; white space around the text and its case do not
matter. -/
def parseBool (name : String) (v : Value) : Except Failure Bool :=
  match v with
  | .bool b => .ok b
  | .text s =>
    let word := lowerCase (stripString s)
    if yesWords.contains word then .ok true
    else if noWords.contains word then .ok false
    else .error (refusal v (.notBoolean name v))
  | _ => .error (refusal v (.notBoolean name v))

def readNumber (v : Value) : Except Failure Number :=
  match v.number? with
  | some n => .ok n
  | none => .error (.config .wrongType)

def readPath (env : Environment) (t : Text) : Except Failure TextPath :=
  ((TextPath.ofText t).expandHome env.home).mapError .fault

/-- A section: null and whatever else counts as false has no entries. -/
def readSection (model : String) : Option Value → Except Failure Value
  | none => .ok (.map [])
  | some v =>
    if !v.isTruthy then .ok (.map [])
    else
      match v with
      | .map entries => .ok (.map entries)
      | _ => .error (.config (.sectionNotMapping model v.kindName))

def require (condition : Bool) (why : Failure) : Except Failure Unit :=
  if condition then .ok () else .error why

/-! ## Reading sections -/

def readLevel (v : Value) : Except Failure String :=
  match v with
  | .text s =>
    let level := upperCase s
    if levelNames.contains level then .ok level else .error (.config (.unknownLevel level))
  | .surrogateText t => .error (.config (.unknownLevel (upperCase t.toString)))
  | _ => .error (refusal v (.levelNotText v))

def readDirectory (env : Environment) : Option Value → Except Failure (Option TextPath)
  | none | some .null => .ok none
  | some v =>
    match v.toText? with
    | some t => (readPath env t).map some
    | none => .error (.config .wrongType)

def ChunkingSettings.ofValue (env : Environment) (v : Value) : Except Failure ChunkingSettings := do
  let skipMinified ← parseBool "chunking.skip_minified" ((v.get? "skip_minified").getD (.bool true))
  let referencesEnabled ←
    parseBool "chunking.legacy_enabled" ((v.get? "legacy_enabled").getD (.bool true))
  let checkInterval ← readNumber ((v.get? "check_interval").getD (.int 1024))
  require (!checkInterval.lt (.int 1))
    (refusal (.ofNumber checkInterval) (.intervalTooSmall checkInterval))
  let languagesDir ← readDirectory env (v.get? "languages_dir")
  pure { languagesDir, checkInterval, skipMinified, referencesEnabled }

def readThreshold (v : Value) (key : String) (usual : Number) : Except Failure Number :=
  match v.get? key with
  | some found => readNumber found
  | none => .ok usual

def Thresholds.ofValue (v : Value) : Except Failure Thresholds := do
  let usual : Thresholds := {}
  let average ← readThreshold v "max_avg_line_length" usual.maxAvgLineLength
  require (!average.le (.int 0)) (.config .averageNotPositive)
  let line ← readThreshold v "max_single_line_size" usual.maxSingleLineSize
  require (!line.le (.int 0)) (.config .lineSizeNotPositive)
  let ratio ← readThreshold v "min_whitespace_ratio" usual.minWhitespaceRatio
  require (Number.le (.int 0) ratio && ratio.le (.int 1))
    (refusal (.ofNumber ratio) (.ratioOutOfRange ratio))
  let size ← readThreshold v "min_size_for_whitespace_check" usual.minSizeForWhitespaceCheck
  require (!size.lt (.int 0)) (.config .checkSizeNegative)
  pure ⟨average, line, ratio, size⟩

def LoggingSettings.ofValue (v : Value) : Except Failure LoggingSettings := do
  let level ← readLevel ((v.get? "level").getD (.text "WARNING"))
  pure { level, file := (v.get? "file").getD .null }

namespace Config

/-! ## Reading all settings -/

/-- The settings that a value describes, after its variables have been replaced.  A value that
counts as false describes the usual settings. -/
def ofValue (env : Environment) (v : Value) (basePath : FilePath) : Except Failure Config := do
  let given := if v.isTruthy then v else .map []
  let data ← (given.replaceVariables env).mapError .fault
  match data with
  | .map _ =>
    let chunking ← (readSection "ChunkingConfig" (data.get? "chunking")).bind
      (ChunkingSettings.ofValue env)
    let minified ← (readSection "MinifiedConfig" (data.get? "minified")).bind Thresholds.ofValue
    let logging ← (readSection "LoggingConfig" (data.get? "logging")).bind LoggingSettings.ofValue
    pure { chunking, minified, logging, basePath }
  | _ => throw (.fault .noAttribute)

/-! ## Paths -/

def languagesPath (c : Config) : Option TextPath :=
  c.chunking.languagesDir.map (TextPath.seenFrom c.basePath)

def logFilePath (env : Environment) (c : Config) : Except Failure (Option TextPath) :=
  if !c.logging.file.isTruthy then .ok none
  else
    match c.logging.file.toText? with
    | some t => (readPath env t).map fun p => some (p.seenFrom c.basePath)
    | none => .error (.fault .badType)

/-! ## Writing -/

def entries (es : List (String × Value)) : Value :=
  .map (es.map fun e => (.text e.1, e.2))

def chunkingValue (s : ChunkingSettings) : Value :=
  entries
    [("languages_dir", match s.languagesDir with
        | some p => .ofText p.toText
        | none => .null),
      ("check_interval", .ofNumber s.checkInterval), ("skip_minified", .bool s.skipMinified),
      ("legacy_enabled", .bool s.referencesEnabled)]

def thresholdsValue (t : Thresholds) : Value :=
  entries
    [("max_avg_line_length", .ofNumber t.maxAvgLineLength),
      ("max_single_line_size", .ofNumber t.maxSingleLineSize),
      ("min_whitespace_ratio", .ofNumber t.minWhitespaceRatio),
      ("min_size_for_whitespace_check", .ofNumber t.minSizeForWhitespaceCheck)]

def loggingValue (s : LoggingSettings) : Value :=
  entries [("level", .text s.level), ("file", s.file)]

def toValue (c : Config) : Value :=
  entries
    [("chunking", chunkingValue c.chunking), ("minified", thresholdsValue c.minified),
      ("logging", loggingValue c.logging)]

end Config

end SourceOutline
