import SourceOutline.Double.Reader
import SourceOutline.FileTree

/-!
# Arguments — what a command line asks for

A command line has options for all commands, the name of a command, and the options and arguments of
that command.  Options before the command end where the command's name stands; after it, options and
arguments may be mixed.  Two hyphens end the options.
-/

namespace SourceOutline

namespace CommandLine

/-! ## Options -/

/-- An option: its long name, its short name if it has one, and whether it takes a value. -/
structure OptionForm where
  long : String
  short : Option Char := none
  takesValue : Bool := false

structure Given where
  long : String
  value : String := ""

structure WordReading where
  given : List Given := []
  open? : Option String := none

/-- Reads a group of short options.  What follows an option that takes a value is the value. -/
def readShort (forms : List OptionForm) : List Char → Option WordReading
  | [] => some {}
  | c :: rest =>
    match forms.find? fun f => f.short == some c with
    | none => none
    | some f =>
      if f.takesValue then
        some (if rest.isEmpty then { open? := some f.long }
          else { given := [⟨f.long, String.ofList rest⟩] })
      else (readShort forms rest).map fun r => { r with given := ⟨f.long, ""⟩ :: r.given }

def readWord (forms : List OptionForm) (word : List Char) : Option WordReading :=
  let name := String.ofList (word.takeWhile (· != '='))
  let value := (word.dropWhile (· != '=')).drop 1
  let hasValue := word.contains '='
  match forms.find? fun f => f.long == name with
  | some f =>
    if f.takesValue then
      some (if hasValue then { given := [⟨f.long, String.ofList value⟩] }
        else { open? := some f.long })
    else if hasValue then none
    else some { given := [⟨f.long, ""⟩] }
  | none =>
    match word with
    | '-' :: '-' :: _ => none
    | '-' :: rest => readShort forms rest
    | _ => none

def isOption (word : String) : Bool :=
  match word.toList with
  | '-' :: _ :: _ => true
  | _ => false

/-- Reads options and arguments.  Unless they are mixed, the first argument ends the options, and it
and all after it are arguments.  There is no reading if an option is not known or lacks its
value. -/
def readArguments (forms : List OptionForm) (mixed : Bool) :
    List String → Option (List Given × List String)
  | [] => some ([], [])
  | word :: rest =>
    if word = "--" then some ([], rest)
    else if isOption word then
      match readWord forms word.toList with
      | none => none
      | some { given, open? := none } =>
        (readArguments forms mixed rest).map fun r => (given ++ r.1, r.2)
      | some { given, open? := some long } =>
        match rest with
        | [] => none
        | value :: more =>
          (readArguments forms mixed more).map fun r => (given ++ ⟨long, value⟩ :: r.1, r.2)
    else if mixed then (readArguments forms mixed rest).map fun r => (r.1, word :: r.2)
    else some ([], word :: rest)

def has (given : List Given) (long : String) : Bool :=
  given.any fun g => g.long == long

def valueOf? (given : List Given) (long : String) : Option String :=
  (given.reverse.find? fun g => g.long == long).map Given.value

/-! ## Options for all commands -/

structure Globals where
  help : Bool := false
  version : Bool := false
  logLevel : Option String := none
  config : Option FilePath := none
  verbose : Bool := false

def globalForms : List OptionForm :=
  [{ long := "--version" }, { long := "--log-level", short := some 'l', takesValue := true },
    { long := "--config", short := some 'c', takesValue := true },
    { long := "--verbose", short := some 'v' }, { long := "--help" }]

def readGlobals (words : List String) : Option (Globals × List String) :=
  (readArguments globalForms false words).map fun (given, rest) =>
    ({ help := has given "--help"
       version := has given "--version"
       logLevel := valueOf? given "--log-level"
       config := (valueOf? given "--config").map FilePath.ofString
       verbose := has given "--verbose" }, rest)

/-! ## Commands -/

structure ChunkOptions where
  json : Bool := false
  useReferences : Bool := false
  includeMinified : Bool := false
  timeout : Option Double := none

/-- What a command line asks for after the options for all commands. -/
inductive Command where
  | help
  | chunk (paths : List FilePath) (options : ChunkOptions)
  | minified (paths : List FilePath)
  | languages
  | initConfig (path : FilePath) (force : Bool)

def commandForms? : String → Option (List OptionForm)
  | "chunk" =>
    some [{ long := "--json" }, { long := "--legacy" }, { long := "--include-minified" },
      { long := "--timeout", takesValue := true }, { long := "--help" }]
  | "minified" => some [{ long := "--help" }]
  | "languages" => some [{ long := "--help" }]
  | "init-config" => some [{ long := "--force", short := some 'f' }, { long := "--help" }]
  | _ => none

def existing? (w : Workspace) (paths : List String) : Option (List FilePath) :=
  let found := paths.map FilePath.ofString
  if found.isEmpty || !found.all w.contains then none else some found

def timeLimit? (given : List Given) : Option (Option Double) :=
  match valueOf? given "--timeout" with
  | none => some none
  | some s => (Double.ofText? s).map some

def command? (w : Workspace) (name : String) (given : List Given) (arguments : List String) :
    Option Command :=
  if has given "--help" then some .help
  else
    match name with
    | "chunk" => do
      let paths ← existing? w arguments
      let timeout ← timeLimit? given
      pure (.chunk paths
        { json := has given "--json"
          useReferences := has given "--legacy"
          includeMinified := has given "--include-minified"
          timeout })
    | "minified" => (existing? w arguments).map .minified
    | "languages" => if arguments.isEmpty then some .languages else none
    | "init-config" =>
      match arguments with
      | [] => some (.initConfig (FilePath.ofString "chunkforge.yaml") (has given "--force"))
      | [path] => some (.initConfig (FilePath.ofString path) (has given "--force"))
      | _ => none
    | _ => none

def readCommand (w : Workspace) (name : String) (words : List String) : Option Command := do
  let forms ← commandForms? name
  let (given, arguments) ← readArguments forms true words
  command? w name given arguments

end CommandLine

end SourceOutline
