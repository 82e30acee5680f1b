import SourceOutline.Proofs.Config.Refusal

/-!
# Paths — the paths of accepted settings

The directory of language tables is read together with the settings, so settings with a directory
that cannot be used are refused.  The log file is kept as the value that was given, whatever that
is, and read when it is asked for.

* `Config.paths_or_refusal` — the paths of accepted settings, or why there are no settings;
* `NumberedLog.logFilePath_eq_error` — accepted settings without a path for the log file.
-/

namespace SourceOutline

namespace Config

variable {env : Environment} {basePath : FilePath}

/-- The directory of language tables, by the value that is given for it: null or nothing, or a text
whose path can be read. -/
inductive LanguagesOutcome (env : Environment) (basePath : FilePath) :
    Option Value → Option TextPath → Prop
  | missing : LanguagesOutcome env basePath none none
  | null : LanguagesOutcome env basePath (some .null) none
  | named (v : Value) (t : Text) (p : TextPath) (htext : v.toText? = some t)
    (hread : readPath env t = .ok p) :
    LanguagesOutcome env basePath (some v) (some (p.seenFrom basePath))

/-- The log file, by the value that is given for it: none for a value that counts as false, the path
in a text, unless its tilde stands for no home directory, and a fault for any other value. -/
inductive LogFileOutcome (env : Environment) (basePath : FilePath) (v : Value) :
    Except Failure (Option TextPath) → Prop
  | unset (hfalse : v.isTruthy = false) : LogFileOutcome env basePath v (.ok none)
  | named (t : Text) (p : TextPath) (htruthy : v.isTruthy = true) (htext : v.toText? = some t)
    (hread : readPath env t = .ok p) :
    LogFileOutcome env basePath v (.ok (some (p.seenFrom basePath)))
  | homeless (t : Text) (why : Failure) (htruthy : v.isTruthy = true) (htext : v.toText? = some t)
    (htilde : (TextPath.ofText t).user? ≠ none) (hread : readPath env t = .error why) :
    LogFileOutcome env basePath v (.error why)
  | notText (htruthy : v.isTruthy = true) (hother : v.toText? = none) :
    LogFileOutcome env basePath v (.error (.fault .badType))

theorem languagesOutcome_of_readDirectory {given : Option Value} {directory : Option TextPath}
    (h : readDirectory env given = .ok directory) :
    LanguagesOutcome env basePath given (directory.map (TextPath.seenFrom basePath)) := by
  unfold readDirectory at h
  split at h
  · cases h
    exact .missing
  · cases h
    exact .null
  · rename_i v _
    split at h
    · rename_i t htext
      rcases Except.map_eq_ok_iff.1 h with ⟨p, hread, rfl⟩
      exact .named v t p htext hread
    · cases h

theorem logFileOutcome_logFilePath (env : Environment) (c : Config) :
    LogFileOutcome env c.basePath c.logging.file (c.logFilePath env) := by
  unfold logFilePath
  cases htruthy : c.logging.file.isTruthy with
  | false => exact .unset htruthy
  | true =>
      cases htext : c.logging.file.toText? with
      | none => exact .notText htruthy htext
      | some t =>
          change LogFileOutcome env c.basePath c.logging.file ((readPath env t).map _)
          cases hread : readPath env t with
          | ok p => exact .named t p htruthy htext hread
          | error why =>
              exact .homeless t why htruthy htext (user?_ne_none_of_readPath hread) hread

/-- A value gives settings whose paths are determined by the values for them, or it is refused. -/
theorem paths_or_refusal (env : Environment) (v : Value) (basePath : FilePath) :
    match ofValue env v basePath with
    | .ok c =>
      LanguagesOutcome env basePath ((v.orEmpty.expand env).at? "chunking" "languages_dir")
          c.languagesPath ∧
        LogFileOutcome env basePath
          (((v.orEmpty.expand env).at? "logging" "file").getD .null) (c.logFilePath env)
    | .error why => Refusal env v.orEmpty why := by
  cases h : ofValue env v basePath with
  | error why => exact failsOnlyBy_ofValue env v basePath why h
  | ok c =>
      rcases ofValue_eq_ok_iff.1 h with ⟨hread, rfl⟩
      rcases hread.chunking with ⟨chunking, hchunking, hparts⟩
      rcases hread.logging with ⟨logging, hlogging, hfile⟩
      -- The section that was read has the keys that the value has there.
      have hdirectory := hparts.directory
      rw [readSection_get? hchunking] at hdirectory
      refine ⟨languagesOutcome_of_readDirectory hdirectory, ?_⟩
      have hvalue : ((v.orEmpty.expand env).at? "logging" "file").getD .null = c.logging.file := by
        rw [← hfile.file, readSection_get? hlogging]
        rfl
      rw [hvalue]
      exact logFileOutcome_logFilePath env c

end Config

/-! ## A number in the place of a log file -/

namespace NumberedLog

def document : Value :=
  .map [(.text "logging", .map [(.text "file", .int 5)])]

/-- The usual settings with five for a log file. -/
def settings : Config :=
  { logging := { file := .int 5 }, basePath := { anchor := "/", parts := ["project"] } }

/-- Five is accepted as a log file, and has no path. -/
theorem logFilePath_eq_error :
    Config.ofValue {} document settings.basePath = .ok settings ∧
      settings.logFilePath {} = .error (.fault .badType) := by
  exact ⟨by rfl, by rfl⟩

end NumberedLog

end SourceOutline
