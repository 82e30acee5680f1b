import SourceOutline.Config.Basic
import SourceOutline.Proofs.Config.Expansion
import SourceOutline.Proofs.Failure.Sequence

/-!
# Acceptance — which settings a value gives

A value gives settings exactly if each of their parts is what the value says for it, or what is
usual where the value says nothing, and all checks are passed.
-/

namespace SourceOutline

/-! ## Parts -/

theorem require_eq_ok_iff {condition : Bool} {why : Failure} {u : Unit} :
    require condition why = .ok u ↔ condition = true := by
  cases condition <;> simp [require]

theorem readNumber_eq_ok_iff {v : Value} {x : Number} :
    readNumber v = .ok x ↔ v.number? = some x := by
  unfold readNumber
  cases v.number? <;> simp

/-! ## Sections -/

structure ChunkingSettings.IsReadFrom (env : Environment) (v : Value) (s : ChunkingSettings) :
    Prop where
  skip : parseBool "chunking.skip_minified" ((v.get? "skip_minified").getD (.bool true)) =
    .ok s.skipMinified
  references : parseBool "chunking.legacy_enabled" ((v.get? "legacy_enabled").getD (.bool true)) =
    .ok s.referencesEnabled
  number : ((v.get? "check_interval").getD (.int 1024)).number? = some s.checkInterval
  interval : s.checkInterval.lt (.int 1) = false
  directory : readDirectory env (v.get? "languages_dir") = .ok s.languagesDir

theorem ChunkingSettings.ofValue_eq_ok_iff {env : Environment} {v : Value} {s : ChunkingSettings} :
    ChunkingSettings.ofValue env v = .ok s ↔ s.IsReadFrom env v := by
  unfold ChunkingSettings.ofValue
  simp only [Except.bind_eq_ok_iff, require_eq_ok_iff, readNumber_eq_ok_iff]
  constructor
  · rintro ⟨skip, hskip, references, hreferences, interval, hnumber, -, hinterval, directory,
      hdirectory, ⟨⟩⟩
    exact ⟨hskip, hreferences, hnumber, by simpa using hinterval, hdirectory⟩
  · intro h
    exact ⟨_, h.skip, _, h.references, _, h.number, (), by simp [h.interval], _, h.directory, rfl⟩

theorem readThreshold_eq_ok_iff {v : Value} {key : String} {usual x : Number} :
    readThreshold v key usual = .ok x ↔
      ((v.get? key).getD (.ofNumber usual)).number? = some x := by
  unfold readThreshold
  cases hget : v.get? key with
  | none => cases usual <;> simp [Value.ofNumber, Value.number?]
  | some found => simp [readNumber_eq_ok_iff]

structure Thresholds.IsReadFrom (v : Value) (t : Thresholds) : Prop where
  average : readThreshold v "max_avg_line_length" ({} : Thresholds).maxAvgLineLength =
    .ok t.maxAvgLineLength
  line : readThreshold v "max_single_line_size" ({} : Thresholds).maxSingleLineSize =
    .ok t.maxSingleLineSize
  ratio : readThreshold v "min_whitespace_ratio" ({} : Thresholds).minWhitespaceRatio =
    .ok t.minWhitespaceRatio
  size : readThreshold v "min_size_for_whitespace_check"
    ({} : Thresholds).minSizeForWhitespaceCheck = .ok t.minSizeForWhitespaceCheck
  averagePositive : t.maxAvgLineLength.le (.int 0) = false
  linePositive : t.maxSingleLineSize.le (.int 0) = false
  ratioInRange :
    (Number.le (.int 0) t.minWhitespaceRatio && t.minWhitespaceRatio.le (.int 1)) = true
  sizeNotNegative : t.minSizeForWhitespaceCheck.lt (.int 0) = false

theorem Thresholds.ofValue_eq_ok_iff {v : Value} {t : Thresholds} :
    Thresholds.ofValue v = .ok t ↔ t.IsReadFrom v := by
  unfold Thresholds.ofValue
  simp only [Except.bind_eq_ok_iff, require_eq_ok_iff]
  constructor
  · rintro ⟨average, haverage, -, hpositive, line, hline, -, hlong, ratio, hratio, -, hrange, size,
      hsize, -, hnegative, ⟨⟩⟩
    exact ⟨haverage, hline, hratio, hsize, by simpa using hpositive, by simpa using hlong, hrange,
      by simpa using hnegative⟩
  · intro h
    exact ⟨_, h.average, (), by simp [h.averagePositive], _, h.line, (), by simp [h.linePositive],
      _, h.ratio, (), h.ratioInRange, _, h.size, (), by simp [h.sizeNotNegative], rfl⟩

structure LoggingSettings.IsReadFrom (v : Value) (s : LoggingSettings) : Prop where
  level : readLevel ((v.get? "level").getD (.text "WARNING")) = .ok s.level
  file : (v.get? "file").getD .null = s.file

theorem LoggingSettings.ofValue_eq_ok_iff {v : Value} {s : LoggingSettings} :
    LoggingSettings.ofValue v = .ok s ↔ s.IsReadFrom v := by
  unfold LoggingSettings.ofValue
  simp only [Except.bind_eq_ok_iff]
  constructor
  · rintro ⟨level, hlevel, ⟨⟩⟩
    exact ⟨hlevel, rfl⟩
  · intro h
    exact ⟨_, h.level, by rw [h.file]; rfl⟩

/-! ## All settings -/

def Value.at? (v : Value) (part key : String) : Option Value :=
  (v.get? part).bind (Value.get? · key)

theorem Value.at?_expand (env : Environment) (v : Value) (part key : String) :
    (v.expand env).at? part key = (v.at? part key).map (expand env) := by
  unfold at?
  rw [get?_expand]
  cases v.get? part with
  | none => rfl
  | some found => exact get?_expand env found key

theorem readSection_get? {model : String} {given : Option Value} {found : Value}
    (h : readSection model given = .ok found) (key : String) :
    found.get? key = given.bind (Value.get? · key) := by
  unfold readSection at h
  split at h
  · cases h
    rfl
  · rename_i v
    split at h
    · rename_i hfalse
      cases h
      -- What counts as false has no entries.
      cases v with
      | map entries =>
          cases entries with
          | nil => rfl
          | cons e rest => cases hfalse
      | _ => rfl
    · split at h
      · cases h
        rfl
      · cases h

/-- The value that settings are read from: one that counts as false says nothing. -/
def Value.orEmpty (v : Value) : Value :=
  if v.isTruthy then v else .map []

def Value.HasSection (v : Value) (model key : String) (gives : Value → Prop) : Prop :=
  ∃ found, readSection model (v.get? key) = .ok found ∧ gives found

structure Config.IsReadFrom (env : Environment) (v : Value) (c : Config) : Prop where
  shallow : v.orEmpty.depth ≤ env.levels
  encodable : v.orEmpty.asksUnencodable = false
  isMap : ∃ entries, v.orEmpty.expand env = .map entries
  chunking : (v.orEmpty.expand env).HasSection "ChunkingConfig" "chunking"
    (c.chunking.IsReadFrom env)
  minified : (v.orEmpty.expand env).HasSection "MinifiedConfig" "minified" c.minified.IsReadFrom
  logging : (v.orEmpty.expand env).HasSection "LoggingConfig" "logging" c.logging.IsReadFrom

theorem Value.bind_readSection_eq_ok_iff {α : Type} {v : Value} {model key : String}
    {read : Value → Except Failure α} {a : α} :
    (readSection model (v.get? key)).bind read = .ok a ↔
      v.HasSection model key fun found => read found = .ok a :=
  Except.bind_eq_ok_iff

theorem Config.ofValue_eq_ok_iff {env : Environment} {v : Value} {basePath : FilePath}
    {c : Config} :
    Config.ofValue env v basePath = .ok c ↔ c.IsReadFrom env v ∧ c.basePath = basePath := by
  unfold Config.ofValue
  simp only [← Value.orEmpty.eq_1]
  cases hwalk : v.orEmpty.replaceVariables env with
  | error why =>
      constructor
      · intro h
        cases h
      · rintro ⟨h, -⟩
        have hok := Value.replaceVariables_eq_ok_iff.2 ⟨h.shallow, h.encodable, rfl⟩
        cases hwalk.symm.trans hok
  | ok data =>
      rcases Value.replaceVariables_eq_ok_iff.1 hwalk with ⟨hshallow, hasks, rfl⟩
      simp only [Except.mapError_ok, Except.ok_bind]
      split
      · rename_i entries hmap
        simp only [Except.bind_eq_ok_iff, Value.bind_readSection_eq_ok_iff,
          ChunkingSettings.ofValue_eq_ok_iff, Thresholds.ofValue_eq_ok_iff,
          LoggingSettings.ofValue_eq_ok_iff]
        constructor
        · rintro ⟨chunking, hchunking, minified, hminified, logging, hlogging, ⟨⟩⟩
          exact ⟨⟨hshallow, hasks, ⟨entries, hmap⟩, hchunking, hminified, hlogging⟩, rfl⟩
        · rintro ⟨h, rfl⟩
          exact ⟨_, h.chunking, _, h.minified, _, h.logging, rfl⟩
      · rename_i hother
        constructor
        · intro h
          cases h
        · rintro ⟨h, -⟩
          rcases h.isMap with ⟨entries, hmap⟩
          exact absurd hmap (hother entries)

end SourceOutline
