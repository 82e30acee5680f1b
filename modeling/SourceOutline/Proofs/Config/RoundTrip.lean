import SourceOutline.Config.Load
import SourceOutline.Proofs.Config.Range
import SourceOutline.Proofs.FileTree.Writing
import SourceOutline.Proofs.TextPath.Normal

/-!
# RoundTrip — settings that are saved and loaded again

Settings are saved with their references replaced, and what is loaded is read for references again.
So settings come back as they were saved exactly if replacing references once more leaves them as
they are.

* `Config.load_save` — settings that are saved to a file and loaded from it;
* `SavedSettings.load_save_plain`, `SavedSettings.load_save_nested` — settings that come back, and
  settings that do not.
-/

namespace SourceOutline

/-! ## Parts -/

theorem readDirectory_ofText (env : Environment) (t : Text) :
    readDirectory env (some (.ofText t)) = (readPath env t).map some := by
  have htext := Value.toText?_ofText t
  unfold readDirectory
  split
  · rename_i heq
    cases heq
  · rename_i heq
    rw [Option.some.inj heq] at htext
    cases htext
  · rename_i v heq
    cases heq
    rw [htext]

theorem isNormal_of_readDirectory {env : Environment} {given : Option Value} {p : TextPath}
    (h : readDirectory env given = .ok (some p)) : p.IsNormal := by
  unfold readDirectory at h
  split at h
  · cases h
  · cases h
  · split at h
    · rename_i t _
      rcases Except.map_eq_ok_iff.1 h with ⟨q, hread, ⟨⟩⟩
      exact TextPath.isNormal_expandHome (TextPath.isNormal_ofText t)
        (Except.mapError_eq_ok_iff.1 hread)
    · cases h

theorem readLevel_expand (env : Environment) {level : String} (h : level ∈ levelNames) :
    readLevel ((Value.text level).expand env) = .ok level := by
  have hplain : ∀ level ∈ levelNames, dollar ∉ Text.ofString level := by decide
  have hupper : ∀ level ∈ levelNames, upperCase level = level := by decide +kernel
  rw [Value.expand, expandText_eq_self env (references_eq_nil (hplain level h)),
    Value.ofText_ofString, readLevel]
  simp only [hupper level h, List.contains_iff_mem.2 h, if_true]

namespace Config

variable {env : Environment} {v : Value} {c c' : Config}

/-- The directory that reading again gives: the references in its text are replaced once more. -/
def rereadDirectory (env : Environment) : Option TextPath → Except Failure (Option TextPath)
  | none => .ok none
  | some p => (readPath env (expandText env p.toText)).map some

/-- Reading the settings `c` again gives the sections of `c'`: no reference keeps them from being
read, texts have their references replaced once more, and all else is as it was. -/
structure IsReread (env : Environment) (c c' : Config) : Prop where
  encodable : c.toValue.asksUnencodable = false
  chunking : c'.chunking = { c.chunking with languagesDir := c'.chunking.languagesDir }
  directory : rereadDirectory env c.chunking.languagesDir = .ok c'.chunking.languagesDir
  minified : c'.minified = c.minified
  logging : c'.logging = { c.logging with file := c.logging.file.expand env }

/-! ## Sections -/

theorem readDirectory_chunkingValue (env : Environment) (s : ChunkingSettings) :
    readDirectory env (((chunkingValue s).expand env).get? "languages_dir") =
      rereadDirectory env s.languagesDir := by
  rw [Value.get?_expand]
  rcases s with ⟨directory, interval, skip, references⟩
  cases directory with
  | none => rfl
  | some p =>
      have hget : (chunkingValue ⟨some p, interval, skip, references⟩).get? "languages_dir" =
        some (.ofText p.toText) := rfl
      rw [hget, Option.map_some, Value.expand_ofText, readDirectory_ofText]
      rfl

theorem isReadFrom_chunkingValue_iff {s s' : ChunkingSettings}
    (hinterval : s.checkInterval.lt (.int 1) = false) :
    s'.IsReadFrom env ((chunkingValue s).expand env) ↔
      s' = { s with languagesDir := s'.languagesDir } ∧
        rereadDirectory env s.languagesDir = .ok s'.languagesDir := by
  have hskip : ((chunkingValue s).expand env).get? "skip_minified" =
      some (.bool s.skipMinified) := Value.get?_expand env _ _
  have hreferences : ((chunkingValue s).expand env).get? "legacy_enabled" =
      some (.bool s.referencesEnabled) := Value.get?_expand env _ _
  have hnumber : ((chunkingValue s).expand env).get? "check_interval" =
      some (.ofNumber s.checkInterval) :=
    (Value.get?_expand env _ _).trans (congrArg some (Value.expand_ofNumber env s.checkInterval))
  -- All keys are there, so nothing is put in for a missing one.
  constructor
  · rintro ⟨h₁, h₂, h₃, -, h₅⟩
    rw [hskip] at h₁
    rw [hreferences] at h₂
    rw [hnumber, Option.getD_some, Value.number?_ofNumber] at h₃
    rw [readDirectory_chunkingValue] at h₅
    rcases s' with ⟨directory, interval, skip, references⟩
    cases h₁
    cases h₂
    cases h₃
    exact ⟨rfl, h₅⟩
  · rintro ⟨hsame, hdirectory⟩
    rw [hsame]
    exact
      { skip := by rw [hskip]; rfl
        references := by rw [hreferences]; rfl
        number := by rw [hnumber]; exact Value.number?_ofNumber s.checkInterval
        interval := hinterval
        directory := (readDirectory_chunkingValue env s).trans hdirectory }

theorem isReadFrom_thresholdsValue_iff {t t' : Thresholds} (h : t.IsReadFrom v) :
    t'.IsReadFrom ((thresholdsValue t).expand env) ↔ t' = t := by
  have hread {key : String} {usual x : Number}
      (hget : (thresholdsValue t).get? key = some (.ofNumber x)) :
      readThreshold ((thresholdsValue t).expand env) key usual = .ok x := by
    rw [readThreshold_eq_ok_iff, Value.get?_expand, hget, Option.map_some, Value.expand_ofNumber]
    exact Value.number?_ofNumber x
  constructor
  · rintro ⟨h₁, h₂, h₃, h₄, -, -, -, -⟩
    rw [hread rfl] at h₁ h₂ h₃ h₄
    rcases t' with ⟨average, line, ratio, size⟩
    cases h₁
    cases h₂
    cases h₃
    cases h₄
    rfl
  · rintro rfl
    exact { h with average := hread rfl, line := hread rfl, ratio := hread rfl, size := hread rfl }

theorem isReadFrom_loggingValue_iff {s s' : LoggingSettings} (hlevel : s.level ∈ levelNames) :
    s'.IsReadFrom ((loggingValue s).expand env) ↔
      s' = { s with file := s.file.expand env } := by
  have hname : ((loggingValue s).expand env).get? "level" =
    some ((Value.text s.level).expand env) := Value.get?_expand env _ _
  have hfile : ((loggingValue s).expand env).get? "file" = some (s.file.expand env) :=
    Value.get?_expand env _ _
  have hread : readLevel ((((loggingValue s).expand env).get? "level").getD (.text "WARNING")) =
      .ok s.level := by
    rw [hname]
    exact readLevel_expand env hlevel
  constructor
  · rintro ⟨h₁, h₂⟩
    rw [hread] at h₁
    rw [hfile] at h₂
    rcases s' with ⟨level, file⟩
    cases h₁
    cases h₂
    rfl
  · rintro rfl
    exact ⟨hread, by rw [hfile]; rfl⟩

/-! ## All settings -/

theorem hasSection_iff {model key : String} {gives : Value → Prop} {u : Value}
    (hget : v.get? key = some u) (hread : readSection model (some u) = .ok u) :
    v.HasSection model key gives ↔ gives u := by
  unfold Value.HasSection
  rw [hget, hread]
  simp

theorem IsReadFrom.file_eq (h : c.IsReadFrom env v) :
    c.logging.file = ((v.orEmpty.at? "logging" "file").getD .null).expand env := by
  rcases h.logging with ⟨found, hfound, hlogging⟩
  -- References are replaced in the whole value, before a section is looked up in it.
  rw [← hlogging.file, readSection_get? hfound]
  change ((v.orEmpty.expand env).at? "logging" "file").getD .null = _
  rw [Value.at?_expand]
  cases v.orEmpty.at? "logging" "file" <;> rfl

/-- Only the log file may nest the value of settings deeper than its sections do. -/
theorem depth_toValue (c : Config) : c.toValue.depth = max 3 (c.logging.file.depth + 2) := by
  rcases c with ⟨⟨directory, interval, skip, references⟩, thresholds, ⟨level, file⟩, basePath⟩
  cases directory with
  | none =>
      simp only [toValue, chunkingValue, thresholdsValue, loggingValue, entries, List.map_cons,
        List.map_nil, Value.depth, Value.depthOfEntries, Value.depth_ofNumber]
      omega
  | some p =>
      simp only [toValue, chunkingValue, thresholdsValue, loggingValue, entries, List.map_cons,
        List.map_nil, Value.depth, Value.depthOfEntries, Value.depth_ofNumber, Value.depth_ofText]
      omega

theorem IsReadFrom.depth_toValue_le (h : c.IsReadFrom env v) : c.toValue.depth ≤ env.levels := by
  have hthree : 3 ≤ env.levels := Nat.le_add_left 3 env.spare
  have hshallow := h.shallow
  rw [depth_toValue, h.file_eq, Value.depth_expand]
  cases hgiven : v.orEmpty.at? "logging" "file" with
  | none => exact Nat.max_le.2 ⟨hthree, hthree⟩
  | some u =>
      rcases Option.bind_eq_some_iff.1 hgiven with ⟨found, hfound, hu⟩
      have hfile := Value.depth_lt_of_get? hu
      have hpart := Value.depth_lt_of_get? hfound
      rw [Option.getD_some]
      omega

/-- The value of accepted settings gives what reading them again gives. -/
theorem isReadFrom_toValue_iff (h : c.IsReadFrom env v) :
    c'.IsReadFrom env c.toValue ↔ c.IsReread env c' := by
  have hdepth := h.depth_toValue_le
  rcases h.chunking with ⟨_, _, hchunking⟩
  rcases h.minified with ⟨_, _, hminified⟩
  rcases h.logging with ⟨_, _, hlogging⟩
  have hone : (c.toValue.expand env).get? "chunking" =
    some ((chunkingValue c.chunking).expand env) := Value.get?_expand env _ _
  have htwo : (c.toValue.expand env).get? "minified" =
    some ((thresholdsValue c.minified).expand env) := Value.get?_expand env _ _
  have hthree : (c.toValue.expand env).get? "logging" =
    some ((loggingValue c.logging).expand env) := Value.get?_expand env _ _
  have hchunking' : c'.chunking.IsReadFrom env ((chunkingValue c.chunking).expand env) ↔ _ :=
    isReadFrom_chunkingValue_iff hchunking.interval
  have hminified' : c'.minified.IsReadFrom ((thresholdsValue c.minified).expand env) ↔ _ :=
    isReadFrom_thresholdsValue_iff hminified
  have hlogging' : c'.logging.IsReadFrom ((loggingValue c.logging).expand env) ↔ _ :=
    isReadFrom_loggingValue_iff (mem_levelNames_of_readLevel hlogging.level)
  constructor
  · intro h
    -- Each section stands under its key, and none counts as false.
    have hparts := hchunking'.1 ((hasSection_iff hone rfl).1 h.chunking)
    exact
      { encodable := h.encodable
        chunking := hparts.1
        directory := hparts.2
        minified := hminified'.1 ((hasSection_iff htwo rfl).1 h.minified)
        logging := hlogging'.1 ((hasSection_iff hthree rfl).1 h.logging) }
  · intro h
    exact
      { shallow := hdepth
        encodable := h.encodable
        isMap := ⟨_, rfl⟩
        chunking := (hasSection_iff hone rfl).2 (hchunking'.2 ⟨h.chunking, h.directory⟩)
        minified := (hasSection_iff htwo rfl).2 (hminified'.2 h.minified)
        logging := (hasSection_iff hthree rfl).2 (hlogging'.2 h.logging) }

/-- No text that the settings hold has a reference in it, and the path of the language tables does
not begin with a tilde. -/
structure IsPlain (c : Config) : Prop where
  texts : ∀ t ∈ c.toValue.texts, references t = []
  directory : ∀ p, c.chunking.languagesDir = some p → p.user? = none

theorem texts_subset_toValue (c : Config) : c.logging.file.texts ⊆ c.toValue.texts := by
  intro t ht
  simp [toValue, loggingValue, entries, Value.texts, Value.textsOfEntries, ht]

theorem toText_mem_texts_toValue {p : TextPath} (h : c.chunking.languagesDir = some p) :
    p.toText ∈ c.toValue.texts := by
  simp [toValue, chunkingValue, entries, Value.texts, Value.textsOfEntries, h, Value.texts_ofText]

theorem IsPlain.isReread {env' : Environment} (hplain : c.IsPlain) (h : c.IsReadFrom env' v)
    (env : Environment) : c.IsReread env c where
  encodable := by
    rw [Value.asksUnencodable, Value.anyUnencodable, List.any_eq_false]
    intro t ht
    rw [hplain.texts t ht]
    exact Bool.false_ne_true
  chunking := rfl
  directory := by
    cases hp : c.chunking.languagesDir with
    | none => rfl
    | some p =>
        -- The path has been left by reading, so its text is read as the same path.
        rcases h.chunking with ⟨_, _, hchunking⟩
        have hnormal := isNormal_of_readDirectory (hp ▸ hchunking.directory)
        rw [rereadDirectory, expandText_eq_self env (hplain.texts _ (toText_mem_texts_toValue hp)),
          readPath, TextPath.ofText_toText hnormal, TextPath.expandHome, hplain.directory p hp]
        rfl
  minified := rfl
  logging := by
    -- The value has been expanded, and no reference is left in it.
    have htexts : ∀ t ∈ c.logging.file.texts, references t = [] :=
      fun t ht => hplain.texts t (texts_subset_toValue c ht)
    rw [h.file_eq] at htexts
    have hfile : c.logging.file.expand env = c.logging.file := by
      rw [h.file_eq, Value.expand_expand env' env _ htexts]
    rw [hfile]

/-! ## Files -/

variable {s : Surroundings} {w : Workspace} {path : FilePath}

theorem override_eq_ok (hlevel : setVariable? env levelVariable = none)
    (hlanguages : setVariable? env languagesVariable = none) (c : Config) :
    c.override env = .ok c := by
  unfold override
  rw [hlevel]
  dsimp only
  rw [hlanguages]
  rfl

theorem load_eq_of_save (hsave : c.save s.workspace path = .ok w)
    (hlevel : setVariable? s.environment levelVariable = none)
    (hlanguages : setVariable? s.environment languagesVariable = none)
    (basePath : Option FilePath) :
    (load { s with workspace := w } (some path) basePath).1 =
      ofValue s.environment c.toValue (basePath.getD path.parent) := by
  have hwrite : s.workspace.write path (.document c.toValue) = .ok w := by
    unfold save at hsave
    split at hsave
    · exact hsave
    · cases hsave
  -- The file is found where it was written, and holds the value.
  have hcontains : w.contains path = true := by
    rw [Workspace.contains, Workspace.find?, Workspace.resolve_write hwrite]
    rfl
  have hfile : readFile { s with workspace := w } path (basePath.getD path.parent) =
      ofValue s.environment c.toValue (basePath.getD path.parent) := by
    unfold readFile
    rw [Workspace.read_write hwrite]
    rfl
  simp only [load, hcontains, if_true, loadFile, hfile]
  cases ofValue s.environment c.toValue (basePath.getD path.parent) with
  | error why => rfl
  | ok c => exact override_eq_ok hlevel hlanguages c

structure SameSections (c c' : Config) : Prop where
  chunking : c'.chunking = c.chunking
  minified : c'.minified = c.minified
  logging : c'.logging = c.logging

theorem SameSections.isReread_iff {c'' : Config} (h : c'.SameSections c'') :
    c.IsReread env c'' ↔ c.IsReread env c' := by
  rcases c' with ⟨chunking, minified, logging, basePath⟩
  rcases c'' with ⟨chunking', minified', logging', basePath'⟩
  rcases h with ⟨rfl, rfl, rfl⟩
  constructor
  · rintro ⟨hencodable, hchunking, hdirectory, hminified, hlogging⟩
    exact ⟨hencodable, hchunking, hdirectory, hminified, hlogging⟩
  · rintro ⟨hencodable, hchunking, hdirectory, hminified, hlogging⟩
    exact ⟨hencodable, hchunking, hdirectory, hminified, hlogging⟩

theorem load_eq_ok_iff_of_save (hc : c.IsReadFrom s.environment v)
    (hsave : c.save s.workspace path = .ok w)
    (hlevel : setVariable? s.environment levelVariable = none)
    (hlanguages : setVariable? s.environment languagesVariable = none)
    (basePath : Option FilePath) (c' : Config) :
    (load { s with workspace := w } (some path) basePath).1 = .ok c' ↔
      c.IsReread s.environment c' ∧ c'.basePath = basePath.getD path.parent := by
  rw [load_eq_of_save hsave hlevel hlanguages, ofValue_eq_ok_iff, isReadFrom_toValue_iff hc]

/-- What settings become that were accepted, saved, and loaded again in the same environment: they
are read again.  So they agree in all sections exactly if they are read again as they are, as those
are in which no text has a reference and no path has a leading tilde. -/
theorem load_save {basePath : FilePath} (hc : ofValue s.environment v basePath = .ok c)
    (hsave : c.save s.workspace path = .ok w)
    (hlevel : setVariable? s.environment levelVariable = none)
    (hlanguages : setVariable? s.environment languagesVariable = none)
    (basePath' : Option FilePath) :
    (∀ c', (load { s with workspace := w } (some path) basePath').1 = .ok c' ↔
        c.IsReread s.environment c' ∧ c'.basePath = basePath'.getD path.parent) ∧
      ((∃ c', (load { s with workspace := w } (some path) basePath').1 = .ok c' ∧
          c.SameSections c') ↔ c.IsReread s.environment c) ∧
      (c.IsPlain → c.IsReread s.environment c) := by
  have hread := (ofValue_eq_ok_iff.1 hc).1
  have hload := load_eq_ok_iff_of_save hread hsave hlevel hlanguages basePath'
  refine ⟨hload, ⟨?_, ?_⟩, fun hplain => hplain.isReread hread s.environment⟩
  · rintro ⟨c', hc', hsame⟩
    exact hsame.isReread_iff.1 ((hload c').1 hc').1
  · intro hsettled
    -- Only the base path may differ, and no section is read from it.
    have hsame : c.SameSections { c with basePath := basePath'.getD path.parent } := ⟨rfl, rfl, rfl⟩
    exact ⟨_, (hload _).2 ⟨hsame.isReread_iff.2 hsettled, rfl⟩, hsame⟩

end Config

/-! ## Settings with two texts -/

namespace SavedSettings

def directory : FilePath := { anchor := "/", parts := ["project"] }

def path : FilePath := { parts := ["out.yaml"] }

def document (file : String) : Value :=
  .map [(.text "chunking", .map [(.text "languages_dir", .text "tables")]),
    (.text "logging", .map [(.text "file", .text file)])]

def settings (file : String) : Config where
  chunking := { languagesDir := some { parts := [Text.ofString "tables"] } }
  logging := { file := .text file }
  basePath := directory

theorem ofValue_document {given kept : String}
    (hfile : expandText {} (Text.ofString given) = Text.ofString kept)
    (hnames : ∀ r ∈ references (Text.ofString given), r.name.any CodePoint.isUnencodable = false) :
    Config.ofValue {} (document given) directory = .ok (settings kept) := by
  have hplain : references (Text.ofString "tables") = [] := references_eq_nil (by decide)
  have htables : expandText {} (Text.ofString "tables") = Text.ofString "tables" :=
    expandText_eq_self {} hplain
  have hasks : (document given).asksUnencodable = false := by
    simpa [document, Value.asksUnencodable, Value.anyUnencodable, Value.texts, Value.textsOfEntries,
      hplain] using hnames
  have horEmpty : (document given).orEmpty = document given := rfl
  have hexpand : (document given).expand {} = document kept := by
    simp only [document, Value.expand, Value.expandEntries, hfile, htables, Value.ofText_ofString]
  have hdepth : (document given).depth = 3 := rfl
  have hwalk : (document given).replaceVariables {} = .ok (document kept) :=
    Value.replaceVariables_eq_ok_iff.2
      ⟨Nat.le_trans (Nat.le_of_eq hdepth) (Nat.le_add_left 3 _), hasks, hexpand.symm⟩
  unfold Config.ofValue
  simp only [← Value.orEmpty.eq_1, horEmpty, hwalk]
  rfl

theorem exists_save (file : String) : ∃ w, (settings file).save {} path = .ok w := by
  have hintegers : (settings file).toValue.integers = [1024, 500, 10240, 1024] := rfl
  have hshowable : (settings file).toValue.isShowable = true := by
    rw [Value.isShowable, hintegers]
    decide +kernel
  simp only [Config.save, hshowable, if_true]
  exact ⟨_, rfl⟩

/-- Settings without a reference come back as they were saved. -/
theorem load_save_plain :
    Config.ofValue {} (document "run.log") directory = .ok (settings "run.log") ∧
      ∃ w, (settings "run.log").save {} path = .ok w ∧
        ∃ c', (Config.load { workspace := w } (some path) none).1 = .ok c' ∧
          (settings "run.log").SameSections c' := by
  have hlog : references (Text.ofString "run.log") = [] := references_eq_nil (by decide)
  have hread : Config.ofValue {} (document "run.log") directory = .ok (settings "run.log") := by
    refine ofValue_document (expandText_eq_self {} hlog) ?_
    rw [hlog]
    exact List.forall_mem_nil _
  have hplain : (settings "run.log").IsPlain := by
    have hnone : ∀ t ∈ (settings "run.log").toValue.texts, dollar ∉ t := by decide
    refine ⟨fun t ht => references_eq_nil (hnone t ht), ?_⟩
    rintro p ⟨⟩
    rfl
  rcases exists_save "run.log" with ⟨w, hsave⟩
  have hload := Config.load_save (s := {}) hread hsave rfl rfl none
  exact ⟨hread, w, hsave, hload.2.1.2 (hload.2.2 hplain)⟩

/-- A reference in the default of a reference is left in place when the settings are read.  When
they have been saved and loaded, it has been replaced, too. -/
theorem load_save_nested :
    Config.ofValue {} (document "$\x7bX:$\x7bY\x7d\x7d") directory =
        .ok (settings "$\x7bY\x7d") ∧
      ∃ w, (settings "$\x7bY\x7d").save {} path = .ok w ∧
        ¬ ∃ c', (Config.load { workspace := w } (some path) none).1 = .ok c' ∧
          (settings "$\x7bY\x7d").SameSections c' := by
  -- The reference to `X` ends at the first closing brace.
  have houter : referenceAt? (Text.ofString "$\x7bX:$\x7bY\x7d\x7d") =
      some (⟨Text.ofString "X", Text.ofString "$\x7bY"⟩, [closeBrace]) := by decide
  have hbrace : references [closeBrace] = [] := references_eq_nil (by decide)
  have hread : Config.ofValue {} (document "$\x7bX:$\x7bY\x7d\x7d") directory =
      .ok (settings "$\x7bY\x7d") := by
    refine ofValue_document ?_ ?_
    · rw [expandText_of_reference {} houter, expandText_eq_self {} hbrace]
      decide
    · rw [references_of_reference houter, hbrace]
      decide
  rcases exists_save "$\x7bY\x7d" with ⟨w, hsave⟩
  refine ⟨hread, w, hsave, ?_⟩
  rintro ⟨c', hload, hsame⟩
  have hreread := ((Config.load_eq_ok_iff_of_save (s := {}) (Config.ofValue_eq_ok_iff.1 hread).1
    hsave rfl rfl none c').1 hload).1
  have hinner : referenceAt? (Text.ofString "$\x7bY\x7d") = some (⟨Text.ofString "Y", []⟩, []) := by
    decide
  have hempty : expandText {} (Text.ofString "$\x7bY\x7d") = [] := by
    rw [expandText_of_reference {} hinner, expandText_eq_self {} (references_eq_nil (by decide))]
    decide
  have hfile : (Value.text "$\x7bY\x7d").expand {} = .text "$\x7bY\x7d" :=
    congrArg LoggingSettings.file (hsame.isReread_iff.1 hreread).logging.symm
  have hnothing : Value.ofText [] = .text "" := Value.ofText_ofString ""
  rw [Value.expand, hempty, hnothing] at hfile
  exact absurd (Value.text.inj hfile) (by decide)

end SavedSettings

end SourceOutline
