import SourceOutline.Proofs.Config.Acceptance

/-!
# Refusal — why a value gives no settings

Most that can be wrong with a value breaks a rule for settings.  What is left is told by its cause:
an integer that is too long for the message that should show it, a path for which there is no home
directory, a variable that the system cannot be asked for, or a value that is no mapping.
-/

namespace SourceOutline

variable {env : Environment}

/-! ## Paths -/

theorem user?_ne_none_of_readPath {t : Text} {why : Failure} (h : readPath env t = .error why) :
    (TextPath.ofText t).user? ≠ none := by
  intro hplain
  rw [readPath, TextPath.expandHome, hplain] at h
  cases h

/-- Why a part of the settings cannot be read: a rule is broken, a message would have to show an
integer with too many digits, or there is no home directory for a path. -/
inductive PartRefusal (env : Environment) (shown : List Int) (directory : Option Value) :
    Failure → Prop
  | rule (why : ConfigFailure) : PartRefusal env shown directory (.config why)
  | unshowable (n : Int) (hmem : n ∈ shown) (hlong : isShowable n = false) :
    PartRefusal env shown directory (.fault .badValue)
  | homeless (v : Value) (t : Text) (why : Failure) (hgiven : directory = some v)
    (htext : v.toText? = some t) (hread : readPath env t = .error why) :
    PartRefusal env shown directory why

def Value.ShowsAmong (shown : List Int) (v : Value) : Prop :=
  ∀ n ∈ v.integers, SourceOutline.isShowable n = false → n ∈ shown

namespace Value.ShowsAmong

variable {shown : List Int} {v u : Value}

theorem of_isShowable (h : v.isShowable = true) : v.ShowsAmong shown := by
  intro n hn hlong
  rw [List.all_eq_true.1 h n hn] at hlong
  cases hlong

theorem getD (h : v.ShowsAmong shown) {key : String} {usual : Value}
    (husual : usual.isShowable = true) : ((v.get? key).getD usual).ShowsAmong shown := by
  cases hget : v.get? key with
  | none => exact of_isShowable husual
  | some found => exact fun n hn => h n (integers_subset_of_get? hget hn)

theorem ofNumber (h : v.ShowsAmong shown) {x : Number} (hx : v.number? = some x) :
    (Value.ofNumber x).ShowsAmong shown := by
  cases v with
  | bool b => cases hx; exact h
  | int n => cases hx; exact h
  | float d => cases hx; exact h
  | _ => cases hx

end Value.ShowsAmong

section Parts

variable {shown : List Int} {directory : Option Value} {v : Value}

theorem partRefusal_refusal (h : v.ShowsAmong shown) (why : ConfigFailure) :
    PartRefusal env shown directory (refusal v why) := by
  unfold refusal
  split
  · exact .rule why
  · rename_i hlong
    -- The message would show the whole value, and with it an integer that is too long.
    rcases List.all_eq_false.1 (Bool.eq_false_iff.2 hlong) with ⟨n, hn, hlong⟩
    rw [Bool.not_eq_true] at hlong
    exact .unshowable n (h n hn hlong) hlong

theorem failsOnlyBy_parseBool (name : String) (h : v.ShowsAmong shown) :
    FailsOnlyBy (PartRefusal env shown directory) (parseBool name v) := by
  unfold parseBool
  split
  · exact .ok _
  · dsimp only
    split
    · exact .ok _
    · split
      · exact .ok _
      · exact .error (partRefusal_refusal h _)
  · exact .error (partRefusal_refusal h _)

theorem failsOnlyBy_readNumber (v : Value) :
    FailsOnlyBy (PartRefusal env shown directory) (readNumber v) := by
  unfold readNumber
  split
  · exact .ok _
  · exact .error (.rule _)

theorem failsOnlyBy_require {bad : Failure → Prop} {why : Failure} (condition : Bool)
    (h : bad why) : FailsOnlyBy bad (require condition why) := by
  unfold require
  split
  · exact .ok _
  · exact .error h

theorem failsOnlyBy_readLevel (h : v.ShowsAmong shown) :
    FailsOnlyBy (PartRefusal env shown directory) (readLevel v) := by
  unfold readLevel
  split
  · dsimp only
    split
    · exact .ok _
    · exact .error (.rule _)
  · exact .error (.rule _)
  · exact .error (partRefusal_refusal h _)

theorem failsOnlyBy_readDirectory (directory : Option Value) :
    FailsOnlyBy (PartRefusal env shown directory) (readDirectory env directory) := by
  unfold readDirectory
  split
  · exact .ok _
  · exact .ok _
  · rename_i v _
    cases htext : v.toText? with
    | none => exact .error (.rule _)
    | some t =>
        apply FailsOnlyBy.map
        intro why hread
        exact .homeless v t why rfl htext hread

theorem failsOnlyBy_readThreshold (v : Value) (key : String) (usual : Number) :
    FailsOnlyBy (PartRefusal env shown directory) (readThreshold v key usual) := by
  unfold readThreshold
  split
  · exact failsOnlyBy_readNumber _
  · exact .ok _

theorem failsOnlyBy_readSection (model : String) (v : Option Value) :
    FailsOnlyBy (PartRefusal env shown directory) (readSection model v) := by
  unfold readSection
  split
  · exact .ok _
  · split
    · exact .ok _
    · split
      · exact .ok _
      · exact .error (.rule _)

end Parts

/-! ## Sections -/

section Sections

variable {shown : List Int} {directory : Option Value} {v : Value}

theorem ChunkingSettings.failsOnlyBy_ofValue (h : v.ShowsAmong shown) :
    FailsOnlyBy (PartRefusal env shown (v.get? "languages_dir"))
      (ChunkingSettings.ofValue env v) := by
  unfold ChunkingSettings.ofValue
  have hinterval : (Value.int 1024).isShowable = true := by decide +kernel
  refine (failsOnlyBy_parseBool _ (h.getD rfl)).bind fun _ _ => ?_
  refine (failsOnlyBy_parseBool _ (h.getD rfl)).bind fun _ _ => ?_
  refine (failsOnlyBy_readNumber _).bind fun interval hnumber => ?_
  -- The message shows the number as it was read, which has the integers of the value.
  have hshown := (h.getD hinterval).ofNumber (readNumber_eq_ok_iff.1 hnumber)
  refine (failsOnlyBy_require _ (partRefusal_refusal hshown _)).bind fun _ _ => ?_
  refine (failsOnlyBy_readDirectory _).bind fun _ _ => ?_
  exact .ok _

theorem Thresholds.failsOnlyBy_ofValue (h : v.ShowsAmong shown) :
    FailsOnlyBy (PartRefusal env shown directory) (Thresholds.ofValue v) := by
  unfold Thresholds.ofValue
  refine (failsOnlyBy_readThreshold _ _ _).bind fun _ _ => ?_
  refine (failsOnlyBy_require _ (.rule _)).bind fun _ _ => ?_
  refine (failsOnlyBy_readThreshold _ _ _).bind fun _ _ => ?_
  refine (failsOnlyBy_require _ (.rule _)).bind fun _ _ => ?_
  refine (failsOnlyBy_readThreshold _ _ _).bind fun ratio hratio => ?_
  have hshown := (h.getD rfl).ofNumber (readThreshold_eq_ok_iff.1 hratio)
  refine (failsOnlyBy_require _ (partRefusal_refusal hshown _)).bind fun _ _ => ?_
  refine (failsOnlyBy_readThreshold _ _ _).bind fun _ _ => ?_
  refine (failsOnlyBy_require _ (.rule _)).bind fun _ _ => ?_
  exact .ok _

theorem LoggingSettings.failsOnlyBy_ofValue (h : v.ShowsAmong shown) :
    FailsOnlyBy (PartRefusal env shown directory) (LoggingSettings.ofValue v) := by
  unfold LoggingSettings.ofValue
  refine (failsOnlyBy_readLevel (h.getD rfl)).bind fun _ _ => ?_
  exact .ok _

theorem readSection_showsAmong {model key : String} {found : Value} (h : v.ShowsAmong shown)
    (hread : readSection model (v.get? key) = .ok found) : found.ShowsAmong shown := by
  unfold readSection at hread
  split at hread
  · cases hread
    exact Value.ShowsAmong.of_isShowable rfl
  · rename_i u hget
    split at hread
    · cases hread
      exact Value.ShowsAmong.of_isShowable rfl
    · split at hread
      · cases hread
        exact fun n hn => h n (Value.integers_subset_of_get? hget hn)
      · cases hread

end Sections

/-! ## All settings -/

/-- Why a value gives no settings: it is no mapping, it is nested too deep, it refers to a variable
by a name that the system cannot be asked for, or one of its parts is refused. -/
inductive Config.Refusal (env : Environment) (v : Value) : Failure → Prop
  | notMapping (h : ∀ entries, v ≠ .map entries) : Refusal env v (.fault .noAttribute)
  | tooDeep (h : env.levels < v.depth) : Refusal env v (.fault .tooDeep)
  | unencodable (h : v.asksUnencodable = true) : Refusal env v (.fault .unencodable)
  | part {why : Failure}
    (h : PartRefusal env v.integers ((v.expand env).at? "chunking" "languages_dir") why) :
    Refusal env v why

theorem failsOnlyBy_section {α : Type} {shown : List Int} {directory : Option Value}
    {read : Value → Except Failure α} {v : Value} (model : String) {part : String}
    (hshown : v.ShowsAmong shown)
    (hread : ∀ found : Value, found.ShowsAmong shown → (∀ key, found.get? key = v.at? part key) →
      FailsOnlyBy (PartRefusal env shown directory) (read found)) :
    FailsOnlyBy (PartRefusal env shown directory) ((readSection model (v.get? part)).bind read) :=
  FailsOnlyBy.bind (failsOnlyBy_readSection _ _) fun found hfound =>
    hread found (readSection_showsAmong hshown hfound) (readSection_get? hfound)

/-- All that can keep a value from giving settings. -/
theorem Config.failsOnlyBy_ofValue (env : Environment) (v : Value) (basePath : FilePath) :
    FailsOnlyBy (Config.Refusal env v.orEmpty) (Config.ofValue env v basePath) := by
  unfold Config.ofValue
  simp only [← Value.orEmpty.eq_1]
  cases hwalk : v.orEmpty.replaceVariables env with
  | error why =>
      rcases Value.causes_of_replaceVariables hwalk with ⟨rfl, hdeep⟩ | ⟨rfl, hasks⟩
      · exact .error (.tooDeep hdeep)
      · exact .error (.unencodable hasks)
  | ok data =>
      rcases Value.replaceVariables_eq_ok_iff.1 hwalk with ⟨-, -, rfl⟩
      simp only [Except.mapError_ok, Except.ok_bind]
      -- Replacing references touches no integer.
      have hshown : (v.orEmpty.expand env).ShowsAmong v.orEmpty.integers := by
        intro n hn _
        rwa [Value.integers_expand] at hn
      split
      · refine FailsOnlyBy.mono ?_ fun _ h => Config.Refusal.part h
        refine (failsOnlyBy_section _ hshown fun found hfound hget => ?_).bind fun _ _ => ?_
        · rw [← hget]
          exact ChunkingSettings.failsOnlyBy_ofValue hfound
        refine (failsOnlyBy_section _ hshown fun found hfound _ => ?_).bind fun _ _ => ?_
        · exact Thresholds.failsOnlyBy_ofValue hfound
        refine (failsOnlyBy_section _ hshown fun found hfound _ => ?_).bind fun _ _ => ?_
        · exact LoggingSettings.failsOnlyBy_ofValue hfound
        exact .ok _
      · rename_i hother
        refine .error (.notMapping ?_)
        intro entries hmap
        rw [hmap] at hother
        exact hother _ rfl

end SourceOutline
