import SourceOutline.Log.Hub
import SourceOutline.Proofs.Entries
import SourceOutline.Proofs.FileTree.Writing

/-!
# Configured — loggers follow the latest configuration

Views are handed out, bound and kept, while the hub is configured again and again.

* `Hub.Usage.run_follows_latest` — what the channels of handed out loggers are after any requests.
-/

namespace SourceOutline

/-! ## Settings -/

namespace Settings

def named (level : String) (file : Option FilePath) (console : Bool) : Settings where
  threshold := Threshold.ofName level
  file := file
  console := console

theorem openFile_again {s : Settings} {w w' : Workspace} (h : s.openFile w = .ok w') :
    s.openFile w' = .ok w' := by
  unfold openFile at h ⊢
  split at h
  · rfl
  · exact Workspace.touch_touch h

end Settings

theorem Threshold.ofName_eq_of_ofName? {level : String} {severity : Severity}
    (h : Severity.ofName? level = some severity) :
    Threshold.ofName level = .ok (.atLeast severity) := by
  unfold Threshold.ofName
  split
  · rename_i hlevel
    simp [Severity.ofName?, hlevel] at h
  · rename_i hlevel
    simp [Severity.ofName?, hlevel] at h
  · rename_i hlevel
    simp [Severity.ofName?, hlevel] at h
  · rw [h, Option.getD_some]

namespace Channel

variable {c c' : Channel} {s : Settings} {w w' : Workspace}

/-- A channel has the threshold and the sinks that settings ask for. -/
def IsFrom (c : Channel) (s : Settings) : Prop :=
  ∃ threshold, s.threshold = .ok threshold ∧ c = s.channel threshold

theorem IsFrom.isReady (h : c.IsFrom s) : c.isReady = true := by
  rcases h with ⟨threshold, -, rfl⟩
  rfl

theorem of_setUp_eq_ok (h : c.setUp s w = (.ok w', c')) : c'.IsFrom s ∧ s.openFile w = .ok w' := by
  unfold setUp at h
  split at h
  · cases h
  · rename_i threshold hthreshold
    split at h
    · cases h
    · rename_i after hopen
      cases h
      exact ⟨⟨threshold, hthreshold, rfl⟩, hopen⟩

theorem of_setUp_eq_error {why : Fault} (h : c.setUp s w = (.error why, c')) :
    c'.isReady = c.isReady ∧ (s.threshold = .error why ∨ s.openFile w = .error why) := by
  unfold setUp at h
  split at h
  · rename_i reason hthreshold
    cases h
    exact ⟨rfl, .inl hthreshold⟩
  · split at h
    · rename_i reason hopen
      cases h
      exact ⟨rfl, .inr hopen⟩
    · cases h

theorem isReady_setUpAgain (c : Channel) (s : Settings) (w : Workspace) :
    (c.setUpAgain s w).2.isReady = c.isReady := by
  unfold setUpAgain
  split
  · rename_i hready
    rcases hsetUp : c.setUp s w with ⟨made, c'⟩
    cases made with
    | error why => exact (of_setUp_eq_error hsetUp).1
    | ok w' => rw [(of_setUp_eq_ok hsetUp).1.isReady, hready]
  · rfl

theorem of_setUpAgain_eq_ok (h : c.setUpAgain s w = (.ok w', c')) :
    (c'.IsFrom s ∧ s.openFile w = .ok w') ∨ (c.isReady = false ∧ c' = c ∧ w' = w) := by
  unfold setUpAgain at h
  split at h
  · exact .inl (of_setUp_eq_ok h)
  · rename_i hready
    cases h
    exact .inr ⟨Bool.eq_false_iff.2 hready, rfl, rfl⟩

end Channel

namespace View

theorem of_bind_eq_ok {v bound : View} {fields : Fields} (h : v.bind fields = .ok bound) :
    bound.name = v.name ∧ bound.isLogger = false := by
  unfold bind at h
  split at h
  · cases h
  · cases h
    exact ⟨rfl, rfl⟩

end View

/-! ## Hubs -/

namespace Hub

variable {h : Hub} {name : String} {s : Settings} {channels after : List (String × Channel)}
variable {w w' : Workspace}

/-- There is a channel of this name, and it has been set up. -/
def IsReady (h : Hub) (name : String) : Prop :=
  ∃ c, h.channel? name = some c ∧ c.isReady = true

theorem isReady_putEntry_iff {h' : Hub} {c : Channel} {key : String}
    (hput : h'.channels = putEntry name c h.channels) :
    h'.IsReady key ↔ if key = name then c.isReady = true else h.IsReady key := by
  rw [IsReady, channel?, hput, lookup_putEntry]
  split
  · simp
  · rfl

theorem IsReady.putEntry {h' : Hub} {c : Channel} {key : String} (hready : h.IsReady key)
    (hother : ¬ h.IsReady name) (hput : h'.channels = putEntry name c h.channels) :
    h'.IsReady key := by
  have hkey : key ≠ name := by
    rintro rfl
    exact hother hready
  rwa [isReady_putEntry_iff hput, if_neg hkey]

/-! ### Asking for a logger -/

/-- How asking for a logger can go, and the hub afterwards. -/
inductive Gets (h : Hub) (name : String) : Except Fault View × Hub → Prop where
  | found :
      h.IsReady name → Gets h name (.ok { name }, h)
  | made (c : Channel) (workspace : Workspace) :
      ¬ h.IsReady name → c.IsFrom h.settings → h.settings.openFile h.workspace = .ok workspace →
        Gets h name
          (.ok { name }, { h with channels := putEntry name c h.channels, workspace })
  | failed (c : Channel) (why : Fault) :
      ¬ h.IsReady name → c.isReady = false →
      (h.settings.threshold = .error why ∨ h.settings.openFile h.workspace = .error why) →
        Gets h name (.error why, { h with channels := putEntry name c h.channels })

theorem gets (h : Hub) (name : String) : h.Gets name (h.get name none) := by
  unfold get
  by_cases hready : ((h.channel? name).getD {}).isReady = true
  · rw [if_pos hready]
    cases hchannel : h.channel? name with
    | none =>
        rw [hchannel] at hready
        cases hready
    | some c =>
        rw [hchannel] at hready
        exact .found ⟨c, hchannel, hready⟩
  · -- The channel is set up now, which may fail.
    have hother : ¬ h.IsReady name := by
      rintro ⟨c, hchannel, hc⟩
      rw [hchannel] at hready
      exact hready hc
    rw [if_neg hready, Option.getD_none]
    rcases hsetUp : ((h.channel? name).getD {}).setUp h.settings h.workspace with ⟨made, c⟩
    cases made with
    | error why =>
        rcases Channel.of_setUp_eq_error hsetUp with ⟨hc, hreason⟩
        exact .failed c why hother (hc.trans (Bool.eq_false_iff.2 hready)) hreason
    | ok workspace =>
        rcases Channel.of_setUp_eq_ok hsetUp with ⟨hfrom, hopen⟩
        exact .made c workspace hother hfrom hopen

theorem get_of_isReady (hready : h.IsReady name) : h.get name none = (.ok { name }, h) := by
  have hgets := h.gets name
  cases hget : h.get name none with
  | mk result next =>
      rw [hget] at hgets
      cases hgets with
      | found _ => rfl
      | made _ _ hother _ _ => exact absurd hready hother
      | failed _ _ hother _ _ => exact absurd hready hother

/-- If nothing is wrong with the settings, there is a logger for every name. -/
theorem get_of_openFile {threshold : Threshold} (hthreshold : h.settings.threshold = .ok threshold)
    (hopen : h.settings.openFile h.workspace = .ok w) (name : String) :
    (h.get name none).1 = .ok { name } := by
  have hgets := h.gets name
  cases hget : h.get name none with
  | mk result next =>
      rw [hget] at hgets
      cases hgets with
      | found _ => rfl
      | made _ _ _ _ _ => rfl
      | failed _ _ _ _ hreason =>
          rw [hthreshold, hopen] at hreason
          rcases hreason with hreason | hreason <;> cases hreason

/-! ### Configuring -/

theorem isReady_lookup_setUpAgain (s : Settings) (channels : List (String × Channel))
    (w : Workspace) (name : String) :
    ((setUpAgain s channels w).2.lookup name).map Channel.isReady =
      (channels.lookup name).map Channel.isReady := by
  induction channels generalizing w with
  | nil => rfl
  | cons e rest ih =>
      rcases e with ⟨n, c⟩
      have hready := c.isReady_setUpAgain s w
      rcases hone : c.setUpAgain s w with ⟨made, c'⟩
      rw [hone] at hready
      cases made with
      | error why =>
          simp only [setUpAgain, hone, List.lookup_cons]
          cases name == n with
          | true => exact congrArg some hready
          | false => rfl
      | ok next =>
          simp only [setUpAgain, hone, List.lookup_cons]
          cases name == n with
          | true => exact congrArg some hready
          | false => exact ih next

theorem of_setUpAgain_cons_eq_ok {c : Channel} {rest : List (String × Channel)}
    (h : setUpAgain s ((name, c) :: rest) w = (.ok w', after)) :
    ∃ next c' others, c.setUpAgain s w = (.ok next, c') ∧
      setUpAgain s rest next = (.ok w', others) ∧ after = (name, c') :: others := by
  rcases hone : c.setUpAgain s w with ⟨made, c'⟩
  cases made with
  | error why =>
      simp only [setUpAgain, hone] at h
      cases h
  | ok next =>
      simp only [setUpAgain, hone] at h
      rcases hrest : setUpAgain s rest next with ⟨last, others⟩
      rw [hrest] at h
      cases h
      exact ⟨next, c', others, rfl, hrest, rfl⟩

theorem isFrom_of_setUpAgain_eq_ok {c : Channel} (h : setUpAgain s channels w = (.ok w', after))
    (hlookup : after.lookup name = some c) (hready : c.isReady = true) : c.IsFrom s := by
  induction channels generalizing w after with
  | nil =>
      cases h
      cases hlookup
  | cons e rest ih =>
      rcases of_setUpAgain_cons_eq_ok h with ⟨next, c', others, hone, hrest, rfl⟩
      rw [List.lookup_cons] at hlookup
      cases hname : name == e.1 with
      | true =>
          rw [hname] at hlookup
          cases hlookup
          rcases Channel.of_setUpAgain_eq_ok hone with ⟨hfrom, -⟩ | ⟨hnot, rfl, -⟩
          · exact hfrom
          · rw [hnot] at hready
            cases hready
      | false =>
          rw [hname] at hlookup
          exact ih hrest hlookup

theorem openFile_of_setUpAgain_eq_ok (h : setUpAgain s channels w = (.ok w', after)) :
    s.openFile w' = .ok w' ∨ (w' = w ∧ ∀ e ∈ channels, e.2.isReady = false) := by
  induction channels generalizing w after with
  | nil =>
      cases h
      exact .inr ⟨rfl, by simp⟩
  | cons e rest ih =>
      rcases of_setUpAgain_cons_eq_ok h with ⟨next, c', others, hone, hrest, rfl⟩
      rcases ih hrest with hopen | ⟨rfl, hnone⟩
      · exact .inl hopen
      · rcases Channel.of_setUpAgain_eq_ok hone with ⟨-, hopen⟩ | ⟨hnot, -, rfl⟩
        · exact .inl (Settings.openFile_again hopen)
        · exact .inr ⟨rfl, List.forall_mem_cons.2 ⟨hnot, hnone⟩⟩

theorem settings_configure (h : Hub) (s : Settings) : (h.configure s).2.settings = s := by
  unfold configure
  rcases setUpAgain s h.channels h.workspace with ⟨made, channels⟩
  cases made <;> rfl

theorem channels_configure (h : Hub) (s : Settings) :
    (h.configure s).2.channels = (setUpAgain s h.channels h.workspace).2 := by
  unfold configure
  rcases setUpAgain s h.channels h.workspace with ⟨made, channels⟩
  cases made <;> rfl

theorem isReady_configure_iff (h : Hub) (s : Settings) (name : String) :
    (h.configure s).2.IsReady name ↔ h.IsReady name := by
  have hlookup := isReady_lookup_setUpAgain s h.channels h.workspace name
  rw [← channels_configure] at hlookup
  simp only [IsReady, channel?, ← Option.map_eq_some_iff, hlookup]

theorem of_configure_eq_ok (hok : (h.configure s).1 = .ok ()) :
    setUpAgain s h.channels h.workspace =
      (.ok (h.configure s).2.workspace, (h.configure s).2.channels) := by
  rcases hagain : setUpAgain s h.channels h.workspace with ⟨made, after⟩
  cases made with
  | error why =>
      simp only [configure, hagain] at hok
      cases hok
  | ok w =>
      simp only [configure, hagain]

theorem isFrom_of_configure_eq_ok {c : Channel} (hok : (h.configure s).1 = .ok ())
    (hchannel : (h.configure s).2.channel? name = some c) (hready : c.isReady = true) :
    c.IsFrom s :=
  isFrom_of_setUpAgain_eq_ok (of_configure_eq_ok hok) hchannel hready

theorem openFile_of_configure_eq_ok (hok : (h.configure s).1 = .ok ()) (hsome : h.IsReady name) :
    s.openFile (h.configure s).2.workspace = .ok (h.configure s).2.workspace := by
  rcases openFile_of_setUpAgain_eq_ok (of_configure_eq_ok hok) with hopen | ⟨-, hnone⟩
  · exact hopen
  · rcases hsome with ⟨c, hchannel, hc⟩
    have hnot := hnone (name, c) (mem_of_lookup_eq_some hchannel)
    rw [hc] at hnot
    cases hnot

/-! ### What is let through -/

theorem enables_iff {c : Channel} {severity : Severity} (hchannel : h.channel? name = some c)
    (hthreshold : c.threshold = .atLeast severity) (rank : Int) :
    h.enables name rank = true ↔ (severity.rank : Int) ≤ rank := by
  have hleast : h.leastSeverity name = severity := by
    simp [leastSeverity, line, hchannel, hthreshold, Threshold.severity?]
  have hpositive : 0 < severity.rank := by
    cases severity <;> decide
  simp only [enables, hleast, Bool.and_eq_true, decide_eq_true_eq]
  omega

/-! ## Usage -/

/-- What can be asked of a hub: the logger of a name, new settings, and a view with further fields
of one that was handed out before. -/
inductive Request where
  | get (name : String)
  | configure (level : String) (file : Option FilePath) (console : Bool)
  | bind (index : Nat) (fields : Fields)

/-- A hub in use, with the views that were handed out or bound, what was asked of it when it was
configured most recently, and whether that failed. -/
structure Usage where
  hub : Hub
  views : List View := []
  level : String := "WARNING"
  file : Option FilePath := none
  console : Bool := true
  ending : Except Fault Unit := .ok ()

namespace Usage

/-- A hub that nobody has asked for a logger. -/
def start (w : Workspace) : Usage where
  hub := { workspace := w }

def latest (u : Usage) : Settings :=
  .named u.level u.file u.console

def perform (u : Usage) : Request → Usage
  | .get name =>
    match u.hub.get name none with
    | (.ok v, hub) => { u with hub, views := u.views ++ [v] }
    | (.error _, hub) => { u with hub }
  | .configure level file console =>
    let (ending, hub) := u.hub.configure (.named level file console)
    { u with hub, level, file, console, ending }
  | .bind index fields =>
    match u.views[index]? with
    | none => u
    | some v =>
      match v.bind fields with
      | .ok bound => { u with views := u.views ++ [bound] }
      | .error _ => u

def run (u : Usage) (requests : List Request) : Usage :=
  requests.foldl perform u

/-- What holds of a hub in use: every view has its channel, and unless the latest configuration
failed, the channels are as it asks.  A log file is opened for the first channel only, so it may be
unusable as long as nothing was handed out. -/
structure IsKept (u : Usage) : Prop where
  settings_eq : u.hub.settings = u.latest
  ready : ∀ v ∈ u.views, u.hub.IsReady v.name
  logger_eq : ∀ v ∈ u.views, v.isLogger = true → v = { name := v.name }
  follows : u.ending = .ok () → ∀ name c, u.hub.channel? name = some c → c.isReady = true →
    c.IsFrom u.latest
  opened : u.ending = .ok () → ∀ name, u.hub.IsReady name →
    u.latest.openFile u.hub.workspace = .ok u.hub.workspace

variable {u : Usage}

theorem latest_start (w : Workspace) : (start w).latest = {} := by
  have hlevel : Threshold.ofName "WARNING" = .ok (.atLeast .warning) :=
    Threshold.ofName_eq_of_ofName? (by decide +kernel)
  simp [start, latest, Settings.named, hlevel]

theorem isKept_start (w : Workspace) : (start w).IsKept where
  settings_eq := (latest_start w).symm
  ready := by simp [start]
  logger_eq := by simp [start]
  follows := by
    intro _ name c hchannel _
    cases hchannel
  opened := by
    rintro _ name ⟨c, hchannel, -⟩
    cases hchannel

theorem IsKept.bind (h : u.IsKept) (index : Nat) (fields : Fields) :
    (u.perform (.bind index fields)).IsKept := by
  unfold perform
  dsimp only
  split
  · exact h
  · rename_i v hv
    split
    · rename_i bound hbound
      rcases View.of_bind_eq_ok hbound with ⟨hname, hlogger⟩
      refine
        { h with
            ready := List.forall_mem_append.2 ⟨h.ready, List.forall_mem_singleton.2 ?_⟩
            logger_eq := List.forall_mem_append.2 ⟨h.logger_eq, List.forall_mem_singleton.2 ?_⟩ }
      · rw [hname]
        exact h.ready v (List.mem_of_getElem? hv)
      · intro htrue
        rw [hlogger] at htrue
        cases htrue
    · exact h

theorem IsKept.get (h : u.IsKept) (name : String) : (u.perform (.get name)).IsKept := by
  have hgets := u.hub.gets name
  unfold perform
  dsimp only
  rcases hget : u.hub.get name none with ⟨result, hub⟩
  rw [hget] at hgets
  cases hgets with
  | found hready =>
      exact
        { h with
            ready := List.forall_mem_append.2 ⟨h.ready, List.forall_mem_singleton.2 hready⟩
            logger_eq :=
              List.forall_mem_append.2 ⟨h.logger_eq, List.forall_mem_singleton.2 fun _ => rfl⟩ }
  | made c workspace hother hfrom hopen =>
      -- A new channel is set up from the hub's settings, those of the latest configuration.
      rw [h.settings_eq] at hfrom hopen
      refine
        { settings_eq := h.settings_eq
          ready := List.forall_mem_append.2 ⟨?_, List.forall_mem_singleton.2 ?_⟩
          logger_eq :=
            List.forall_mem_append.2 ⟨h.logger_eq, List.forall_mem_singleton.2 fun _ => rfl⟩
          follows := ?_
          opened := fun _ _ _ => Settings.openFile_again hopen }
      · exact fun v hv => (h.ready v hv).putEntry hother rfl
      · rw [isReady_putEntry_iff rfl, if_pos rfl]
        exact hfrom.isReady
      · intro hok key d hchannel hd
        rw [channel?, lookup_putEntry] at hchannel
        split at hchannel
        · cases hchannel
          exact hfrom
        · exact h.follows hok key d hchannel hd
  | failed c why hother hc _ =>
      -- The channel that is left behind is not ready, so no view belongs to it.
      refine { h with ready := ?_, follows := ?_, opened := ?_ }
      · exact fun v hv => (h.ready v hv).putEntry hother rfl
      · intro hok key d hchannel hd
        rw [channel?, lookup_putEntry] at hchannel
        split at hchannel
        · cases hchannel
          rw [hc] at hd
          cases hd
        · exact h.follows hok key d hchannel hd
      · intro hok key hkey
        rw [isReady_putEntry_iff rfl] at hkey
        split at hkey
        · rw [hc] at hkey
          cases hkey
        · exact h.opened hok key hkey

theorem IsKept.configure (h : u.IsKept) (level : String) (file : Option FilePath)
    (console : Bool) : (u.perform (.configure level file console)).IsKept where
  settings_eq := settings_configure u.hub (.named level file console)
  ready v hv := (isReady_configure_iff u.hub _ v.name).2 (h.ready v hv)
  logger_eq := h.logger_eq
  follows hok _ _ := isFrom_of_configure_eq_ok hok
  opened hok name hname :=
    openFile_of_configure_eq_ok hok ((isReady_configure_iff u.hub _ name).1 hname)

/-- Every request preserves what holds of a hub in use. -/
theorem IsKept.perform (h : u.IsKept) (request : Request) : (u.perform request).IsKept := by
  cases request with
  | get name => exact h.get name
  | configure level file console => exact h.configure level file console
  | bind index fields => exact h.bind index fields

theorem IsKept.run (h : u.IsKept) (requests : List Request) : (u.run requests).IsKept := by
  induction requests generalizing u with
  | nil => exact h
  | cons request rest ih => exact ih (h.perform request)

variable {v : View} {severity : Severity}

theorem IsKept.get_eq (h : u.IsKept) (hv : v ∈ u.views) (hlogger : v.isLogger = true) :
    u.hub.get v.name none = (.ok v, u.hub) := by
  have hagain := get_of_isReady (h.ready v hv)
  rwa [← h.logger_eq v hv hlogger] at hagain

theorem threshold_latest (hlevel : Severity.ofName? u.level = some severity) :
    u.latest.threshold = .ok (.atLeast severity) := by
  rw [latest, Settings.named, Threshold.ofName_eq_of_ofName? hlevel]

/-- If the latest configuration did not fail and a logger was handed out, there is one for every
name. -/
theorem IsKept.exists_logger (h : u.IsKept) (hok : u.ending = .ok ())
    (hlevel : Severity.ofName? u.level = some severity) (hv : v ∈ u.views) (name : String) :
    (u.hub.get name none).1 = .ok { name } := by
  have hthreshold := threshold_latest hlevel
  have hopen := h.opened hok v.name (h.ready v hv)
  rw [← h.settings_eq] at hthreshold hopen
  exact get_of_openFile hthreshold hopen name

theorem IsKept.channel?_eq (h : u.IsKept) (hok : u.ending = .ok ())
    (hlevel : Severity.ofName? u.level = some severity) (hv : v ∈ u.views) :
    u.hub.channel? v.name = some (u.latest.channel (.atLeast severity)) := by
  rcases h.ready v hv with ⟨c, hchannel, hc⟩
  rcases h.follows hok v.name c hchannel hc with ⟨threshold, hfrom, rfl⟩
  cases (threshold_latest hlevel).symm.trans hfrom
  exact hchannel

/-- However a hub is used, a logger that is asked for again is the one that was handed out, and
nothing changes.  If the latest configuration did not fail and its level names a severity, then every
logger that was handed out and every view that was bound, before or after, lets through what is at
least as grave as this severity, and its channel has exactly the sinks of that configuration; and
where there is such a view, there is a logger for every name. -/
theorem run_follows_latest (w : Workspace) (requests : List Request) :
    let u := (start w).run requests
    (∀ v ∈ u.views, v.isLogger = true → u.hub.get v.name none = (.ok v, u.hub)) ∧
    (u.ending = .ok () → ∀ severity, Severity.ofName? u.level = some severity → ∀ v ∈ u.views,
      (∀ rank : Int, u.hub.enables v.name rank = true ↔ (severity.rank : Int) ≤ rank) ∧
      u.hub.channel? v.name =
        some
          { threshold := .atLeast severity
            sinks :=
              (if u.console then [.console (.atLeast severity)] else []) ++
                u.file.toList.map fun path => .file path (.atLeast severity)
            isReady := true } ∧
      ∀ name, (u.hub.get name none).1 = .ok { name }) := by
  have hkept := (isKept_start w).run requests
  constructor
  · intro v hv hlogger
    exact hkept.get_eq hv hlogger
  · intro hok severity hlevel v hv
    have hchannel := hkept.channel?_eq hok hlevel hv
    exact ⟨enables_iff hchannel rfl, hchannel, hkept.exists_logger hok hlevel hv⟩

end Usage

end Hub

/-! ## A log file that cannot be made -/

namespace UnusableLogFile

/-- A logger is asked for and bound, and then the hub is configured for a file. -/
def usable : List Hub.Request :=
  [.get "t.a", .bind 0 [("path", .text "a.py")], .configure "DEBUG" (some { parts := ["x"] }) true,
    .get "t.b"]

/-- Later it is configured for a file that would lie below that file. -/
def unusable : List Hub.Request :=
  usable ++ [.configure "ERROR" (some { parts := ["x", "y"] }) true]

end UnusableLogFile

namespace Hub.Usage

open UnusableLogFile in
theorem run_follows_latest_usable :
    let u := (start {}).run usable
    u.ending = .ok () ∧ Severity.ofName? u.level = some .debug ∧
      u.views.map (fun v => (v.name, v.isLogger)) =
        [("t.a", true), ("t.a", false), ("t.b", true)] ∧
      ∀ v ∈ u.views,
        (∀ rank : Int, u.hub.enables v.name rank = true ↔ 10 ≤ rank) ∧
        u.hub.channel? v.name =
          some
            { threshold := .atLeast .debug
              sinks := [.console (.atLeast .debug), .file { parts := ["x"] } (.atLeast .debug)]
              isReady := true } ∧
        ∀ name, (u.hub.get name none).1 = .ok { name } := by
  intro u
  have hok : u.ending = .ok () := rfl
  have hlevel : Severity.ofName? u.level = some .debug := by decide +kernel
  exact ⟨hok, hlevel, by decide +kernel, (run_follows_latest {} usable).2 hok .debug hlevel⟩

open UnusableLogFile in
/-- After a configuration that failed, a logger may let through what it let through before. -/
theorem exists_not_following :
    let u := (start {}).run unusable
    Severity.ofName? u.level = some .error ∧
      ∃ v ∈ u.views, v.isLogger = true ∧
        ¬ ∀ rank : Int, u.hub.enables v.name rank = true ↔ (Severity.error.rank : Int) ≤ rank := by
  intro u
  have hlevel : Severity.ofName? u.level = some .error := by decide +kernel
  have hlogger : (u.views.any fun v => v.name == "t.b" && v.isLogger) = true := by decide +kernel
  have henables : u.hub.enables "t.b" 10 = true := by decide +kernel
  rcases List.any_eq_true.1 hlogger with ⟨v, hv, hboth⟩
  rcases Bool.and_eq_true_iff.1 hboth with ⟨hname, hv'⟩
  refine ⟨hlevel, v, hv, hv', fun hfollows => ?_⟩
  rw [beq_iff_eq.1 hname] at hfollows
  exact absurd ((hfollows 10).1 henables) (by decide)

end Hub.Usage

end SourceOutline
