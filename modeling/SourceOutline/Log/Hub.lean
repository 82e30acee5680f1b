import SourceOutline.Config.Load
import SourceOutline.Log.File
import SourceOutline.Log.Threshold
import SourceOutline.Registry

/-!
# Hub — named loggers that are configured together

A hub keeps one channel per name.  A channel has a threshold and sinks, and is set up from the hub's
settings when its name is first asked for, unless it is given settings of its own.  Configuring the
hub replaces its settings and sets up every channel again.

Settings can be unusable, by their level or by their file.  Then the hub has them all the same, but
setting up ends at the first channel, which may have the new threshold already.
-/

namespace SourceOutline

/-! ## Channels -/

/-- What a channel is set up from. -/
structure Settings where
  threshold : Except Fault Threshold := .ok (.atLeast .warning)
  file : Option FilePath := none
  console : Bool := true

inductive Sink where
  | console (threshold : Threshold)
  | file (path : FilePath) (threshold : Threshold)
  deriving DecidableEq

/-- What lies behind a name: the threshold, the sinks, and whether it has been set up. -/
structure Channel where
  threshold : Threshold := .inherited
  sinks : List Sink := []
  isReady : Bool := false
  deriving DecidableEq

namespace Settings

def sinks (s : Settings) (threshold : Threshold) : List Sink :=
  (if s.console then [.console threshold] else []) ++
    s.file.toList.map fun path => .file path threshold

def openFile (s : Settings) (w : Workspace) : Except Fault Workspace :=
  match s.file with
  | none => .ok w
  | some path => w.touch path

/-- A channel that was set up from settings; sinks that it had before are gone. -/
def channel (s : Settings) (threshold : Threshold) : Channel :=
  { threshold, sinks := s.sinks threshold, isReady := true }

end Settings

/-- A channel after an attempt to set it up, with the files then.  Where only the file fails, the
channel has its threshold already. -/
def Channel.setUp (c : Channel) (s : Settings) (w : Workspace) :
    Except Fault Workspace × Channel :=
  match s.threshold with
  | .error why => (.error why, c)
  | .ok threshold =>
    match s.openFile w with
    | .error why =>
      (.error why, { c with threshold, sinks := { s with file := none }.sinks threshold })
    | .ok after => (.ok after, s.channel threshold)

/-- A channel after it was set up again; one that has never been set up stays as it is. -/
def Channel.setUpAgain (c : Channel) (s : Settings) (w : Workspace) :
    Except Fault Workspace × Channel :=
  if c.isReady then c.setUp s w else (.ok w, c)

/-! ## Views -/

/-- A name and the fields that go with every record.  A view that was handed out under its name is
the logger itself; one that was bound is not. -/
structure View where
  name : String
  context : Fields := []
  isLogger : Bool := true

namespace View

/-- A view with further fields, none of which can have the name that stands for the view. -/
def bind (v : View) (fields : Fields) : Except Fault View :=
  if fields.any fun f => f.1 == "self" then .error .badType
  else .ok { v with context := v.context.merge fields, isLogger := false }

def same (v w : View) : Bool :=
  v.isLogger && w.isLogger && v.name == w.name

end View

/-! ## Hub -/

/-- The settings for new channels, the channels by name, and the files.  There is no channel until
someone asks for one. -/
structure Hub where
  settings : Settings := {}
  channels : List (String × Channel) := []
  workspace : Workspace := {}

namespace Hub

def channel? (h : Hub) (name : String) : Option Channel :=
  h.channels.lookup name

/-- The logger of a name.  Its channel is set up now if that has not been done: from settings of its
own if they are given, else from those of the hub. -/
def get (h : Hub) (name : String) (own : Option Settings) : Except Fault View × Hub :=
  let before := (h.channel? name).getD {}
  if before.isReady then (.ok { name }, h)
  else
    let (made, after) := before.setUp (own.getD h.settings) h.workspace
    let next := { h with channels := putEntry name after h.channels }
    match made with
    | .error why => (.error why, next)
    | .ok workspace => (.ok { name }, { next with workspace })

/-- Sets up channels again, one after the other, until one fails. -/
def setUpAgain (s : Settings) :
    List (String × Channel) → Workspace → Except Fault Workspace × List (String × Channel)
  | [], w => (.ok w, [])
  | (name, c) :: rest, w =>
    match c.setUpAgain s w with
    | (.error why, after) => (.error why, (name, after) :: rest)
    | (.ok next, after) =>
      let (made, others) := setUpAgain s rest next
      (made, (name, after) :: others)

/-- Replaces the settings and sets up again every channel that has been set up.  The new settings
stay even if a channel cannot be set up. -/
def configure (h : Hub) (s : Settings) : Except Fault Unit × Hub :=
  let (made, channels) := setUpAgain s h.channels h.workspace
  let changed := { h with settings := s, channels }
  match made with
  | .error why => (.error why, changed)
  | .ok workspace => (.ok (), { changed with workspace })

/-! ## The package -/

/-- The names under which modules of the package log, in the order in which they are loaded. -/
def packageNames : List String :=
  [Engine.loggerName, TableShelf.loggerName, TableChunker.loggerName, Config.loggerName,
    Registry.loggerName]

/-- A hub once the modules of the package that log have been loaded, each of which asks for its
logger. -/
def ofPackage (w : Workspace) : Hub :=
  packageNames.foldl (fun h name => (h.get name none).2) { workspace := w }

/-! ## Lines of names -/

/-- The channels above a name that is given by its characters in reverse, nearest first.  A name
lies below another that ends right before one of its dots; of dots side by side only the last
counts, unless there is a channel between them. -/
def channelsAbove (h : Hub) : List Char → List Channel
  | '.' :: c :: rest =>
    match h.channel? (String.ofList (c :: rest).reverse) with
    | some above => above :: channelsAbove h (c :: rest)
    | none => channelsAbove h rest
  | _ :: rest => channelsAbove h rest
  | [] => []

/-- The channel of a name and the channels above it, nearest first. -/
def line (h : Hub) (name : String) : List Channel :=
  (h.channel? name).toList ++ h.channelsAbove name.toList.reverse

/-- The severity from which on records pass for a name: that of the nearest channel that names one,
else a warning. -/
def leastSeverity (h : Hub) (name : String) : Severity :=
  ((h.line name).findSome? fun c => c.threshold.severity?).getD .warning

/-- Whether records of a rank are let through for a name; a rank that is not positive never is. -/
def enables (h : Hub) (name : String) (rank : Int) : Bool :=
  0 < rank && ((h.leastSeverity name).rank : Int) ≤ rank

/-! ## Writing -/

/-- Names that no field of a record can have. -/
def reservedNames : List String := ["self", "message"]

def deliver (text : String) (severity : Severity) (w : Workspace) : Sink → Workspace
  | .console _ => w
  | .file path threshold => if threshold.admits severity then w.append path text else w

/-- Writes a record for a view.  If it is let through it goes to the sinks of the name and of all
names above it, with the origin of a failure if one is to be shown. -/
def write (h : Hub) (v : View) (severity : Severity) (message : String) (fields : Fields)
    (origin : Option String) : Except Fault (Option Record) × Hub :=
  if fields.any fun f => reservedNames.contains f.1 then (.error .badType, h)
  else if h.enables v.name severity.rank then
    let r := Record.of severity v.name message (v.context.merge fields)
    let sinks := (h.line v.name).flatMap Channel.sinks
    (.ok (some r),
      { h with workspace := sinks.foldl (deliver (r.fileText origin) severity) h.workspace })
  else (.ok none, h)

end Hub

end SourceOutline
