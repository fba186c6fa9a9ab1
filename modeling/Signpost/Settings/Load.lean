import Signpost.Failure
import Signpost.Settings.Json
import Signpost.Settings.Toml

/-!
# Where settings come from

Settings are loaded in one go from everything that can hold some: the file of the user,
the file of the project, and what the client sent last. Loading **never fails**. A layer
that is missing is passed over in silence, a layer that cannot be read or understood is
passed over with a warning, and a layer that counts is announced. So the outcome is the
settings and a list of events, in the order user, project, client.

The file of the user is missing when its path leads nowhere, for whatever reason; a file
that is there and cannot be read is a warning. The file of the project is missing only
when the disk says so; any other trouble with it is a warning.
-/

namespace Signpost

/-- What the surroundings of the program say. -/
structure Environment where
  /-- The directory of all settings of the user, where one is chosen. -/
  configHome : Option Path
  /-- The home directory of the user. -/
  home : Option Path
  /-- The directory that relative paths start from; none when it has been removed. -/
  workingDirectory : Option Path
deriving DecidableEq, Repr

/-- Something that a user may want to know about the loading of settings. -/
inductive Event where
  /-- A layer counts. -/
  | info (message : String)
  /-- A layer was left out. -/
  | warning (message : String)
deriving DecidableEq, Repr

/-- How important an event is. -/
def Event.level : Event → Level
  | info _ => .info
  | warning _ => .warn

/-- The message of an event. -/
def Event.message : Event → String
  | info message => message
  | warning message => message

/-- The occasion on which a client sends settings. -/
inductive Occasion where
  /-- With its first message. -/
  | start
  /-- Later on, when they have changed. -/
  | change
deriving DecidableEq, Repr

/-- How an event calls the settings that were sent on an occasion. -/
def Occasion.text : Occasion → String
  | start => "initialization options"
  | change => "client configuration"

/-- Settings as a client sends them. -/
structure Payload where
  /-- When they were sent. -/
  occasion : Occasion
  /-- What was sent. -/
  value : Json

namespace Settings

/-! ### Files -/

/-- The name of a file of settings. -/
def fileName : Path := .ofString "dank-ls.toml"

/-- The directory of the file of the user, inside the directory of all settings. -/
def userFolder : Path := .ofString "dank-ls"

/-- The directory of all settings of the user: the one that is chosen, if its name is not
empty, and otherwise the usual one below the home directory. -/
def configHome? (env : Environment) : Option Path :=
  (env.configHome.filter fun p => !p.bytes.isEmpty).or
    (env.home.map fun p => p.join (.ofString ".config"))

/-- The file of the user. -/
def userFile? (env : Environment) : Option Path :=
  (configHome? env).map fun base => (base.join userFolder).join fileName

/-- The layer of the user; none when there is no such file. -/
def loadUser (env : Environment) (disk : Disk) : Except Failure (Option Layer) :=
  match userFile? env with
  | none => .ok none
  | some file =>
    if !disk.leadsAnywhere file then .ok none
    else
      match disk.read file with
      | .error e => .error (.disk e)
      | .ok t =>
        match Layer.ofToml t with
        | .ok layer => .ok (some layer)
        | .error fault => .error (.configuration (file.display ++ ": " ++ fault.report t))

/-! ### Layers and their events -/

/-- The layer of the user, with what there is to say about it. -/
def userLayer (env : Environment) (disk : Disk) : Option Layer × List Event :=
  match loadUser env disk with
  | .ok none => (none, [])
  | .ok (some layer) => (some layer, [.info "Loaded user config"])
  | .error e => (none, [.warning ("Skipping user config: " ++ e.message)])

/-- The layer of the project in a directory, with what there is to say about it. -/
def projectLayer (disk : Disk) (root : Path) : Option Layer × List Event :=
  let file := root.join fileName
  match disk.read file with
  | .error .notFound => (none, [])
  | .error e => (none, [.warning ("Skipping " ++ file.display ++ ": " ++ e.message)])
  | .ok t =>
    match Layer.ofToml t with
    | .ok layer => (some layer, [.info ("Loaded " ++ file.display)])
    | .error fault =>
      (none, [.warning ("Skipping " ++ file.display ++ ": " ++ fault.report t)])

/-- The names under which a client may nest the settings. -/
def sections : List String := ["dank-ls", "dankLs"]

/-- The settings inside what a client sent: a member with one of the names, or else the
whole value. -/
def inSection (value : Json) : Json :=
  (sections.findSome? value.get?).getD value

/-- The layer of the client, with what there is to say about it. -/
def clientLayer (payload : Payload) : Option Layer × List Event :=
  match inSection payload.value with
  | .null => (none, [])
  | value =>
    match Layer.ofJson value with
    | .ok layer => (some layer, [.info ("Applied " ++ payload.occasion.text)])
    | .error fault =>
      (none, [.warning ("Ignoring " ++ payload.occasion.text ++ ": " ++ fault.message)])

/-! ### Loading -/

/-- Settings with what happened while they were loaded. -/
structure Loaded where
  /-- The settings. -/
  settings : Settings
  /-- What happened, in order. -/
  events : List Event
deriving DecidableEq, Repr

/-- Loads the settings of a project, if there is one, as a client, if there is one, wants
them. -/
def load (env : Environment) (disk : Disk) (root : Option Path) (payload : Option Payload) :
    Loaded :=
  let user := userLayer env disk
  let project := (root.map (projectLayer disk)).getD (none, [])
  let client := (payload.map clientLayer).getD (none, [])
  let merged := Layer.mergeAll [some .default, user.1, project.1, client.1]
  { settings := ofLayer (merged.getD {}), events := user.2 ++ project.2 ++ client.2 }

end Settings

end Signpost
