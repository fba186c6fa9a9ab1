import Signpost.Command.Basic
import Signpost.Document.Basic
import Signpost.Language
import Signpost.Log.Filter
import Signpost.Protocol.Server
import Signpost.Settings.Load

/-!
# Running a command

A command that looks at a file works as a session with one open document would: the same
settings, the same choice of a grammar, the same resolution. Only the root of the project
is found in another way, by looking for a file of settings in the directories above the
file.

What comes of a command is an `Outcome`: an exit code, what is printed, and what is told
to the user on the side.
-/

namespace Signpost

/-- What comes of a command. -/
structure Outcome where
  /-- The exit code. -/
  code : Nat
  /-- What is printed. -/
  output : String := ""
  /-- What the log gets. -/
  records : List Record := []
  /-- What the user is told at the end. -/
  complaint : Option String := none
deriving DecidableEq, Repr

/-- The lines on the side, as a filter shows them. -/
def Outcome.aside (outcome : Outcome) (filter : LogFilter) : List String :=
  (outcome.records.filter filter.admits).map Record.shown ++ outcome.complaint.toList

namespace Command

/-- The part of the log that commands have. -/
def origin : String := "dank_ls"

/-- The record of an event of loading. -/
def recordOf (event : Event) : Record :=
  ⟨event.level, origin, event.message⟩

/-- The root of the project of a file: the nearest directory above it with a file of
settings, or else its own directory. -/
def projectRoot? (disk : Disk) (file : Path) : Option Path :=
  (file.ancestors.find? fun directory => disk.isFile (directory.join Settings.fileName)).or
    file.parent?

/-- The files of settings that may count for a file. -/
def settingsFiles (env : Environment) (file : Path) : List Path :=
  (Settings.userFile? env).toList ++
    (file.ancestors.map fun directory => directory.join Settings.fileName)

/-- The attempt to resolve what stands at a position of a file; none when no grammar
applies to the file. -/
def attemptAt (env : Environment) (disk : Disk) (file : Path) (position : Position)
    (language : Option String) : List Record × Except Failure (Option Attempt) :=
  match Path.absolute? env.workingDirectory file with
  | none => ([], .error (.disk .notFound))
  | some path =>
    match Url.ofPath? path with
    | none => ([], .error (.invalidUri path.display))
    | some url =>
      match disk.read path with
      | .error e => ([], .error (.disk e))
      | .ok text =>
        let loaded := Settings.load env disk (projectRoot? disk path) none
        let records := loaded.events.map recordOf
        match Grammar.detect? loaded.settings language url with
        | none =>
          (records ++ [⟨.warn, origin, "No reference grammar applies to " ++ path.display⟩],
            .ok none)
        | some grammar =>
          let snapshot : Snapshot := ⟨url, .ofText text language none⟩
          let attempt := Signpost.resolve grammar snapshot.source position
            loaded.settings.backwardLines disk.probe
          (records ++ attempt.records, .ok (some attempt))

/-- Resolves the reference at a position of a file. -/
def resolveAt (env : Environment) (disk : Disk) (file : Path) (position : Position)
    (language : Option String) : Except Failure (Option Reference) :=
  (attemptAt env disk file position language).2.map fun attempt =>
    attempt.bind Attempt.reference?

/-- The columns of the path of the include at a position of a file. -/
def wordAt (disk : Disk) (file : Path) (position : Position) : Except Failure (Option Span) :=
  match disk.read file with
  | .error e => .error (.disk e)
  | .ok text =>
    .ok ((text.lineAt? position.line).bind fun line => Include.wordAt? line position.character)

/-- A position as a message shows it. -/
def describePosition (position : Position) : String :=
  toString position.line ++ ":" ++ toString position.character

/-- What the program can do. -/
def helpText : String :=
  "Go-to-definition for HTML partial includes and worker script URLs\n\n" ++
  "Usage: dank-ls [COMMAND]\n\nCommands:\n" ++
  "  resolve  Resolve the reference at a position and print the target path\n" ++
  "  word     Print the UTF-16 column span of the partial path word at a position\n" ++
  "  help     Print this message or the help of the given subcommand(s)\n\n" ++
  "Options:\n  -h, --help     Print help\n  -V, --version  Print version\n"

/-- The outcome that tells a failure. -/
def failed (records : List Record) (e : Failure) : Outcome :=
  { code := 1, records, complaint := some ("Error: " ++ e.message) }

/-- Runs a command. Serving is not a matter of one outcome; by itself it comes to nothing. -/
def run (env : Environment) (disk : Disk) : Command → Outcome
  | serve => { code := 0 }
  | version => { code := 0, output := Server.name ++ " " ++ Server.version ++ "\n" }
  | help => { code := 0, output := helpText }
  | resolve file position language =>
    let records := (attemptAt env disk (.ofString file) position language).1
    match resolveAt env disk (.ofString file) position language with
    | .error e => failed records e
    | .ok none =>
      { code := 1, records,
        complaint := some ("No reference at " ++ describePosition position) }
    | .ok (some reference) =>
      { code := 0, records, output := reference.target.path.display ++ "\n" }
  | word file position =>
    match wordAt disk (.ofString file) position with
    | .error e => failed [] e
    | .ok none =>
      { code := 1, complaint := some ("No partial path word at " ++ describePosition position) }
    | .ok (some span) =>
      { code := 0, output := toString span.start ++ " " ++ toString span.stop ++ "\n" }

/-- The outcome of a call that is a mistake. -/
def mistaken : Outcome :=
  { code := 2, complaint := some "error: unexpected arguments; try '--help'" }

end Command

end Signpost
