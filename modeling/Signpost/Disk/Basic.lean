import Signpost.Path.Basic

/-!
# Disks

To this library a file system is what it answers when it is asked about a path. A path
leads nowhere, and there is an error; or it leads to an entry. An entry can be opened,
and then it is a directory or a file with its bytes; or it is **sealed**, such as a file
that the user may not read: the system says that it is there and of which kind it is, but
opening it is an error. That a path leads somewhere and that what it leads to can be
opened are two different things, so `Disk.leadsAnywhere` and `Disk.isFile` say yes of a
sealed file, while `Disk.read` and `Disk.probe` fail on it.

A `Disk` is the function that gives these answers, and nothing changes while it is asked.
Reading a text, testing whether a path exists and probing whether it can be the target of
a reference are all derived from it.

Two kinds of entries are one thing to a reader and another to a probe, which opens them
only: a file that can be opened and then fails to give its bytes, and a device or a pipe
that can be read although it is no regular file. A disk tells of them what is right for
the use of the path. The first is sealed to a reader and a file to a probe, and the second
is a file to a reader and sealed to a probe.
-/

namespace Signpost

/-- Why a path cannot be opened or read. -/
inductive DiskError where
  /-- There is no such file or directory. -/
  | notFound
  /-- A path goes on below something that is no directory. -/
  | notADirectory
  /-- A directory cannot be read as a text. -/
  | isADirectory
  /-- A name is longer than a file system can hold. -/
  | nameTooLong
  /-- A path holds the byte that ends it. -/
  | nulByte
  /-- The bytes of a file are no text. -/
  | notUtf8
  /-- The path leads to something that is no regular file. -/
  | notRegular (path : Path)
  /-- Any other reason, in the words of the system. -/
  | other (reason : String)
deriving DecidableEq, Repr

/-- The wording of a disk error. -/
def DiskError.message : DiskError → String
  | notFound => "No such file or directory (os error 2)"
  | notADirectory => "Not a directory (os error 20)"
  | isADirectory => "Is a directory (os error 21)"
  | nameTooLong => "File name too long (os error 36)"
  | nulByte => "file name contained an unexpected NUL byte"
  | notUtf8 => "stream did not contain valid UTF-8"
  | notRegular path => path.display ++ " is not a regular file"
  | other reason => reason

/-- What a path leads to. -/
inductive Node where
  /-- A directory. -/
  | directory
  /-- A regular file with its bytes. -/
  | file (bytes : Bytes)
  /-- An entry, a regular file or not, that is there and cannot be opened. -/
  | sealed (regular : Bool) (reason : DiskError)
deriving DecidableEq, Repr

/-- A file system, as the answers it gives about paths. -/
abbrev Disk := Path → Except DiskError Node

namespace Disk

/-- The text of a file. -/
def read (disk : Disk) (p : Path) : Except DiskError Text :=
  match disk p with
  | .error e => .error e
  | .ok .directory => .error .isADirectory
  | .ok (.sealed _ reason) => .error reason
  | .ok (.file bytes) =>
    match Utf8.decode? bytes with
    | some t => .ok t
    | none => .error .notUtf8

/-- Whether a path leads anywhere, to something that can be opened or not. -/
def leadsAnywhere (disk : Disk) (p : Path) : Bool :=
  match disk p with
  | .ok _ => true
  | .error _ => false

/-- Whether a path leads to a regular file, which can be opened or not. -/
def isFile (disk : Disk) (p : Path) : Bool :=
  match disk p with
  | .ok (.file _) => true
  | .ok (.sealed regular _) => regular
  | _ => false

/-- Whether a path can be the target of a reference, and why not: it must lead to a
regular file that can be opened. -/
def probe (disk : Disk) (p : Path) : Except DiskError Unit :=
  match disk p with
  | .error e => .error e
  | .ok .directory => .error (.notRegular p)
  | .ok (.sealed _ reason) => .error reason
  | .ok (.file _) => .ok ()

variable {disk : Disk} {p : Path}

/-- What can be read is a file with bytes. -/
theorem exists_of_read {text : Text} (h : disk.read p = .ok text) :
    ∃ bytes, disk p = .ok (.file bytes) := by
  unfold read at h
  split at h
  · cases h
  · cases h
  · cases h
  · exact ⟨_, by assumption⟩

/-- **The probe accepts what is a file with bytes**, and nothing else. -/
theorem probe_eq_ok_iff : disk.probe p = .ok () ↔ ∃ bytes, disk p = .ok (.file bytes) := by
  constructor
  · intro h
    unfold probe at h
    split at h
    · cases h
    · cases h
    · cases h
    · exact ⟨_, by assumption⟩
  · rintro ⟨bytes, h⟩
    rw [probe, h]

/-- What can be read is there. -/
theorem leadsAnywhere_of_read {text : Text} (h : disk.read p = .ok text) :
    disk.leadsAnywhere p = true := by
  obtain ⟨bytes, hfile⟩ := exists_of_read h
  rw [leadsAnywhere, hfile]

end Disk

end Signpost
