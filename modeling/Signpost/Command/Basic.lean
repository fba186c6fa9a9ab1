import Signpost.Text.Digits
import Signpost.Text.Position
import Signpost.Width

/-!
# Commands

The program is called in one of three ways: without arguments it serves a client; `resolve`
prints the target of a reference; `word` prints the columns of the path of an include. The
version and a help text can be asked for, too. Any other call is a mistake in usage.

Options may stand before, between and behind the other arguments, up to a `--`, behind which
nothing is an option.
-/

namespace Signpost

/-- A way to call the program. -/
inductive Command where
  /-- Serve a client. -/
  | serve
  /-- Print the target of the reference at a position of a file. -/
  | resolve (file : String) (position : Position) (language : Option String)
  /-- Print the columns of the path of the include at a position of a file. -/
  | word (file : String) (position : Position)
  /-- Print the version. -/
  | version
  /-- Print what the program can do. -/
  | help
deriving DecidableEq, Repr

namespace Command

/-- An argument that looks like an option. A single dash does not. -/
def isOption (argument : String) : Bool :=
  match argument.toList with
  | '-' :: _ :: _ => true
  | _ => false

/-- A line or a column: a decimal number of 32 bits, which may have a sign. -/
def number? (argument : String) : Option Nat :=
  let (negative, digits) := match argument.toList with
    | '-' :: rest => (true, rest)
    | '+' :: rest => (false, rest)
    | rest => (false, rest)
  (Digits.natural? 10 digits).filter fun n => (!negative || n = 0) && fitsUnsigned 32 n

/-- The arguments behind the name of a command, taken apart. -/
inductive Arguments where
  /-- The help text is asked for. -/
  | help
  /-- The words that are no options, in order, and the language. -/
  | words (words : List String) (language : Option String)
deriving DecidableEq, Repr

/-- Whether an argument is a dash and letters of which the given one is the first. The first
letter that asks for something to be printed settles what the call is about. -/
def startsWith (letter : Char) (argument : String) : Bool :=
  ['-', letter].isPrefixOf argument.toList

/-- Whether an argument asks for the help text. -/
def asksHelp (argument : String) : Bool :=
  argument = "--help" || startsWith 'h' argument

/-- Whether an argument asks for the version. -/
def asksVersion (argument : String) : Bool :=
  argument = "--version" || startsWith 'V' argument

/-- The option that names a language. -/
def languageOption : Text := "--language".toList

/-- Takes arguments apart. -/
def takeApart (withLanguage : Bool) (words : List String) (language : Option String) :
    List String → Option Arguments
  | [] => some (.words words language)
  | argument :: rest =>
    if argument = "--" then some (.words (words ++ rest) language)
    else if asksHelp argument then some .help
    else if !isOption argument then takeApart withLanguage (words ++ [argument]) language rest
    else if !withLanguage || language.isSome then none
    else
      match Text.skip? languageOption argument.toList, rest with
      | some [], value :: rest =>
        if isOption value then none else takeApart withLanguage words (some value) rest
      | some ('=' :: value), rest =>
        takeApart withLanguage words (some (String.ofList value)) rest
      | _, _ => none

/-- A file and a position in it. -/
def place? (words : List String) : Option (String × Position) :=
  match words with
  | [file, line, character] => do
    if file.isEmpty then none
    return (file, ⟨← number? line, ← number? character⟩)
  | _ => none

/-- The names of the commands. -/
def names : List String := ["resolve", "word", "help"]

/-- The command that the arguments of a call stand for; none when the call is a
mistake. -/
def parse? (arguments : List String) : Option Command :=
  match arguments with
  | [] => some serve
  | ["--"] => some serve
  | ["help"] => some help
  | ["help", name] => if names.contains name then some help else none
  | "resolve" :: rest =>
    match takeApart true [] none rest with
    | some (.words words language) =>
      (place? words).map fun (file, position) => resolve file position language
    | some .help => some help
    | none => none
  | "word" :: rest =>
    match takeApart false [] none rest with
    | some (.words words _) => (place? words).map fun (file, position) => word file position
    | some .help => some help
    | none => none
  | argument :: _ =>
    if asksVersion argument then some version
    else if asksHelp argument then some help
    else none

end Command

end Signpost
