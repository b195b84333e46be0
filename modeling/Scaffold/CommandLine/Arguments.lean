import Scaffold.Path

/-!
# Arguments of the command line

The words of a command line are paths and flags, in any order. Flags may be bundled behind one dash,
and behind a bare `--` every word is a path. Words are read from left to right; the first request for
help or for the version, and the first fault, end the reading. The paths given in a row are checked
when the row ends, so an empty path in front of an unknown flag is not what is reported.
-/

namespace Scaffold.CommandLine

/-- What the command line asks for. -/
structure Arguments where
  verbose : Bool
  paths : List Path
  deriving DecidableEq

/-- The packs and the destination: every path but the last, and the last. -/
def Arguments.targets? (a : Arguments) : Option (List Path × Path) :=
  a.paths.getLast?.map fun dest => (a.paths.dropLast, dest)

/-- Why the reading ended early. -/
inductive Halt where
  | help
  | version
  | unknownFlag (word : String)
  | unneededValue (flag value : String)
  | repeatedVerbose
  | emptyPath
  deriving DecidableEq

/-- The flags. -/
inductive Flag where
  | verbose
  | help
  | version
  deriving DecidableEq

/-- The letter of a flag. -/
def Flag.ofLetter? (c : Char) : Option Flag :=
  if c = 'v' then some .verbose else if c = 'h' then some .help else if c = 'V' then some .version
  else none

/-- The word of a flag. -/
def Flag.ofWord? (s : String) : Option Flag :=
  if s = "verbose" then some .verbose else if s = "help" then some .help
  else if s = "version" then some .version else none

/-- Arguments while they are read: the paths of the row that has not ended come last. -/
structure Reading where
  verbose : Bool
  paths : List Path
  row : List Path

/-- Ends a row of paths. None of them may be empty. -/
def Reading.endRow (a : Reading) : Except Halt Reading :=
  if a.row.any (·.text = "") then .error .emptyPath
  else .ok { a with paths := a.paths ++ a.row, row := [] }

/-- Takes a flag. -/
def Reading.raise (a : Reading) (f : Flag) : Except Halt Reading := do
  let a ← a.endRow
  match f with
  | .help => .error .help
  | .version => .error .version
  | .verbose => if a.verbose then .error .repeatedVerbose else .ok { a with verbose := true }

/-- Takes the flags of a bundle of letters. -/
def Reading.bundle : Reading → List Char → Except Halt Reading
  | a, [] => .ok a
  | a, c :: rest =>
    match Flag.ofLetter? c with
    | none => .error (.unknownFlag (String.ofList ['-', c]))
    | some f => do (← a.raise f).bundle rest

/-- Takes a flag that is spelled out. No flag takes a value. -/
def Reading.long (a : Reading) (cs : List Char) : Except Halt Reading :=
  let (word, value) := cs.span (· ≠ '=')
  match Flag.ofWord? (String.ofList word), value with
  | none, _ => .error (.unknownFlag ("--" ++ String.ofList word))
  | some _, '=' :: rest => .error (.unneededValue ("--" ++ String.ofList word) (String.ofList rest))
  | some f, _ => a.raise f

/-- Takes words in order. -/
def Reading.words : Reading → List String → Except Halt Reading
  | a, [] => .ok a
  | a, word :: rest =>
    match word.toList with
    | ['-', '-'] => .ok { a with row := a.row ++ rest.map Path.mk }
    | '-' :: '-' :: cs => do (← a.long cs).words rest
    | '-' :: c :: cs => do (← a.bundle (c :: cs)).words rest
    | _ => Reading.words { a with row := a.row ++ [⟨word⟩] } rest

/-- Reads the words of a command line. -/
def Arguments.read (words : List String) : Except Halt Arguments := do
  let a ← (← (Reading.mk false [] []).words words).endRow
  return ⟨a.verbose, a.paths⟩

/-! ## Texts -/

/-- What the program is for. -/
def about : String := "Custodian: apply template packs to a project directory"

/-- How the program is called. -/
def usageLine : String := "Usage: custodian [OPTIONS] [PATH]..."

/-- The explanation of all arguments. -/
def helpText : String :=
  about ++ "\n\n" ++ usageLine ++ "\n\n" ++
    "Arguments:\n" ++
    "  [PATH]...  Pack directories to import from, followed by the destination directory\n\n" ++
    "Options:\n" ++
    "  -v, --verbose  Enable verbose logging output\n" ++
    "  -h, --help     Print help\n" ++
    "  -V, --version  Print version\n"

/-- The version of the program. -/
def versionText : String := "custodian 0.3.0\n"

/-- The first line about a halt. -/
def Halt.message : Halt → String
  | .help => about
  | .version => "custodian 0.3.0"
  | .unknownFlag word => "error: unexpected argument '" ++ word ++ "' found"
  | .unneededValue flag value =>
    "error: unexpected value '" ++ value ++ "' for '" ++ flag ++ "' found; no more were expected"
  | .repeatedVerbose => "error: the argument '--verbose' cannot be used multiple times"
  | .emptyPath => "error: a value is required for '[PATH]...' but none was supplied"

/-- Everything that is printed about a halt. -/
def Halt.text (h : Halt) : String :=
  let more := "For more information, try '--help'.\n"
  match h with
  | .help => helpText
  | .version => versionText
  | .emptyPath => h.message ++ "\n\n" ++ more
  | .unknownFlag word =>
    h.message ++ "\n\n  tip: to pass '" ++ word ++ "' as a value, use '-- " ++ word ++ "'\n\n" ++
      usageLine ++ "\n\n" ++ more
  | .unneededValue _ _ | .repeatedVerbose => h.message ++ "\n\n" ++ usageLine ++ "\n\n" ++ more

/-- Whether a halt is a fault, and not a request that was met. -/
def Halt.isFault : Halt → Bool
  | .help | .version => false
  | _ => true

end Scaffold.CommandLine
