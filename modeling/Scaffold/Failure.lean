import Scaffold.Disk.Basic
import Scaffold.Edn.ReadError
import Scaffold.Edn.Writer
import Scaffold.Template.Fault

/-!
# Failures

What can end a run early, as causes. A failure of the disk, a manifest that is no EDN, a manifest
that is EDN and no manifest, a step of no known kind, a copy of a directory into itself, a template
that does not render, and a directory that cannot be listed. `Failure.message` is the only place
where causes become words.
-/

namespace Scaffold

/-- What a malformed step lacks. -/
inductive Missing where
  | stepType
  | sourcePath
  | name
  | tag
  deriving DecidableEq

/-- Why a manifest that is EDN is not a manifest. -/
inductive ManifestFault where
  | notAMap (root : Path)
  | noSteps
  | stepNotAList (raw : Edn.Value)
  | missing (what : Missing) (raw : Edn.Value)

/-- Why a run ended early. -/
inductive Failure where
  | disk (e : DiskError)
  | notEdn (root : Path) (e : Edn.ReadError)
  | badManifest (fault : ManifestFault)
  | unknownStep (raw : Edn.Value)
  | intoItself (source dest : Path)
  | template (fault : Template.Fault)
  | listing (p : Path) (e : DiskError)

/-- A failure of the disk in words. -/
def DiskError.message : DiskError → String
  | .notFound => "No such file or directory (os error 2)"
  | .exists_ => "File exists (os error 17)"
  | .notDirectory => "Not a directory (os error 20)"
  | .isDirectory => "Is a directory (os error 21)"
  | .nameTooLong => "File name too long (os error 36)"
  | .tooManyLinks => "Too many levels of symbolic links (os error 40)"
  | .nulInPath => "file name contained an unexpected NUL byte"
  | .notText => "stream did not contain valid UTF-8"
  | .notRegularFile =>
    "the source path is neither a regular file nor a symlink to a regular file"

/-- What is missing, in words. -/
def Missing.message : Missing → String
  | .stepType => "missing step type"
  | .sourcePath => "missing source path"
  | .name => "missing name"
  | .tag => "missing tag"

/-- A fault of a manifest in words. -/
def ManifestFault.message : ManifestFault → String
  | .notAMap root => root.text ++ " must contain a map at top level"
  | .noSteps => "Custodianfile must have an array of steps"
  | .stepNotAList raw => "step " ++ raw.text ++ " must be a list"
  | .missing what raw => what.message ++ " in step " ++ raw.text

/-- A failure in words. -/
def Failure.message : Failure → String
  | .disk e => "IO error: " ++ e.message ++ "."
  | .notEdn root e => "Cannot parse manifest '" ++ root.text ++ "': " ++ e.text ++ "."
  | .badManifest fault => "Invalid manifest: " ++ fault.message ++ "."
  | .unknownStep raw => "Unknown step type in " ++ raw.text ++ "."
  | .intoItself source dest =>
    "Invalid step copy " ++ source.text ++ " into its own subdirectory " ++ dest.text ++ "."
  | .template fault => "Template error: " ++ fault.text ++ "."
  | .listing p e => "Copy error: IO error for operation on " ++ p.text ++ ": " ++ e.message ++ "."

end Scaffold
