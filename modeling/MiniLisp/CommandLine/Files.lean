import MiniLisp.Table
import MiniLisp.Text.Quoted

/-! # Files

The files that a program finds in its working directory, which holds no other directories. -/

namespace MiniLisp.CommandLine

/-- Why a file could not be opened. -/
inductive FileError where
  | notFound (path : String)
  | isDirectory (path : String)
  | notDirectory (path : String)
  | nameTooLong (path : String)
  /-- A path cannot have a null character. -/
  | nullInPath
  deriving Repr, DecidableEq

/-- The text that reports an error. -/
def FileError.message : FileError → String
  | .notFound path => "[Errno 2] No such file or directory: " ++ Text.quoted path
  | .isDirectory path => "[Errno 21] Is a directory: " ++ Text.quoted path
  | .notDirectory path => "[Errno 20] Not a directory: " ++ Text.quoted path
  | .nameTooLong path => "[Errno 36] File name too long: " ++ Text.quoted path
  | .nullInPath => "embedded null byte"

/-- The most bytes of a name between slashes. -/
def nameLimit : Nat := 255

/-- The most bytes of a path. -/
def pathLimit : Nat := 4095

/-- The files of a directory by name. -/
abbrev Files := Table String

/-- What a path leads to. -/
inductive Place where
  | directory
  | file (name : String)
  /-- A name in the directory that no file has. -/
  | vacant (name : String)
  /-- A name in another directory, where no files are known. -/
  | outside
  /-- A name with a slash after it, and why nothing can be read there. -/
  | slashed (e : FileError)
  deriving Repr, DecidableEq

/-- The parts of a path between slashes. -/
def pathParts : List Char → List String
  | [] => [""]
  | c :: cs =>
    match pathParts cs with
    | [] => [""]
    | part :: parts =>
      if c = '/' then "" :: part :: parts else String.ofList (c :: part.toList) :: parts

namespace Files

/-- Why a path does not go on after a name. -/
def obstacle (path name : String) (isFile : Bool) : FileError :=
  if nameLimit < name.utf8ByteSize then .nameTooLong path
  else if isFile then .notDirectory path
  else .notFound path

/-- What the last name of a path leads to. -/
def locateName (files : Files) (path name : String) (inside : Bool) : Except FileError Place :=
  if nameLimit < name.utf8ByteSize then .error (.nameTooLong path)
  else if !inside then .ok .outside
  else if files.contains name then .ok (.file name)
  else .ok (.vacant name)

/-- What the parts of a path lead to, and whether they begin inside the directory. -/
def locateParts (files : Files) (path : String) : (inside : Bool) → List String →
    Except FileError Place
  | _, [] => .ok .directory
  | inside, part :: parts =>
    if part = "" || part = "." then locateParts files path inside parts
    else if part = ".." then locateParts files path false parts
    else if parts.isEmpty then files.locateName path part inside
    else
      let e := obstacle path part (inside && files.contains part)
      if parts.all (· = "") then .ok (.slashed e) else .error e

/-- What a path leads to. -/
def locate (files : Files) (path : String) : Except FileError Place :=
  if path.toList.contains '\x00' then .error .nullInPath
  else if pathLimit < path.utf8ByteSize then .error (.nameTooLong path)
  else
    match path.toList with
    | '/' :: cs => files.locateParts path false (pathParts cs)
    | cs => files.locateParts path true (pathParts cs)

/-- The text of a file. -/
def read (files : Files) (path : String) : Except FileError String := do
  match ← files.locate path with
  | .file name => .ok ((files.get? name).getD "")
  | .directory => .error (.isDirectory path)
  | .vacant _ | .outside => .error (.notFound path)
  | .slashed e => .error e

/-- How to write a text to a path. What is written to another directory is not seen. -/
def writer (files : Files) (path : String) : Except FileError (String → Files) := do
  match ← files.locate path with
  | .file name | .vacant name => .ok (files.insert name)
  | .outside => .ok fun _ => files
  | .directory | .slashed _ => .error (.isDirectory path)

end Files

end MiniLisp.CommandLine
