import HackFrontEnd.Text.Quoted

/-!
# Access to files

Paths as texts, what is found at a path, and what reading or writing there comes to. A `View`
answers for every path, so the rest of the library does not depend on where the files are.
-/

namespace HackFrontEnd

/-- Whether a text holds the null character. Names that are handed to the system end there, so no
name can hold it. -/
def Text.holdsNull (s : String) : Bool :=
  s.toList.contains '\x00'

namespace File

/-! ## Paths -/

namespace Path

/-- The parts between slashes, empty ones included. -/
def parts (path : String) : List String :=
  (path.toList.splitOnP (· == '/')).map String.ofList

/-- Whether a part leaves the place as it is. -/
def isIdle (part : String) : Bool :=
  part == "" || part == "."

/-- The most bytes that a name on a path may take. -/
def nameLimit : Nat := 255

/-- The most bytes that a path may take. -/
def limit : Nat := 4095

/-- The slashes that a tidy path keeps at its start: two if there are just two, else at most one. -/
def root (path : String) : String :=
  match (path.toList.takeWhile (· == '/')).length with
  | 0 => ""
  | 2 => "//"
  | _ => "/"

/-- The path without idle parts and repeated slashes. A path with nothing left is `.`. -/
def tidy (path : String) : String :=
  let shown := root path ++ "/".intercalate ((parts path).filter (!isIdle ·))
  if shown = "" then "." else shown

/-- The path of the directory that a tidy path lies in. -/
def parent (path : String) : String :=
  tidy (root path ++ "/".intercalate ((parts path).filter (!isIdle ·)).dropLast)

end Path

/-! ## Faults -/

/-- Why a file cannot be read or written. -/
inductive Fault
  | notFound (path : String)
  | isDirectory (path : String)
  | notDirectory (path : String)
  | nameTooLong (path : String)
  | permissionDenied (path : String)
  /-- The path holds the null character. -/
  | nullInPath
  /-- Any other fault, in the words of the system. -/
  | system (message : String)
deriving DecidableEq, Repr

/-- The fault in words. -/
def Fault.message : Fault → String
  | notFound path => "[Errno 2] No such file or directory: " ++ Text.quoted path
  | isDirectory path => "[Errno 21] Is a directory: " ++ Text.quoted path
  | notDirectory path => "[Errno 20] Not a directory: " ++ Text.quoted path
  | nameTooLong path => "[Errno 36] File name too long: " ++ Text.quoted path
  | permissionDenied path => "[Errno 13] Permission denied: " ++ Text.quoted path
  | nullInPath => "embedded null byte"
  | system message => message

/-- The fault in a path that no system looks up, whatever it holds. -/
def pathFault? (path : String) : Option Fault :=
  if Text.holdsNull path then some .nullInPath else none

/-! ## What is found -/

/-- What is found at a path. -/
inductive Access
  | missing
  /-- The path goes through something that is no directory. -/
  | notDirectory
  /-- The path, or a name on it, is too long for a name of a file. -/
  | nameTooLong
  | directory
  /-- A file that may not be opened. -/
  | denied
  /-- A file that cannot be opened for some other reason, in the words of the system. -/
  | unreadable (message : String)
  /-- The bytes of a file, which may also be one that must not be written. -/
  | file (bytes : List UInt8) (writable : Bool := true)
deriving DecidableEq, Repr

/-- What is found at each path. -/
abbrev View := String → Access

namespace View

/-- The bytes of the file at a path. -/
def read (look : View) (path : String) : Except Fault (List UInt8) :=
  match pathFault? path, look path with
  | some f, _ => .error f
  | none, .missing => .error (.notFound path)
  | none, .notDirectory => .error (.notDirectory path)
  | none, .nameTooLong => .error (.nameTooLong path)
  | none, .directory => .error (.isDirectory path)
  | none, .denied => .error (.permissionDenied path)
  | none, .unreadable message => .error (.system message)
  | none, .file bytes _ => .ok bytes

/-- Why a file cannot be written at a tidy path, if it cannot. A new file needs a directory. -/
def writeFault? (look : View) (path : String) : Option Fault :=
  match pathFault? path, look path with
  | some f, _ => some f
  | none, .file _ true => none
  | none, .file _ false | none, .denied => some (.permissionDenied path)
  | none, .unreadable message => some (.system message)
  | none, .directory => some (.isDirectory path)
  | none, .notDirectory => some (.notDirectory path)
  | none, .nameTooLong => some (.nameTooLong path)
  | none, .missing =>
    if look (Path.parent path) = .directory then none else some (.notFound path)

end View

end File

end HackFrontEnd
