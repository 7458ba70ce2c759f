import CrudBench.Data.SortedMap
import CrudBench.Text.Quoted

/-!
# The working directory

Files are written from a working directory. A path is followed name by name: dots stay or lead one
level up, and any other name on the way has to be a directory, of which there are only the working
directory, those above it, and those that every system has below its root. Where a path leads is
checked before anything is written. Some files are devices, which keep nothing.
-/

namespace CrudBench

/-- The files that were written, by their shortest paths from the working directory. -/
abbrev Directory := SortedMap String

/-- A directory: a number of levels above the working directory, the root of all, or a directory
below the root. -/
inductive Place where
  | above (levels : Nat)
  | root
  | belowRoot (name : List Char)
  deriving DecidableEq, Repr

namespace Place

/-- The directories that every system has below its root. -/
def standardNames : List String :=
  ["bin", "boot", "dev", "etc", "home", "lib", "media", "mnt", "opt", "proc", "root", "run", "sbin",
    "srv", "sys", "tmp", "usr", "var"]

/-- One level up. Nothing is above the root. -/
def parent : Place → Place
  | above n => above (n + 1)
  | root | belowRoot _ => root

/-- The directory of a name. -/
def child? (name : List Char) : Place → Option Place
  | root => if standardNames.contains (String.ofList name) then some (belowRoot name) else none
  | _ => none

/-- The shortest path of a file in the directory. -/
def file (name : List Char) : Place → String
  | above n => String.ofList ((List.replicate n ['.', '.', '/']).flatten ++ name)
  | root => String.ofList ('/' :: name)
  | belowRoot directory => String.ofList ('/' :: directory ++ '/' :: name)

end Place

/-- A file that keeps nothing: one takes everything, the other one has no room for anything. -/
inductive Device where
  | null
  | full
  deriving DecidableEq, Repr

/-- The device with this shortest path. -/
def Device.ofPath? (path : String) : Option Device :=
  if path = "/dev/null" then some null else if path = "/dev/full" then some full else none

namespace Directory

/-- Why a file cannot be written. -/
inductive Refusal where
  | missing (path : String)
  | notDirectory (path : String)
  | isDirectory (path : String)
  | nameTooLong (path : String)
  | noSpace
  | nulCharacter
  deriving DecidableEq, Repr

/-- The wording of a refusal. -/
def Refusal.message : Refusal → String
  | missing path => "[Errno 2] No such file or directory: " ++ Text.quoted path
  | notDirectory path => "[Errno 20] Not a directory: " ++ Text.quoted path
  | isDirectory path => "[Errno 21] Is a directory: " ++ Text.quoted path
  | nameTooLong path => "[Errno 36] File name too long: " ++ Text.quoted path
  | noSpace => "[Errno 28] No space left on device"
  | nulCharacter => "embedded null byte"

/-- The most bytes that a name may have. -/
def maxNameBytes : Nat := 255

/-- The most bytes that a path may have. -/
def maxPathBytes : Nat := 4095

/-- The name is too long. -/
def isLongName (name : List Char) : Bool := maxNameBytes < (String.ofList name).utf8ByteSize

/-- There is a file with this shortest path. -/
def hasFile (d : Directory) (path : String) : Bool :=
  d.contains path || (Device.ofPath? path).isSome

/-- Follows a name that has to lead to a directory. -/
def enter (d : Directory) (path : String) (p : Place) (name : List Char) : Except Refusal Place :=
  if name = ['.'] then .ok p
  else if name = ['.', '.'] then .ok p.parent
  else if isLongName name then .error (.nameTooLong path)
  else if d.hasFile (p.file name) then .error (.notDirectory path)
  else
    match p.child? name with
    | some q => .ok q
    | none => .error (.missing path)

/-- Follows a name that has to lead to a file. A slash behind it asks for a directory. -/
def locate (path : String) (p : Place) (name : List Char) (slash : Bool) :
    Except Refusal String :=
  if slash ∨ name = ['.'] ∨ name = ['.', '.'] ∨ (p.child? name).isSome then
    .error (.isDirectory path)
  else if isLongName name then .error (.nameTooLong path)
  else .ok (p.file name)

/-- The shortest path of the file that a path leads to. -/
def resolve (d : Directory) (path : String) : Except Refusal String :=
  let parts := path.toList.splitOn '/'
  let names := parts.filter (!·.isEmpty)
  if '\x00' ∈ path.toList then .error .nulCharacter
  else if maxPathBytes < path.utf8ByteSize then .error (.nameTooLong path)
  else if path.isEmpty then .error (.missing path)
  else
    match names.getLast? with
    | none => .error (.isDirectory path)
    | some name => do
      let start := if parts.head? = some [] then Place.root else .above 0
      let p ← names.dropLast.foldlM (enter d path) start
      locate path p name (parts.getLast? = some [])

/-- Writes a file. -/
def write (d : Directory) (path text : String) : Except Refusal Directory := do
  let file ← d.resolve path
  match Device.ofPath? file with
  | none => return d.insert file text
  | some .null => return d
  | some .full => if text.isEmpty then return d else throw .noSpace

/-- What is read from a path. A device has nothing to read. -/
def content (d : Directory) (path : String) : String :=
  match d.resolve path with
  | .ok file => (d.get? file).getD ""
  | .error _ => ""

/-- The files in the working directory itself. -/
def here (d : Directory) : Directory := d.filterKeys fun path => !path.toList.contains '/'

end Directory

end CrudBench
