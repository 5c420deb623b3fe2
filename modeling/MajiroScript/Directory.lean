import MajiroScript.Bytes
import MajiroScript.Pieces

/-! A working directory as a value: files and folders by the names on the way
to them. -/
namespace MajiroScript

inductive FileError where
  | missing
  | notDirectory
  | isDirectory
  | nameTooLong
  | zeroByte
  deriving DecidableEq, Repr

def FileError.message : FileError → String
  | missing => "No such file or directory (os error 2)"
  | notDirectory => "Not a directory (os error 20)"
  | isDirectory => "Is a directory (os error 21)"
  | nameTooLong => "File name too long (os error 36)"
  | zeroByte => "file name contained an unexpected NUL byte"

inductive Node where
  | file (content : Bytes)
  | folder
  deriving DecidableEq, Repr

/-- The names from the working directory to a place below it.  A way from the
root starts with a slash, which is no name. -/
abbrev Way := List String

def Way.path : Way → String
  | "/" :: names => "/" ++ "/".intercalate names
  | names => "/".intercalate names

structure Directory where
  nodes : List (Way × Node) := []
  deriving DecidableEq, Repr

namespace Directory

def maxPathLength : Nat := 4095

def maxNameLength : Nat := 255

/-- What stands at a place.  The starting points and the folders above them are
always there. -/
def node? (directory : Directory) (way : Way) : Option Node :=
  if way = ["/"] ∨ way.all (· = "..") then some .folder else directory.nodes.lookup way

/-- The folder above a place.  Above the working directory nothing is known by
name. -/
def above (way : Way) : Way :=
  match way.getLast? with
  | none | some ".." => way ++ [".."]
  | some "/" => way
  | some _ => way.dropLast

def step (way : Way) (name : String) : Way :=
  if name = "." then way
  else if name = ".." then above way
  else way ++ [name]

def follow (directory : Directory) (way : Way) : List String → Except FileError Way
  | [] => .ok way
  | name :: names =>
      match directory.node? way with
      | some .folder =>
          if maxNameLength < name.utf8ByteSize then .error .nameTooLong
          else directory.follow (step way name) names
      | some (.file _) => .error .notDirectory
      | none => .error .missing

def startOf (path : String) : Way :=
  if path.startsWith "/" then ["/"] else []

def names (path : String) : List String :=
  (pieces (· = '/') path.toList).map String.ofList

def checkPath (path : String) : Except FileError Unit :=
  if path.toList.contains '\x00' then .error .zeroByte
  else if path.isEmpty then .error .missing
  else if maxPathLength < path.utf8ByteSize then .error .nameTooLong
  else .ok ()

def places (path : String) : List Way :=
  ((names path).foldl (fun (way, places) name => (step way name, step way name :: places))
    (startOf path, [])).2

/-- Place of an existing thing.  A slash at the end asks for a folder. -/
def locate (directory : Directory) (path : String) : Except FileError Way := do
  checkPath path
  directory.follow (startOf path) (names path ++ if path.endsWith "/" then ["."] else [])

def locateNew (directory : Directory) (path : String) : Except FileError Way := do
  checkPath path
  if path.endsWith "/" then
    discard (directory.follow (startOf path) ((names path).dropLast ++ ["."]))
    .error .isDirectory
  else
    directory.follow (startOf path) (names path)

def read (directory : Directory) (path : String) : Except FileError Bytes := do
  let way ← directory.locate path
  match directory.node? way with
  | some (.file content) => .ok content
  | some .folder => .error .isDirectory
  | none => .error .missing

def contains (directory : Directory) (path : String) : Bool :=
  match directory.locate path with
  | .ok way => (directory.node? way).isSome
  | .error _ => false

def setFile (directory : Directory) (way : Way) (content : Bytes) : Directory :=
  ⟨(way, .file content) :: directory.nodes.filter fun (other, _) => other ≠ way⟩

def write (directory : Directory) (path : String) (content : Bytes) :
    Except FileError Directory := do
  let way ← directory.locateNew path
  match directory.node? way with
  | some .folder => .error .isDirectory
  | _ => .ok (directory.setFile way content)

def changedFiles (before after : Directory) : List (Way × Bytes) :=
  after.nodes.filterMap fun (way, node) =>
    match node with
    | .file content =>
        if before.nodes.lookup way = some node then none else some (way, content)
    | .folder => none

end Directory

end MajiroScript
