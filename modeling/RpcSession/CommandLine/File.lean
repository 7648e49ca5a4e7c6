import RpcSession.Text.Quoted

/-!
# Files named on the command line

A path is written without empty parts, parts that stay where they are, and a slash at the end. It
is followed part by part from the root or from the folder at work, and the first part that leads
nowhere is at fault.
-/

namespace RpcSession.CommandLine

/-! ## Paths -/

def splitSlashes : List Char → List (List Char)
  | [] => [[]]
  | character :: rest =>
      if character = '/' then [] :: splitSlashes rest
      else match splitSlashes rest with
        | [] => [[character]]
        | piece :: pieces => (character :: piece) :: pieces

def pathParts (path : String) : List String :=
  ((splitSlashes path.toList).map String.ofList).filter fun part => part != "" && part != "."

private def leadingSlashes (path : String) : Nat :=
  (path.toList.takeWhile (· == '/')).length

/-- A path without what makes no difference. Two slashes at the start, and just two, stay. -/
def normalPath (path : String) : String :=
  let root := match leadingSlashes path with
    | 0 => ""
    | 2 => "//"
    | _ => "/"
  let parts := "/".intercalate (pathParts path)
  if root == "" && parts == "" then "." else root ++ parts

example : normalPath "./a//b/" = "a/b" := by decide +kernel

/-! ## Faults -/

inductive FileFault where
  | notFound
  | isDirectory
  | notDirectory
  | nameTooLong
  | notPermitted
  | other (code : Nat) (text : String)
  | embeddedNul
  deriving DecidableEq, Repr

namespace FileFault

private def numbered (code : Nat) (text path : String) : String :=
  "[Errno " ++ toString code ++ "] " ++ text ++ ": " ++ Text.quoted (normalPath path)

def message (path : String) : FileFault → String
  | notFound => numbered 2 "No such file or directory" path
  | isDirectory => numbered 21 "Is a directory" path
  | notDirectory => numbered 20 "Not a directory" path
  | nameTooLong => numbered 36 "File name too long" path
  | notPermitted => numbered 13 "Permission denied" path
  | other code text => numbered code text path
  | embeddedNul => "embedded null byte"

end FileFault

/-! ## Folders -/

inductive Entry where
  | file (contents : List UInt8)
  | folder (entries : List (String × Entry))
  deriving Inhabited

namespace Entry

def longestPart : Nat := 255

def longestPath : Nat := 4095

/-- An entry with a file at the end of a path of names, in place of what was there. -/
def insert (entry : Entry) (contents : List UInt8) : (path : List String) → Entry
  | [] => file contents
  | name :: path =>
      let entries := match entry with
        | folder entries => entries
        | file _ => []
      let inner := ((entries.lookup name).getD (folder [])).insert contents path
      folder ((name, inner) :: entries.filter (·.1 != name))

/-- The entry to which a path leads from an entry, whose enclosing folders are given from inside
out. The root encloses itself. -/
def follow : (enclosing : List Entry) → Entry → (path : List String) → Except FileFault Entry
  | _, entry, [] => .ok entry
  | _, file _, _ :: _ => .error .notDirectory
  | enclosing, folder entries, ".." :: path =>
      match enclosing with
      | [] => follow [] (folder entries) path
      | outer :: outermost => follow outermost outer path
  | enclosing, folder entries, name :: path =>
      if longestPart < name.utf8ByteSize then .error .nameTooLong
      else match entries.lookup name with
        | none => .error .notFound
        | some entry => follow (folder entries :: enclosing) entry path

/-- The contents of the file to which a path leads, from the root when it begins with a slash and
from a folder right below the root otherwise. -/
def read (root working : Entry) (path : String) : Except FileFault (List UInt8) := do
  if path.toList.contains '\x00' then throw .embeddedNul
  if longestPath < (normalPath path).utf8ByteSize then throw .nameTooLong
  let parts := pathParts path
  let found ← if path.startsWith "/" then follow [] root parts else follow [root] working parts
  match found with
  | file contents => return contents
  | folder _ => throw .isDirectory

end Entry

end RpcSession.CommandLine
