/-!
# Paths and the files they lead to

A path is shown in a plain form: without parts that stay in place and without doubled slashes, but with
the parts that go up. A directory tree is given by the files in it; a path leads from the working
directory through directories to a file, or the way breaks off.
-/

namespace Primer.CommandLine

/-- A path: what it begins with if it is absolute, and its parts. -/
structure Path where
  root : String
  parts : List String

/-- The parts of a text between slashes. -/
def splitSlashes (current : List Char) : List Char → List (List Char)
  | [] => [current.reverse]
  | '/' :: cs => current.reverse :: splitSlashes [] cs
  | c :: cs => splitSlashes (c :: current) cs

namespace Path

/-- The path that a text stands for. Exactly two slashes in front are kept. -/
def ofText (text : String) : Path :=
  let cs := text.toList
  let slashes := (cs.takeWhile (· == '/')).length
  let parts := (splitSlashes [] cs).filter fun p => !p.isEmpty && p != ['.']
  { root := if slashes = 0 then "" else if slashes = 2 then "//" else "/"
    parts := parts.map String.ofList }

/-- A path as it is shown. -/
def text (p : Path) : String :=
  if p.root.isEmpty && p.parts.isEmpty then "." else p.root ++ "/".intercalate p.parts

end Path

/-- Why a file cannot be read. -/
inductive FileIssue where
  | missing
  | directory
  | throughFile
deriving DecidableEq

/-- What is said about a file that cannot be read. -/
def FileIssue.message : FileIssue → String
  | missing => "No such file or directory"
  | directory => "Is a directory"
  | throughFile => "Not a directory"

/-- The files below a working directory, each with the parts of its path. Nothing else can be reached
from there. -/
structure Directory where
  files : List (List String × ByteArray)

namespace Directory

/-- Whether some file lies below this place. -/
def isDirectory (d : Directory) (place : List String) : Bool :=
  d.files.any fun f => place.isPrefixOf f.1 && place.length < f.1.length

/-- Follows the parts of a path from above the working directory, where there are no files to find. -/
def walkOutside : List String → FileIssue
  | [] => .directory
  | ".." :: parts => walkOutside parts
  | _ :: _ => .missing

/-- Follows the parts of a path from a directory, given by the parts that lead to it. -/
def walk (d : Directory) (place : List String) : List String → Except FileIssue ByteArray
  | [] => .error .directory
  | ".." :: parts => if place.isEmpty then .error (walkOutside parts) else walk d place.dropLast parts
  | part :: parts =>
    let next := place ++ [part]
    match d.files.find? fun f => f.1 == next with
    | some f => if parts.isEmpty then .ok f.2 else .error .throughFile
    | none => if d.isDirectory next then walk d next parts else .error .missing

/-- What a path leads to. -/
def read (d : Directory) (p : Path) : Except FileIssue ByteArray :=
  if p.root.isEmpty then d.walk [] p.parts else .error (walkOutside p.parts)

end Directory

end Primer.CommandLine
