/-
# A working directory in memory

The program takes the reading of files as an argument.  A directory is such a
reading: files by their paths, and nothing known of the world around it.

A path is followed part by part, from the working directory or, when it begins
with a slash, from outside of it.

| part | from a directory | from a file |
| --- | --- | --- |
| empty, or one dot | stays | fault |
| two dots | goes up, from the working directory to the outside | fault |
| a name | goes to the file or directory of the name, if there is one | fault |
-/

import SecurityTokens.Bytes
import SecurityTokens.Fault

namespace SecurityTokens
namespace CommandLine

/-- Files by their paths, the parts of which are names. -/
structure Directory where
  files : List (List String × Bytes)
deriving DecidableEq, Repr

/-- The parts of a path. -/
def pathParts (path : String) : List String := (path.toList.splitOn '/').map String.ofList

namespace Directory

/-- What the parts of a path have led to: a directory, by its own parts, a place
outside, or a file. -/
inductive Place where
  | directory (parts : List String)
  | outside
  | file (content : Bytes)
deriving DecidableEq, Repr

/-- The directory of files that are given with their paths; of two files with one
path the later one counts. -/
def ofFiles (files : List (String × Bytes)) : Directory :=
  ⟨files.reverse.map fun (path, content) => (pathParts path, content)⟩

/-- The greatest number of bytes in a name. -/
def maxNameLength : Nat := 255

/-- The greatest number of bytes in a path. -/
def maxPathLength : Nat := 4095

/-- Goes to what is found under some parts. -/
def enter (d : Directory) (parts : List String) : Except FileFault Place :=
  match d.files.lookup parts with
  | some content => .ok (.file content)
  | none =>
    if d.files.any fun file => parts.isPrefixOf file.1 then .ok (.directory parts)
    else .error .notFound

/-- Follows one part of a path. -/
def follow (d : Directory) (place : Place) (part : String) : Except FileFault Place :=
  match place with
  | .file _ => .error .notDirectory
  | .outside =>
    if part = "" ∨ part = "." ∨ part = ".." then .ok .outside
    else if part.utf8ByteSize > maxNameLength then .error .nameTooLong
    else .error .notFound
  | .directory parts =>
    if part = "" ∨ part = "." then .ok (.directory parts)
    else if part = ".." then
      if parts.isEmpty then .ok .outside else .ok (.directory parts.dropLast)
    else if part.utf8ByteSize > maxNameLength then .error .nameTooLong
    else d.enter (parts ++ [part])

/-- The bytes of the file that a path leads to. -/
def read (d : Directory) (path : String) : Except FileFault Bytes :=
  if path = "" then .error .notFound
  else if path.toList.contains '\x00' then .error .nulInName
  else if path.utf8ByteSize > maxPathLength then .error .nameTooLong
  else do
    let start := if path.startsWith "/" then Place.outside else Place.directory []
    match ← (pathParts path).foldlM d.follow start with
    | .file content => .ok content
    | _ => .error .isDirectory

end Directory
end CommandLine
end SecurityTokens
