import DwmIpc.Config.Path

/-!
# Files

A `FileTree` lists files and directories. Directories that a listed path goes
through are there too, and so are the working directory, the directories above
it and `/`. `FileTree.find` walks along a path part by part.
-/

namespace DwmIpc

/-- What is found at a path. -/
inductive Found where
  | nothing
  | directory
  | file (content : Bytes)
  /-- The system refuses to look. -/
  | refused (fault : FileFault)
  deriving DecidableEq

/-- A place in the file system, reached without `..`. -/
structure Place where
  isAbsolute : Bool
  names : List Bytes
  deriving DecidableEq

/-- The files that there are; a place without content is a directory. -/
structure FileTree where
  entries : List (Place × Option Bytes)

namespace FileTree

/-- The place of a path without `..`, if all its names have bytes. -/
def placeOf? (path : Path) : Option Place :=
  match path.parts.mapM fun part => (Utf8.encodeEscaping part).toOption with
  | some names => some ⟨path.root != .workingDirectory, names⟩
  | none => none

/-- The tree of some files and directories; the latter have no content. -/
def ofList (files : List (Path × Option Bytes)) : FileTree :=
  ⟨files.filterMap fun (path, content) => (placeOf? path).map fun place => (place, content)⟩

/-- Is one place inside another, or the same? -/
def isWithin (inner outer : Place) : Bool :=
  inner.isAbsolute == outer.isAbsolute && outer.names.isPrefixOf inner.names

/-- What is at a place. -/
def entryAt (tree : FileTree) (place : Place) : Found :=
  match tree.entries.find? fun entry => isWithin entry.1 place with
  | none => if place.names.isEmpty then .directory else .nothing
  | some (found, content) =>
    match content with
    | some bytes => if found = place then .file bytes else .directory
    | none => .directory

/-- The longest name of a file in bytes. -/
def maxName : Nat := 255

/-- The longest path in bytes. -/
def maxPath : Nat := 4095

/-- The refusal of a name that is too long. -/
def tooLong (path : Path) : Found :=
  .refused ⟨36, "File name too long", path.text⟩

/-- Walks on from a place, or from somewhere above the working directory. -/
def walk (tree : FileTree) (path : Path) : List Bytes → Option Place → Found
  | [], some place => tree.entryAt place
  | [], none => .directory
  | name :: rest, here =>
    if name = Bytes.ofAscii ".." then
      match here with
      | none => walk tree path rest none
      | some place =>
        if place.names.isEmpty && !place.isAbsolute then walk tree path rest none
        else walk tree path rest (some { place with names := place.names.dropLast })
    else if maxName < name.length then tooLong path
    else
      match here with
      | none => .nothing
      | some place =>
        let next : Place := { place with names := place.names ++ [name] }
        match tree.entryAt next with
        | .directory => walk tree path rest (some next)
        | other => if rest.isEmpty then other else .nothing

/-- What is found at a path. There is nothing where a name has no bytes or has a zero byte. -/
def find (tree : FileTree) (path : Path) : Found :=
  match Utf8.encodeEscaping path.text, placeOf? path with
  | .ok bytes, some place =>
    if bytes.contains 0 then .nothing
    else if maxPath < bytes.length then tooLong path
    else walk tree path place.names (some { place with names := [] })
  | _, _ => .nothing

end FileTree

end DwmIpc
