import SystemProgram.FileTree
import SystemProgram.FileTree.Wildcard

namespace SystemProgram.FileTree

def isHidden (name : Name) : Bool :=
  name.head? = some '.'

/-- The name in a pattern that stands for any number of directories. -/
def anyDirectories : Name :=
  ['*', '*']

/-- The part of a pattern before its first name with wildcards, and the names from there on. -/
def splitPattern (pattern : List Char) : List Char × List Name :=
  let (fixed, rest) := (Path.split pattern).span fun n => !Wildcard.isPattern n
  (Path.dropSlashes (fixed.flatMap (· ++ ['/'])), rest.filter (· ≠ []))

/-- The place of a directory by its path; the empty path is that of the working directory. -/
def locateDirectory (t : FileTree) (dir : List Char) : Option (List Name) :=
  (t.locate dir).filter t.isDirectory

def fitting (t : FileTree) (onlyDirectories : Bool) (name : Name) (dir : List Char) : List Name :=
  if name = anyDirectories then
    match t.locateDirectory dir with
    | none => []
    | some place =>
      [] :: ((t.directoriesBelow place).filter fun way => !way.any isHidden).map Path.join
  else if Wildcard.isPattern name then
    match t.locateDirectory dir with
    | none => []
    | some place => (t.list place onlyDirectories).filter fun n =>
        (isHidden name || !isHidden n) && Wildcard.matchAll (Wildcard.parse name) n
  else if (t.locate (Path.append dir name)).isSome then [name]
  else []

/-- One step of a search: from a directory to what fits in it. -/
def advance (t : FileTree) (onlyDirectories : Bool) (name : Name) (dir : List Char) :
    List (List Char) :=
  (t.fitting onlyDirectories name dir).map (Path.append dir)

def searchFrom (t : FileTree) (dirs : List (List Char)) : List Name → List (List Char)
  | [] => dirs
  | [name] => dirs.flatMap (t.advance false name)
  | name :: rest => searchFrom t (dirs.flatMap (t.advance true name)) rest

/-- The paths that fit a pattern, in no particular order. A path that fits in several ways is
there several times. -/
def search (t : FileTree) (pattern : List Char) : List (List Char) :=
  let (dir, names) := splitPattern pattern
  t.searchFrom [dir] names

end SystemProgram.FileTree
