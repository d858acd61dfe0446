import SystemProgram.Bytes

namespace SystemProgram

/-- The name of a file or directory in the directory that holds it. -/
abbrev Name := List Char

namespace Path

def split : List Char → List Name
  | [] => [[]]
  | c :: cs =>
    if c = '/' then [] :: split cs
    else
      match split cs with
      | [] => [[c]]
      | n :: ns => (c :: n) :: ns

def join (names : List Name) : List Char :=
  ['/'].intercalate names

def append (dir path : List Char) : List Char :=
  if path.head? = some '/' then path
  else if dir = [] ∨ dir.getLast? = some '/' then dir ++ path
  else dir ++ '/' :: path

/-- The path without slashes at its end, unless it has nothing else. -/
def dropSlashes (path : List Char) : List Char :=
  if path.all (· = '/') then path else (path.reverse.dropWhile (· = '/')).reverse

def names (path : List Char) : List Name :=
  (split path).filter fun n => n ≠ [] ∧ n ≠ ['.']

/-- The slashes that an absolute path is reported with: two if it begins with just two. -/
def root : List Char → List Char
  | '/' :: '/' :: '/' :: _ => ['/']
  | '/' :: '/' :: _ => ['/', '/']
  | '/' :: _ => ['/']
  | _ => []

def tidy (path : List Char) : List Char :=
  let path := root path ++ join (names path)
  if path = [] then ['.'] else path

/-- What follows the last dot of a name, with the dot. A dot at either end of the name does not
count. -/
def suffix (path : List Char) : List Char :=
  let name := ((names path).getLast?).getD []
  let ending := (name.reverse.takeWhile (· ≠ '.')).reverse
  if ending = [] ∨ name.length ≤ ending.length + 1 then [] else '.' :: ending

theorem split_ne_nil (cs : List Char) : split cs ≠ [] := by
  cases cs with
  | nil => simp [split]
  | cons c cs =>
    simp only [split]
    split
    · simp
    · split <;> simp

/-- No part holds a slash. -/
theorem not_mem_of_mem_split {cs : List Char} {n : Name} (h : n ∈ split cs) : '/' ∉ n := by
  induction cs generalizing n with
  | nil => simp_all [split]
  | cons c cs ih =>
    simp only [split] at h
    split at h
    · rcases List.mem_cons.1 h with rfl | h
      · simp
      · exact ih h
    · rename_i hc
      split at h
      · rename_i h0
        exact absurd h0 (split_ne_nil cs)
      · rename_i m ms hm
        rcases List.mem_cons.1 h with rfl | h
        · have := ih (n := m) (by simp [hm])
          simp only [List.mem_cons, not_or]
          exact ⟨fun e => hc e.symm, this⟩
        · exact ih (by simp [hm, h])

end Path

def wayBelow : List Name → List Name → Option (List Name)
  | [], way => some way
  | _ :: _, [] => none
  | n :: place, m :: way => if n = m then wayBelow place way else none

/-- Files by the names on the way to them from the root, with what they hold. -/
structure FileTree where
  files : List (List Name × Bytes)
  /-- Directories besides those on the ways to the files. -/
  folders : List (List Name)
  /-- The place of the working directory. -/
  cwd : List Name
deriving Repr

namespace FileTree

/-- The place that one name leads to; two dots lead back, but not beyond the root. -/
def enter (place : List Name) (n : Name) : List Name :=
  if n = ['.', '.'] then place.dropLast else place ++ [n]

/-- The places that names lead to one after the other, the first one included. -/
def trail (place : List Name) : List Name → List (List Name)
  | [] => [place]
  | n :: ns => place :: trail (enter place n) ns

def origin (t : FileTree) (path : List Char) : List Name :=
  if path.head? = some '/' then [] else t.cwd

/-- Puts a file into the tree, in the place of one at the same path, and the directories that lead
there. -/
def insert (t : FileTree) (path : List Char) (content : Bytes) : FileTree :=
  let place := (Path.names path).foldl enter (t.origin path)
  { t with
    files := t.files.filter (fun f => f.1 ≠ place) ++ [(place, content)]
    folders := t.folders ++
      (trail (t.origin path) (Path.names path)).filter fun d => (wayBelow d place).isNone }

def ofFiles (files : List (String × Bytes)) (cwd : List Name := []) : FileTree :=
  files.foldl (fun t f => t.insert f.1.toList f.2) ⟨[], trail [] cwd, cwd⟩

def bytes? (t : FileTree) (place : List Name) : Option Bytes :=
  t.files.lookup place

def isFile (t : FileTree) (place : List Name) : Bool :=
  t.files.any fun f => f.1 = place

def below (t : FileTree) (place : List Name) : List (List Name) :=
  (t.files.filterMap fun f => wayBelow place f.1).filter (· ≠ [])

def foldersBelow (t : FileTree) (place : List Name) : List (List Name) :=
  (t.folders.filterMap (wayBelow place)).filter (· ≠ [])

def isDirectory (t : FileTree) (place : List Name) : Bool :=
  place = [] || t.folders.contains place || !(t.below place).isEmpty

def list (t : FileTree) (place : List Name) (onlyDirectories : Bool) : List Name :=
  (((t.below place).filter fun way => !onlyDirectories || 1 < way.length) ++
    t.foldersBelow place).filterMap List.head? |>.eraseDups

def directoriesOn : List Name → List (List Name)
  | [] => []
  | [_] => []
  | n :: way => [n] :: (directoriesOn way).map (n :: ·)

/-- The directories below a place, each once, by the way to them. -/
def directoriesBelow (t : FileTree) (place : List Name) : List (List Name) :=
  ((t.below place).flatMap directoriesOn ++ t.foldersBelow place).eraseDups

/-- Follows one part of a path from a place. Only a directory leads anywhere. -/
def follow (t : FileTree) (place : List Name) (part : Name) : Option (List Name) :=
  if !t.isDirectory place then none
  else if part = [] ∨ part = ['.'] then some place
  else some (enter place part)

def locate (t : FileTree) (path : List Char) : Option (List Name) :=
  ((Path.split path).foldlM t.follow (t.origin path)).filter fun place =>
    t.isFile place || t.isDirectory place

end FileTree
end SystemProgram
