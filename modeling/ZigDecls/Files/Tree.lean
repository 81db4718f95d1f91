import ZigDecls.Files.Path

/-!
# File trees

The files and directories that a run can reach, each at its place: the names that lead to it from
the working directory. A directory is there if it is listed or if anything lies below it.
-/

namespace ZigDecls
open Text

/-- The names from the working directory; in front of them `/` for a place below a root, and double
dots for a place above the working directory. -/
abbrev Place := List CodePoints

structure Tree where
  files : List (Place × List UInt8)
  directories : List Place
deriving DecidableEq, Repr

inductive Node
  | file (bytes : List UInt8)
  | directory
deriving DecidableEq, Repr

namespace Tree

/-- The places that are directories in every tree: the working directory, those above it, and the
root. -/
def isFixed (place : Place) : Bool := place.all (· = "..") || place == (["/"] : Place)

def isDirectory (t : Tree) (place : Place) : Bool :=
  isFixed place || t.directories.any place.isPrefixOf || t.files.any fun f => place.isPrefixOf f.1 && f.1 != place

def at? (t : Tree) (place : Place) : Option Node :=
  match t.files.lookup place with
  | some bytes => some (.file bytes)
  | none => if t.isDirectory place then some .directory else none

/-- The place that a name leads to from a directory. -/
def enter (place : Place) (name : CodePoints) : Place :=
  if name ≠ ".." then place ++ [name]
  else if place == (["/"] : Place) then place
  else if isFixed place then place ++ [name]
  else place.dropLast

/-- What stops a walk before the last name of a path. -/
inductive Stop
  | missing
  | throughFile
  | tooLong
deriving DecidableEq, Repr

/-- The place that the names lead to; all but the last of them must lead to directories. -/
def walk (t : Tree) (place : Place) : List CodePoints → Except Stop Place
  | [] => .ok place
  | [name] => if Path.nameTooLong name then .error .tooLong else .ok (enter place name)
  | name :: names =>
    if Path.nameTooLong name then .error .tooLong
    else
      match t.at? (enter place name) with
      | some .directory => t.walk (enter place name) names
      | some (.file _) => .error .throughFile
      | none => .error .missing

def place? (t : Tree) (p : Path) : Except Stop Place :=
  if p.isTooLong then .error .tooLong else t.walk (if p.root.isEmpty then [] else ["/"]) p.names

/-- What is at the path, if anything is; a path that is too long cannot be asked for. -/
def find (t : Tree) (p : Path) : Except Failure (Option Node) :=
  if p.refusal?.isSome then .ok none
  else
    match t.place? p with
    | .ok place => .ok (t.at? place)
    | .error .tooLong => .error (.nameTooLong p.text)
    | .error _ => .ok none

/-! ## Writing -/

def putFile (t : Tree) (place : Place) (bytes : List UInt8) : Tree :=
  if (t.files.lookup place).isSome then
    { t with files := t.files.map fun f => if f.1 == place then (place, bytes) else f }
  else { t with files := t.files ++ [(place, bytes)] }

/-- Why nothing can be made where the walk along the path was stopped. -/
def Stop.failure (s : Stop) (p : Path) : Failure :=
  match s with
  | .tooLong => .nameTooLong p.text
  | .missing | .throughFile => .notDirectory p.text

/-- The tree with the directory that the path leads to. -/
def makeDirectoryAt (t : Tree) (p : Path) (place : Place) : Except (Tree × Failure) Tree :=
  match t.at? place with
  | some .directory => .ok t
  | some (.file _) => .error (t, .fileExists p.text)
  | none => .ok { t with directories := t.directories ++ [place] }

/-- The tree with the directory at the path; `above` gives it with the directory above, and is asked
for only where that is missing. -/
def makeDirectoryIn (t : Tree) (p : Path) (above : Except (Tree × Failure) Tree) : Except (Tree × Failure) Tree :=
  match t.place? p with
  | .ok place => t.makeDirectoryAt p place
  | .error .missing => do
    let t ← above
    match t.place? p with
    | .ok place => t.makeDirectoryAt p place
    | .error s => .error (t, s.failure p)
  | .error s => .error (t, s.failure p)

/-- The names are those of a directory, the last one in front. -/
def makeDirectoriesFrom (t : Tree) (root : String) : List CodePoints → Except (Tree × Failure) Tree
  | [] => .ok t
  | name :: above =>
    t.makeDirectoryIn ⟨root, (name :: above).reverse⟩ (t.makeDirectoriesFrom root above)

/-- The tree with the directories along the path, also where one of them cannot be made: those above
it stay. -/
def makeDirectories (t : Tree) (p : Path) : Except (Tree × Failure) Tree :=
  match p.refusal? with
  | some f => .error (t, f)
  | none => t.makeDirectoriesFrom p.root p.names.reverse

/-- The tree with an empty file at the path, and its place. What the file held is gone. -/
def openFile (t : Tree) (p : Path) : Except Failure (Tree × Place) :=
  match p.refusal? with
  | some f => .error f
  | none =>
    match t.place? p with
    | .error s => .error (s.failure p)
    | .ok place =>
      match t.at? place with
      | some .directory => .error (.isDirectory p.text)
      | _ => .ok (t.putFile place [], place)

/-- The file is opened before the text is encoded, so it stays empty where the text has no bytes. -/
def writeFile (t : Tree) (p : Path) (text : CodePoints) : Except (Tree × Failure) Tree :=
  match t.openFile p with
  | .error f => .error (t, f)
  | .ok (opened, place) =>
    match text.encode with
    | .error fault => .error (opened, .noBytes fault)
    | .ok bytes => .ok (opened.putFile place bytes)

/-- The files of the later tree that the earlier one has not, or has with other bytes. -/
def changedFiles (earlier later : Tree) : List (Place × List UInt8) :=
  later.files.filter fun f => earlier.files.lookup f.1 != some f.2

end Tree

end ZigDecls
