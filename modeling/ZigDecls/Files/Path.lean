import ZigDecls.Failure

/-!
# Paths

A path is a root and the names below it. Empty names and single dots in the text of a path are
dropped; double dots are kept.
-/

namespace ZigDecls
open Text

structure Path where
  /-- Empty for a path from the working directory. -/
  root : String
  names : List CodePoints
deriving DecidableEq, Repr

namespace Path

/-- Two slashes in front are a root of their own, three are one. -/
def ofPoints (ps : CodePoints) : Path :=
  let slashes := (ps.takeWhile (· = .char '/')).length
  let root := if slashes = 0 then "" else if slashes = 2 then "//" else "/"
  ⟨root, (ps.splitOn (.char '/')).filter fun name => !name.isEmpty && name != "."⟩

def text (p : Path) : CodePoints :=
  if p.root.isEmpty && p.names.isEmpty then "." else p.root ++ [.char '/'].intercalate p.names

def parent (p : Path) : Path := { p with names := p.names.dropLast }

def name (p : Path) : CodePoints := p.names.getLastD []

/-- The name up to its last dot, where that is neither its first nor its last code point. -/
def stem (p : Path) : CodePoints :=
  let suffix := p.name.reverse.takeWhile (· ≠ .char '.')
  let kept := p.name.length - suffix.length - 1
  if suffix.isEmpty || kept = 0 then p.name else p.name.take kept

/-- Why nothing can be asked for under the path: its text has no bytes, or holds a null character. -/
def refusal? (p : Path) : Option Failure :=
  match p.text.unnameable? with
  | some fault => some (.noBytes fault)
  | none => if p.text.contains (.char '\x00') then some .nullInPath else none

/-- Longer than a path may be, counted in bytes. -/
def isTooLong (p : Path) : Bool := 4095 < p.text.byteCount

/-- A name that is longer than a name may be, counted in bytes. -/
def nameTooLong (name : CodePoints) : Bool := 255 < name.byteCount

end Path

end ZigDecls
