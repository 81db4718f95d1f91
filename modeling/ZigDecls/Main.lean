import ZigDecls.Command.Run
import ZigDecls.Page.Item

/-!
# The program

The outer layer: it looks up on disk and in the environment what a run depends on, runs the command
on it, and prints and writes what the run leaves behind. The layout of the page is found elsewhere;
a listing of its items is read from standard input, once a run has got so far as to need it.
-/

/-! ## Listings of items -/

namespace ZigDecls.Listing

/-- A line feed, a tab and a backslash inside of a part are written with a backslash. -/
def unescape : List Char → List Char
  | [] => []
  | '\\' :: 'n' :: cs => '\n' :: unescape cs
  | '\\' :: 't' :: cs => '\t' :: unescape cs
  | '\\' :: c :: cs => c :: unescape cs
  | c :: cs => c :: unescape cs

def parts (line : List Char) : List String := (line.splitOn '\t').map fun cs => .ofList (unescape cs)

def itemOf (line : List Char) : Item :=
  let parts := parts line
  ⟨parts.headD "", parts[1]?, parts[2]?.bind String.toInt?, []⟩

/-- A row before the first item belongs to none. -/
def addLine (items : List Item) (line : List Char) : List Item :=
  match line, items with
  | [], items => items
  | '\t' :: _, [] => []
  | '\t' :: cells, item :: items => { item with grid := item.grid ++ [(parts cells).map some] } :: items
  | line, items => itemOf line :: items

/-- One line for each item: its label, its text and its level, with a tab between two of them. The rows of
an item's grid follow on lines of their own, and each cell of a row has a tab in front. -/
def items (listing : String) : List Item := ((listing.toList.splitOn '\n').foldl addLine []).reverse

end ZigDecls.Listing

/-! ## Reading and writing -/

namespace ZigDecls.Program
open Text

def nodeAt? (path : String) : IO (Option Node) := do
  match ← (IO.FS.readBinFile path).toBaseIO with
  | .ok bytes => return some (.file bytes.toList)
  | .error (.noFileOrDirectory ..) => return none
  | .error (.inappropriateType ..) => return some .directory
  | .error e => throw e

/-- The tree with what is on disk along the names; `passed` are those already looked at. -/
def look (tree : Tree) (root : String) (place : Place) (passed : List CodePoints) : List CodePoints → IO Tree
  | [] => return tree
  | name :: names => do
    let place := Tree.enter place name
    let passed := passed ++ [name]
    match ← nodeAt? (Path.text ⟨root, passed⟩).shown with
    | none => return tree
    | some (.file bytes) => return tree.putFile place bytes
    | some .directory => look { tree with directories := tree.directories ++ [place] } root place passed names

def lookAlong (tree : Tree) (path : CodePoints) : IO Tree :=
  let p := Path.ofPoints path
  look tree p.root (if p.root.isEmpty then [] else ["/"]) [] p.names

/-- The variables of the settings, under their names in capitals and in small letters. -/
def readEnvironment : IO Environment := do
  let n := settingNames
  let small := [n.integerType, n.floatType, n.trueAsBool, n.unionsAsJson, n.strict].map (variableMark ++ ·)
  let found ← (small ++ small.map fun name => name.map Char.toUpper).mapM fun name => do
    return (← IO.getEnv name).map fun value => (name, value)
  return found.filterMap id

def readItems : IO (List Item) := do
  return Listing.items ("\n".intercalate (← (← IO.getStdin).lines).toList)

def placeText (place : Place) : String :=
  if place.head? = some "/" then "/" ++ "/".intercalate (place.tail.map CodePoints.shown)
  else "/".intercalate (place.map CodePoints.shown)

/-- Brings the disk from the earlier tree to the later one. -/
def writeChanges (earlier later : Tree) : IO Unit := do
  for place in later.directories do
    unless earlier.directories.contains place do IO.FS.createDirAll (placeText place)
  for (place, bytes) in earlier.changedFiles later do
    IO.FS.writeBinFile (placeText place) ⟨bytes.toArray⟩

/-- In seconds, with one decimal. -/
def elapsedText (milliseconds : Nat) : String :=
  let tenths := (milliseconds + 50) / 100
  toString (tenths / 10) ++ "." ++ toString (tenths % 10)

def runIn (words : List String) : IO UInt32 := do
  let start ← IO.monoMsNow
  let args := words.map fun (word : String) => (word : CodePoints)
  let tree ← match Command.Request.ofArgs args with
    | .ok r => do
      let tree ← lookAlong ⟨[], []⟩ r.path
      match r.output with
      | none => pure tree
      | some output => if output = "-" then pure tree else lookAlong tree output
    | .error _ => pure ⟨[], []⟩
  let env ← readEnvironment
  let run := fun items => Command.run ⟨args, env, tree, items⟩
  let outcome ← if (run []).stream.isSome then run <$> readItems else pure (run [])
  writeChanges tree outcome.tree
  let elapsed := elapsedText ((← IO.monoMsNow) - start)
  for event in outcome.log do
    IO.eprintln (event.line elapsed)
    if let .failed f := event then IO.eprintln f.message
  match outcome.ending with
  | .misused m => IO.eprint m.report
  | .broken f => IO.eprintln f.message
  | .helped | .exited _ => pure ()
  IO.print outcome.stdout.shown
  return .ofNat outcome.ending.status

end ZigDecls.Program

def main (args : List String) : IO UInt32 := ZigDecls.Program.runIn args
