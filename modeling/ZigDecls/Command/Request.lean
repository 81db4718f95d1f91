import ZigDecls.Command.Overrides
import ZigDecls.Command.Word

/-!
# Requests

What a command line asks for. The words take effect one after the other, so of two values for one
option the later counts; the first plain word is the path of the page, and all further ones are
left over. A line asks for a run if it has a path and leaves nothing over. The separator is never a
value: an option that has it written in its own word is set to no value.
-/

namespace ZigDecls.Command
open Text

structure Request where
  path : CodePoints
  output : Option CodePoints
  region : Option CodePoints
  overrides : Overrides
  level : Option Level
deriving DecidableEq, Repr

def Request.standard : Request where
  path := ""
  output := some "output/types.zig"
  region := some defaultRegion
  overrides := .none
  level := some .info

/-- What ends the reading of a command line early. -/
inductive Stop
  | help
  | misuse (m : Misuse)
deriving DecidableEq, Repr

/-- What the words so far have come to. -/
structure Progress where
  request : Request
  hasPath : Bool
  /-- The word before was the path. -/
  justRead : Bool
  leftover : List CodePoints
deriving DecidableEq, Repr

namespace Progress

def start : Progress := ⟨.standard, false, false, []⟩

def change (p : Progress) (f : Request → Request) : Progress := { p with request := f p.request, justRead := false }

def plain (p : Progress) (s : CodePoints) : Progress :=
  if p.hasPath then { p with justRead := false, leftover := p.leftover ++ [s] }
  else { p with request := { p.request with path := s }, hasPath := true, justRead := true }

/-- The separator belongs to the path where it stands right before or right behind it. -/
def separator (p : Progress) : Progress :=
  if p.hasPath && !p.justRead then { p with leftover := p.leftover ++ [("--" : CodePoints)] }
  else { p with justRead := false }

def unknown (p : Progress) (s : CodePoints) : Progress := { p with justRead := false, leftover := p.leftover ++ [s] }

def setValue (p : Progress) (opt : Opt) (value : Option CodePoints) : Except Stop Progress :=
  let override (f : Overrides → Overrides) := p.change fun r => { r with overrides := f r.overrides }
  match opt with
  | .output => .ok (p.change fun r => { r with output := value })
  | .region => .ok (p.change fun r => { r with region := value })
  | .integerType => .ok (override fun o => { o with integerType := some value })
  | .floatType => .ok (override fun o => { o with floatType := some value })
  | .logLevel =>
    match value with
    | none => .ok (p.change fun r => { r with level := none })
    | some name =>
      match name.string?.bind Level.ofName? with
      | some level => .ok (p.change fun r => { r with level := some level })
      | none => .error (.misuse (.unknownLevel name))
  | _ => .ok p

/-- An option without a value. -/
def setSwitch (p : Progress) (opt : Opt) : Except Stop Progress :=
  let override (f : Overrides → Overrides) := p.change fun r => { r with overrides := f r.overrides }
  match opt with
  | .help => .error .help
  | .noRegion => .ok (p.change fun r => { r with region := none })
  | .trueAsBool on => .ok (override fun o => { o with trueAsBool := some on })
  | .unionsAsJson on => .ok (override fun o => { o with unionsAsJson := some on })
  | .strict on => .ok (override fun o => { o with strict := some on })
  | _ => .ok p

end Progress

/-- What `-h` with letters behind it asks for. The letters are read as short options, and a short
option that takes a value takes the letters behind it; `valueFollows` says whether the next word
could be a value. -/
def clusterStop (valueFollows : Bool) : CodePoints → Stop
  | [.char 'h'] => .help
  | .char 'h' :: cs => clusterStop valueFollows cs
  | [.char 'o'] => if valueFollows then .help else .misuse (.valueExpected .output)
  | .char 'o' :: _ => .help
  | cs => .misuse (.valueIgnored .help cs)

/-- The value that is written in the same word as its option. -/
def valueOf (cs : CodePoints) : Option CodePoints := if cs = "--" then none else some cs

def startsPlain : List Word → Bool
  | .plain _ :: _ => true
  | _ => false

def follow (p : Progress) : List Word → Except Stop Progress
  | [] => .ok p
  | .plain s :: words => follow (p.plain s) words
  | .separator :: words => follow p.separator words
  | .unknown s :: words => follow (p.unknown s) words
  | .option opt attached :: words =>
    if opt.takesValue then
      match attached, words with
      | some (.toLong value), words | some (.toShort value), words => do
        follow (← p.setValue opt (valueOf value)) words
      | none, .plain value :: words => do follow (← p.setValue opt (some value)) words
      | none, _ => .error (.misuse (.valueExpected opt))
    else
      match attached with
      | none => do follow (← p.setSwitch opt) words
      | some (.toLong value) => .error (.misuse (.valueIgnored opt value))
      | some (.toShort tail) => .error (clusterStop (startsPlain words) tail)

/-- The request that the arguments make. -/
def Request.ofArgs (args : List CodePoints) : Except Stop Request := do
  let words ← (wordsOf args).mapError .misuse
  let p ← follow .start words
  if !p.hasPath then throw (.misuse .pathRequired)
  if !p.leftover.isEmpty then throw (.misuse (.unrecognized p.leftover))
  return p.request

end ZigDecls.Command
