import ZigDecls.Failure
import ZigDecls.Record.Basic
import ZigDecls.Zig.Declaration

/-!
# The log

Events carry what happened; their level, their source and their wording are functions of the event.
-/

namespace ZigDecls
open Text

inductive Level
  | debug
  | info
  | warning
  | error
deriving DecidableEq, Repr

namespace Level

def name : Level → String
  | debug => "DEBUG"
  | info => "INFO"
  | warning => "WARNING"
  | error => "ERROR"

def all : List Level := [debug, info, warning, error]

def ofName? (s : String) : Option Level := all.find? fun l => l.name == s

def rank : Level → Nat
  | debug => 10
  | info => 20
  | warning => 30
  | error => 40

end Level

inductive Event
  | selectedRegion (id : String) (chars : Nat)
  | converting (path : String)
  | skippedItems (count : Nat)
  | loaded (elements : Nat)
  | skippedKind (kind : String)
  | discarded (index : Int) (typeName : String) (reason : Reason) (detail : String)
  | built (accepted candidates dropped : Nat)
  | filtered (count : Nat)
  | unmapped (entry : Unmapped)
  | emitted (structs pending : Nat)
  | ignored (rejected : List Rejection)
  | generated (names : List String)
  | placeholders (count : Nat)
  | fileNotFound (path : String)
  | invalidSettings (problem : String)
  | extracting (path : String)
  | failed (failure : Failure)
  | done (types dropped : Nat) (output : String)
deriving DecidableEq, Repr

namespace Event

def level : Event → Level
  | skippedItems _ | skippedKind _ => .debug
  | discarded .. | unmapped _ | placeholders _ => .warning
  | fileNotFound _ | invalidSettings _ | failed _ => .error
  | selectedRegion .. | converting _ | loaded _ | built .. | filtered _ | emitted .. | ignored _
  | generated _ | extracting _ | done .. => .info

/-- The part of the program that speaks. -/
def source : Event → String
  | selectedRegion .. | converting _ | skippedItems _ | loaded _ => "structgen.pipeline.loader"
  | skippedKind _ | discarded .. | built .. => "structgen.pipeline.builder"
  | filtered _ => "structgen.pipeline.validator"
  | unmapped _ | emitted .. => "structgen.pipeline.emitter"
  | ignored _ | generated _ | placeholders _ => "structgen.pipeline.report"
  | fileNotFound _ | invalidSettings _ | extracting _ | failed _ | done .. => "structgen.main"

def message (elapsed : String) : Event → String
  | selectedRegion id chars => "Selected region #" ++ id ++ " (" ++ toString chars ++ " chars)"
  | converting path => "Converting with Docling: " ++ path
  | skippedItems count => "Skipped " ++ toString count ++ " items without a usable label"
  | loaded elements => "Loaded " ++ toString elements ++ " elements"
  | skippedKind kind => "Skipping element of kind " ++ quoted kind
  | discarded index typeName reason detail =>
    "Discarding " ++ toString index ++ ":" ++ typeName ++ " (" ++ reason.text ++ ": " ++ detail ++ ")"
  | built accepted candidates dropped =>
    "Built " ++ toString accepted ++ " of " ++ toString candidates ++ " candidate records (" ++
      toString dropped ++ " discarded)"
  | filtered count => "Filtered " ++ toString count ++ " records with bad names or no fields"
  | unmapped entry => entry.owner ++ "." ++ entry.field ++ ": " ++ entry.reason
  | emitted structs pending =>
    "Emitted " ++ toString structs ++ " structs (" ++ toString pending ++ " unmapped field types)"
  | ignored rejected =>
    "Ignored " ++ toString rejected.length ++ " bad records, they are " ++
      ", ".intercalate (rejected.map Rejection.text)
  | generated names =>
    "Generated " ++ toString names.length ++ " types, they are " ++ ", ".intercalate names
  | placeholders count => toString count ++ " field types left as @compileError placeholders"
  | fileNotFound path => "File not found: " ++ path
  | invalidSettings problem => "Invalid configuration: " ++ problem
  | extracting path => "Extracting types from " ++ path
  | failed _ => "Pipeline failed"
  | done types dropped output =>
    "Done: " ++ toString types ++ " types, " ++ toString dropped ++ " ignored -> " ++ output ++ " (" ++
      elapsed ++ "s)"

/-- A line of the log; `elapsed` is the time the run took, in seconds. -/
def line (elapsed : String) (e : Event) : String :=
  e.level.name ++ " " ++ e.source ++ ": " ++ e.message elapsed

end Event

/-- The events that a log kept at the level shows. -/
def visibleAt (level : Level) (events : List Event) : List Event :=
  events.filter fun e => level.rank ≤ e.level.rank

end ZigDecls
