import ZigDecls.Log
import ZigDecls.Page.Load
import ZigDecls.Record.Collector
import ZigDecls.Record.Screen

/-!
# A whole run

Load the page, collect its records, screen them, write their declarations and sum up. A run can
fail while the page is loaded and, under the strict setting, while declarations are written.
-/

namespace ZigDecls
open Text

/-! ## The summary -/

structure Summary where
  accepted : Nat
  rejected : Nat
  unmapped : Nat
deriving DecidableEq, Repr

def summary (names : List String) (rejected : List Rejection) (unmapped : Nat) : Summary :=
  ⟨names.length, rejected.length, unmapped⟩

def ignoredEvents (rejected : List Rejection) : List Event :=
  if rejected.isEmpty then [] else [.ignored rejected]

/-- The rejections are listed if there are any, and placeholders are warned of. -/
def summaryEvents (names : List String) (rejected : List Rejection) (unmapped : Nat) : List Event :=
  ignoredEvents rejected ++ [.generated names] ++ if unmapped = 0 then [] else [.placeholders unmapped]

/-! ## The run -/

def Collector.events (c : Collector) : List Event :=
  c.log ++ [.built c.accepted.length c.candidates c.rejected.length]

def screenEvents (newly : Nat) : List Event := if newly = 0 then [] else [.filtered newly]

def Code.events (structs : Nat) (code : Code) : List Event :=
  code.unmapped.map .unmapped ++ [.emitted structs code.unmapped.length]

/-- What a run comes to after its page was loaded. -/
structure Product where
  code : Code
  records : List Record
  rejected : List Rejection
deriving DecidableEq, Repr

def Product.summary (p : Product) : Summary :=
  ZigDecls.summary (p.records.map (·.typeName)) p.rejected p.code.unmapped.length

def Product.summaryEvents (p : Product) : List Event :=
  ZigDecls.summaryEvents (p.records.map (·.typeName)) p.rejected p.code.unmapped.length

structure Run where
  log : List Event
  stream : Option Stream
  result : Except Failure Product

/-- The declarations of the records, and what is logged of them. -/
def declareRecords (settings : Settings) (records : List Record) : List Event × Except Failure Code :=
  match Code.ofRecords settings records with
  | .error e => ([], .error (.unmapped e))
  | .ok code => (code.events records.length, .ok code)

/-- The work on the elements of a page, and what is logged of it, with a way to declare records. -/
def produceBy (declare : List Record → List Event × Except Failure Code) (elements : List Element) :
    List Event × Except Failure Product :=
  let c := collect elements
  let s := review c.accepted c.rejected
  let log := c.events ++ screenEvents (screen c.accepted).rejected.length
  match declare s.good with
  | (events, .error f) => (log ++ events, .error f)
  | (events, .ok code) =>
    let p : Product := ⟨code, s.good, s.rejected⟩
    (log ++ events ++ p.summaryEvents, .ok p)

def produce (settings : Settings) : List Element → List Event × Except Failure Product :=
  produceBy (declareRecords settings)

def Run.onPage (tree : Tree) (path : CodePoints) (region : Option CodePoints) (items : List Item)
    (work : List Element → List Event × Except Failure Product) : Run :=
  match load tree path region items with
  | .error f => ⟨[], none, .error f⟩
  | .ok page =>
    let (log, result) := work page.elements
    ⟨page.log ++ log, some page.stream, result⟩

def Run.ofPage (tree : Tree) (path : CodePoints) (region : Option CodePoints) (settings : Settings)
    (items : List Item) : Run :=
  Run.onPage tree path region items (produce settings)

end ZigDecls
