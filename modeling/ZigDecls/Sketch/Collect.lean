import ZigDecls.Record.Collector
import ZigDecls.Record.Screen
import ZigDecls.Sketch.Basic

/-!
# Collecting and screening sketches

The collector's state says which parts of an element it will look at; an element is read with those
parts, and the pass stops at the first one that lacks one of them.

A record without a good name needs no fields, and a record that passes needs no index.
-/

namespace ZigDecls.Sketch

/-- The element as a collector in this state sees it. Outside of a section all that is no heading
is one to it. -/
def Element.readBy (e : Element) (c : Collector) : Except Failure ZigDecls.Element := do
  let kind ← part "kind" e.kind
  if kind = "heading" then return .heading (← part "text" e.text) 0
  match c.open? with
  | none => return .other kind
  | some s =>
    if kind = "paragraph" then return .paragraph (← part "text" e.text)
    else if kind = "table" then
      if s.fields.isSome then return .table [] []
      let headers ← part "headers" e.headers
      if headersFit headers then return .table headers (← part "rows" e.rows)
      return .table headers []
    else return .other kind

/-- The collector where the pass ends, and the failure that ended it early. A heading closes the
section before it is read. -/
def collectFrom (c : Collector) : List Element → Collector × Option Failure
  | [] => (c.close, none)
  | e :: es =>
    let c := if e.kind = some "heading" then c.close else c
    match e.readBy c with
    | .ok e => collectFrom (c.step e) es
    | .error f => (c, some f)

def collect (elements : List Element) : Collector × Option Failure := collectFrom .start elements

/-! ## Screening -/

def Record.rejection? (r : Record) : Except Failure (Option ZigDecls.Rejection) := do
  let typeName ← part "type_name" r.typeName
  let rejected (flaw : Flaw) : Except Failure (Option ZigDecls.Rejection) := do
    return some (flaw.rejects (← part "index" r.index) typeName)
  if !isTypeName typeName then rejected .badName
  else if (← part "fields" r.fields).isEmpty then rejected .noRows
  else return none

structure Screened where
  good : List Record
  rejected : List ZigDecls.Rejection
deriving DecidableEq, Repr

def screen : List Record → Except Failure Screened
  | [] => .ok ⟨[], []⟩
  | r :: rs => do
    let rejection ← r.rejection?
    let s ← screen rs
    match rejection with
    | none => return { s with good := r :: s.good }
    | some rejection => return { s with rejected := rejection :: s.rejected }

/-- Sorting asks every rejection for its index. -/
def sortRejections (rejections : List Rejection) : Except Failure (List Rejection) := do
  let keyed ← rejections.mapM fun r => return (← part "index" r.index, r)
  return (keyed.mergeSort fun a b => decide (a.1 ≤ b.1)).map (·.2)

end ZigDecls.Sketch
