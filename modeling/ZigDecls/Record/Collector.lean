import ZigDecls.Log
import ZigDecls.Page.Item
import ZigDecls.Record.Table

/-!
# Collecting records

One pass over the elements of a page. A heading opens a candidate; paragraphs and one field table
are added to it until the next heading or the end closes it. A table that cannot be added rejects
the candidate at once, and what follows up to the next heading is passed over.
-/

namespace ZigDecls
open Text

/-- The section being read. -/
structure Candidate where
  index : Nat
  typeName : String
  doc : List String
  fields : Option (List Field)
deriving DecidableEq, Repr

namespace Candidate

def addParagraph (s : Candidate) (text : String) : Candidate :=
  if allBlank text then s else { s with doc := s.doc ++ [text] }

def addTable (s : Candidate) (headers : List String) (rows : List (List String)) : Except Flaw Candidate :=
  if s.fields.isSome then .error .secondTable
  else if !headersFit headers then .error (.headers headers)
  else
    match fieldsOf rows with
    | .error short => .error (.shortRow short)
    | .ok fields => .ok { s with fields := some fields }

/-- The record, if the candidate has documentation and a table. -/
def close (s : Candidate) : Except Flaw Record :=
  match s.doc, s.fields with
  | doc :: docs, some fields => .ok ⟨s.typeName, "\n".intercalate (doc :: docs), fields, s.index⟩
  | doc, fields => .error (.missing (lacking (!doc.isEmpty) fields.isSome))

end Candidate

/-- What the pass has found so far, and the section it is in. -/
structure Collector where
  open? : Option Candidate
  candidates : Nat
  accepted : List Record
  rejected : List Rejection
  log : List Event
deriving DecidableEq, Repr

namespace Collector

def start : Collector := ⟨none, 0, [], [], []⟩

def reject (c : Collector) (s : Candidate) (flaw : Flaw) : Collector :=
  { c with
    open? := none
    rejected := c.rejected ++ [flaw.rejects s.index s.typeName]
    log := c.log ++ [.discarded s.index s.typeName flaw.reason flaw.detail] }

def close (c : Collector) : Collector :=
  match c.open? with
  | none => c
  | some s =>
    match s.close with
    | .ok record => { c with open? := none, accepted := c.accepted ++ [record] }
    | .error flaw => c.reject s flaw

def openSection (c : Collector) (title : String) : Collector :=
  { c with open? := some ⟨c.candidates, trim title, [], none⟩, candidates := c.candidates + 1 }

/-- Outside of a section only a heading is looked at. -/
def step (c : Collector) : Element → Collector
  | .heading title _ => c.close.openSection title
  | .paragraph text => c.open?.elim c fun s => { c with open? := some (s.addParagraph text) }
  | .table headers rows => c.open?.elim c fun s =>
    match s.addTable headers rows with
    | .ok s => { c with open? := some s }
    | .error flaw => c.reject s flaw
  | .other kind => c.open?.elim c fun _ => { c with log := c.log ++ [.skippedKind kind] }

end Collector

/-- The whole pass; the end of the page closes the last section. -/
def collect (elements : List Element) : Collector := (elements.foldl Collector.step .start).close

end ZigDecls
