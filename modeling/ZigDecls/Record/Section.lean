import ZigDecls.Page.Item
import ZigDecls.Record.Table

/-!
# Sections, each by itself

A page cut at its headings gives sections, and what becomes of a section is a function of its own
elements: its first table is looked at before its other tables, and they before its documentation.
-/

namespace ZigDecls
open Text

structure Section where
  title : String
  body : List Element
deriving DecidableEq, Repr

/-- What stands before the first heading, and the sections. -/
def cutSections : List Element → List Element × List Section
  | [] => ([], [])
  | .heading title _ :: elements =>
    let (body, sections) := cutSections elements
    ([], ⟨trim title, body⟩ :: sections)
  | e :: elements =>
    let (body, sections) := cutSections elements
    (e :: body, sections)

def sectionsOf (elements : List Element) : List Section := (cutSections elements).2

namespace Section

def tables (s : Section) : List (List String × List (List String)) :=
  s.body.filterMap fun
    | .table headers rows => some (headers, rows)
    | _ => none

def documentation (s : Section) : List String :=
  s.body.filterMap fun
    | .paragraph text => if allBlank text then none else some text
    | _ => none

/-- The flaw of the section, or its documentation and fields. -/
def verdict (s : Section) : Except Flaw (String × List Field) :=
  let docs := s.documentation
  match s.tables with
  | [] => .error (.missing (lacking (!docs.isEmpty) false))
  | (headers, rows) :: more =>
    if !headersFit headers then .error (.headers headers)
    else
      match fieldsOf rows with
      | .error short => .error (.shortRow short)
      | .ok fields =>
        if !more.isEmpty then .error .secondTable
        else if docs.isEmpty then .error (.missing ["documentation"])
        else .ok ("\n".intercalate docs, fields)

/-- The record of the section with this index, or the rejection in its place. -/
def outcome (s : Section) (index : Nat) : Except Rejection Record :=
  match s.verdict with
  | .ok (documentation, fields) => .ok ⟨s.title, documentation, fields, index⟩
  | .error flaw => .error (flaw.rejects index s.title)

end Section

end ZigDecls
