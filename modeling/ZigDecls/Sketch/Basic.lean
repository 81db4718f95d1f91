import ZigDecls.Failure
import ZigDecls.Page.Item
import ZigDecls.Record.Basic

/-!
# Sketches

A sketch is an element, a record or a rejection any part of which may be missing. Work on a sketch
asks for a part where the work needs it, and a part that is missing is a failure only then. Parts
under other names are carried along as they are written.
-/

namespace ZigDecls.Sketch

structure Element where
  kind : Option String
  text : Option String
  headers : Option (List String)
  rows : Option (List (List String))
deriving DecidableEq, Repr

/-- Parts that no work asks for: their names, and what is written there. -/
abbrev Others := List (String × String)

structure Field where
  name : Option String
  typeName : Option String
  description : Option String
  others : Others
deriving DecidableEq, Repr

structure Record where
  typeName : Option String
  documentation : Option String
  fields : Option (List Field)
  index : Option Int
  others : Others
deriving DecidableEq, Repr

structure Rejection where
  index : Option Int
  typeName : Option String
  reason : Option Reason
  detail : Option String
  others : Others
deriving DecidableEq, Repr

/-- A part that is needed, under the name by which it is given. -/
def part {α} (name : String) : Option α → Except Failure α
  | some a => .ok a
  | none => .error (.missing name)

@[simp] theorem part_some_bind {α β} (name : String) (a : α) (f : α → Except Failure β) :
    (part name (some a) >>= f) = f a := rfl

@[simp] theorem map_part_some {α β} (name : String) (a : α) (f : α → β) : f <$> part name (some a) = .ok (f a) := rfl

def ofField (f : ZigDecls.Field) : Field := ⟨some f.name, some f.typeName, some f.description, []⟩

def ofRecord (r : ZigDecls.Record) : Record :=
  ⟨some r.typeName, some r.documentation, some (r.fields.map ofField), some r.index, []⟩

def ofRejection (r : ZigDecls.Rejection) : Rejection :=
  ⟨some r.index, some r.typeName, some r.reason, some r.detail, []⟩

def ofElement : ZigDecls.Element → Element
  | .heading text _ => ⟨some "heading", some text, some [], some []⟩
  | .paragraph text => ⟨some "paragraph", some text, some [], some []⟩
  | .table headers rows => ⟨some "table", some "", some headers, some rows⟩
  | .other kind => ⟨some kind, none, none, none⟩

/-- The rejection, if no part of it is missing. -/
def Rejection.complete (r : Rejection) : Except Failure ZigDecls.Rejection := do
  let index ← part "index" r.index
  let typeName ← part "type_name" r.typeName
  let reason ← part "reason" r.reason
  let detail ← part "detail" r.detail
  return ⟨index, typeName, reason, detail⟩

theorem complete_ofRejection (r : ZigDecls.Rejection) : (ofRejection r).complete = .ok r := rfl

end ZigDecls.Sketch
