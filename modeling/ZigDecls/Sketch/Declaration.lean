import ZigDecls.Sketch.Basic
import ZigDecls.Zig.Declaration

/-!
# Declarations from sketches of records

The ledger is kept also where the work ends early: it holds the fields that came before.
-/

namespace ZigDecls.Sketch

section
variable (settings : Settings)

/-- The name of a field is needed only once its type is settled. -/
def Field.declare (owner : String) (ledger : List Unmapped) (f : Field) :
    Except Failure (String × List Unmapped) := do
  let description ← part "description" f.description
  let typeName ← part "type_name" f.typeName
  if settings.strict then
    if let .error e := typeFor settings typeName then throw (.unmapped e)
  let name ← part "name" f.name
  (ZigDecls.Field.declare settings owner ledger ⟨name, typeName, description⟩).mapError .unmapped

def declareFields (owner : String) (ledger : List Unmapped) : List Field → List Unmapped × Except Failure String
  | [] => (ledger, .ok "")
  | f :: fs =>
    match f.declare settings owner ledger with
    | .error e => (ledger, .error e)
    | .ok (text, ledger) =>
      let (ledger, texts) := declareFields owner ledger fs
      (ledger, (text ++ ·) <$> texts)

def Record.declare (ledger : List Unmapped) (r : Record) : List Unmapped × Except Failure String :=
  let parts : Except Failure (String × String × List Field) := do
    let documentation ← part "documentation" r.documentation
    let typeName ← part "type_name" r.typeName
    return (documentation, typeName, ← part "fields" r.fields)
  match parts with
  | .error e => (ledger, .error e)
  | .ok (documentation, typeName, fields) =>
    let (ledger, members) := declareFields settings typeName ledger fields
    (ledger, declaration typeName documentation <$> members)

def declareAll (ledger : List Unmapped) : List Record → List Unmapped × Except Failure (List String)
  | [] => (ledger, .ok [])
  | r :: rs =>
    match r.declare settings ledger with
    | (ledger, .error e) => (ledger, .error e)
    | (ledger, .ok block) =>
      let (ledger, blocks) := declareAll ledger rs
      (ledger, (block :: ·) <$> blocks)

end

end ZigDecls.Sketch
