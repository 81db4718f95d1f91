import ZigDecls.Record.Basic
import ZigDecls.Text.Classes
import ZigDecls.Text.Quoted

/-!
# Field tables and flaws

A field table is headed Field, Type and Description, and each of its rows gives one field in its
first three cells. One short row spoils the table: `fieldsOf` gives all the fields or none.

A flaw is why a candidate is no record; it determines the reason and the detail of the rejection.
-/

namespace ZigDecls
open Text

/-- A row with too few cells; rows are counted from one. -/
structure ShortRow where
  row : Nat
  cells : Nat
deriving DecidableEq, Repr

def ShortRow.message (s : ShortRow) : String :=
  "row " ++ toString s.row ++ " has " ++ toString s.cells ++ " cells, expected 3"

def fieldHeaders : List String := ["Field", "Type", "Description"]

def headersFit (headers : List String) : Bool := headers.map trim == fieldHeaders

def fieldOf? : List String → Option Field
  | name :: typeName :: description :: _ => some ⟨trim name, trim typeName, trim description⟩
  | _ => none

theorem fieldOf?_isSome : ∀ cells : List String, (fieldOf? cells).isSome = decide (3 ≤ cells.length)
  | [] | [_] | [_, _] => by simp [fieldOf?]
  | _ :: _ :: _ :: _ => by simp [fieldOf?]

def fieldsFrom (row : Nat) : List (List String) → Except ShortRow (List Field)
  | [] => .ok []
  | cells :: rows =>
    match fieldOf? cells with
    | none => .error ⟨row, cells.length⟩
    | some field => (field :: ·) <$> fieldsFrom (row + 1) rows

def fieldsOf (rows : List (List String)) : Except ShortRow (List Field) := fieldsFrom 1 rows

/-! ## Flaws -/

inductive Flaw
  | secondTable
  | headers (cells : List String)
  | shortRow (row : ShortRow)
  | missing (parts : List String)
  | badName
  | noRows
deriving DecidableEq, Repr

/-- What a candidate still lacks, in the order it is reported. -/
def lacking (hasDoc hasTable : Bool) : List String :=
  (if hasDoc then [] else ["documentation"]) ++ if hasTable then [] else ["field table"]

namespace Flaw

def reason : Flaw → Reason
  | secondTable | headers _ | shortRow _ => .malformedTable
  | missing _ | noRows => .incompleteRecord
  | badName => .badTypeName

def detail : Flaw → String
  | secondTable => "more than one field table"
  | headers cells => "unexpected headers " ++ quotedList cells
  | shortRow row => row.message
  | missing parts => "missing " ++ " and ".intercalate parts
  | badName => "not a TitleCase identifier"
  | noRows => "field table has no rows"

def rejects (flaw : Flaw) (index : Int) (typeName : String) : Rejection :=
  ⟨index, typeName, flaw.reason, flaw.detail⟩

end Flaw

end ZigDecls
