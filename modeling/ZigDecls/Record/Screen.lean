import ZigDecls.Record.Table

/-!
# Screening records

The last check before code is written: a record needs a good type name and at least one field.
What fails is merged with the earlier rejections in the order of the indices, and where two indices
are equal the earlier rejection stays in front.
-/

namespace ZigDecls

/-- ASCII letters and digits, the first of them a capital letter. -/
def isTitleCase : List Char → Bool
  | [] => false
  | c :: cs => c.isUpper && cs.all Char.isAlphanum

/-- The text without a line feed at its end, if it has one. -/
def chomp (cs : List Char) : List Char :=
  if cs.getLast? = some '\n' then cs.dropLast else cs

/-- Title case, where one line feed at the end is not looked at. -/
def isTypeName (name : String) : Bool := isTitleCase (chomp name.toList)

def Record.flaw? (record : Record) : Option Flaw :=
  if !isTypeName record.typeName then some .badName
  else if record.fields.isEmpty then some .noRows
  else none

def Record.rejection? (record : Record) : Option Rejection :=
  record.flaw?.map fun flaw => flaw.rejects record.index record.typeName

structure Screened where
  good : List Record
  rejected : List Rejection
deriving DecidableEq, Repr

def screen (records : List Record) : Screened where
  good := records.filter fun record => record.flaw?.isNone
  rejected := records.filterMap Record.rejection?

/-- Sorted by index; equal indices keep their order. -/
def sortRejections (rejections : List Rejection) : List Rejection :=
  rejections.mergeSort fun a b => decide (a.index ≤ b.index)

def review (records : List Record) (earlier : List Rejection) : Screened :=
  let s := screen records
  ⟨s.good, sortRejections (earlier ++ s.rejected)⟩

end ZigDecls
