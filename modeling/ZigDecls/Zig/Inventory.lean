import ZigDecls.Zig.Declaration

/-!
# What the code consists of

The lines of the code and the entries of the ledger, each listed from one field or one record by
itself. Nothing here depends on what was written before, and nothing fails: a field without a
rendering has the line of its placeholder.
-/

namespace ZigDecls

section
variable (settings : Settings)

/-- The field's entry in the ledger, if its type has no rendering. -/
def Field.unmapped? (owner : String) (field : Field) : Option Unmapped :=
  match typeFor settings field.typeName with
  | .ok _ => none
  | .error e => some ⟨owner, field.name, field.typeName, e.reason⟩

def Record.unmapped (record : Record) : List Unmapped :=
  record.fields.filterMap (·.unmapped? settings record.typeName)

/-- What stands in the place of the field's type. -/
def Field.typeText (field : Field) : String :=
  match typeFor settings field.typeName with
  | .ok type => type
  | .error e => placeholder e.reason

end

/-! ## Lines -/

abbrev Line := List Char

def linesOf (text : String) : List Line := text.toList.splitOn '\n'

def commentLines (indent text : String) : List Line :=
  (linesOf text).map fun line => indent.toList ++ commentMark ++ line

def isCommentLine (line : Line) : Bool := "///".toList.isPrefixOf (line.dropWhile (· = ' '))

section
variable (settings : Settings)

def Field.memberLine (field : Field) : Line :=
  let type := field.typeText settings
  (memberIndent ++ field.name ++ ": " ++ (if field.isOptional then "?" ++ type ++ " = null" else type) ++ ",").toList

def Field.codeLines (field : Field) : List Line :=
  commentLines memberIndent field.description ++ [field.memberLine settings]

def Record.codeLines (record : Record) : List Line :=
  commentLines "" record.documentation ++ [("pub const " ++ record.typeName ++ " = struct \x7b").toList] ++
    record.fields.flatMap (·.codeLines settings) ++ ["\x7d;".toList]

/-- The lines of all records, with one empty line between the lines of two of them. -/
def codeLines (records : List Record) : List Line := [[]].intercalate (records.map (·.codeLines settings))

end

end ZigDecls
