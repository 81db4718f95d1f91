import ZigDecls.Run.Basic
import ZigDecls.Settings.Load
import ZigDecls.Zig.Inventory

/-!
# Overrides

The settings that a command line makes for one run. A number type may be set to no value: it is then
written as an empty list of types where it stands alone, and where it would stand in an array there
is nothing to write, so that the first such field ends the run.

A number type given on a command line is also the one text of the code that may hold surrogates. Settings
hold strings, so the work on a page is done with a character that stands in for each surrogate, and the
code is then written with the surrogates themselves.
-/

namespace ZigDecls
open Text

/-! ## Code with surrogates -/

/-- The lines of one field, with a type that may hold surrogates. -/
def Field.pointsWith (field : Field) (type : CodePoints) : CodePoints :=
  (commentText memberIndent field.description : CodePoints) ++ ("\n" : CodePoints) ++ (memberIndent : CodePoints) ++
    (field.name : CodePoints) ++ (": " : CodePoints) ++
    (if field.isOptional then ("?" : CodePoints) ++ type ++ (" = null" : CodePoints) else type) ++ (",\n" : CodePoints)

def Record.pointsWith (type : Field → CodePoints) (record : Record) : CodePoints :=
  (commentText "" record.documentation : CodePoints) ++ ("\npub const " : CodePoints) ++
    (record.typeName : CodePoints) ++ (" = struct \x7b\n" : CodePoints) ++
    record.fields.flatMap (fun f => f.pointsWith (type f)) ++ ("\x7d;" : CodePoints)

def codeWith (type : Field → CodePoints) (records : List Record) : CodePoints :=
  if records.isEmpty then []
  else ("\n\n" : CodePoints).intercalate (records.map (·.pointsWith type)) ++ ("\n" : CodePoints)

/-! ## The choices of a command line -/

namespace Command

abbrev Overrides := Choices (Option (Option CodePoints)) (Option Bool)

namespace Overrides

def none : Overrides := ⟨.none, .none, .none, .none, .none⟩

/-- How a type without a value is written. -/
def valueless : String := "[]"

/-- Before the environment, and that before the standard settings. -/
def settings (o : Overrides) (env : Environment) : Except (List Problem) Settings :=
  (o.map (·.map fun type => some (type.elim valueless CodePoints.standIn)) id).onto <$> Settings.load env

/-- Whether a documented type is an array of a number type that was set to no value. -/
def leavesOpen (o : Overrides) (documented : String) : Bool :=
  let (depth, core) := nesting documented.toList
  depth != 0 &&
    (o.integerType == some .none && core == "Integer".toList || o.floatType == some .none && core == "Float".toList)

/-- The fields of the records, each with the name of its record. -/
def ownedFields (records : List Record) : List (String × Field) :=
  records.flatMap fun r => r.fields.map fun f => (r.typeName, f)

/-- The declarations of the records under the settings that the overrides have led to. -/
def declare (o : Overrides) (settings : Settings) (records : List Record) : List Event × Except Failure Code :=
  let fields := ownedFields records
  let before := fields.takeWhile fun f => !o.leavesOpen f.2.typeName
  if before.length = fields.length then declareRecords settings records
  else
    match before.foldlM (fun ledger f => (·.2) <$> f.2.declare settings f.1 ledger) [] with
    | .error e => ([], .error (.unmapped e))
    | .ok ledger => (ledger.map .unmapped, .error .noElementType)

/-- The number type for the core of a documented type, as the command line gave it. -/
def given? (o : Overrides) (core : List Char) : Option CodePoints :=
  let type :=
    if core = "Integer".toList then o.integerType
    else if core = "Float".toList then o.floatType
    else .none
  type.map fun type => type.getD valueless

def typeOf (o : Overrides) (settings : Settings) (field : Field) : CodePoints :=
  let (depth, core) := nesting field.typeName.toList
  match o.given? core with
  | some type => (String.ofList (inArrays depth []) : CodePoints) ++ type
  | .none => field.typeText settings

/-- The code of the records, once they could be declared under the settings. -/
def code (o : Overrides) (settings : Settings) (records : List Record) : CodePoints :=
  codeWith (o.typeOf settings) records

end Overrides

end Command

end ZigDecls
