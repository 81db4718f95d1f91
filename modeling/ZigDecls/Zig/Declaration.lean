import ZigDecls.Record.Basic
import ZigDecls.Zig.TypeName

/-!
# Struct declarations

A record becomes one declaration, and a list of records the declarations with a blank line between
two of them. A field whose type has no rendering is entered in the ledger and gets a placeholder
that stops the compiler with the reason; under the strict setting the first one ends the work.
-/

namespace ZigDecls

/-! ## Doc comments -/

def commentMark : List Char := "/// ".toList

/-- Each line feed of the text begins another comment line under the same indent. -/
def commentChars (indent text : List Char) : List Char :=
  indent ++ commentMark ++ text.flatMap fun c => if c = '\n' then '\n' :: (indent ++ commentMark) else [c]

def commentText (indent text : String) : String := .ofList (commentChars indent.toList text.toList)

/-! ## String literals -/

def escapeLiteral (cs : List Char) : List Char :=
  cs.flatMap fun c => if c = '\\' ∨ c = '"' then ['\\', c] else [c]

/-- Refuses a quote without a backslash, a backslash before anything else, and a backslash at the end. -/
def unescapeLiteral? : List Char → Option (List Char)
  | [] => some []
  | ['\\'] => none
  | '\\' :: c :: cs => if c = '\\' ∨ c = '"' then (c :: ·) <$> unescapeLiteral? cs else none
  | c :: cs => if c = '"' then none else (c :: ·) <$> unescapeLiteral? cs

theorem unescapeLiteral?_escapeLiteral : ∀ cs, unescapeLiteral? (escapeLiteral cs) = some cs
  | [] => by simp [escapeLiteral, unescapeLiteral?]
  | c :: cs => by
    have ih := unescapeLiteral?_escapeLiteral cs
    unfold escapeLiteral at ih ⊢
    rw [List.flatMap_cons]
    by_cases h : c = '\\' ∨ c = '"'
    · rw [if_pos h]
      simp [unescapeLiteral?, h, ih]
    · rw [if_neg h]
      rw [not_or] at h
      simp [unescapeLiteral?, h.1, h.2, ih]

/-- An expression that stops the compiler with the reason. -/
def placeholder (reason : String) : String :=
  "@compileError(\"" ++ .ofList (escapeLiteral reason.toList) ++ "\")"

/-! ## Declarations -/

/-- One field whose type has no rendering. -/
structure Unmapped where
  owner : String
  field : String
  typeName : String
  reason : String
deriving DecidableEq, Repr

def memberIndent : String := "    "

def Field.isOptional (field : Field) : Bool := "Optional.".toList.isPrefixOf field.description.toList

/-- The lines of one field, once its type is known. -/
def Field.lines (field : Field) (type : String) : String :=
  commentText memberIndent field.description ++ "\n" ++ memberIndent ++ field.name ++ ": " ++
    (if field.isOptional then "?" ++ type ++ " = null" else type) ++ ",\n"

section
variable (settings : Settings)

def Field.declare (owner : String) (ledger : List Unmapped) (field : Field) :
    Except UnmappedType (String × List Unmapped) :=
  match typeFor settings field.typeName with
  | .ok type => .ok (field.lines type, ledger)
  | .error e =>
    if settings.strict then .error e
    else .ok (field.lines (placeholder e.reason), ledger ++ [⟨owner, field.name, e.documented, e.reason⟩])

def declareFields (owner : String) (ledger : List Unmapped) :
    List Field → Except UnmappedType (String × List Unmapped)
  | [] => .ok ("", ledger)
  | field :: fields => do
    let (text, ledger) ← field.declare settings owner ledger
    let (texts, ledger) ← declareFields owner ledger fields
    return (text ++ texts, ledger)

/-- A declaration around the lines of its fields. -/
def declaration (typeName documentation members : String) : String :=
  commentText "" documentation ++ "\npub const " ++ typeName ++ " = struct \x7b\n" ++ members ++ "\x7d;"

def Record.declare (ledger : List Unmapped) (record : Record) : Except UnmappedType (String × List Unmapped) := do
  let (members, ledger) ← declareFields settings record.typeName ledger record.fields
  return (declaration record.typeName record.documentation members, ledger)

def declareAll (ledger : List Unmapped) : List Record → Except UnmappedType (List String × List Unmapped)
  | [] => .ok ([], ledger)
  | record :: records => do
    let (block, ledger) ← record.declare settings ledger
    let (blocks, ledger) ← declareAll ledger records
    return (block :: blocks, ledger)

/-- The blocks with a blank line between two of them, and a line feed at the end of the last. -/
def joinBlocks (blocks : List String) : String :=
  if blocks.isEmpty then "" else "\n\n".intercalate blocks ++ "\n"

/-- Generated code, and what in it still stands for a type. -/
structure Code where
  text : String
  unmapped : List Unmapped
deriving DecidableEq, Repr

def Code.ofRecords (records : List Record) : Except UnmappedType Code := do
  let (blocks, unmapped) ← declareAll settings [] records
  return ⟨joinBlocks blocks, unmapped⟩

end

end ZigDecls
