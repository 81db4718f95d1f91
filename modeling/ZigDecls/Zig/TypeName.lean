import ZigDecls.Settings.Basic
import ZigDecls.Text.Classes
import ZigDecls.Text.Opening
import ZigDecls.Text.Word

/-!
# Zig types for documented types

Each phrase `Array of X` becomes `[]X` in one pass from the left; as long as the result begins with
`[]` the pass is made again on what follows. What is left at the end is the core, and the core
decides the type: five primitives, the union of integer and text, any other union, and else itself.
-/

namespace ZigDecls
open Text

/-- Why a documented type has no rendering under the settings. -/
inductive NoType
  | integer
  | float
  | union
deriving DecidableEq, Repr

/-- The type as it was documented, also when only the element of an array has no rendering. -/
structure UnmappedType where
  documented : String
  cause : NoType
deriving DecidableEq, Repr

def UnmappedType.reason (e : UnmappedType) : String :=
  match e.cause with
  | .integer => "It's a Integer, choose one integer type"
  | .float => "It's a Float, choose one float type"
  | .union => "Type name includes 'or' not yet supported: '" ++ e.documented ++ "'"

/-! ## Array phrases -/

/-- The element's word and the rest of the text, if the text begins with an array phrase. -/
def arrayPhrase? (cs : List Char) : Option (List Char × List Char) :=
  match "Array of".toList.isPrefixOf? cs with
  | none => none
  | some rest =>
    let gap := rest.takeWhile isBlank
    let word := (rest.dropWhile isBlank).takeWhile isWord
    if gap.isEmpty || word.isEmpty then none else some (word, (rest.dropWhile isBlank).dropWhile isWord)

/-- A phrase is longer than what stands for it by at least `rray of` and a blank. -/
theorem arrayPhrase?_length {cs word rest : List Char} (h : arrayPhrase? cs = some (word, rest)) :
    word.length + rest.length + 9 ≤ cs.length := by
  unfold arrayPhrase? at h
  split at h
  · cases h
  · next after he =>
    have hcs := eq_append_of_isPrefixOf? he
    dsimp only at h
    split at h
    · cases h
    · next hg =>
      simp only [Bool.or_eq_true, not_or, List.isEmpty_iff] at hg
      simp only [Option.some.injEq, Prod.mk.injEq] at h
      have h₁ := length_takeWhile_add isBlank after
      have h₂ := length_takeWhile_add isWord (after.dropWhile isBlank)
      have h₃ := List.length_pos_iff.mpr hg.1
      rw [hcs, List.length_append, ← h.1, ← h.2]
      have : "Array of".toList.length = 8 := by decide
      omega

/-- One pass from the left over all phrases that do not overlap. -/
def bracketArrays (cs : List Char) : List Char :=
  match _phrase : arrayPhrase? cs with
  | some (word, rest) => '[' :: ']' :: (word ++ bracketArrays rest)
  | none =>
    match cs with
    | [] => []
    | c :: cs => c :: bracketArrays cs
termination_by cs.length
decreasing_by
  · have := arrayPhrase?_length _phrase; omega
  · simp

theorem bracketArrays_length (cs : List Char) : (bracketArrays cs).length ≤ cs.length := by
  fun_induction bracketArrays cs with
  | case1 cs word rest h ih =>
    have := arrayPhrase?_length h
    simp only [List.length_cons, List.length_append]; omega
  | case2 => simp
  | case3 c cs _ ih => simpa using ih

/-! ## The core -/

/-- The type of a text that neither is an array nor holds an array phrase. -/
def coreType (settings : Settings) (core : List Char) : Except NoType (List Char) :=
  if core = "Integer".toList then settings.integerType.elim (.error .integer) fun t => .ok t.toList
  else if core = "Float".toList then settings.floatType.elim (.error .float) fun t => .ok t.toList
  else if core = "Boolean".toList then .ok "bool".toList
  else if core = "True".toList then .ok (if settings.trueAsBool then "bool".toList else "@TypeOf(true)".toList)
  else if core = "String".toList then .ok "[]u8".toList
  else if core = "Integer or String".toList then .ok "integer_or_string".toList
  else if hasWord "or" core then
    if settings.unionsAsJson then .ok "std.json.Value".toList else .error .union
  else .ok core

/-- How many arrays stand around the core of a documented type, and the core. -/
def nesting (cs : List Char) : Nat × List Char :=
  match _pass : bracketArrays cs with
  | '[' :: ']' :: rest => Prod.map (· + 1) id (nesting rest)
  | core => (0, core)
termination_by cs.length
decreasing_by
  have := bracketArrays_length cs
  rw [_pass] at this
  simp only [List.length_cons] at this; omega

def inArrays : Nat → List Char → List Char
  | 0, type => type
  | n + 1, type => '[' :: ']' :: inArrays n type

def zigType (settings : Settings) (cs : List Char) : Except NoType (List Char) :=
  inArrays (nesting cs).1 <$> coreType settings (nesting cs).2

/-- The Zig type for a documented type. -/
def typeFor (settings : Settings) (documented : String) : Except UnmappedType String :=
  match zigType settings documented.toList with
  | .ok t => .ok (.ofList t)
  | .error cause => .error ⟨documented, cause⟩

end ZigDecls
