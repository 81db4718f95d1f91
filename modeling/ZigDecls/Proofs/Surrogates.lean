import ZigDecls.Command.Overrides
import ZigDecls.Proofs.Policies

/-!
# Code with surrogates

The code of a run is the code that the work on the page comes to, with the surrogates of the number types
in the places of what stands in for them.
-/

namespace ZigDecls
open Text

namespace Text.CodePoints

theorem standIn_string (s : String) : standIn s = s := by
  simp [standIn, ofString, Function.comp_def, CodePoint.standIn]

theorem standIn_append (ps qs : CodePoints) : standIn (ps ++ qs) = standIn ps ++ standIn qs := by
  simp [standIn]

theorem standIn_intercalate (sep : CodePoints) : ∀ pss : List CodePoints,
    standIn (sep.intercalate pss) = (standIn sep).intercalate (pss.map standIn)
  | [] => rfl
  | [ps] => by simp
  | ps :: qs :: pss => by
    have ih := standIn_intercalate sep (qs :: pss)
    rw [List.map_cons] at ih
    rw [List.intercalate_cons_cons, List.map_cons, List.map_cons, String.intercalate_cons_cons, standIn_append,
      standIn_append, ih]

end Text.CodePoints

open Text.CodePoints (standIn standIn_append standIn_string)

theorem Field.standIn_pointsWith (field : Field) (type : CodePoints) :
    standIn (field.pointsWith type) = field.lines (standIn type) := by
  unfold pointsWith lines
  split
  · simp only [standIn_append, standIn_string, String.append_assoc]
  · simp only [standIn_append, standIn_string, String.append_assoc]

section
variable {settings : Settings} {type : Field → CodePoints}
  (ht : ∀ field, standIn (type field) = field.typeText settings)
include ht

theorem standIn_members : ∀ fields : List Field,
    standIn (fields.flatMap fun f => f.pointsWith (type f)) = membersText settings fields
  | [] => rfl
  | field :: fields => by
    rw [List.flatMap_cons, standIn_append, field.standIn_pointsWith, ht, standIn_members fields, membersText]

theorem Record.standIn_pointsWith (record : Record) : standIn (record.pointsWith type) = record.text settings := by
  unfold pointsWith text declaration
  simp only [standIn_append, standIn_string, standIn_members ht, String.append_assoc]

theorem standIn_codeWith (records : List Record) :
    standIn (codeWith type records) = joinBlocks (records.map (·.text settings)) := by
  unfold codeWith joinBlocks
  rw [List.isEmpty_map]
  split
  · rfl
  · rw [standIn_append, standIn_string, CodePoints.standIn_intercalate, List.map_map]
    simp only [Function.comp_def, Record.standIn_pointsWith ht]
    rfl

end

namespace Command

theorem Overrides.numberTypes_of_settings {o : Overrides} {settings : Settings} {env : Environment}
    (h : o.settings env = .ok settings) :
    (∀ type, o.integerType = some type → settings.integerType = some (standIn (type.getD valueless))) ∧
    ∀ type, o.floatType = some type → settings.floatType = some (standIn (type.getD valueless)) := by
  unfold Overrides.settings at h
  cases hl : Settings.load env with
  | error problems =>
    rw [hl] at h
    cases h
  | ok base =>
    rw [hl] at h
    cases h
    have hv (type : Option CodePoints) : type.elim valueless standIn = standIn (type.getD valueless) := by
      cases type with
      | none => exact (standIn_string valueless).symm
      | some ps => rfl
    constructor
    · intro type ht
      simp [Choices.onto, Choices.map, ht, hv]
    · intro type ht
      simp [Choices.onto, Choices.map, ht, hv]

theorem inArrays_eq_append (type : List Char) : ∀ n, inArrays n type = inArrays n [] ++ type
  | 0 => rfl
  | n + 1 => by simp only [inArrays, inArrays_eq_append type n, List.cons_append]

/-- The type in the code is the type under the settings, but for what stands in for surrogates. -/
theorem Overrides.standIn_typeOf {o : Overrides} {settings : Settings} {env : Environment}
    (h : o.settings env = .ok settings) (field : Field) :
    standIn (o.typeOf settings field) = field.typeText settings := by
  obtain ⟨hi, hf⟩ := numberTypes_of_settings h
  unfold typeOf
  dsimp only
  cases hg : o.given? (nesting field.typeName.toList).2 with
  | none => exact standIn_string _
  | some type =>
    have hcore : coreType settings (nesting field.typeName.toList).2 = .ok (standIn type).toList := by
      unfold given? at hg
      unfold coreType
      dsimp only at hg
      split at hg
      · rename_i hc
        obtain ⟨t, ht, rfl⟩ := Option.map_eq_some_iff.mp hg
        rw [if_pos hc, hi t ht]
        rfl
      · rename_i hni
        split at hg
        · rename_i hc
          obtain ⟨t, ht, rfl⟩ := Option.map_eq_some_iff.mp hg
          rw [if_neg hni, if_pos hc, hf t ht]
          rfl
        · cases hg
    rw [standIn_append, standIn_string]
    simp only [Field.typeText, typeFor, zigType, hcore, Functor.map, Except.map]
    rw [inArrays_eq_append (standIn type).toList, String.ofList_append, String.ofList_toList]

theorem text_of_declareRecords {settings : Settings} {records : List Record} {events : List Event} {code : Code}
    (h : declareRecords settings records = (events, .ok code)) :
    code.text = joinBlocks (records.map (·.text settings)) := by
  unfold declareRecords at h
  split at h
  · cases h
  · rename_i hc
    cases h
    cases hs : settings.strict with
    | true =>
      rw [ofRecords_strict hs] at hc
      rw [eq_of_orFirstFailure hc]
    | false =>
      rw [ofRecords_lenient hs] at hc
      cases hc
      rfl

/-- The code is the code under the settings, but for what stands in for surrogates. -/
theorem Overrides.standIn_code {o : Overrides} {settings : Settings} {env : Environment} {records : List Record}
    {events : List Event} {code : Code} (hs : o.settings env = .ok settings)
    (hc : declareRecords settings records = (events, .ok code)) : standIn (o.code settings records) = code.text := by
  rw [text_of_declareRecords hc]
  exact standIn_codeWith (standIn_typeOf hs) records

end Command

end ZigDecls
