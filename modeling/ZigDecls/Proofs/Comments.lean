import Mathlib.Data.List.Forall2
import ZigDecls.Proofs.CodeLines
import ZigDecls.Proofs.Policies

/-!
# Code without its comments

Documentation and descriptions stand in comment lines and nowhere else. So a record may be written
without them, and apart from the comment lines the code is the same; two lists of records that
differ in these texts only have the same code without comments, and the same failure.
-/

namespace ZigDecls

/-! ## Deleting comment lines -/

def withoutComments (lines : List Line) : List Line := lines.filter fun line => !isCommentLine line

def visible (lines : List Line) : List Line := withoutComments (lines.flatMap (·.splitOn '\n'))

theorem visible_append (lines lines' : List Line) : visible (lines ++ lines') = visible lines ++ visible lines' := by
  unfold visible withoutComments
  rw [List.flatMap_append, List.filter_append]

theorem visible_intercalate : ∀ blocks : List (List Line),
    visible ([[]].intercalate blocks) = [[]].intercalate (blocks.map visible)
  | [] => rfl
  | [block] => by simp
  | block :: block' :: blocks => by
    have ih := visible_intercalate (block' :: blocks)
    simp only [List.map_cons] at ih ⊢
    rw [List.intercalate_cons_cons, List.intercalate_cons_cons, visible_append, visible_append, ih]
    rfl

theorem isCommentLine_of_mem {indent text : String} {line : Line} (hi : ∀ c ∈ indent.toList, c = ' ')
    (h : line ∈ commentLines indent text) : isCommentLine line = true := by
  obtain ⟨rest, -, rfl⟩ := List.mem_map.mp h
  unfold isCommentLine
  rw [List.append_assoc, List.dropWhile_append_of_pos fun c hc => by simpa using hi c hc]
  rfl

theorem visible_commentLines {indent : String} (hi : ∀ c ∈ indent.toList, c = ' ') (text : String) :
    visible (commentLines indent text) = [] := by
  have hn : '\n' ∉ indent.toList := fun hm => absurd (hi _ hm) (by decide)
  rw [visible, flatMap_splitOn_eq_self fun _ => not_mem_of_mem_commentLines hn]
  refine List.filter_eq_nil_iff.mpr fun line hl => ?_
  simp [isCommentLine_of_mem hi hl]

theorem eq_space_of_mem_memberIndent : ∀ c ∈ memberIndent.toList, c = ' ' := by
  intro c hc
  have hi : memberIndent.toList = List.replicate 4 ' ' := by decide
  rw [hi] at hc
  exact List.eq_of_mem_replicate hc

/-! ## Records without documentation -/

/-- The description keeps only its word on whether the field is optional. -/
def Field.undocumented (field : Field) : Field :=
  { field with description := if field.isOptional then "Optional." else "" }

def Record.undocumented (record : Record) : Record :=
  { record with documentation := "", fields := record.fields.map Field.undocumented, index := 0 }

theorem Field.isOptional_undocumented (field : Field) : field.undocumented.isOptional = field.isOptional := by
  have ht : "Optional.".toList.isPrefixOf "Optional.".toList = true := by decide
  have hf : "Optional.".toList.isPrefixOf "".toList = false := by decide
  unfold undocumented
  cases field.isOptional with
  | true => exact ht
  | false => exact hf

section
variable (settings : Settings)

theorem Field.memberLine_undocumented (field : Field) :
    field.undocumented.memberLine settings = field.memberLine settings := by
  unfold Field.memberLine
  rw [field.isOptional_undocumented]
  rfl

theorem visible_fieldLines : ∀ fields : List Field,
    visible (fields.flatMap (·.codeLines settings)) = visible (fields.map (·.memberLine settings))
  | [] => rfl
  | field :: fields => by
    have hc := visible_commentLines eq_space_of_mem_memberIndent field.description
    rw [List.flatMap_cons, List.map_cons, ← List.singleton_append, visible_append, visible_append,
      visible_fieldLines fields, Field.codeLines, visible_append, hc, List.nil_append]

theorem Record.visible_codeLines (record : Record) : visible (record.codeLines settings) =
    visible ([("pub const " ++ record.typeName ++ " = struct \x7b").toList] ++
      record.fields.map (·.memberLine settings) ++ ["\x7d;".toList]) := by
  have hc : visible (commentLines "" record.documentation) = [] := visible_commentLines (by simp) _
  rw [Record.codeLines, visible_append, visible_append, visible_append, hc, visible_fieldLines, visible_append,
    visible_append, List.nil_append]

theorem Record.visible_undocumented (record : Record) :
    visible (record.undocumented.codeLines settings) = visible (record.codeLines settings) := by
  have hm : record.undocumented.fields.map (·.memberLine settings) = record.fields.map (·.memberLine settings) := by
    simp [Record.undocumented, Field.memberLine_undocumented]
  rw [Record.visible_codeLines, Record.visible_codeLines, hm]
  rfl

theorem visible_codeLines_undocumented (records : List Record) :
    visible (codeLines settings (records.map Record.undocumented)) = visible (codeLines settings records) := by
  unfold codeLines
  rw [visible_intercalate, visible_intercalate, List.map_map, List.map_map, List.map_map]
  simp only [Function.comp_def, Record.visible_undocumented]

/-! ## Writing them -/

def Code.bare (code : Code) : List Unmapped × List Line := (code.unmapped, withoutComments (linesOf code.text))

theorem withoutComments_joinBlocks (records : List Record) :
    withoutComments (linesOf (joinBlocks (records.map (·.text settings)))) =
      visible (codeLines settings records) ++ [[]] := by
  rw [linesOf_joinBlocks]
  exact List.filter_append _ _

theorem unmapped_undocumented (records : List Record) :
    (records.map Record.undocumented).flatMap (·.unmapped settings) = records.flatMap (·.unmapped settings) := by
  have hr : ∀ record : Record, record.undocumented.unmapped settings = record.unmapped settings := fun record =>
    List.filterMap_map
  rw [List.flatMap_map]
  simp only [hr]

theorem orFirstFailure_undocumented {α} (records : List Record) (a : α) :
    orFirstFailure settings ((records.map Record.undocumented).flatMap (·.fields)) a =
      orFirstFailure settings (records.flatMap (·.fields)) a := by
  have hr : (records.map Record.undocumented).flatMap (·.fields) =
      (records.flatMap (·.fields)).map Field.undocumented := by
    rw [List.flatMap_map, List.map_flatMap]
    rfl
  unfold orFirstFailure
  rw [hr, List.findSome?_map]
  rfl

theorem bare_undocumented (records : List Record) :
    (Code.ofRecords settings (records.map Record.undocumented)).map Code.bare =
      (Code.ofRecords settings records).map Code.bare := by
  have hb : ∀ ledger, Code.bare ⟨joinBlocks ((records.map Record.undocumented).map (·.text settings)), ledger⟩ =
      Code.bare ⟨joinBlocks (records.map (·.text settings)), ledger⟩ := fun ledger => by
    rw [Code.bare, Code.bare, withoutComments_joinBlocks, withoutComments_joinBlocks, visible_codeLines_undocumented]
  cases hs : settings.strict with
  | true =>
    rw [ofRecords_strict hs, ofRecords_strict hs, orFirstFailure_undocumented]
    unfold orFirstFailure
    cases (records.flatMap (·.fields)).findSome? (·.failure? settings) with
    | some e => rfl
    | none => exact congrArg Except.ok (hb [])
  | false =>
    rw [ofRecords_lenient hs, ofRecords_lenient hs, unmapped_undocumented]
    exact congrArg Except.ok (hb _)

end

/-! ## Records that differ in their texts only -/

structure Field.SameMember (f f' : Field) : Prop where
  name : f.name = f'.name
  typeName : f.typeName = f'.typeName
  isOptional : f.isOptional = f'.isOptional

structure Record.SameMembers (r r' : Record) : Prop where
  typeName : r.typeName = r'.typeName
  fields : List.Forall₂ Field.SameMember r.fields r'.fields

theorem Field.SameMember.undocumented_eq {f f' : Field} (h : f.SameMember f') : f.undocumented = f'.undocumented := by
  unfold Field.undocumented
  rw [h.name, h.typeName, h.isOptional]

theorem map_eq_of_forall₂ {α β} {R : α → α → Prop} {g : α → β} (hg : ∀ a a', R a a' → g a = g a') {as as' : List α}
    (h : List.Forall₂ R as as') : as.map g = as'.map g := by
  rw [← List.forall₂_eq_eq_eq, List.forall₂_map_left_iff, List.forall₂_map_right_iff]
  exact h.imp hg

theorem Record.SameMembers.undocumented_eq {r r' : Record} (h : r.SameMembers r') :
    r.undocumented = r'.undocumented := by
  unfold Record.undocumented
  have hf := map_eq_of_forall₂ (g := Field.undocumented) (fun _ _ hm => hm.undocumented_eq) h.fields
  rw [h.typeName, hf]

/-- Records that differ in documentation and descriptions only either fail alike, or have the same ledger
and the same code without comment lines. -/
theorem bare_eq_of_sameMembers (settings : Settings) {records records' : List Record}
    (h : List.Forall₂ Record.SameMembers records records') :
    (∃ e, Code.ofRecords settings records = .error e ∧ Code.ofRecords settings records' = .error e) ∨
    ∃ code code', Code.ofRecords settings records = .ok code ∧ Code.ofRecords settings records' = .ok code' ∧
      code.unmapped = code'.unmapped ∧ withoutComments (linesOf code.text) = withoutComments (linesOf code'.text) := by
  -- Both lists are the same without documentation, and that is all that is seen of either.
  have hu := map_eq_of_forall₂ (g := Record.undocumented) (fun _ _ hm => hm.undocumented_eq) h
  have hb : (Code.ofRecords settings records).map Code.bare = (Code.ofRecords settings records').map Code.bare := by
    rw [← bare_undocumented, hu, bare_undocumented]
  cases hr : Code.ofRecords settings records with
  | error e =>
    cases hr' : Code.ofRecords settings records' with
    | error e' =>
      rw [hr, hr'] at hb
      cases hb
      exact .inl ⟨e, rfl, rfl⟩
    | ok code' => rw [hr, hr'] at hb; cases hb
  | ok code =>
    cases hr' : Code.ofRecords settings records' with
    | error e' => rw [hr, hr'] at hb; cases hb
    | ok code' =>
      rw [hr, hr'] at hb
      have hb : code.bare = code'.bare := Except.ok.inj hb
      exact .inr ⟨code, code', rfl, rfl, congrArg Prod.fst hb, congrArg Prod.snd hb⟩

theorem bare_eq_point :
    let settings : Settings := { Settings.standard with unionsAsJson := false }
    let records : List Record := [⟨"Point", "A point.\n\x7d;\n/// on a page",
      [⟨"x", "Integer", "The x."⟩, ⟨"y", "Photo or Video", "Optional. The\n\x7d; y."⟩], 0⟩]
    let records' : List Record := [⟨"Point", "",
      [⟨"x", "Integer", "\n/// The x."⟩, ⟨"y", "Photo or Video", "Optional."⟩], 3⟩]
    List.Forall₂ Record.SameMembers records records' ∧
    ((∃ e, Code.ofRecords settings records = .error e ∧ Code.ofRecords settings records' = .error e) ∨
    ∃ code code', Code.ofRecords settings records = .ok code ∧ Code.ofRecords settings records' = .ok code' ∧
      code.unmapped = code'.unmapped ∧ withoutComments (linesOf code.text) = withoutComments (linesOf code'.text)) := by
  intro settings records records'
  have h : List.Forall₂ Record.SameMembers records records' :=
    .cons ⟨rfl, .cons ⟨rfl, rfl, by decide⟩ (.cons ⟨rfl, rfl, by decide⟩ .nil)⟩ .nil
  exact ⟨h, bare_eq_of_sameMembers settings h⟩

end ZigDecls
