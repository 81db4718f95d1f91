import ZigDecls.Proofs.Conservation
import ZigDecls.Proofs.Emission
import ZigDecls.Proofs.Lines
import ZigDecls.Proofs.TypeNames

/-!
# The lines of generated code

Every line of the code comes from one line of the inventory. Comments keep their line feeds behind
the mark, so only the name and the type of a field can break a line, and they do exactly if they
hold a line feed.
-/

namespace ZigDecls
open Text

section
variable (settings : Settings)

/-! ## From the inventory to the text -/

theorem Field.lines_eq (field : Field) : field.lines (field.typeText settings) =
    commentText memberIndent field.description ++ "\n" ++ (.ofList (field.memberLine settings) ++ "\n") := by
  rw [← String.toList_inj]
  simp [Field.lines, Field.memberLine, String.toList_append]

theorem linesOf_fieldLines (field : Field) (rest : String) :
    linesOf (field.lines (field.typeText settings) ++ rest) =
      (field.codeLines settings).flatMap (·.splitOn '\n') ++ linesOf rest := by
  have hc : ∀ line ∈ commentLines memberIndent field.description, '\n' ∉ line := fun _ =>
    not_mem_of_mem_commentLines (by decide)
  rw [field.lines_eq, String.append_assoc, linesOf_append_newline, linesOf_append_newline,
    linesOf_commentText (by decide), linesOf_ofList, Field.codeLines, List.flatMap_append, flatMap_splitOn_eq_self hc,
    List.flatMap_cons, List.flatMap_nil, List.append_nil, List.append_assoc]

theorem linesOf_membersText (rest : String) : ∀ fields : List Field,
    linesOf (membersText settings fields ++ rest) =
      (fields.flatMap (·.codeLines settings)).flatMap (·.splitOn '\n') ++ linesOf rest
  | [] => by rw [membersText, String.empty_append]; rfl
  | field :: fields => by
    rw [membersText, String.append_assoc, linesOf_fieldLines, linesOf_membersText rest fields, List.flatMap_cons,
      List.flatMap_append, List.append_assoc]

theorem Record.text_eq (record : Record) : record.text settings = commentText "" record.documentation ++ "\n" ++
    ("pub const " ++ record.typeName ++ " = struct \x7b" ++ "\n" ++
      (membersText settings record.fields ++ "\x7d;")) := by
  rw [← String.toList_inj]
  simp [Record.text, declaration, String.toList_append]

theorem linesOf_recordText (record : Record) :
    linesOf (record.text settings) = (record.codeLines settings).flatMap (·.splitOn '\n') := by
  have hc : ∀ line ∈ commentLines "" record.documentation, '\n' ∉ line := fun _ =>
    not_mem_of_mem_commentLines (by decide)
  rw [record.text_eq, linesOf_append_newline, linesOf_append_newline, linesOf_membersText,
    linesOf_commentText (by decide), Record.codeLines, List.flatMap_append, List.flatMap_append, List.flatMap_append,
    flatMap_splitOn_eq_self hc]
  simp only [List.flatMap_cons, List.flatMap_nil, List.append_nil, List.append_assoc]
  rfl

theorem joinBlocks_singleton (block : String) : joinBlocks [block] = block ++ "\n" ++ "" := by
  simp [joinBlocks]

theorem joinBlocks_cons_cons (block block' : String) (blocks : List String) :
    joinBlocks (block :: block' :: blocks) = block ++ "\n" ++ ("" ++ "\n" ++ joinBlocks (block' :: blocks)) := by
  rw [← String.toList_inj]
  simp [joinBlocks, String.intercalate_cons_cons, String.toList_append]

theorem linesOf_joinBlocks : ∀ records : List Record,
    linesOf (joinBlocks (records.map (·.text settings))) =
      (codeLines settings records).flatMap (·.splitOn '\n') ++ [[]]
  | [] => rfl
  | [record] => by
    rw [List.map_cons, List.map_nil, joinBlocks_singleton, linesOf_append_newline, linesOf_recordText, codeLines,
      List.map_cons, List.map_nil, List.intercalate_singleton]
    rfl
  | record :: record' :: records => by
    have ih := linesOf_joinBlocks (record' :: records)
    simp only [codeLines, List.map_cons] at ih ⊢
    rw [joinBlocks_cons_cons, linesOf_append_newline, linesOf_append_newline, linesOf_recordText, ih,
      List.intercalate_cons_cons, List.flatMap_append, List.flatMap_append, List.append_assoc, List.append_assoc]
    rfl

/-! ## Lines that hold a line feed -/

/-- The empty lines between two records aside, the lines are those of the records. -/
theorem forall_mem_codeLines {P : Line → Prop} (h₀ : P []) : ∀ records : List Record,
    (∀ line ∈ codeLines settings records, P line) ↔ ∀ r ∈ records, ∀ line ∈ r.codeLines settings, P line
  | [] => by simp [codeLines]
  | [record] => by simp [codeLines]
  | record :: record' :: records => by
    have ih := forall_mem_codeLines h₀ (record' :: records)
    simp only [codeLines, List.map_cons] at ih ⊢
    rw [List.intercalate_cons_cons, List.forall_mem_append, List.forall_mem_append, ih, List.forall_mem_cons]
    simp [h₀]

theorem Field.mem_memberLine_iff (field : Field) : '\n' ∈ field.memberLine settings ↔
    '\n' ∈ field.name.toList ∨ '\n' ∈ (field.typeText settings).toList := by
  unfold Field.memberLine
  have hi : '\n' ∉ memberIndent.toList := by decide
  split <;> simp [String.toList_append, hi]

theorem Field.forall_mem_codeLines_iff (field : Field) :
    (∀ line ∈ field.codeLines settings, '\n' ∉ line) ↔ '\n' ∉ field.memberLine settings := by
  have hc : ∀ line ∈ commentLines memberIndent field.description, '\n' ∉ line :=
    fun _ => not_mem_of_mem_commentLines (by decide)
  rw [Field.codeLines, List.forall_mem_append, List.forall_mem_singleton]
  exact and_iff_right hc

theorem Record.forall_mem_codeLines_iff {record : Record} (hn : '\n' ∉ record.typeName.toList) :
    (∀ line ∈ record.codeLines settings, '\n' ∉ line) ↔ ∀ f ∈ record.fields, '\n' ∉ f.memberLine settings := by
  have hc : ∀ line ∈ commentLines "" record.documentation, '\n' ∉ line :=
    fun _ => not_mem_of_mem_commentLines (by decide)
  have hh : '\n' ∉ ("pub const " ++ record.typeName ++ " = struct \x7b").toList := by
    simp [String.toList_append, hn]
  have hb : '\n' ∉ "\x7d;".toList := by decide
  rw [Record.codeLines, List.forall_mem_append, List.forall_mem_append, List.forall_mem_append,
    List.forall_mem_singleton, List.forall_mem_singleton, List.forall_mem_flatMap]
  simp only [Field.forall_mem_codeLines_iff]
  exact ⟨fun h => h.1.2, fun h => ⟨⟨⟨hc, hh⟩, h⟩, hb⟩⟩

theorem linesOf_eq_codeLines_iff (records : List Record) :
    linesOf (joinBlocks (records.map (·.text settings))) = codeLines settings records ++ [[]] ↔
      ∀ line ∈ codeLines settings records, '\n' ∉ line := by
  constructor
  · intro h line hl
    exact not_mem_of_mem_linesOf (h ▸ List.mem_append_left _ hl)
  · intro h
    rw [linesOf_joinBlocks, flatMap_splitOn_eq_self h]

end

/-! ## Line feeds that a type brings -/

theorem mem_inArrays {type : List Char} : ∀ n, '\n' ∈ inArrays n type ↔ '\n' ∈ type
  | 0 => Iff.rfl
  | n + 1 => by simp [inArrays, mem_inArrays n]

theorem mem_escapeLiteral {c : Char} (hc : c ≠ '\\') (cs : List Char) : c ∈ escapeLiteral cs ↔ c ∈ cs := by
  induction cs with
  | nil => exact Iff.rfl
  | cons d cs ih =>
    unfold escapeLiteral at ih ⊢
    rw [List.flatMap_cons, List.mem_append, ih, List.mem_cons]
    split <;> simp [hc]

theorem mem_placeholder (reason : String) : '\n' ∈ (placeholder reason).toList ↔ '\n' ∈ reason.toList := by
  have h : ∀ a b : String, '\n' ∉ a.toList → '\n' ∉ b.toList →
      ('\n' ∈ (a ++ .ofList (escapeLiteral reason.toList) ++ b).toList ↔ '\n' ∈ reason.toList) := by
    intro a b ha hb
    rw [String.toList_append, String.toList_append, String.toList_ofList, List.mem_append, List.mem_append,
      mem_escapeLiteral (by decide), or_iff_left hb, or_iff_right ha]
  exact h _ _ (by simp) (by simp)

section
variable {settings : Settings} (hi : ∀ type, settings.integerType = some type → '\n' ∉ type.toList)
  (hf : ∀ type, settings.floatType = some type → '\n' ∉ type.toList)
include hi hf

theorem eq_core_of_mem {core type : List Char} (h : coreType settings core = .ok type) (hm : '\n' ∈ type) :
    type = core := by
  -- Each of the fixed types is a text without a line feed; a core passed through is its own type.
  unfold coreType at h
  split at h
  · cases ht : settings.integerType with
    | none => rw [ht] at h; cases h
    | some t => rw [ht] at h; cases h; exact absurd hm (hi t ht)
  split at h
  · cases ht : settings.floatType with
    | none => rw [ht] at h; cases h
    | some t => rw [ht] at h; cases h; exact absurd hm (hf t ht)
  split at h
  · cases h; simp at hm
  split at h
  · cases h
    split at hm <;> simp at hm
  split at h
  · cases h; simp at hm
  split at h
  · cases h; simp at hm
  split at h
  · split at h
    · cases h; simp at hm
    · cases h
  · cases h; rfl

/-- The type of the field holds a line feed where it is written: its core is passed through with one,
or it is a union that has no rendering, and what was documented is quoted with one. -/
def Field.TypeBreaks (settings : Settings) (field : Field) : Prop :=
  let core := (nesting field.typeName.toList).2
  (coreType settings core = .ok core ∧ '\n' ∈ core) ∨
    (coreType settings core = .error .union ∧ '\n' ∈ field.typeName.toList)

theorem Field.mem_typeText_iff (field : Field) :
    '\n' ∈ (field.typeText settings).toList ↔ field.TypeBreaks settings := by
  unfold Field.typeText Field.TypeBreaks typeFor zigType
  dsimp only
  generalize (nesting field.typeName.toList).2 = core
  cases hc : coreType settings core with
  | ok type =>
    simp only [Functor.map, Except.map, String.toList_ofList, mem_inArrays]
    constructor
    · intro hm
      have := eq_core_of_mem hi hf hc hm
      exact .inl ⟨by rw [this], this ▸ hm⟩
    · rintro (⟨he, hm⟩ | ⟨he, -⟩)
      · cases he; exact hm
      · cases he
  | error cause =>
    simp only [Functor.map, Except.map, mem_placeholder]
    cases cause with
    | integer => simp [UnmappedType.reason]
    | float => simp [UnmappedType.reason]
    | union => simp [UnmappedType.reason, String.toList_append]

end

/-! ## The code of a page -/

theorem newline_not_mem_of_reviewed {elements : List Element} {r : Record}
    (hr : r ∈ (review (collect elements).accepted (collect elements).rejected).good) : '\n' ∉ r.typeName.toList := by
  obtain ⟨hr, hn, -⟩ := mem_screen_good_iff.mp hr
  obtain ⟨title, ht⟩ := typeName_of_mem_accepted hr
  rw [ht] at hn ⊢
  exact newline_not_mem_of_isTypeName_trim hn

/-- The lines of a page's code are those of the inventory, each cut at its own line feeds. They are
the inventory exactly if no field has a line feed in its name or brings one with its type. -/
theorem linesOf_code (settings : Settings) (hs : settings.strict = false)
    (hi : ∀ type, settings.integerType = some type → '\n' ∉ type.toList)
    (hf : ∀ type, settings.floatType = some type → '\n' ∉ type.toList) (elements : List Element) :
    let records := (review (collect elements).accepted (collect elements).rejected).good
    ∃ code, Code.ofRecords settings records = .ok code ∧
      linesOf code.text = (codeLines settings records).flatMap (·.splitOn '\n') ++ [[]] ∧
      (linesOf code.text = codeLines settings records ++ [[]] ↔
        ∀ r ∈ records, ∀ f ∈ r.fields, '\n' ∉ f.name.toList ∧ ¬ f.TypeBreaks settings) := by
  intro records
  refine ⟨_, ofRecords_lenient hs records, linesOf_joinBlocks settings records, ?_⟩
  rw [linesOf_eq_codeLines_iff, forall_mem_codeLines settings List.not_mem_nil]
  refine forall_congr' fun r => forall_congr' fun hr => ?_
  rw [Record.forall_mem_codeLines_iff settings (newline_not_mem_of_reviewed hr)]
  refine forall_congr' fun f => forall_congr' fun _ => ?_
  rw [Field.mem_memberLine_iff, Field.mem_typeText_iff hi hf, not_or]

theorem linesOf_code_standard :
    let page : List Element := [.heading "Point" 3, .paragraph "A point\nof two.",
      .table ["Field", "Type", "Description"]
        [["x", "Array of Integer", "The x."], ["y", "Float", "Optional. The\ny."]]]
    let records := (review (collect page).accepted (collect page).rejected).good
    ∃ code, Code.ofRecords .standard records = .ok code ∧
      linesOf code.text = (codeLines .standard records).flatMap (·.splitOn '\n') ++ [[]] ∧
      (linesOf code.text = codeLines .standard records ++ [[]] ↔
        ∀ r ∈ records, ∀ f ∈ r.fields, '\n' ∉ f.name.toList ∧ ¬ f.TypeBreaks .standard) :=
  linesOf_code .standard rfl (fun _ h => by cases h; simp) (fun _ h => by cases h; simp) _

/-- A union that is quoted with its line feed ends its member line in the middle of the quotation. -/
theorem linesOf_quoted_union :
    let settings : Settings := { Settings.standard with unionsAsJson := false }
    let page : List Element := [.heading "Media" 3, .paragraph "Some media.",
      .table ["Field", "Type", "Description"] [["item", "Photo or\nVideo", "The item."]]]
    let records := (review (collect page).accepted (collect page).rejected).good
    ∃ code, Code.ofRecords settings records = .ok code ∧ linesOf code.text ≠ codeLines settings records ++ [[]] := by
  intro settings page records
  have hr : records = [⟨"Media", "Some media.", [⟨"item", "Photo or\nVideo", "The item."⟩], 0⟩] := by
    decide +kernel
  have hn : (nesting "Photo or\nVideo".toList).2 = "Photo or\nVideo".toList := by decide +kernel
  have hw : hasWord "or" "Photo or\nVideo".toList = true := by decide +kernel
  have hc : coreType settings "Photo or\nVideo".toList = .error .union := by
    rw [coreType, if_neg (by simp), if_neg (by simp), if_neg (by simp), if_neg (by simp), if_neg (by simp),
      if_neg (by simp), if_pos hw]
    rfl
  have hb : Field.TypeBreaks settings ⟨"item", "Photo or\nVideo", "The item."⟩ :=
    .inr ⟨by rw [hn]; exact hc, by simp⟩
  have hb := (Field.mem_typeText_iff (fun _ h => by cases h; simp) (fun _ h => by cases h; simp) _).mpr hb
  refine ⟨_, ofRecords_lenient rfl records, fun h => ?_⟩
  rw [linesOf_eq_codeLines_iff, forall_mem_codeLines settings List.not_mem_nil, hr, List.forall_mem_singleton,
    Record.forall_mem_codeLines_iff settings (by simp), List.forall_mem_singleton, Field.mem_memberLine_iff] at h
  exact h (.inr hb)

end ZigDecls
