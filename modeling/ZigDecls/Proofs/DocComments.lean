import ZigDecls.Proofs.Lines

/-!
# Doc comments, line by line

A doc comment has the lines of its text, each of them behind the indent and the mark. Without these
the lines are the text again. So a comment is read back as a text exactly if it was written for it.
-/

namespace ZigDecls
open Text

/-- The text of a comment, if the indent and the mark are in front of each of its lines. -/
def uncommentText? (indent comment : String) : Option String :=
  ((linesOf comment).mapM (indent.toList ++ commentMark).isPrefixOf?).map fun lines =>
    .ofList (['\n'].intercalate lines)

/-! ## Lines and their texts -/

theorem ofList_linesOf (text : String) : .ofList (['\n'].intercalate (linesOf text)) = text := by
  rw [linesOf, List.intercalate_splitOn, String.ofList_toList]

theorem linesOf_injective {a b : String} (h : linesOf a = linesOf b) : a = b := by
  rw [← ofList_linesOf a, h, ofList_linesOf]

theorem linesOf_ofList_intercalate {lines : List Line} (hne : lines ≠ []) (h : ∀ line ∈ lines, '\n' ∉ line) :
    linesOf (.ofList (['\n'].intercalate lines)) = lines := by
  rw [linesOf_ofList]
  exact List.splitOn_intercalate '\n' h hne

theorem mapM_isPrefixOf?_eq_some_iff {mark : List Char} : ∀ {marked lines : List Line},
    marked.mapM mark.isPrefixOf? = some lines ↔ marked = lines.map (mark ++ ·)
  | [], lines => by simp [eq_comm]
  | line :: marked, lines => by
    rw [List.mapM_cons]
    simp only [Option.bind_eq_bind, Option.bind_eq_some_iff, Option.pure_def, Option.some.injEq]
    constructor
    · rintro ⟨rest, hr, rests, hm, rfl⟩
      rw [eq_append_of_isPrefixOf? hr, mapM_isPrefixOf?_eq_some_iff.mp hm, List.map_cons]
    · intro h
      cases lines with
      | nil => cases h
      | cons rest lines =>
        rw [List.map_cons, List.cons.injEq] at h
        obtain ⟨rfl, rfl⟩ := h
        exact ⟨rest, isPrefixOf?_append mark rest, lines, mapM_isPrefixOf?_eq_some_iff.mpr rfl, rfl⟩

/-! ## Comments and their texts -/

theorem uncommentText?_eq_some_iff {indent : String} (hi : '\n' ∉ indent.toList) {comment text : String} :
    uncommentText? indent comment = some text ↔ comment = commentText indent text := by
  unfold uncommentText?
  rw [Option.map_eq_some_iff]
  constructor
  · rintro ⟨lines, hm, rfl⟩
    have hlines := mapM_isPrefixOf?_eq_some_iff.mp hm
    have hne : lines ≠ [] := by
      rintro rfl
      exact List.splitOn_ne_nil _ _ hlines
    have hn : ∀ line ∈ lines, '\n' ∉ line := by
      intro line hl hc
      exact not_mem_of_mem_linesOf (hlines ▸ List.mem_map_of_mem hl) (List.mem_append_right _ hc)
    apply linesOf_injective
    rw [linesOf_commentText hi, commentLines, linesOf_ofList_intercalate hne hn, hlines]
  · rintro rfl
    exact ⟨linesOf text, mapM_isPrefixOf?_eq_some_iff.mpr (linesOf_commentText hi text), ofList_linesOf text⟩

/-- Texts are commented one by one, under any indent. -/
theorem commentText_append_newline (indent a b : String) :
    commentText indent (a ++ "\n" ++ b) = commentText indent a ++ "\n" ++ commentText indent b := by
  rw [← String.toList_inj]
  simp [commentText, commentChars, String.toList_append]

/-- Under an indent without a line feed a comment has as many lines as its text, each of them the line of
the text behind the indent and the mark. It is the only comment that is read back as the text, and a line
feed between two texts divides their comments. -/
theorem commentText_linewise {indent : String} (hi : '\n' ∉ indent.toList) (text : String) :
    (linesOf (commentText indent text)).length = (linesOf text).length ∧
    (∀ (i : Nat) (line : Line), (linesOf text)[i]? = some line →
      (linesOf (commentText indent text))[i]? = some (indent.toList ++ "/// ".toList ++ line)) ∧
    (∀ comment, uncommentText? indent comment = some text ↔ comment = commentText indent text) ∧
    ∀ a b, commentText indent (a ++ "\n" ++ b) = commentText indent a ++ "\n" ++ commentText indent b := by
  have hlines := linesOf_commentText hi text
  refine ⟨?_, fun i line hl => ?_, fun _ => uncommentText?_eq_some_iff hi, commentText_append_newline indent⟩
  · rw [hlines, commentLines, List.length_map]
  · rw [hlines, commentLines, List.getElem?_map, hl]
    rfl

/-- Lines that look like comments and empty lines at the end are read back as they were. -/
theorem commentText_linewise_indented : '\n' ∉ "    ".toList ∧
    uncommentText? "    " "    /// /// One.\n    /// \n    /// " = some "/// One.\n\n" :=
  ⟨by decide, ((commentText_linewise (by decide) "/// One.\n\n").2.2.1 _).mpr (by decide)⟩

end ZigDecls
