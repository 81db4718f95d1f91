import ZigDecls.Zig.Inventory

/-!
# Lines of a text

A text is cut at its line feeds, so a line feed between two texts cuts each by itself, and no line
holds one. The lines of a doc comment are those of its text, each behind the mark.
-/

namespace ZigDecls

/-! ## Cutting at line feeds -/

theorem linesOf_ofList (cs : List Char) : linesOf (.ofList cs) = cs.splitOn '\n' := by
  rw [linesOf, String.toList_ofList]

theorem linesOf_append_newline (a b : String) : linesOf (a ++ "\n" ++ b) = linesOf a ++ linesOf b := by
  unfold linesOf
  rw [String.toList_append, String.toList_append, List.append_assoc]
  exact List.splitOn_append_cons_self _ _

theorem not_mem_of_mem_splitOn {cs line : List Char} (h : line ∈ cs.splitOn '\n') : '\n' ∉ line := by
  rw [List.splitOn_eq_splitOnP] at h
  intro hm
  simpa using (Text.of_mem_splitOnP h _ hm).2

theorem not_mem_of_mem_linesOf {s : String} {line : Line} (h : line ∈ linesOf s) : '\n' ∉ line :=
  not_mem_of_mem_splitOn h

theorem flatMap_splitOn_eq_self {lines : List Line} (h : ∀ line ∈ lines, '\n' ∉ line) :
    lines.flatMap (·.splitOn '\n') = lines := by
  induction lines with
  | nil => rfl
  | cons line lines ih =>
    rw [List.flatMap_cons, List.splitOn_eq_singleton (h line (by simp)),
      ih fun l hl => h l (List.mem_cons_of_mem _ hl)]
    rfl

/-! ## Comments -/

/-- A comment of lines: each line feed between two of them brings the indent and the mark. -/
theorem commentChars_intercalate (indent : List Char) : ∀ {lines : List Line}, lines ≠ [] →
    (∀ line ∈ lines, '\n' ∉ line) → commentChars indent (['\n'].intercalate lines) =
      ['\n'].intercalate (lines.map (indent ++ commentMark ++ ·))
  | [], h, _ => absurd rfl h
  | line :: lines, _, h => by
    have hl : line.flatMap (fun c => if c = '\n' then '\n' :: (indent ++ commentMark) else [c]) = line := by
      have hf : ∀ c ∈ line, (if c = '\n' then '\n' :: (indent ++ commentMark) else [c]) = [c] := fun c hc =>
        if_neg fun (e : c = '\n') => h line (by simp) (e ▸ hc)
      rw [List.flatMap_def, List.map_congr_left hf, ← List.flatMap_def, List.flatMap_singleton']
    cases lines with
    | nil => simp only [commentChars, List.intercalate_singleton, hl, List.map_cons, List.map_nil]
    | cons line' lines =>
      have ih := commentChars_intercalate indent (List.cons_ne_nil line' lines)
        fun l hm => h l (List.mem_cons_of_mem _ hm)
      unfold commentChars at ih ⊢
      simp only [List.map_cons, List.intercalate_cons_cons] at ih ⊢
      rw [← ih]
      simp only [List.flatMap_append, hl, List.flatMap_cons, if_true, List.append_assoc, List.cons_append,
        List.nil_append]

theorem linesOf_commentText {indent : String} (hi : '\n' ∉ indent.toList) (text : String) :
    linesOf (commentText indent text) = commentLines indent text := by
  have ht : text.toList = ['\n'].intercalate (linesOf text) := (List.intercalate_splitOn '\n').symm
  have hne : linesOf text ≠ [] := List.splitOn_ne_nil _ _
  rw [commentText, linesOf_ofList, ht, commentChars_intercalate _ hne fun _ => not_mem_of_mem_linesOf]
  refine List.splitOn_intercalate '\n' ?_ (by simpa using hne)
  intro line hm
  obtain ⟨l, hl, rfl⟩ := List.mem_map.mp hm
  have hmark : '\n' ∉ commentMark := by decide
  simp [hi, hmark, not_mem_of_mem_linesOf hl]

theorem not_mem_of_mem_commentLines {indent text : String} {line : Line} (hi : '\n' ∉ indent.toList)
    (h : line ∈ commentLines indent text) : '\n' ∉ line := by
  rw [← linesOf_commentText hi] at h
  exact not_mem_of_mem_linesOf h

end ZigDecls
