import ZigDecls.Proofs.Trimming
import ZigDecls.Record.Screen

/-!
# Type names that come from headings

A type name may end in one line feed that is not looked at. A title is trimmed before it becomes a
type name, and a trimmed text does not end in a blank, so there the exception never applies.
-/

namespace ZigDecls
open Text

theorem chomp_trimList (cs : List Char) : chomp (trimList cs) = trimList cs := by
  refine if_neg fun h => ?_
  have := isBlank_getLast_trimList h
  exact absurd this (by decide)

theorem isAlphanum_of_isTitleCase : ∀ {cs : List Char}, isTitleCase cs = true → ∀ c ∈ cs, c.isAlphanum = true
  | [], h, _, _ => by cases h
  | c :: cs, h, d, hd => by
    simp only [isTitleCase, Bool.and_eq_true, List.all_eq_true] at h
    rcases List.mem_cons.mp hd with rfl | hd
    · have ha : d.isAlpha = true := Bool.or_eq_true_iff.mpr (.inl h.1)
      exact Bool.or_eq_true_iff.mpr (.inl ha)
    · exact h.2 d hd

theorem isTitleCase_of_isTypeName_trim {title : String} (h : isTypeName (trim title) = true) :
    isTitleCase (trim title).toList = true := by
  rwa [isTypeName, toList_trim, chomp_trimList, ← toList_trim] at h

theorem newline_not_mem_of_isTypeName_trim {title : String} (h : isTypeName (trim title) = true) :
    '\n' ∉ (trim title).toList := fun hm =>
  absurd (isAlphanum_of_isTitleCase (isTitleCase_of_isTypeName_trim h) _ hm) (by decide)

/-! ## Title case -/

/-- An ASCII capital, and after it ASCII letters and digits. -/
def TitleCase (s : String) : Prop := ∃ c cs, s.toList = c :: cs ∧ ('A' ≤ c ∧ c ≤ 'Z') ∧
  ∀ d ∈ cs, ('A' ≤ d ∧ d ≤ 'Z') ∨ ('a' ≤ d ∧ d ≤ 'z') ∨ ('0' ≤ d ∧ d ≤ '9')

theorem isUpper_iff {c : Char} : c.isUpper = true ↔ 'A' ≤ c ∧ c ≤ 'Z' := by
  show decide ('A' ≤ c ∧ c ≤ 'Z') = true ↔ _
  exact decide_eq_true_iff

theorem isLower_iff {c : Char} : c.isLower = true ↔ 'a' ≤ c ∧ c ≤ 'z' := by
  show (decide ('a' ≤ c) && decide (c ≤ 'z')) = true ↔ _
  simp only [Bool.and_eq_true, decide_eq_true_iff]

theorem isDigit_iff {c : Char} : c.isDigit = true ↔ '0' ≤ c ∧ c ≤ '9' := by
  show (decide ('0' ≤ c) && decide (c ≤ '9')) = true ↔ _
  simp only [Bool.and_eq_true, decide_eq_true_iff]

theorem isAlphanum_iff {c : Char} :
    c.isAlphanum = true ↔ ('A' ≤ c ∧ c ≤ 'Z') ∨ ('a' ≤ c ∧ c ≤ 'z') ∨ ('0' ≤ c ∧ c ≤ '9') := by
  show (c.isUpper || c.isLower || c.isDigit) = true ↔ _
  rw [Bool.or_eq_true, Bool.or_eq_true, isUpper_iff, isLower_iff, isDigit_iff, or_assoc]

theorem isTitleCase_iff {s : String} : isTitleCase s.toList = true ↔ TitleCase s := by
  unfold TitleCase
  cases s.toList with
  | nil => simp [isTitleCase]
  | cons c cs =>
    rw [isTitleCase, Bool.and_eq_true, List.all_eq_true, isUpper_iff]
    simp only [isAlphanum_iff]
    constructor
    · intro h
      exact ⟨c, cs, rfl, h⟩
    · rintro ⟨_, _, he, h⟩
      cases he; exact h

theorem chomp_of_isTitleCase {cs : List Char} (h : isTitleCase cs = true) : chomp cs = cs := by
  refine if_neg fun hl => ?_
  exact absurd (isAlphanum_of_isTitleCase h _ (List.mem_of_getLast? hl)) (by decide)

theorem isTypeName_of_titleCase {s : String} (h : TitleCase s) : isTypeName s = true := by
  have ht := isTitleCase_iff.mpr h
  rw [isTypeName, chomp_of_isTitleCase ht, ht]

end ZigDecls
