import Mathlib.Data.List.DropRight
import ZigDecls.Text.Classes

/-!
# Trimming

`trim_eq_iff`: trimming gives the one text that has no blank at its ends and differs from the text by
blanks in front and behind alone.
-/

namespace ZigDecls
open Text

/-- Neither end is blank. -/
def Trimmed (s : String) : Prop :=
  (∀ c, s.toList.head? = some c → isBlank c = false) ∧ ∀ c, s.toList.getLast? = some c → isBlank c = false

/-- `t` is what stands between the blanks at both ends of `s`. -/
def TrimsTo (s t : String) : Prop :=
  Trimmed t ∧ ∃ front back : String, s = front ++ t ++ back ∧
    (∀ c ∈ front.toList, isBlank c = true) ∧ ∀ c ∈ back.toList, isBlank c = true

/-! ## Both ends -/

theorem isBlank_getLast_trimList {cs : List Char} {c : Char} (h : (trimList cs).getLast? = some c) :
    isBlank c = false := by
  rw [trimList, List.getLast?_reverse] at h
  have := List.head?_dropWhile_not isBlank (cs.dropWhile isBlank).reverse
  rw [h] at this
  simpa using this

theorem isBlank_head_trimList {cs : List Char} {c : Char} (h : (trimList cs).head? = some c) : isBlank c = false := by
  have hp : trimList cs <+: cs.dropWhile isBlank := by
    rw [← List.reverse_suffix, trimList, List.reverse_reverse]; exact List.dropWhile_suffix _
  have := List.head?_dropWhile_not isBlank cs
  obtain ⟨rest, hr⟩ := hp
  rw [← hr, List.head?_append, h] at this
  simpa using this

theorem trimmed_trim (s : String) : Trimmed (trim s) := by
  unfold Trimmed
  rw [toList_trim]
  exact ⟨fun _ => isBlank_head_trimList, fun _ => isBlank_getLast_trimList⟩

theorem dropWhile_eq_self {cs : List Char} (h : ∀ c, cs.head? = some c → isBlank c = false) :
    cs.dropWhile isBlank = cs := by
  cases cs with
  | nil => rfl
  | cons c cs => exact List.dropWhile_cons_of_neg (by simp [h c rfl])

theorem Trimmed.trim_eq {s : String} (h : Trimmed s) : trim s = s := by
  have hl : ∀ c, s.toList.reverse.head? = some c → isBlank c = false := fun c hc => h.2 c (List.head?_reverse ▸ hc)
  rw [trim, trimList, dropWhile_eq_self h.1, dropWhile_eq_self hl, List.reverse_reverse, String.ofList_toList]

theorem trim_trim (s : String) : trim (trim s) = trim s := (trimmed_trim s).trim_eq

/-! ## Blanks in front and behind -/

theorem trimList_append_blanks {back : List Char} (hb : ∀ c ∈ back, isBlank c = true) (cs : List Char) :
    trimList (cs ++ back) = trimList cs := by
  unfold trimList
  rw [List.dropWhile_append]
  split
  · next he =>
    have hnil : back.dropWhile isBlank = [] := List.dropWhile_eq_nil_iff.mpr hb
    rw [List.isEmpty_iff.mp he, hnil]
  · rw [List.reverse_append, List.dropWhile_append_of_pos fun c hc => hb c (List.mem_reverse.mp hc)]

theorem trimList_blanks_append {front : List Char} (hf : ∀ c ∈ front, isBlank c = true) (cs : List Char) :
    trimList (front ++ cs) = trimList cs := by
  rw [trimList, List.dropWhile_append_of_pos hf, trimList]

theorem trimsTo_trim (s : String) : TrimsTo s (trim s) := by
  let rest := s.toList.dropWhile isBlank
  refine ⟨trimmed_trim s, .ofList (s.toList.takeWhile isBlank), .ofList (rest.rtakeWhile isBlank), ?_, ?_, ?_⟩
  · apply String.toList_injective
    simp only [String.toList_append, String.toList_ofList, toList_trim, List.append_assoc]
    have hback : trimList s.toList ++ rest.rtakeWhile isBlank = rest := List.rdropWhile_append_rtakeWhile
    rw [hback, List.takeWhile_append_dropWhile]
  · rw [String.toList_ofList]
    exact fun c hc => List.mem_takeWhile_imp hc
  · rw [String.toList_ofList]
    exact fun c hc => List.mem_rtakeWhile_imp hc

theorem trim_eq_iff {s t : String} : trim s = t ↔ TrimsTo s t := by
  constructor
  · rintro rfl
    exact trimsTo_trim s
  · rintro ⟨ht, front, back, rfl, hf, hb⟩
    have hlist : trimList (front ++ t ++ back).toList = trimList t.toList := by
      rw [String.toList_append, String.toList_append, trimList_append_blanks hb, trimList_blanks_append hf]
    exact (congrArg String.ofList hlist).trans ht.trim_eq

theorem trim_eq_empty_iff {s : String} : trim s = "" ↔ allBlank s = true := by
  rw [trim_eq_iff, allBlank, List.all_eq_true]
  constructor
  · rintro ⟨-, front, back, rfl, hf, hb⟩
    rw [String.append_empty, String.toList_append]
    exact List.forall_mem_append.mpr ⟨hf, hb⟩
  · intro h
    exact ⟨⟨nofun, nofun⟩, s, "", by rw [String.append_empty, String.append_empty], h, nofun⟩

end ZigDecls
