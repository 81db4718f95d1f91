import Mathlib.Computability.Language
import ZigDecls.Proofs.Screening
import ZigDecls.Proofs.TypeNames

/-!
# Type names as title words

The pattern of a type name is one title word or more, a capital with small letters and digits behind
it, up to the end of the line. The words spell title case, however they are cut. The end of the line
also stands in front of a line feed that ends the text, and that line feed is let through.
-/

namespace ZigDecls
open scoped Computability

/-! ## Words -/

def capital : Language Char := {cs | ∃ c, cs = [c] ∧ 'A' ≤ c ∧ c ≤ 'Z'}

def small : Language Char := {cs | ∃ c, cs = [c] ∧ (('a' ≤ c ∧ c ≤ 'z') ∨ ('0' ≤ c ∧ c ≤ '9'))}

def titleWord : Language Char := capital * small∗

def titleWords : Language Char := titleWord * titleWord∗

/-- What may follow the end of the line: nothing, or the line feed that ends the text. -/
def lineEnd : Language Char := {[], ['\n']}

theorem singleton_mem_capital {c : Char} (h : c.isUpper = true) : [c] ∈ capital := ⟨c, rfl, isUpper_iff.mp h⟩

theorem append_mem_kstar {l : Language Char} {a b : List Char} (ha : a ∈ l) (hb : b ∈ l∗) : a ++ b ∈ l∗ := by
  obtain ⟨parts, rfl, hp⟩ := Language.mem_kstar.mp hb
  exact ⟨a :: parts, rfl, List.forall_mem_cons.mpr ⟨ha, hp⟩⟩

theorem forall_mem_of_mem_kstar {l : Language Char} {p : Char → Prop} (h : ∀ part ∈ l, ∀ c ∈ part, p c)
    {cs : List Char} (hcs : cs ∈ l∗) : ∀ c ∈ cs, p c := by
  intro c hc
  obtain ⟨parts, rfl, hp⟩ := Language.mem_kstar.mp hcs
  obtain ⟨part, hm, hc⟩ := List.mem_flatten.mp hc
  exact h part (hp part hm) c hc

theorem isAlphanum_of_mem_small {cs : List Char} (h : cs ∈ small∗) : ∀ c ∈ cs, c.isAlphanum = true := by
  refine forall_mem_of_mem_kstar ?_ h
  rintro _ ⟨d, rfl, hd⟩ c hc
  obtain rfl := List.mem_singleton.mp hc
  exact isAlphanum_iff.mpr (.inr hd)

theorem isTitleCase_of_mem_titleWord {cs : List Char} (h : cs ∈ titleWord) : isTitleCase cs = true := by
  obtain ⟨_, ⟨c, rfl, hc⟩, rest, hr, rfl⟩ := Language.mem_mul.mp h
  rw [List.singleton_append, isTitleCase, Bool.and_eq_true, List.all_eq_true]
  exact ⟨isUpper_iff.mpr hc, isAlphanum_of_mem_small hr⟩

theorem isAlphanum_of_mem_titleWord {cs : List Char} (h : cs ∈ titleWord∗) : ∀ c ∈ cs, c.isAlphanum = true :=
  forall_mem_of_mem_kstar (fun _ hw => isAlphanum_of_isTitleCase (isTitleCase_of_mem_titleWord hw)) h

theorem isTitleCase_append {cs ds : List Char} (h : isTitleCase cs = true) (hd : ∀ c ∈ ds, c.isAlphanum = true) :
    isTitleCase (cs ++ ds) = true := by
  cases cs with
  | nil => cases h
  | cons c cs =>
    simp only [isTitleCase, List.cons_append, Bool.and_eq_true, List.all_eq_true] at h ⊢
    exact ⟨h.1, List.forall_mem_append.mpr ⟨h.2, hd⟩⟩

/-- By induction on the text: a capital begins a word with the small letters and digits that are cut off
behind it, and anything else joins them. -/
theorem mem_small_mul_titleWord : ∀ {cs : List Char}, (∀ c ∈ cs, c.isAlphanum = true) → cs ∈ small∗ * titleWord∗
  | [], _ => ⟨[], Language.nil_mem_kstar _, [], Language.nil_mem_kstar _, rfl⟩
  | c :: cs, h => by
    obtain ⟨a, ha, b, hb, rfl⟩ := mem_small_mul_titleWord fun d hd => h d (List.mem_cons_of_mem _ hd)
    rcases isAlphanum_iff.mp (h c List.mem_cons_self) with hc | hc
    · have hw : c :: a ∈ titleWord := Language.append_mem_mul (singleton_mem_capital (isUpper_iff.mpr hc)) ha
      exact ⟨[], Language.nil_mem_kstar _, c :: a ++ b, append_mem_kstar hw hb, rfl⟩
    · have hs : [c] ∈ small := ⟨c, rfl, hc⟩
      exact ⟨c :: a, append_mem_kstar hs ha, b, hb, rfl⟩

theorem mem_titleWords_iff {cs : List Char} : cs ∈ titleWords ↔ isTitleCase cs = true := by
  constructor
  · intro h
    obtain ⟨a, ha, b, hb, rfl⟩ := Language.mem_mul.mp h
    exact isTitleCase_append (isTitleCase_of_mem_titleWord ha) (isAlphanum_of_mem_titleWord hb)
  · intro h
    cases cs with
    | nil => cases h
    | cons c cs =>
      simp only [isTitleCase, Bool.and_eq_true, List.all_eq_true] at h
      obtain ⟨a, ha, b, hb, rfl⟩ := mem_small_mul_titleWord h.2
      have hw : c :: a ∈ titleWord := Language.append_mem_mul (singleton_mem_capital h.1) ha
      exact Language.append_mem_mul hw hb

/-! ## The end of the line -/

theorem chomp_concat (cs : List Char) : chomp (cs ++ ['\n']) = cs := by
  unfold chomp
  rw [if_pos List.getLast?_concat, List.dropLast_concat]

theorem eq_chomp_or (cs : List Char) : cs = chomp cs ∨ cs = chomp cs ++ ['\n'] := by
  unfold chomp
  split
  · rename_i h
    exact .inr (List.dropLast_append_getLast? _ h).symm
  · exact .inl rfl

theorem isTitleCase_chomp_iff {cs : List Char} : isTitleCase (chomp cs) = true ↔ cs ∈ titleWords * lineEnd := by
  constructor
  · intro h
    have hw := mem_titleWords_iff.mpr h
    rcases eq_chomp_or cs with he | he
    · exact ⟨chomp cs, hw, [], .inl rfl, (List.append_nil _).trans he.symm⟩
    · exact ⟨chomp cs, hw, ['\n'], .inr rfl, he.symm⟩
  · intro h
    obtain ⟨ws, hw, rest, hr, rfl⟩ := Language.mem_mul.mp h
    have hw := mem_titleWords_iff.mp hw
    rcases hr with rfl | rfl
    · rw [List.append_nil, chomp_of_isTitleCase hw, hw]
    · rw [chomp_concat, hw]

def TitleLine (s : String) : Prop := ∃ t, TitleCase t ∧ s = t ++ "\n"

theorem mem_titleWords_mul_lineEnd_iff {s : String} :
    s.toList ∈ titleWords * lineEnd ↔ TitleCase s ∨ TitleLine s := by
  constructor
  · intro h
    obtain ⟨ws, hw, rest, hr, he⟩ := Language.mem_mul.mp h
    have hw : TitleCase (.ofList ws) := by
      rw [← isTitleCase_iff, String.toList_ofList]
      exact mem_titleWords_iff.mp hw
    rcases hr with rfl | rfl
    · rw [List.append_nil] at he
      refine .inl ?_
      rwa [he, String.ofList_toList] at hw
    · refine .inr ⟨_, hw, String.toList_injective ?_⟩
      rw [← he, String.toList_append, String.toList_ofList]
      rfl
  · rintro (h | ⟨t, h, rfl⟩)
    · exact ⟨_, mem_titleWords_iff.mpr (isTitleCase_iff.mpr h), [], .inl rfl, List.append_nil _⟩
    · exact ⟨_, mem_titleWords_iff.mpr (isTitleCase_iff.mpr h), ['\n'], .inr rfl, by rw [String.toList_append]; rfl⟩

theorem not_titleCase_of_titleLine {s : String} (h : TitleLine s) : ¬ TitleCase s := by
  obtain ⟨t, -, rfl⟩ := h
  intro hs
  have hm : '\n' ∈ (t ++ "\n").toList := by simp
  exact absurd (isAlphanum_of_isTitleCase (isTitleCase_iff.mpr hs) _ hm) (by decide)

/-- A name passes exactly if it matches the pattern, so if it is title case or title case with one line
feed behind it. The check is title case for all names but those of the second kind, and a screening
keeps the records with fields whose names are of one of the two kinds. -/
theorem isTypeName_iff_titleWords (name : String) :
    (isTypeName name = true ↔ name.toList ∈ titleWords * lineEnd) ∧
    (isTypeName name = true ↔ TitleCase name ∨ TitleLine name) ∧
    ((isTypeName name = true ↔ TitleCase name) ↔ ¬ TitleLine name) ∧
    ∀ records : List Record, name ∈ (screen records).good.map (·.typeName) ↔
      (TitleCase name ∨ TitleLine name) ∧ ∃ r ∈ records, r.typeName = name ∧ r.fields ≠ [] := by
  have hw : isTypeName name = true ↔ name.toList ∈ titleWords * lineEnd := isTitleCase_chomp_iff
  have ht : isTypeName name = true ↔ TitleCase name ∨ TitleLine name := hw.trans mem_titleWords_mul_lineEnd_iff
  refine ⟨hw, ht, ?_, fun records => ?_⟩
  · rw [ht]
    constructor
    · intro h hl
      exact not_titleCase_of_titleLine hl (h.mp (.inr hl))
    · intro hl
      exact or_iff_left hl
  · rw [List.mem_map, ← ht]
    constructor
    · rintro ⟨r, hr, rfl⟩
      obtain ⟨hm, hn, hf⟩ := mem_screen_good_iff.mp hr
      exact ⟨hn, r, hm, rfl, hf⟩
    · rintro ⟨hn, r, hm, rfl, hf⟩
      exact ⟨r, mem_screen_good_iff.mpr ⟨hm, hn, hf⟩, rfl⟩

/-- One line feed behind a title is not seen, neither by the check nor when records are screened. -/
theorem line_feed_is_passed :
    let r : Record := ⟨"Hello\n", "Doc.", [⟨"a", "String", "A."⟩], 0⟩
    isTypeName r.typeName = true ∧ ¬ TitleCase r.typeName ∧ r ∈ (screen [r]).good := by
  intro r
  have hn : isTypeName r.typeName = true := by decide
  exact ⟨hn, not_titleCase_of_titleLine ⟨"Hello", isTitleCase_iff.mp (by decide), rfl⟩,
    mem_screen_good_iff.mpr ⟨List.mem_singleton_self r, hn, List.cons_ne_nil _ _⟩⟩

end ZigDecls
