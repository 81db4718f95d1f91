import ZigDecls.Proofs.Conservation
import ZigDecls.Proofs.TypeNames

/-!
# Records that are written

A record is written exactly if a section of the page gives it and it is well formed. What a section
gives is read from its title, its paragraphs and the rows of its one field table, so the texts of
the fields have no blank at either end.
-/

namespace ZigDecls
open Text

/-! ## Texts without blanks at their ends -/

structure Field.Trimmed (f : Field) : Prop where
  name : ZigDecls.Trimmed f.name
  typeName : ZigDecls.Trimmed f.typeName
  description : ZigDecls.Trimmed f.description

theorem Field.IsReadFrom.trimmed {cells : List String} {f : Field} (h : f.IsReadFrom cells) : f.Trimmed := by
  obtain ⟨_, _, _, _, -, hn, ht, hd⟩ := h
  exact ⟨hn.1, ht.1, hd.1⟩

theorem Lists.trimmed {rows : List (List String)} {fields : List Field} (h : Lists rows fields) :
    ∀ f ∈ fields, f.Trimmed := by
  induction h with
  | nil => exact fun f hf => absurd hf List.not_mem_nil
  | cons hf _ ih => exact List.forall_mem_cons.mpr ⟨hf.trimmed, ih⟩

/-! ## Documentation that says something -/

def SaysSomething (s : String) : Prop := ∃ c ∈ s.toList, isBlank c = false

theorem saysSomething_iff {s : String} : SaysSomething s ↔ allBlank s = false := by
  simp [SaysSomething, allBlank]

theorem saysSomething_of_mem {s : Section} {doc : String} (h : doc ∈ s.documentation) : SaysSomething doc := by
  obtain ⟨e, -, he⟩ := List.mem_filterMap.mp h
  cases e with
  | paragraph text =>
    by_cases hb : allBlank text = true
    · simp [hb] at he
    · obtain rfl : text = doc := by simpa [hb] using he
      exact saysSomething_iff.mpr (by simpa using hb)
  | heading title level => cases he
  | table headers rows => cases he
  | other kind => cases he

theorem saysSomething_intercalate {doc : String} {docs : List String} (h : SaysSomething doc) :
    SaysSomething ("\n".intercalate (doc :: docs)) := by
  obtain ⟨c, hc, hb⟩ := h
  refine ⟨c, ?_, hb⟩
  cases docs with
  | nil => simpa using hc
  | cons doc' docs =>
    rw [String.intercalate_cons_cons, String.toList_append, String.toList_append]
    simp [hc]

theorem saysSomething_documentation {s : Section} :
    SaysSomething ("\n".intercalate s.documentation) ↔ s.documentation ≠ [] := by
  constructor
  · rintro ⟨c, hc, -⟩ hd
    rw [hd] at hc
    cases hc
  · intro hd
    obtain ⟨doc, docs, he⟩ := List.exists_cons_of_ne_nil hd
    rw [he]
    exact saysSomething_intercalate (saysSomething_of_mem (he ▸ List.mem_cons_self))

/-! ## Records that stay -/

structure Record.WellFormed (r : Record) : Prop where
  documentation : SaysSomething r.documentation
  fields : r.fields ≠ []
  typeName : TitleCase r.typeName
  trimmed : ∀ f ∈ r.fields, f.Trimmed

/-- The records that are written are those that a section gives and that are well formed. -/
theorem mem_reviewed_iff (elements : List Element) (r : Record) :
    r ∈ (review (collect elements).accepted (collect elements).rejected).good ↔
      r.WellFormed ∧ ∃ (i : Nat) (s : Section), (sectionsOf elements)[i]? = some s ∧ r.index = i ∧ r.ReadFrom s := by
  constructor
  · intro h
    obtain ⟨ha, hn, hf⟩ := mem_screen_good_iff.mp h
    obtain ⟨title, ht⟩ := typeName_of_mem_accepted ha
    obtain ⟨i, s, hs, ho⟩ := mem_accepted.mp ha
    obtain ⟨hi, hr, hd⟩ := Section.outcome_eq_ok_iff.mp ho
    have hname : TitleCase r.typeName := by
      rw [ht] at hn ⊢
      exact isTitleCase_iff.mp (isTitleCase_of_isTypeName_trim hn)
    have hdoc : SaysSomething r.documentation := by
      rw [hr.documentation]
      exact saysSomething_documentation.mpr hd
    obtain ⟨headers, rows, -, -, hl⟩ := hr.fields
    exact ⟨⟨hdoc, hf, hname, hl.trimmed⟩, i, s, hs, hi, hr⟩
  · rintro ⟨hw, i, s, hs, hi, hr⟩
    have hd : s.documentation ≠ [] := by
      rw [← saysSomething_documentation, ← hr.documentation]
      exact hw.documentation
    have ha := mem_accepted.mpr ⟨i, s, hs, Section.outcome_eq_ok_iff.mpr ⟨hi, hr, hd⟩⟩
    exact mem_screen_good_iff.mpr ⟨ha, isTypeName_of_titleCase hw.typeName, hw.fields⟩

end ZigDecls
