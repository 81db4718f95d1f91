import Mathlib.Data.List.Forall2
import ZigDecls.Proofs.Trimming
import ZigDecls.Record.Table

/-!
# Field tables, row by row

`fieldsOf` gives one field for each row, in the order of the rows, if no row is short (`Lists`).
Otherwise it reports the first short row by its number and its width, and gives nothing.
-/

namespace ZigDecls
open Text

def Field.IsReadFrom (f : Field) (cells : List String) : Prop :=
  ∃ name typeName description more, cells = name :: typeName :: description :: more ∧
    TrimsTo name f.name ∧ TrimsTo typeName f.typeName ∧ TrimsTo description f.description

/-- Every row gives one field, in the order of the rows: its first three cells without the blanks at
their ends. -/
def Lists (rows : List (List String)) (fields : List Field) : Prop :=
  List.Forall₂ (fun cells f => f.IsReadFrom cells) rows fields

theorem fieldOf?_eq_some_iff {cells : List String} {f : Field} : fieldOf? cells = some f ↔ f.IsReadFrom cells := by
  obtain ⟨fieldName, fieldType, fieldDescription⟩ := f
  unfold Field.IsReadFrom
  match cells with
  | [] | [_] | [_, _] => simp [fieldOf?]
  | name :: typeName :: description :: more => simp [fieldOf?, trim_eq_iff]

theorem fieldOf?_eq_none_iff {cells : List String} : fieldOf? cells = none ↔ cells.length < 3 := by
  have h := fieldOf?_isSome cells
  cases hf : fieldOf? cells with
  | none => rw [hf] at h; simpa using h
  | some f => rw [hf] at h; simpa using h

theorem Lists.fieldsFrom_eq {rows : List (List String)} {fields : List Field} (h : Lists rows fields) (n : Nat) :
    fieldsFrom n rows = .ok fields := by
  induction h generalizing n with
  | nil => rfl
  | cons hf _ ih =>
    simp only [fieldsFrom, fieldOf?_eq_some_iff.mpr hf, ih]
    rfl

theorem fieldsFrom_of_short {cells : List String} (hc : cells.length < 3) (after : List (List String)) :
    ∀ {before : List (List String)} (n : Nat), (∀ row ∈ before, 3 ≤ row.length) →
      fieldsFrom n (before ++ cells :: after) = .error ⟨n + before.length, cells.length⟩
  | [], n, _ => by simp [fieldsFrom, fieldOf?_eq_none_iff.mpr hc]
  | row :: before, n, h => by
    have hr : (fieldOf? row).isSome := by simpa [fieldOf?_isSome] using h row (by simp)
    obtain ⟨f, hf⟩ := Option.isSome_iff_exists.mp hr
    have ih := fieldsFrom_of_short hc after (n + 1) fun row hm => h row (List.mem_cons_of_mem _ hm)
    simp only [List.cons_append, fieldsFrom, hf, ih, List.length_cons]
    rw [Nat.add_assoc n 1, Nat.add_comm 1]
    rfl

theorem fields_or_short : ∀ rows : List (List String), (∃ fields : List Field, Lists rows fields) ∨
    ∃ before cells after, rows = before ++ cells :: after ∧ (∀ row ∈ before, 3 ≤ row.length) ∧ cells.length < 3
  | [] => .inl ⟨[], .nil⟩
  | row :: rows => by
    cases hf : fieldOf? row with
    | none => exact .inr ⟨[], row, rows, rfl, by simp, fieldOf?_eq_none_iff.mp hf⟩
    | some f =>
      have hr : 3 ≤ row.length := by
        have := fieldOf?_isSome row
        rw [hf] at this
        simpa using this.symm
      rcases fields_or_short rows with ⟨fields, h⟩ | ⟨before, cells, after, rfl, hb, hc⟩
      · exact .inl ⟨f :: fields, .cons (fieldOf?_eq_some_iff.mp hf) h⟩
      · exact .inr ⟨row :: before, cells, after, rfl, List.forall_mem_cons.mpr ⟨hr, hb⟩, hc⟩

theorem fieldsOf_eq_ok_iff {rows : List (List String)} {fields : List Field} :
    fieldsOf rows = .ok fields ↔ Lists rows fields := by
  refine ⟨fun h => ?_, fun h => h.fieldsFrom_eq 1⟩
  rcases fields_or_short rows with ⟨fs, hfs⟩ | ⟨before, cells, after, rfl, hb, hc⟩
  · rw [fieldsOf, hfs.fieldsFrom_eq 1] at h
    cases h; exact hfs
  · rw [fieldsOf, fieldsFrom_of_short hc after 1 hb] at h
    cases h

theorem fieldsOf_eq_error_iff {rows : List (List String)} {short : ShortRow} :
    fieldsOf rows = .error short ↔ ∃ before cells after, rows = before ++ cells :: after ∧
      (∀ row ∈ before, 3 ≤ row.length) ∧ cells.length < 3 ∧ short = ⟨1 + before.length, cells.length⟩ := by
  constructor
  · intro h
    rcases fields_or_short rows with ⟨fs, hfs⟩ | ⟨before, cells, after, rfl, hb, hc⟩
    · rw [fieldsOf, hfs.fieldsFrom_eq 1] at h
      cases h
    · rw [fieldsOf, fieldsFrom_of_short hc after 1 hb] at h
      cases h; exact ⟨before, cells, after, rfl, hb, hc, rfl⟩
  · rintro ⟨before, cells, after, rfl, hb, hc, rfl⟩
    exact fieldsFrom_of_short hc after 1 hb

end ZigDecls
