import Mathlib.Data.List.Forall2
import ZigDecls.Page.Item
import ZigDecls.Proofs.Collection
import ZigDecls.Proofs.TypeNames

/-!
# Blanks around titles and cells

Two pages that differ in the blanks around their titles and cells have the same records. Where a
section yields none, it is rejected for the same reason in the same words, but a table with unexpected
headers is quoted with the blanks of its own page.
-/

namespace ZigDecls
open Text

/-! ## Pages that are alike -/

/-- The same element but for blanks around a title or a cell. The level of a heading is free. -/
inductive Element.Alike : Element → Element → Prop
  | heading {title title' : String} (level level' : Int) : trim title = trim title' →
      Alike (.heading title level) (.heading title' level')
  | paragraph (text : String) : Alike (.paragraph text) (.paragraph text)
  | table {headers headers' : List String} {rows rows' : List (List String)} :
      headers.map trim = headers'.map trim → rows.map (·.map trim) = rows'.map (·.map trim) →
      Alike (.table headers rows) (.table headers' rows')
  | other (kind : String) : Alike (.other kind) (.other kind)

def TablesAlike (t t' : List String × List (List String)) : Prop :=
  t.1.map trim = t'.1.map trim ∧ t.2.map (·.map trim) = t'.2.map (·.map trim)

structure Section.Alike (s s' : Section) : Prop where
  title : s.title = s'.title
  documentation : s.documentation = s'.documentation
  tables : List.Forall₂ TablesAlike s.tables s'.tables

theorem Section.alike_of_body (title : String) {body body' : List Element} (h : List.Forall₂ Element.Alike body body') :
    Section.Alike ⟨title, body⟩ ⟨title, body'⟩ := by
  refine ⟨rfl, ?_, ?_⟩
  · induction h with
    | nil => rfl
    | cons he _ ih =>
      unfold documentation at ih ⊢
      cases he with
      | paragraph text => rw [List.filterMap_cons, List.filterMap_cons, ih]
      | heading _ _ _ => exact ih
      | table _ _ => exact ih
      | other _ => exact ih
  · induction h with
    | nil => exact .nil
    | cons he _ ih =>
      cases he with
      | table hh hr => exact .cons ⟨hh, hr⟩ ih
      | heading _ _ _ => exact ih
      | paragraph _ => exact ih
      | other _ => exact ih

theorem cutSections_alike {es es' : List Element} (h : List.Forall₂ Element.Alike es es') :
    List.Forall₂ Element.Alike (cutSections es).1 (cutSections es').1 ∧
    List.Forall₂ Section.Alike (sectionsOf es) (sectionsOf es') := by
  induction h with
  | nil => exact ⟨.nil, .nil⟩
  | cons he _ ih =>
    cases he with
    | heading level level' ht =>
      rw [sectionsOf_heading, sectionsOf_heading, ht]
      exact ⟨.nil, .cons (Section.alike_of_body _ ih.1) ih.2⟩
    | paragraph text => exact ⟨.cons (.paragraph text) ih.1, ih.2⟩
    | table hh hr => exact ⟨.cons (.table hh hr) ih.1, ih.2⟩
    | other kind => exact ⟨.cons (.other kind) ih.1, ih.2⟩

/-! ## Tables -/

theorem fieldOf?_trim : ∀ cells : List String, fieldOf? (cells.map trim) = fieldOf? cells
  | [] | [_] | [_, _] => rfl
  | _ :: _ :: _ :: _ => by simp only [List.map_cons, fieldOf?, trim_trim]

theorem fieldsFrom_trim (n : Nat) (rows : List (List String)) :
    fieldsFrom n (rows.map (·.map trim)) = fieldsFrom n rows := by
  induction rows generalizing n with
  | nil => rfl
  | cons cells rows ih => simp only [List.map_cons, fieldsFrom, fieldOf?_trim, List.length_map, ih]

theorem fieldsOf_congr {rows rows' : List (List String)} (h : rows.map (·.map trim) = rows'.map (·.map trim)) :
    fieldsOf rows = fieldsOf rows' := by
  unfold fieldsOf
  rw [← fieldsFrom_trim 1 rows, h, fieldsFrom_trim]

/-! ## What comes of sections that are alike -/

/-- The same rejection but for the blanks in the headers that it quotes. -/
structure Rejection.Alike (r r' : Rejection) : Prop where
  index : r.index = r'.index
  typeName : r.typeName = r'.typeName
  reason : r.reason = r'.reason
  detail : r.detail = r'.detail ∨ ∃ headers headers' : List String, headers.map trim = headers'.map trim ∧
    r.detail = "unexpected headers " ++ quotedList headers ∧ r'.detail = "unexpected headers " ++ quotedList headers'

inductive Outcome.Alike : Outcome → Outcome → Prop
  | record (r : Record) : Alike (.ok r) (.ok r)
  | rejection {r r' : Rejection} : r.Alike r' → Alike (.error r) (.error r')

theorem Rejection.alike_refl (r : Rejection) : r.Alike r := ⟨rfl, rfl, rfl, .inl rfl⟩

theorem Outcome.alike_refl : ∀ o : Outcome, Outcome.Alike o o
  | .ok r => .record r
  | .error r => .rejection r.alike_refl

theorem headersFit_congr {headers headers' : List String} (h : headers.map trim = headers'.map trim) :
    headersFit headers = headersFit headers' := by
  unfold headersFit
  rw [h]

/-- Blanks reach what a section yields only where headers are quoted. -/
theorem Section.Alike.outcome {s s' : Section} (h : s.Alike s') (index : Nat) :
    Outcome.Alike (s.outcome index) (s'.outcome index) := by
  obtain ⟨htitle, hdoc, htables⟩ := h
  unfold Section.outcome Section.verdict
  rw [htitle, hdoc]
  generalize s.tables = ts at htables ⊢
  generalize s'.tables = ts' at htables ⊢
  cases htables with
  | nil => exact Outcome.alike_refl _
  | @cons t t' more more' ht hmore =>
    obtain ⟨headers, rows⟩ := t
    obtain ⟨headers', rows'⟩ := t'
    obtain ⟨hh, hr⟩ := ht
    have hm : more.isEmpty = more'.isEmpty := by cases hmore <;> rfl
    dsimp only at hh hr ⊢
    rw [headersFit_congr hh, fieldsOf_congr hr, hm]
    cases headersFit headers' with
    | false => exact .rejection ⟨rfl, rfl, rfl, .inr ⟨headers, headers', hh, rfl, rfl⟩⟩
    | true => exact Outcome.alike_refl _

theorem outcomesFrom_alike {ss ss' : List Section} (h : List.Forall₂ Section.Alike ss ss') (n : Nat) :
    List.Forall₂ Outcome.Alike (outcomesFrom n ss) (outcomesFrom n ss') := by
  induction h generalizing n with
  | nil => exact .nil
  | cons hs _ ih => exact .cons (hs.outcome n) (ih (n + 1))

theorem recordsIn_alike {os os' : List Outcome} (h : List.Forall₂ Outcome.Alike os os') :
    recordsIn os = recordsIn os' := by
  induction h with
  | nil => rfl
  | cons ho _ ih =>
    cases ho with
    | record r => exact congrArg (r :: ·) ih
    | rejection _ => exact ih

theorem rejectionsIn_alike {os os' : List Outcome} (h : List.Forall₂ Outcome.Alike os os') :
    List.Forall₂ Rejection.Alike (rejectionsIn os) (rejectionsIn os') := by
  induction h with
  | nil => exact .nil
  | cons ho _ ih =>
    cases ho with
    | record r => exact ih
    | rejection hr => exact .cons hr ih

theorem outcomesOf_alike {es es' : List Element} (h : List.Forall₂ Element.Alike es es') :
    List.Forall₂ Outcome.Alike (outcomesOf es) (outcomesOf es') :=
  outcomesFrom_alike (cutSections_alike h).2 0

theorem accepted_alike {es es' : List Element} (h : List.Forall₂ Element.Alike es es') :
    (collect es).accepted = (collect es').accepted := by
  rw [collect_accepted, collect_accepted, recordsIn_alike (outcomesOf_alike h)]

/-! ## Trimming at once -/

def Element.trimmed : Element → Element
  | .heading title level => .heading (trim title) level
  | .table headers rows => .table (headers.map trim) (rows.map (·.map trim))
  | e => e

theorem Element.trimmed_alike : ∀ e : Element, e.trimmed.Alike e
  | .heading title level => .heading level level (trim_trim title)
  | .paragraph text => .paragraph text
  | .table headers rows => by
    refine .table ?_ ?_
    · simp only [List.map_map, Function.comp_def, trim_trim]
    · simp only [List.map_map, Function.comp_def, trim_trim]
  | .other kind => .other kind

/-- The element of an item with its title or its cells as they were found. -/
def Item.untrimmed? (item : Item) : Option Element :=
  let label := capitals item.label
  let cells := item.grid.map (·.map fun cell => cell.getD "")
  if tableLabels.contains label then some (.table (cells.headD []) cells.tail)
  else item.text.bind fun text =>
    if text = "" then none
    else if headingLabels.contains label then some (.heading text item.headingLevel)
    else if paragraphLabels.contains label then some (.paragraph text)
    else none

theorem Item.element?_eq (item : Item) : item.element? = item.untrimmed?.map Element.trimmed := by
  unfold Item.element? Item.untrimmed?
  dsimp only
  split
  · have hc : item.cells = (item.grid.map (·.map fun cell => cell.getD "")).map (·.map trim) := by
      simp only [Item.cells, List.map_map, Function.comp_def]
    rw [hc, Option.map_some, Element.trimmed, List.map_tail]
    cases item.grid <;> rfl
  · split
    · next ht => rw [ht]; rfl
    · next ht => rw [ht]; rfl
    · next text hne ht =>
      rw [ht, Option.bind_some, if_neg hne]
      split
      · rfl
      · split <;> rfl

theorem elementsOf_eq (items : List Item) :
    elementsOf items = (items.filterMap Item.untrimmed?).map Element.trimmed := by
  unfold elementsOf
  rw [List.map_filterMap]
  exact congrArg (items.filterMap ·) (funext Item.element?_eq)

/-- Pages that are alike have the same records and as many candidates, and their rejections are alike.
So it makes no difference to the records whether titles and cells are trimmed before they are collected. -/
theorem collect_of_alike {es es' : List Element} (h : List.Forall₂ Element.Alike es es') :
    (collect es).accepted = (collect es').accepted ∧ (collect es).candidates = (collect es').candidates ∧
    List.Forall₂ Rejection.Alike (collect es).rejected (collect es').rejected ∧
    ∀ items : List Item,
      let found := items.filterMap Item.untrimmed?
      elementsOf items = found.map Element.trimmed ∧
      (collect (elementsOf items)).accepted = (collect found).accepted := by
  refine ⟨accepted_alike h, ?_, ?_, fun items => ?_⟩
  · rw [collect_candidates, collect_candidates, ← length_sectionsOf, ← length_sectionsOf]
    exact (cutSections_alike h).2.length_eq
  · rw [collect_rejected, collect_rejected]
    exact rejectionsIn_alike (outcomesOf_alike h)
  · intro found
    have he : elementsOf items = found.map Element.trimmed := elementsOf_eq items
    refine ⟨he, ?_⟩
    rw [he]
    refine accepted_alike (List.forall₂_map_left_iff.mpr ?_)
    exact List.forall₂_same.mpr fun e _ => e.trimmed_alike

/-- The headers of a table are quoted with their blanks, so the rejections of these two pages differ. -/
theorem collect_of_alike_points :
    let page (blank : String) : List Element := [.heading ("Point" ++ blank) 3, .paragraph "A point.",
      .table [blank ++ "Field", "Type", "Description"] [["x" ++ blank, "Integer", "The x."]],
      .heading "Size" 3, .table ["Name" ++ blank] []]
    List.Forall₂ Element.Alike (page "") (page "\n") ∧
    (collect (page "")).accepted = (collect (page "\n")).accepted ∧
    (collect (page "")).candidates = (collect (page "\n")).candidates ∧
    List.Forall₂ Rejection.Alike (collect (page "")).rejected (collect (page "\n")).rejected ∧
    (collect (page "")).rejected ≠ (collect (page "\n")).rejected := by
  intro page
  have h : List.Forall₂ Element.Alike (page "") (page "\n") :=
    .cons (.heading 3 3 (by decide)) (.cons (.paragraph _) (.cons (.table (by decide) (by decide))
      (.cons (.heading 3 3 rfl) (.cons (.table (by decide) rfl) .nil))))
  obtain ⟨ha, hc, hr, -⟩ := collect_of_alike h
  exact ⟨h, ha, hc, hr, by decide +kernel⟩

end ZigDecls
