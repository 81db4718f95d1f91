import ZigDecls.Proofs.Collection

/-!
# Short rows

A field table gives one field for each of its rows, or nothing and the number of its first short row.
The pass over a page keeps nothing of a table that gives nothing: the section that the table stands in
is rejected with that row, and the records are those of the sections before it and behind it.
-/

namespace ZigDecls
open Text

/-- The first of the rows that has fewer than three cells, by its number and its width. -/
structure IsFirstShort (rows : List (List String)) (short : ShortRow) : Prop where
  row : ∃ row, rows[short.row - 1]? = some row ∧ row.length = short.cells
  counted : 1 ≤ short.row
  cells : short.cells < 3
  first : ∀ (i : Nat) (row : List String), rows[i]? = some row → row.length < 3 → short.row ≤ i + 1

theorem isFirstShort_iff {rows : List (List String)} {short : ShortRow} : IsFirstShort rows short ↔
    ∃ before cells after, rows = before ++ cells :: after ∧ (∀ row ∈ before, 3 ≤ row.length) ∧
      cells.length < 3 ∧ short = ⟨1 + before.length, cells.length⟩ := by
  obtain ⟨n, k⟩ := short
  constructor
  · rintro ⟨⟨row, hrow, hk⟩, hn, hlt, hfirst⟩
    dsimp only at hrow hk hn hlt hfirst
    obtain ⟨hi, hget⟩ := List.getElem?_eq_some_iff.mp hrow
    refine ⟨rows.take (n - 1), row, rows.drop n, ?_, fun row' hmem => ?_, hk ▸ hlt, ?_⟩
    · have hd := List.drop_eq_getElem_cons hi
      rw [hget, Nat.sub_add_cancel hn] at hd
      rw [← hd, List.take_append_drop]
    · -- A shorter row in front would have a smaller number.
      obtain ⟨i, hlt', rfl⟩ := List.mem_iff_getElem.mp hmem
      rw [List.length_take] at hlt'
      rw [List.getElem_take]
      refine Nat.not_lt.mp fun hs => ?_
      have := hfirst i _ (List.getElem?_eq_getElem (by omega)) hs
      omega
    · rw [List.length_take, Nat.min_eq_left (by omega), Nat.add_sub_cancel' hn, hk]
  · rintro ⟨before, cells, after, rfl, hb, hc, he⟩
    cases he
    refine ⟨⟨cells, ?_, rfl⟩, by simp, hc, fun i row hrow hs => ?_⟩
    · simp
    · refine Nat.not_lt.mp fun hi => ?_
      have hlt : i < before.length := by simp only at hi; omega
      rw [List.getElem?_append_left hlt] at hrow
      have := hb row (List.mem_of_getElem? hrow)
      omega

theorem fieldOf?_take (cells : List String) : fieldOf? (cells.take 3) = fieldOf? cells := by
  match cells with
  | [] | [_] | [_, _] | _ :: _ :: _ :: _ => rfl

/-- A row, wide or short, comes to the same without its cells behind the third. -/
theorem fieldsFrom_take : ∀ (n : Nat) (rows : List (List String)),
    fieldsFrom n (rows.map (List.take 3)) = fieldsFrom n rows
  | _, [] => rfl
  | n, cells :: rows => by
    rw [List.map_cons, fieldsFrom, fieldsFrom, fieldOf?_take, fieldsFrom_take (n + 1) rows]
    cases hf : fieldOf? cells with
    | some field => rfl
    | none =>
      have := fieldOf?_eq_none_iff.mp hf
      simp only
      rw [List.length_take, Nat.min_eq_right (by omega)]

theorem Field.IsReadFrom.eq_getD {cells : List String} {field : Field} (h : field.IsReadFrom cells) :
    3 ≤ cells.length ∧ field = ⟨trim (cells.getD 0 ""), trim (cells.getD 1 ""), trim (cells.getD 2 "")⟩ := by
  obtain ⟨name, typeName, description, more, rfl, hn, ht, hd⟩ := h
  refine ⟨by simp, ?_⟩
  rw [← trim_eq_iff] at hn ht hd
  simp only [List.getD_cons_zero, List.getD_cons_succ, hn, ht, hd]

theorem Lists.eq_getD {rows : List (List String)} {fields : List Field} (h : Lists rows fields) :
    (∀ row ∈ rows, 3 ≤ row.length) ∧
    fields = rows.map fun row => ⟨trim (row.getD 0 ""), trim (row.getD 1 ""), trim (row.getD 2 "")⟩ := by
  induction h with
  | nil => exact ⟨fun _ hm => absurd hm List.not_mem_nil, rfl⟩
  | cons hf _ ih =>
    obtain ⟨hlength, hfield⟩ := hf.eq_getD
    exact ⟨List.forall_mem_cons.mpr ⟨hlength, ih.1⟩, by rw [List.map_cons, ← hfield, ← ih.2]⟩

def Element.isTable : Element → Bool
  | .table _ _ => true
  | _ => false

namespace Section

theorem tables_eq_nil {title : String} : ∀ {body : List Element}, (∀ e ∈ body, e.isTable = false) →
    (Section.mk title body).tables = []
  | [], _ => rfl
  | e :: body, h => by
    have ih : (Section.mk title body).tables = [] := tables_eq_nil fun e he => h e (List.mem_cons_of_mem _ he)
    have he := h e (by simp)
    cases e with
    | table headers rows => cases he
    | heading _ _ => exact ih
    | paragraph _ => exact ih
    | other _ => exact ih

end Section

theorem outcomesFrom_append : ∀ (n : Nat) (sections sections' : List Section),
    outcomesFrom n (sections ++ sections') = outcomesFrom n sections ++ outcomesFrom (n + sections.length) sections'
  | n, [], _ => rfl
  | n, s :: sections, sections' => by
    rw [List.cons_append, outcomesFrom_cons, outcomesFrom_append (n + 1), outcomesFrom_cons, List.cons_append,
      List.length_cons, Nat.add_assoc, Nat.add_comm 1]

/-- What a heading opens has its own outcome, between those of the sections before it and behind it. -/
theorem outcomesOf_append_heading (earlier : List Element) (title : String) (level : Int) (es : List Element) :
    outcomesOf (earlier ++ .heading title level :: es) = outcomesOf earlier ++
      (Section.mk (trim title) (cutSections es).1).outcome (titlesOf earlier).length ::
        outcomesFrom ((titlesOf earlier).length + 1) (sectionsOf es) := by
  rw [outcomesOf, (sectionsOf_append_heading title level es earlier).1, outcomesFrom_append, outcomesFrom_cons,
    Nat.zero_add, length_sectionsOf]
  rfl

theorem index_of_mem_outcomesFrom {n : Nat} {sections : List Section} {r : Record}
    (h : .ok r ∈ outcomesFrom n sections) : ∃ i < sections.length, r.index = (n + i : Nat) := by
  obtain ⟨⟨s, i⟩, hp, ho⟩ := List.mem_map.mp h
  obtain ⟨hle, hlt, -⟩ := List.mem_zipIdx hp
  exact ⟨i - n, by omega, by rw [(s.index_outcome i).1 r ho, Nat.add_sub_cancel' hle]⟩

def ShortRow.rejection (short : ShortRow) (index : Nat) (title : String) : Rejection :=
  ⟨index, title, .malformedTable,
    "row " ++ toString short.row ++ " has " ++ toString short.cells ++ " cells, expected 3"⟩

/-- The first table of a section settles it if it has a short row, whatever follows. -/
theorem outcomesOf_shortTable {rows : List (List String)} {short : ShortRow} (hshort : IsFirstShort rows short)
    (earlier : List Element) (title : String) (level : Int) {body : List Element}
    (hbody : ∀ e ∈ body, e.isHeading = false ∧ e.isTable = false) {headers : List String}
    (hfit : headers.map trim = ["Field", "Type", "Description"]) (later : List Element) :
    outcomesOf (earlier ++ .heading title level :: (body ++ .table headers rows :: later)) = outcomesOf earlier ++
      .error (short.rejection (titlesOf earlier).length (trim title)) ::
        outcomesFrom ((titlesOf earlier).length + 1) (sectionsOf later) := by
  obtain ⟨before, cells, after, rfl, hb, hc, rfl⟩ := isFirstShort_iff.mp hshort
  have hcut := cutSections_append (fun e he => (hbody e he).1) (.table headers (before ++ cells :: after) :: later)
  have htables : (Section.mk (trim title) (body ++ .table headers (before ++ cells :: after) ::
      (cutSections later).1)).tables =
        (headers, before ++ cells :: after) :: (Section.mk (trim title) (cutSections later).1).tables := by
    rw [Section.tables_append, Section.tables_eq_nil fun e he => (hbody e he).2]
    rfl
  rw [outcomesOf_append_heading, sectionsOf, hcut]
  exact congrArg (outcomesOf earlier ++ · :: _) (Section.Yields.shortRow htables hfit hb hc).outcome_eq

/-- All fields or none, and none of a table with a short row reaches the records of its page. -/
theorem fieldsOf_all_or_nothing (rows : List (List String)) :
    ((∃ fields, fieldsOf rows = .ok fields) ↔ ∀ row ∈ rows, 3 ≤ row.length) ∧
    (∀ fields, fieldsOf rows = .ok fields →
      fields = rows.map fun row => ⟨trim (row.getD 0 ""), trim (row.getD 1 ""), trim (row.getD 2 "")⟩) ∧
    fieldsOf (rows.map (List.take 3)) = fieldsOf rows ∧
    (∀ short, fieldsOf rows = .error short ↔ IsFirstShort rows short) ∧
    ∀ short, IsFirstShort rows short → ∀ (earlier : List Element) (title : String) (level : Int)
      (body : List Element) (headers : List String) (later : List Element),
      (∀ e ∈ body, e.isHeading = false ∧ e.isTable = false) →
      headers.map trim = ["Field", "Type", "Description"] →
      let c := collect (earlier ++ .heading title level :: (body ++ .table headers rows :: later))
      let index := (titlesOf earlier).length
      let outcomes := outcomesFrom (index + 1) (sectionsOf later)
      c.accepted = (collect earlier).accepted ++ recordsIn outcomes ∧
      c.rejected = (collect earlier).rejected ++ short.rejection index (trim title) :: rejectionsIn outcomes ∧
      ∀ r ∈ c.accepted, r.index ≠ index := by
  refine ⟨⟨?_, fun h => ?_⟩, fun fields h => (fieldsOf_eq_ok_iff.mp h).eq_getD.2, fieldsFrom_take 1 rows,
    fun short => ?_, ?_⟩
  · rintro ⟨fields, h⟩
    exact (fieldsOf_eq_ok_iff.mp h).eq_getD.1
  · rcases fields_or_short rows with ⟨fields, hf⟩ | ⟨before, cells, after, rfl, -, hc⟩
    · exact ⟨fields, fieldsOf_eq_ok_iff.mpr hf⟩
    · have := h cells (by simp)
      omega
  · rw [fieldsOf_eq_error_iff, isFirstShort_iff]
  · intro short hshort earlier title level body headers later hbody hfit c index outcomes
    have hall := outcomesOf_shortTable hshort earlier title level hbody hfit later
    have haccepted : c.accepted = (collect earlier).accepted ++ recordsIn outcomes := by
      rw [collect_accepted, hall, recordsIn_append, ← collect_accepted]
      rfl
    refine ⟨haccepted, ?_, fun r hr => ?_⟩
    · rw [collect_rejected, hall, rejectionsIn_append, ← collect_rejected]
      rfl
    · rw [haccepted, List.mem_append, collect_accepted, mem_recordsIn, mem_recordsIn] at hr
      rcases hr with hr | hr
      · obtain ⟨i, hi, he⟩ := index_of_mem_outcomesFrom hr
        rw [length_sectionsOf] at hi
        omega
      · obtain ⟨i, -, he⟩ := index_of_mem_outcomesFrom hr
        omega

/-- A table with two short rows leaves no record, whatever stands behind it. -/
theorem fieldsOf_all_or_nothing_second :
    let rows := [["x", "Integer", "The x."], ["y", "Integer"], ["z"]]
    IsFirstShort rows ⟨2, 2⟩ ∧ (collect ([] ++ .heading "Point" 4 :: ([.paragraph "A point."] ++
      .table ["Field", "Type", "Description"] rows :: [.table [] [], .paragraph "More."]))).accepted = [] := by
  intro rows
  have hshort : IsFirstShort rows ⟨2, 2⟩ :=
    isFirstShort_iff.mpr ⟨[["x", "Integer", "The x."]], ["y", "Integer"], [["z"]], rfl, by decide, by decide, rfl⟩
  exact ⟨hshort, ((fieldsOf_all_or_nothing rows).2.2.2.2 _ hshort [] "Point" 4 [.paragraph "A point."]
    ["Field", "Type", "Description"] [.table [] [], .paragraph "More."] (by decide) (by decide)).1⟩

end ZigDecls
