import ZigDecls.Proofs.Sections

/-!
# What the pass over a page finds

`collect` is one pass with at most one open candidate. `collect_gains`: it finds exactly the outcomes
of the page's sections, in their order. `Section.Yields` says what that outcome is, with one
constructor for each case and the wording of each rejection.
-/

namespace ZigDecls
open Text

/-! ## What a section yields -/

inductive Section.Yields (s : Section) (index : Nat) : Outcome → Prop
  | noTable : s.tables = [] →
      Yields s index (.error ⟨index, s.title, .incompleteRecord,
        if s.documentation = [] then "missing documentation and field table" else "missing field table"⟩)
  | headers {headers rows more} : s.tables = (headers, rows) :: more →
      headers.map trim ≠ ["Field", "Type", "Description"] →
      Yields s index (.error ⟨index, s.title, .malformedTable, "unexpected headers " ++ quotedList headers⟩)
  /-- The first short row is the one that is reported. -/
  | shortRow {headers before cells after more} : s.tables = (headers, before ++ cells :: after) :: more →
      headers.map trim = ["Field", "Type", "Description"] → (∀ row ∈ before, 3 ≤ row.length) → cells.length < 3 →
      Yields s index (.error ⟨index, s.title, .malformedTable,
        "row " ++ toString (1 + before.length) ++ " has " ++ toString cells.length ++ " cells, expected 3"⟩)
  | secondTable {headers rows fields more} : s.tables = (headers, rows) :: more →
      headers.map trim = ["Field", "Type", "Description"] → Lists rows fields → more ≠ [] →
      Yields s index (.error ⟨index, s.title, .malformedTable, "more than one field table"⟩)
  | noDocumentation {headers rows fields} : s.tables = [(headers, rows)] →
      headers.map trim = ["Field", "Type", "Description"] → Lists rows fields → s.documentation = [] →
      Yields s index (.error ⟨index, s.title, .incompleteRecord, "missing documentation"⟩)
  | record {headers rows fields} : s.tables = [(headers, rows)] →
      headers.map trim = ["Field", "Type", "Description"] → Lists rows fields → s.documentation ≠ [] →
      Yields s index (.ok ⟨s.title, "\n".intercalate s.documentation, fields, index⟩)

/-- The record holds what the section says: its title, all its paragraphs that are not blank, and its
one table row by row. -/
structure Record.ReadFrom (r : Record) (s : Section) : Prop where
  typeName : r.typeName = s.title
  documentation : r.documentation = "\n".intercalate s.documentation
  fields : ∃ headers rows, s.tables = [(headers, rows)] ∧ headers.map trim = ["Field", "Type", "Description"] ∧
    Lists rows r.fields

namespace Section

theorem headersFit_iff {headers : List String} :
    headersFit headers = true ↔ headers.map trim = ["Field", "Type", "Description"] := by
  rw [headersFit, beq_iff_eq]; rfl

theorem outcome_of_verdict {s : Section} {flaw : Flaw} (h : s.verdict = .error flaw) (index : Nat) :
    s.outcome index = .error ⟨index, s.title, flaw.reason, flaw.detail⟩ := by
  rw [Section.outcome, h]; rfl

theorem Yields.outcome_eq {s : Section} {index : Nat} {o : Outcome} (h : s.Yields index o) : s.outcome index = o := by
  cases h with
  | noTable ht =>
    have hv : s.verdict = .error (.missing (lacking (!s.documentation.isEmpty) false)) := by rw [Section.verdict, ht]
    rw [outcome_of_verdict hv]
    cases s.documentation <;> rfl
  | headers ht hfit =>
    have hfit := (Bool.not_eq_true _).mp (mt headersFit_iff.mp hfit)
    exact outcome_of_verdict (by rw [Section.verdict, ht]; simp only [hfit]; rfl) index
  | @shortRow _ before cells after _ ht hfit hb hc =>
    have hr := fieldsOf_eq_error_iff.mpr ⟨before, cells, after, rfl, hb, hc, rfl⟩
    exact outcome_of_verdict (by rw [Section.verdict, ht]; simp only [headersFit_iff.mpr hfit, hr]; rfl) index
  | secondTable ht hfit hl hm =>
    have hr := fieldsOf_eq_ok_iff.mpr hl
    have hv : s.verdict = .error .secondTable := by
      rw [Section.verdict, ht]; simp [headersFit_iff.mpr hfit, hr, hm]
    exact outcome_of_verdict hv index
  | noDocumentation ht hfit hl hd =>
    have hr := fieldsOf_eq_ok_iff.mpr hl
    have hv : s.verdict = .error (.missing ["documentation"]) := by
      rw [Section.verdict, ht]; simp [headersFit_iff.mpr hfit, hr, hd]
    exact outcome_of_verdict hv index
  | record ht hfit hl hd =>
    have hr := fieldsOf_eq_ok_iff.mpr hl
    rw [Section.outcome, Section.verdict, ht]; simp [headersFit_iff.mpr hfit, hr, hd]

theorem exists_yields (s : Section) (index : Nat) : ∃ o, s.Yields index o := by
  cases ht : s.tables with
  | nil => exact ⟨_, .noTable ht⟩
  | cons t more =>
    obtain ⟨headers, rows⟩ := t
    by_cases hfit : headers.map trim = ["Field", "Type", "Description"]
    · rcases fields_or_short rows with ⟨fields, hl⟩ | ⟨before, cells, after, rfl, hb, hc⟩
      · by_cases hm : more = []
        · subst hm
          by_cases hd : s.documentation = []
          · exact ⟨_, .noDocumentation ht hfit hl hd⟩
          · exact ⟨_, .record ht hfit hl hd⟩
        · exact ⟨_, .secondTable ht hfit hl hm⟩
      · exact ⟨_, .shortRow ht hfit hb hc⟩
    · exact ⟨_, .headers ht hfit⟩

theorem yields_iff {s : Section} {index : Nat} {o : Outcome} : s.Yields index o ↔ s.outcome index = o := by
  refine ⟨Yields.outcome_eq, fun h => ?_⟩
  obtain ⟨o', ho'⟩ := s.exists_yields index
  rwa [← h, ho'.outcome_eq]

/-- A section whose tables are malformed yields the same, whatever is added to it. -/
theorem Yields.append {title : String} {body : List Element} {index : Nat} {r : Rejection}
    (h : (Section.mk title body).Yields index (.error r)) (hr : r.reason = .malformedTable) (more : List Element) :
    (Section.mk title (body ++ more)).Yields index (.error r) := by
  have ht := tables_append title body more
  cases h with
  | noTable _ => cases hr
  | noDocumentation _ _ _ _ => cases hr
  | headers hb hfit => rw [hb] at ht; exact .headers ht hfit
  | shortRow hb hfit hw hc => rw [hb] at ht; exact .shortRow ht hfit hw hc
  | secondTable hb hfit hl hm => rw [hb] at ht; exact .secondTable ht hfit hl (by simp [hm])

theorem outcome_congr {title : String} {body body' : List Element}
    (ht : (Section.mk title body).tables = (Section.mk title body').tables)
    (hd : (Section.mk title body).documentation = (Section.mk title body').documentation) (index : Nat) :
    (Section.mk title body).outcome index = (Section.mk title body').outcome index := by
  unfold Section.outcome Section.verdict; rw [ht, hd]

theorem outcome_eq_ok_iff {s : Section} {index : Nat} {r : Record} :
    s.outcome index = .ok r ↔ r.index = index ∧ r.ReadFrom s ∧ s.documentation ≠ [] := by
  constructor
  · intro h
    cases yields_iff.mpr h with
    | record ht hfit hl hd => exact ⟨rfl, ⟨rfl, rfl, _, _, ht, hfit, hl⟩, hd⟩
  · rintro ⟨hi, ⟨hn, hdoc, headers, rows, ht, hfit, hl⟩, hd⟩
    have hy : s.Yields index _ := .record ht hfit hl hd
    rw [hy.outcome_eq, ← hn, ← hdoc, ← hi]

theorem eq_nil_of_intercalate_append {docs more : List String} (hd : docs ≠ [])
    (h : "\n".intercalate (docs ++ more) = "\n".intercalate docs) : more = [] := by
  cases more with
  | nil => rfl
  | cons doc more =>
    rw [String.intercalate_append_of_ne_nil hd (by simp)] at h
    have hl := congrArg String.length h
    rw [String.length_append, String.length_append] at hl
    have : "\n".length = 1 := rfl
    omega

/-- A record is the same without the end of its section exactly when nothing was read there. -/
theorem outcome_append_iff {title : String} {body more : List Element} {index : Nat} {r : Record}
    (h : (Section.mk title (body ++ more)).outcome index = .ok r) :
    (Section.mk title body).outcome index = .ok r ↔
      (Section.mk title more).tables = [] ∧ (Section.mk title more).documentation = [] := by
  have ht := tables_append title body more
  have hd := documentation_append title body more
  refine ⟨fun hb => ?_, fun ⟨hmt, hmd⟩ => ?_⟩
  · obtain ⟨-, ⟨-, hr, headers, rows, ha, -⟩, -⟩ := outcome_eq_ok_iff.mp h
    obtain ⟨-, ⟨-, hr', headers', rows', hb, -⟩, hne⟩ := outcome_eq_ok_iff.mp hb
    rw [ha, hb] at ht
    rw [hr', hd] at hr
    exact ⟨(List.cons.inj ht).2.symm, eq_nil_of_intercalate_append hne hr.symm⟩
  · rw [← h]
    refine outcome_congr ?_ ?_ index
    · rw [ht, hmt, List.append_nil]
    · rw [hd, hmd, List.append_nil]

theorem exists_malformed_append (title : String) (body : List Element) (index : Nat) :
    ∃ r, (Section.mk title (body ++ [.table [] []])).outcome index = .error r ∧ r.reason = .malformedTable := by
  have ht : (Section.mk title (body ++ [.table [] []])).tables = (Section.mk title body).tables ++ [([], [])] :=
    tables_append title body _
  obtain ⟨o, ho⟩ := (Section.mk title body).exists_yields index
  cases ho with
  | noTable hb => rw [hb] at ht; exact ⟨_, (Yields.headers ht (by decide)).outcome_eq, rfl⟩
  | headers hb hfit => rw [hb] at ht; exact ⟨_, (Yields.headers ht hfit).outcome_eq, rfl⟩
  | shortRow hb hfit hw hc => rw [hb] at ht; exact ⟨_, (Yields.shortRow ht hfit hw hc).outcome_eq, rfl⟩
  | secondTable hb hfit hl hm => rw [hb] at ht; exact ⟨_, (Yields.secondTable ht hfit hl (by simp)).outcome_eq, rfl⟩
  | noDocumentation hb hfit hl _ => rw [hb] at ht; exact ⟨_, (Yields.secondTable ht hfit hl (by simp)).outcome_eq, rfl⟩
  | record hb hfit hl _ => rw [hb] at ht; exact ⟨_, (Yields.secondTable ht hfit hl (by simp)).outcome_eq, rfl⟩

end Section

/-! ## The pass -/

namespace Collector

/-- What is found from `c` on until `c'`. -/
structure Gains (c : Collector) (outcomes : List Outcome) (c' : Collector) : Prop where
  accepted : c'.accepted = c.accepted ++ recordsIn outcomes
  rejected : c'.rejected = c.rejected ++ rejectionsIn outcomes

theorem Gains.nothing {c c' : Collector} (ha : c'.accepted = c.accepted) (hr : c'.rejected = c.rejected) :
    c.Gains [] c' :=
  ⟨ha.trans (List.append_nil _).symm, hr.trans (List.append_nil _).symm⟩

theorem Gains.trans {c c' c'' : Collector} {os os' : List Outcome} (h : c.Gains os c') (h' : c'.Gains os' c'') :
    c.Gains (os ++ os') c'' where
  accepted := by rw [h'.accepted, h.accepted, recordsIn_append, List.append_assoc]
  rejected := by rw [h'.rejected, h.rejected, rejectionsIn_append, List.append_assoc]

theorem reject_gains (c : Collector) (s : Candidate) (flaw : Flaw) :
    c.Gains [.error (flaw.rejects s.index s.typeName)] (c.reject s flaw) :=
  ⟨(List.append_nil _).symm, rfl⟩

theorem close_gains (c : Collector) : c.Gains (c.open?.toList.map Candidate.outcome) c.close := by
  unfold Collector.close
  cases h : c.open? with
  | none => exact .nothing rfl rfl
  | some s =>
    simp only [Option.toList_some, List.map_cons, List.map_nil, Candidate.outcome]
    cases s.close with
    | ok record => exact ⟨rfl, (List.append_nil _).symm⟩
    | error flaw => exact reject_gains c s flaw

theorem close_candidates (c : Collector) : c.close.candidates = c.candidates := by
  unfold Collector.close; split
  · rfl
  · split <;> rfl

theorem step_candidates (c : Collector) (e : Element) :
    (c.step e).candidates = c.candidates + if e.isHeading then 1 else 0 := by
  cases e with
  | heading title level => exact congrArg (· + 1) c.close_candidates
  | paragraph text => simp only [step]; cases c.open? <;> rfl
  | other kind => simp only [step]; cases c.open? <;> rfl
  | table headers rows =>
    simp only [step]
    cases c.open? with
    | none => rfl
    | some s => simp only [Option.elim_some]; split <;> rfl

variable {c : Collector}

theorem step_of_idle (h : c.open? = none) {e : Element} (he : e.isHeading = false) : c.step e = c := by
  cases e with
  | heading title level => cases he
  | paragraph text => simp only [step, h, Option.elim_none]
  | table headers rows => simp only [step, h, Option.elim_none]
  | other kind => simp only [step, h, Option.elim_none]

/-- In a section an element is read, or it settles the section whatever follows. -/
theorem step_of_open {s : Candidate} {title : String} {body : List Element} (h : c.open? = some s)
    (hs : s.HasRead title body) {e : Element} (he : e.isHeading = false) :
    (c.Gains [] (c.step e) ∧ ∃ s', (c.step e).open? = some s' ∧ s'.HasRead title (body ++ [e]) ∧ s'.index = s.index) ∨
    ((c.step e).open? = none ∧
      ∀ rest, c.Gains [(Section.mk title (body ++ e :: rest)).outcome s.index] (c.step e)) := by
  cases e with
  | heading title level => cases he
  | paragraph text =>
    simp only [step, h, Option.elim_some]
    refine .inl ⟨.nothing rfl rfl, _, rfl, hs.paragraph text, ?_⟩
    unfold Candidate.addParagraph; split <;> rfl
  | other kind =>
    simp only [step, h, Option.elim_some]
    exact .inl ⟨.nothing rfl rfl, s, rfl, hs.other kind, rfl⟩
  | table headers rows =>
    simp only [step, h, Option.elim_some]
    cases ha : s.addTable headers rows with
    | ok s' => exact .inl ⟨.nothing rfl rfl, s', rfl, hs.addTable ha⟩
    | error flaw =>
      refine .inr ⟨rfl, fun rest => ?_⟩
      rw [hs.refused ha rest]
      exact reject_gains c s flaw

/-- Outside of a section the pass finds the sections that follow; inside of one it finds first what
becomes of the section that is open. -/
theorem foldl_step_gains : ∀ (es : List Element) (c : Collector),
    (c.open? = none → c.Gains (outcomesFrom c.candidates (sectionsOf es)) (es.foldl step c).close) ∧
    ∀ s title body, c.open? = some s → s.HasRead title body →
      c.Gains ((Section.mk title (body ++ (cutSections es).1)).outcome s.index ::
        outcomesFrom c.candidates (sectionsOf es)) (es.foldl step c).close
  | [], c => by
    have hc := c.close_gains
    refine ⟨fun h => ?_, fun s title body h hs => ?_⟩
    · rw [h] at hc; exact hc
    · rw [h] at hc
      rw [cutSections, List.append_nil, hs.outcome_eq]; exact hc
  | e :: es, c => by
    rw [List.foldl_cons]
    have hn := c.step_candidates e
    have ih := foldl_step_gains es (c.step e)
    cases he : e.isHeading with
    | true =>
      -- The heading closes what is open and opens a candidate that has read nothing yet.
      obtain ⟨t, l, rfl⟩ : ∃ t l, e = .heading t l := by cases e <;> simp [Element.isHeading] at he ⊢
      have hi := ih.2 _ _ [] rfl (.nothing c.close.candidates (trim t))
      rw [hn, if_pos he, close_candidates] at hi
      have hc : c.Gains _ ((es.foldl step (c.step (.heading t l))).close) :=
        c.close_gains.trans ⟨hi.accepted, hi.rejected⟩
      refine ⟨fun h => ?_, fun s title body h hs => ?_⟩
      · rw [h] at hc; exact hc
      · rw [h] at hc
        rw [cutSections, List.append_nil, hs.outcome_eq]; exact hc
    | false =>
      have hn : c.candidates = (c.step e).candidates := by rw [hn, he]; rfl
      rw [sectionsOf, cutSections_cons he, hn]
      refine ⟨fun h => ?_, fun s title body h hs => ?_⟩
      · rw [step_of_idle h he] at ih ⊢; exact ih.1 h
      · -- Either the candidate stays open and has read one element more, or nothing is open any more.
        rcases step_of_open h hs he with ⟨hg, s', h', hs', hi⟩ | ⟨h', hg⟩
        · have := hg.trans (ih.2 s' title _ h' hs')
          rwa [hi, List.append_assoc] at this
        · exact (hg (cutSections es).1).trans (ih.1 h')

theorem foldl_step_candidates (es : List Element) (c : Collector) :
    (es.foldl step c).candidates = c.candidates + (titlesOf es).length := by
  induction es generalizing c with
  | nil => rfl
  | cons e es ih =>
    rw [List.foldl_cons, ih, step_candidates]
    cases e <;> simp [Element.isHeading, titlesOf]; omega

end Collector

def outcomesOf (elements : List Element) : List Outcome := outcomesFrom 0 (sectionsOf elements)

theorem collect_gains (elements : List Element) : Collector.start.Gains (outcomesOf elements) (collect elements) :=
  (Collector.foldl_step_gains elements .start).1 rfl

theorem collect_accepted (elements : List Element) : (collect elements).accepted = recordsIn (outcomesOf elements) :=
  (collect_gains elements).accepted

theorem collect_rejected (elements : List Element) :
    (collect elements).rejected = rejectionsIn (outcomesOf elements) :=
  (collect_gains elements).rejected

theorem collect_candidates (elements : List Element) : (collect elements).candidates = (titlesOf elements).length := by
  rw [collect, Collector.close_candidates, Collector.foldl_step_candidates]
  exact Nat.zero_add _

/-! ## The outcome of one candidate -/

/-- What the pass has found about the candidate with this index. -/
def Collector.outcomeAt (c : Collector) (index : Nat) : Option Outcome :=
  match c.accepted.find? fun r => r.index = (index : Int) with
  | some r => some (.ok r)
  | none => (c.rejected.find? fun r => r.index = (index : Int)).map .error

theorem Section.index_outcome (s : Section) (index : Nat) :
    (∀ r, s.outcome index = .ok r → r.index = index) ∧ ∀ r, s.outcome index = .error r → r.index = index := by
  unfold Section.outcome
  cases s.verdict with
  | ok v =>
    refine ⟨fun r h => ?_, fun r h => ?_⟩
    · cases h; rfl
    · cases h
  | error flaw =>
    refine ⟨fun r h => ?_, fun r h => ?_⟩
    · cases h
    · cases h; rfl

theorem mem_outcomesOf {elements : List Element} {o : Outcome} :
    o ∈ outcomesOf elements ↔ ∃ (i : Nat) (s : Section), (sectionsOf elements)[i]? = some s ∧ s.outcome i = o := by
  constructor
  · intro h
    obtain ⟨⟨s, i⟩, hp, rfl⟩ := List.mem_map.mp h
    exact ⟨i, s, List.mk_mem_zipIdx_iff_getElem?.mp hp, rfl⟩
  · rintro ⟨i, s, hs, rfl⟩
    exact List.mem_map.mpr ⟨(s, i), List.mk_mem_zipIdx_iff_getElem?.mpr hs, rfl⟩

theorem mem_accepted {elements : List Element} {r : Record} : r ∈ (collect elements).accepted ↔
    ∃ (i : Nat) (s : Section), (sectionsOf elements)[i]? = some s ∧ s.outcome i = .ok r := by
  rw [collect_accepted, mem_recordsIn, mem_outcomesOf]

theorem mem_rejected {elements : List Element} {r : Rejection} : r ∈ (collect elements).rejected ↔
    ∃ (i : Nat) (s : Section), (sectionsOf elements)[i]? = some s ∧ s.outcome i = .error r := by
  rw [collect_rejected, mem_rejectionsIn, mem_outcomesOf]

theorem outcomeAt_collect (elements : List Element) (index : Nat) :
    (collect elements).outcomeAt index = (sectionsOf elements)[index]?.map fun s => s.outcome index := by
  unfold Collector.outcomeAt
  cases ha : (collect elements).accepted.find? fun r => r.index = (index : Int) with
  | some r =>
    obtain ⟨i, s, hs, ho⟩ := mem_accepted.mp (List.mem_of_find?_eq_some ha)
    have hi := (s.index_outcome i).1 r ho
    have he : r.index = (index : Int) := by simpa using List.find?_some ha
    obtain rfl : i = index := Int.ofNat_inj.mp (hi.symm.trans he)
    rw [hs]; exact congrArg some ho.symm
  | none =>
    cases hr : (collect elements).rejected.find? fun r => r.index = (index : Int) with
    | some r =>
      obtain ⟨i, s, hs, ho⟩ := mem_rejected.mp (List.mem_of_find?_eq_some hr)
      have hi := (s.index_outcome i).2 r ho
      have he : r.index = (index : Int) := by simpa using List.find?_some hr
      obtain rfl : i = index := Int.ofNat_inj.mp (hi.symm.trans he)
      rw [hs]; exact congrArg some ho.symm
    | none =>
      -- A section with this index would have left a record or a rejection with it.
      cases hs : (sectionsOf elements)[index]? with
      | none => rfl
      | some s =>
        cases ho : s.outcome index with
        | ok r =>
          have := List.find?_eq_none.mp ha r (mem_accepted.mpr ⟨index, s, hs, ho⟩)
          exact absurd ((s.index_outcome index).1 r ho) (by simpa using this)
        | error r =>
          have := List.find?_eq_none.mp hr r (mem_rejected.mpr ⟨index, s, hs, ho⟩)
          exact absurd ((s.index_outcome index).2 r ho) (by simpa using this)

/-- One pass over a page finds, in the order of the sections, what each of them yields by itself. -/
theorem collect_sectionwise (elements : List Element) :
    let outcomes := (sectionsOf elements).mapIdx fun i s => s.outcome i
    (collect elements).accepted = recordsIn outcomes ∧ (collect elements).rejected = rejectionsIn outcomes ∧
    (collect elements).candidates = (sectionsOf elements).length ∧
    ∀ s ∈ sectionsOf elements, ∀ (i : Nat) (o : Outcome), s.Yields i o ↔ s.outcome i = o := by
  intro outcomes
  have ho : outcomes = outcomesOf elements := List.mapIdx_eq_zipIdx_map
  refine ⟨?_, ?_, ?_, fun s _ i o => Section.yields_iff⟩
  · rw [ho, collect_accepted]
  · rw [ho, collect_rejected]
  · rw [collect_candidates, length_sectionsOf]

end ZigDecls
