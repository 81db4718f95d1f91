import ZigDecls.Proofs.FieldTable
import ZigDecls.Record.Collector
import ZigDecls.Record.Section

/-!
# One pass, section by section

The pass over a page finds what its sections come to, each by itself. A candidate that is open has
read a part of its section's body (`Candidate.HasRead`); every element either extends that part or
settles the section, whatever follows.
-/

namespace ZigDecls
open Text

/-- What stands at the end for one section. -/
abbrev Outcome := Except Rejection Record

def recordsIn (outcomes : List Outcome) : List Record := outcomes.filterMap Except.toOption

def rejectionsIn (outcomes : List Outcome) : List Rejection :=
  outcomes.filterMap fun
    | .ok _ => none
    | .error r => some r

def outcomesFrom (n : Nat) (sections : List Section) : List Outcome :=
  (sections.zipIdx n).map fun p => p.1.outcome p.2

theorem outcomesFrom_cons (n : Nat) (s : Section) (sections : List Section) :
    outcomesFrom n (s :: sections) = s.outcome n :: outcomesFrom (n + 1) sections := rfl

theorem recordsIn_append (os os' : List Outcome) : recordsIn (os ++ os') = recordsIn os ++ recordsIn os' :=
  List.filterMap_append

theorem rejectionsIn_append (os os' : List Outcome) :
    rejectionsIn (os ++ os') = rejectionsIn os ++ rejectionsIn os' :=
  List.filterMap_append

theorem mem_recordsIn {outcomes : List Outcome} {r : Record} : r ∈ recordsIn outcomes ↔ .ok r ∈ outcomes := by
  refine List.mem_filterMap.trans ⟨fun ⟨o, ho, hr⟩ => ?_, fun h => ⟨_, h, rfl⟩⟩
  cases o with
  | ok r' => cases hr; exact ho
  | error r' => cases hr

theorem mem_rejectionsIn {outcomes : List Outcome} {r : Rejection} :
    r ∈ rejectionsIn outcomes ↔ .error r ∈ outcomes := by
  refine List.mem_filterMap.trans ⟨fun ⟨o, ho, hr⟩ => ?_, fun h => ⟨_, h, rfl⟩⟩
  cases o with
  | ok r' => cases hr
  | error r' => cases hr; exact ho

/-! ## Sections -/

namespace Section

theorem tables_append (title : String) (body rest : List Element) :
    (Section.mk title (body ++ rest)).tables = (Section.mk title body).tables ++ (Section.mk title rest).tables :=
  List.filterMap_append

theorem documentation_append (title : String) (body rest : List Element) :
    (Section.mk title (body ++ rest)).documentation =
      (Section.mk title body).documentation ++ (Section.mk title rest).documentation :=
  List.filterMap_append

end Section

def Element.isHeading : Element → Bool
  | .heading _ _ => true
  | _ => false

theorem cutSections_cons {e : Element} (he : e.isHeading = false) (es : List Element) :
    cutSections (e :: es) = (e :: (cutSections es).1, sectionsOf es) := by
  cases e with
  | heading title level => cases he
  | paragraph text => rfl
  | table headers rows => rfl
  | other kind => rfl

theorem sectionsOf_heading (title : String) (level : Int) (es : List Element) :
    sectionsOf (.heading title level :: es) = ⟨trim title, (cutSections es).1⟩ :: sectionsOf es := rfl

theorem cutSections_append : ∀ {body : List Element}, (∀ e ∈ body, e.isHeading = false) → ∀ rest,
    cutSections (body ++ rest) = (body ++ (cutSections rest).1, sectionsOf rest)
  | [], _, _ => rfl
  | e :: body, h, rest => by
    have ih := cutSections_append (fun e he => h e (List.mem_cons_of_mem _ he)) rest
    rw [List.cons_append, cutSections_cons (h e (by simp)), sectionsOf, ih]; rfl

theorem sectionsOf_append_heading (title : String) (level : Int) (es : List Element) : ∀ before : List Element,
    sectionsOf (before ++ .heading title level :: es) =
      sectionsOf before ++ ⟨trim title, (cutSections es).1⟩ :: sectionsOf es ∧
    (cutSections (before ++ .heading title level :: es)).1 = (cutSections before).1
  | [] => ⟨rfl, rfl⟩
  | e :: before => by
    have ih := sectionsOf_append_heading title level es before
    cases e with
    | heading t l =>
      refine ⟨?_, rfl⟩
      rw [List.cons_append, sectionsOf_heading, sectionsOf_heading, ih.1, ih.2]; rfl
    | paragraph text => exact ⟨ih.1, congrArg (_ :: ·) ih.2⟩
    | table headers rows => exact ⟨ih.1, congrArg (_ :: ·) ih.2⟩
    | other kind => exact ⟨ih.1, congrArg (_ :: ·) ih.2⟩

/-- The titles of the headings, as they are written. -/
def titlesOf (elements : List Element) : List String :=
  elements.filterMap fun
    | .heading title _ => some title
    | _ => none

theorem titles_sectionsOf : ∀ elements : List Element,
    (sectionsOf elements).map (·.title) = (titlesOf elements).map trim
  | [] => rfl
  | .heading title _ :: es => congrArg (trim title :: ·) (titles_sectionsOf es)
  | .paragraph _ :: es | .table _ _ :: es | .other _ :: es => titles_sectionsOf es

theorem length_sectionsOf (elements : List Element) : (sectionsOf elements).length = (titlesOf elements).length := by
  simpa using congrArg List.length (titles_sectionsOf elements)

/-! ## What a candidate has read -/

namespace Candidate

/-- The candidate is what reading this much of the body of a section with this title leaves open. -/
structure HasRead (s : Candidate) (title : String) (body : List Element) : Prop where
  typeName : s.typeName = title
  doc : s.doc = (Section.mk title body).documentation
  table : (s.fields = none ∧ (Section.mk title body).tables = []) ∨
    ∃ headers rows fields, s.fields = some fields ∧ (Section.mk title body).tables = [(headers, rows)] ∧
      headersFit headers = true ∧ fieldsOf rows = .ok fields

def outcome (s : Candidate) : Outcome := s.close.mapError (·.rejects s.index s.typeName)

variable {s : Candidate} {title : String} {body : List Element}

theorem HasRead.nothing (index : Nat) (title : String) : HasRead ⟨index, title, [], none⟩ title [] :=
  ⟨rfl, rfl, .inl ⟨rfl, rfl⟩⟩

theorem HasRead.paragraph (h : s.HasRead title body) (text : String) :
    (s.addParagraph text).HasRead title (body ++ [.paragraph text]) := by
  have ht : (Section.mk title (body ++ [.paragraph text])).tables = (Section.mk title body).tables := by
    rw [Section.tables_append]; exact List.append_nil _
  have hd := Section.documentation_append title body [.paragraph text]
  unfold addParagraph
  split
  · rename_i hb
    exact ⟨h.typeName, by rw [hd, h.doc]; simp [Section.documentation, hb], ht ▸ h.table⟩
  · rename_i hb
    exact ⟨h.typeName, by rw [hd, h.doc]; simp [Section.documentation, hb], ht ▸ h.table⟩

theorem HasRead.other (h : s.HasRead title body) (kind : String) : s.HasRead title (body ++ [.other kind]) where
  typeName := h.typeName
  doc := by rw [Section.documentation_append, h.doc]; exact (List.append_nil _).symm
  table := by rw [Section.tables_append]; exact (List.append_nil (Section.mk title body).tables).symm ▸ h.table

theorem HasRead.addTable {headers : List String} {rows : List (List String)} {s' : Candidate}
    (h : s.HasRead title body) (hs : s.addTable headers rows = .ok s') :
    s'.HasRead title (body ++ [.table headers rows]) ∧ s'.index = s.index := by
  unfold Candidate.addTable at hs
  split at hs
  · cases hs
  · rename_i hf
    split at hs
    · cases hs
    · rename_i hfit
      split at hs
      · cases hs
      · rename_i fields hr
        cases hs
        refine ⟨⟨h.typeName, ?_, .inr ⟨headers, rows, fields, rfl, ?_, by simpa using hfit, hr⟩⟩, rfl⟩
        · rw [Section.documentation_append]; exact h.doc.trans (List.append_nil _).symm
        · rcases h.table with ⟨-, ht⟩ | ⟨_, _, _, hsome, -⟩
          · rw [Section.tables_append, ht]; rfl
          · rw [hsome] at hf; simp at hf

/-- A table that cannot be added settles the section, whatever follows. -/
theorem HasRead.refused {headers : List String} {rows : List (List String)} {flaw : Flaw}
    (h : s.HasRead title body) (hs : s.addTable headers rows = .error flaw) (rest : List Element) :
    (Section.mk title (body ++ .table headers rows :: rest)).outcome s.index =
      .error (flaw.rejects s.index s.typeName) := by
  suffices (Section.mk title (body ++ .table headers rows :: rest)).verdict = .error flaw by
    rw [Section.outcome, this, h.typeName]
  have ht := Section.tables_append title body (.table headers rows :: rest)
  have hc : (Section.mk title (.table headers rows :: rest)).tables =
    (headers, rows) :: (Section.mk title rest).tables := rfl
  rw [hc] at ht
  unfold Candidate.addTable at hs
  unfold Section.verdict
  rcases h.table with ⟨hnone, hbody⟩ | ⟨headers₀, rows₀, fields₀, hsome, hbody, hfit, hok⟩
  · rw [hbody, List.nil_append] at ht
    simp only [hnone, Option.isSome_none, Bool.false_eq_true, ite_false] at hs
    simp only [ht]
    cases hh : headersFit headers with
    | false =>
      rw [hh] at hs
      cases hs; rfl
    | true =>
      cases hr : fieldsOf rows with
      | ok fields => rw [hh, hr] at hs; cases hs
      | error short =>
        rw [hh, hr] at hs
        cases hs; rfl
  · rw [hbody, List.singleton_append] at ht
    simp only [hsome, Option.isSome_some, ite_true] at hs
    cases hs
    simp [ht, hfit, hok]

theorem HasRead.outcome_eq (h : s.HasRead title body) : (Section.mk title body).outcome s.index = s.outcome := by
  obtain ⟨index, typeName, doc, fields⟩ := s
  obtain ⟨hn, hd, ht⟩ := h
  dsimp only at hn hd ht ⊢
  subst hn; subst hd
  unfold Candidate.outcome Candidate.close Section.outcome Section.verdict
  rcases ht with ⟨rfl, ht⟩ | ⟨headers, rows, fields, rfl, ht, hfit, hok⟩
  · simp only [ht]
    cases (Section.mk typeName body).documentation <;> rfl
  · simp only [ht, hfit, hok]
    cases (Section.mk typeName body).documentation <;> rfl

end Candidate

end ZigDecls
