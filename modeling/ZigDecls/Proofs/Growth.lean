import ZigDecls.Proofs.Acceptance

/-!
# Outcomes on a page that grows

What follows a page is read into its last section, up to the next heading. So the outcomes of all
other sections stand, and that of the last one can change in a few ways only: a malformed table
stays, a record is documented further or gets a second table, and what is missing may be supplied.
-/

namespace ZigDecls
open Text

/-- What the outcome of a section may be when the section has grown. -/
inductive Evolves : Outcome → Outcome → Prop
  | malformed {r : Rejection} : r.reason = .malformedTable → Evolves (.error r) (.error r)
  | record {r : Record} : Evolves (.ok r) (.ok r)
  | extended {r : Record} {text : String} : SaysSomething text →
      Evolves (.ok r) (.ok { r with documentation := r.documentation ++ "\n" ++ text })
  | secondTable {r : Record} :
      Evolves (.ok r) (.error ⟨r.index, r.typeName, .malformedTable, "more than one field table"⟩)
  | completed {r : Rejection} {r' : Record} : r.reason = .incompleteRecord → r'.label = r.label →
      Evolves (.error r) (.ok r')
  | spoiled {r r' : Rejection} : r.reason = .incompleteRecord → r'.reason = .malformedTable → r'.label = r.label →
      Evolves (.error r) (.error r')
  | supplied {index : Int} {typeName : String} {parts parts' : List String} :
      parts.Sublist ["documentation", "field table"] → parts'.Sublist parts → parts' ≠ [] →
      Evolves (.error ((Flaw.missing parts).rejects index typeName))
        (.error ((Flaw.missing parts').rejects index typeName))

/-! ## One section -/

theorem lacking_sublist {doc table doc' table' : Bool} (hd : doc = true → doc' = true)
    (ht : table = true → table' = true) : (lacking doc' table').Sublist (lacking doc table) := by
  revert doc table doc' table'
  decide

namespace Section

def hasDocumentation (s : Section) : Bool := !s.documentation.isEmpty

def hasTable (s : Section) : Bool := !s.tables.isEmpty

def missing (s : Section) : List String := lacking s.hasDocumentation s.hasTable

theorem missing_sublist (s : Section) : s.missing.Sublist ["documentation", "field table"] := by
  have h : s.missing.Sublist (lacking false false) := lacking_sublist (by simp) (by simp)
  exact h

theorem missing_append (title : String) (body more : List Element) : (Section.mk title (body ++ more)).missing =
    lacking ((Section.mk title body).hasDocumentation || (Section.mk title more).hasDocumentation)
      ((Section.mk title body).hasTable || (Section.mk title more).hasTable) := by
  unfold missing hasDocumentation hasTable
  rw [tables_append, documentation_append]
  cases (Section.mk title body).documentation <;> cases (Section.mk title body).tables <;> rfl

theorem missing_append_sublist (title : String) (body more : List Element) :
    (Section.mk title (body ++ more)).missing.Sublist (Section.mk title body).missing := by
  rw [missing_append]
  exact lacking_sublist (by simp +contextual) (by simp +contextual)

variable {s : Section} {title : String} {body : List Element} {index : Nat}

def TablesFit (s : Section) : Prop :=
  s.tables = [] ∨ ∃ headers rows fields, s.tables = [(headers, rows)] ∧
    headers.map trim = ["Field", "Type", "Description"] ∧ Lists rows fields

/-- A rejected section has malformed tables, or its tables fit and something is missing. -/
theorem malformed_or_missing {r : Rejection} (h : s.outcome index = .error r) : r.reason = .malformedTable ∨
    (s.TablesFit ∧ s.missing ≠ [] ∧ r = (Flaw.missing s.missing).rejects index s.title) := by
  unfold missing hasDocumentation hasTable
  cases yields_iff.mpr h with
  | noTable ht =>
    refine .inr ⟨.inl ht, ?_⟩
    rw [ht]
    cases s.documentation <;> exact ⟨by simp [lacking], rfl⟩
  | noDocumentation ht hfit hl hd =>
    refine .inr ⟨.inr ⟨_, _, _, ht, hfit, hl⟩, ?_⟩
    rw [ht, hd]
    exact ⟨by simp [lacking], rfl⟩
  | headers _ _ => exact .inl rfl
  | shortRow _ _ _ _ => exact .inl rfl
  | secondTable _ _ _ _ => exact .inl rfl

theorem outcome_secondTable {r : Record} (h : (Section.mk title body).outcome index = .ok r) {more : List Element}
    (hm : (Section.mk title more).tables ≠ []) : (Section.mk title (body ++ more)).outcome index =
      .error ⟨r.index, r.typeName, .malformedTable, "more than one field table"⟩ := by
  obtain ⟨hi, ⟨hn, -, headers, rows, ht, hfit, hl⟩, -⟩ := outcome_eq_ok_iff.mp h
  have htables := tables_append title body more
  rw [ht] at htables
  rw [(Yields.secondTable htables hfit hl hm).outcome_eq, hi, hn]

theorem outcome_extended {r : Record} (h : (Section.mk title body).outcome index = .ok r) {more : List Element}
    (hm : (Section.mk title more).tables = []) (hp : (Section.mk title more).documentation ≠ []) :
    (Section.mk title (body ++ more)).outcome index = .ok { r with
      documentation := r.documentation ++ "\n" ++ "\n".intercalate (Section.mk title more).documentation } := by
  obtain ⟨hi, ⟨hn, hdoc, headers, rows, ht, hfit, hl⟩, hd⟩ := outcome_eq_ok_iff.mp h
  have htables := tables_append title body more
  have hdocs := documentation_append title body more
  rw [ht, hm] at htables
  refine outcome_eq_ok_iff.mpr ⟨hi, ⟨hn, ?_, headers, rows, htables, hfit, hl⟩, ?_⟩
  · rw [hdocs, String.intercalate_append_of_ne_nil hd hp, hdoc]
  · rw [hdocs]
    exact List.append_ne_nil_of_left_ne_nil hd _

theorem record_evolves {r : Record} (h : (Section.mk title body).outcome index = .ok r) (more : List Element) :
    Evolves (.ok r) ((Section.mk title (body ++ more)).outcome index) := by
  by_cases hm : (Section.mk title more).tables = []
  · by_cases hp : (Section.mk title more).documentation = []
    · have ho : (Section.mk title (body ++ more)).outcome index = (Section.mk title body).outcome index := by
        refine outcome_congr ?_ ?_ index
        · rw [tables_append, hm, List.append_nil]
        · rw [documentation_append, hp, List.append_nil]
      rw [ho, h]
      exact .record
    · rw [outcome_extended h hm hp]
      exact .extended (saysSomething_documentation.mpr hp)
  · rw [outcome_secondTable h hm]
    exact .secondTable

theorem outcome_evolves (title : String) (body more : List Element) (index : Nat) :
    Evolves ((Section.mk title body).outcome index) ((Section.mk title (body ++ more)).outcome index) := by
  have hlabel : Outcome.label ((Section.mk title (body ++ more)).outcome index) =
      Outcome.label ((Section.mk title body).outcome index) := by
    rw [outcome_label, outcome_label]
  cases ho : (Section.mk title body).outcome index with
  | ok r => exact record_evolves ho more
  | error r =>
    rcases malformed_or_missing ho with hr | ⟨-, -, rfl⟩
    · rw [((yields_iff.mpr ho).append hr more).outcome_eq]
      exact .malformed hr
    · -- An incomplete section may come to anything under its label, but it never lacks more than before.
      rw [ho] at hlabel
      cases ho' : (Section.mk title (body ++ more)).outcome index with
      | ok r' =>
        rw [ho'] at hlabel
        exact .completed rfl hlabel
      | error r' =>
        rw [ho'] at hlabel
        rcases malformed_or_missing ho' with hr' | ⟨-, hne, rfl⟩
        · exact .spoiled rfl hr' hlabel
        · exact .supplied (missing_sublist _) (missing_append_sublist title body more) hne

/-! ## What can still be supplied -/

theorem outcome_of_tablesFit (h : s.TablesFit) (index : Nat) :
    (s.missing = [] ∧ ∃ r, s.outcome index = .ok r) ∨
    (s.missing ≠ [] ∧ s.outcome index = .error ((Flaw.missing s.missing).rejects index s.title)) := by
  rcases h with ht | ⟨headers, rows, fields, ht, hfit, hl⟩
  · have ho := Yields.outcome_eq (.noTable ht : s.Yields index _)
    rcases malformed_or_missing ho with hr | ⟨-, hne, he⟩
    · cases hr
    · exact .inr ⟨hne, he ▸ ho⟩
  · by_cases hd : s.documentation = []
    · have ho := Yields.outcome_eq (.noDocumentation ht hfit hl hd : s.Yields index _)
      rcases malformed_or_missing ho with hr | ⟨-, hne, he⟩
      · cases hr
      · exact .inr ⟨hne, he ▸ ho⟩
    · have ho := Yields.outcome_eq (.record ht hfit hl hd : s.Yields index _)
      refine .inl ⟨?_, _, ho⟩
      obtain ⟨doc, docs, he⟩ := List.exists_cons_of_ne_nil hd
      rw [missing, hasDocumentation, hasTable, ht, he]
      rfl

def supply (doc table : Bool) : List Element :=
  (if doc then [.paragraph "Text."] else []) ++ if table then [.table fieldHeaders []] else []

theorem isHeading_supply (doc table : Bool) : ∀ e ∈ supply doc table, e.isHeading = false := by
  revert doc table
  decide

theorem missing_append_supply (title : String) (body : List Element) (doc table : Bool) :
    (Section.mk title (body ++ supply doc table)).missing =
      lacking ((Section.mk title body).hasDocumentation || doc) ((Section.mk title body).hasTable || table) := by
  rw [missing_append]
  cases doc <;> cases table <;> rfl

theorem tablesFit_append_supply (h : (Section.mk title body).TablesFit) (doc : Bool) {table : Bool}
    (ht : table = true → (Section.mk title body).tables = []) :
    (Section.mk title (body ++ supply doc table)).TablesFit := by
  have htables := tables_append title body (supply doc table)
  unfold TablesFit at h ⊢
  cases table with
  | false =>
    have hs : (Section.mk title (supply doc false)).tables = [] := by cases doc <;> rfl
    rw [htables, hs, List.append_nil]
    exact h
  | true =>
    have hs : (Section.mk title (supply doc true)).tables = [(fieldHeaders, [])] := by cases doc <;> rfl
    rw [htables, hs, ht rfl]
    exact .inr ⟨fieldHeaders, [], [], rfl, by decide, .nil⟩

theorem sublist_lacking {doc table : Bool} {parts : List String} (h : parts.Sublist (lacking doc table)) :
    ∃ doc' table', (table' = true → table = false) ∧ parts = lacking (doc || doc') (table || table') := by
  cases doc <;> cases table <;> simp [lacking, List.sublist_cons_iff] at h ⊢ <;> grind

/-- Any of the parts that are missing can be supplied, and the others left out. -/
theorem exists_supplied (h : (Section.mk title body).TablesFit) {parts : List String}
    (hp : parts.Sublist (Section.mk title body).missing) : ∃ more, (∀ e ∈ more, e.isHeading = false) ∧
      (Section.mk title (body ++ more)).TablesFit ∧ (Section.mk title (body ++ more)).missing = parts := by
  obtain ⟨doc, table, ht, rfl⟩ := sublist_lacking hp
  have ht : table = true → (Section.mk title body).tables = [] := fun he => by simpa [hasTable] using ht he
  exact ⟨supply doc table, isHeading_supply doc table, tablesFit_append_supply h doc ht, missing_append_supply ..⟩

end Section

/-- Outcomes of each kind that `Evolves` allows are reached. -/
def FreeToEvolve (reached : Outcome → Prop) : Outcome → Prop
  | .ok r => reached (.error ⟨r.index, r.typeName, .malformedTable, "more than one field table"⟩) ∧
    ∀ text, SaysSomething text → reached (.ok { r with documentation := r.documentation ++ "\n" ++ text })
  | .error r => r.reason = .incompleteRecord →
    (∃ r', reached (.ok r')) ∧ (∃ r', r'.reason = .malformedTable ∧ reached (.error r')) ∧
    ∃ parts : List String, parts.Sublist ["documentation", "field table"] ∧
      r = (Flaw.missing parts).rejects r.index r.typeName ∧
      ∀ parts', parts'.Sublist parts → parts' ≠ [] → reached (.error ((Flaw.missing parts').rejects r.index r.typeName))

theorem FreeToEvolve.mono {reached reached' : Outcome → Prop} (hr : ∀ o, reached o → reached' o) {o : Outcome}
    (h : FreeToEvolve reached o) : FreeToEvolve reached' o := by
  cases o with
  | ok r => exact ⟨hr _ h.1, fun text ht => hr _ (h.2 text ht)⟩
  | error r =>
    intro hi
    obtain ⟨⟨r₁, h₁⟩, ⟨r₂, hm, h₂⟩, parts, hs, he, hp⟩ := h hi
    exact ⟨⟨r₁, hr _ h₁⟩, ⟨r₂, hm, hr _ h₂⟩, parts, hs, he, fun parts' hs' hne => hr _ (hp parts' hs' hne)⟩

theorem Section.free_to_evolve (title : String) (body : List Element) (index : Nat) :
    FreeToEvolve (fun o => ∃ more, (∀ e ∈ more, e.isHeading = false) ∧
      (Section.mk title (body ++ more)).outcome index = o)
      ((Section.mk title body).outcome index) := by
  have htable : ∀ e ∈ [Element.table [] []], e.isHeading = false := by decide
  cases ho : (Section.mk title body).outcome index with
  | ok r =>
    refine ⟨⟨[.table [] []], htable, outcome_secondTable ho (List.cons_ne_nil _ _)⟩, fun text ht => ?_⟩
    have hd : (Section.mk title [.paragraph text]).documentation = [text] := by
      simp [Section.documentation, saysSomething_iff.mp ht]
    have hx := outcome_extended ho (rfl : (Section.mk title [.paragraph text]).tables = []) (by simp [hd])
    rw [hd, String.intercalate_singleton] at hx
    exact ⟨[.paragraph text], fun e he => by rw [List.mem_singleton.mp he]; rfl, hx⟩
  | error r =>
    intro hr
    rcases malformed_or_missing ho with hm | ⟨hfit, -, rfl⟩
    · rw [hm] at hr
      cases hr
    refine ⟨?_, ?_, _, missing_sublist _, rfl, fun parts hp hne => ?_⟩
    · -- A record is reached by leaving nothing out.
      obtain ⟨more, hm, hfit', he⟩ := exists_supplied hfit (List.nil_sublist _)
      rcases outcome_of_tablesFit hfit' index with ⟨-, r, hr⟩ | ⟨hne, -⟩
      · exact ⟨r, more, hm, hr⟩
      · exact absurd he hne
    · obtain ⟨r, hr, hm⟩ := exists_malformed_append title body index
      exact ⟨r, hm, [.table [] []], htable, hr⟩
    · obtain ⟨more, hm, hfit', he⟩ := exists_supplied hfit hp
      rcases outcome_of_tablesFit hfit' index with ⟨hnil, -⟩ | ⟨-, hr⟩
      · exact absurd (he ▸ hnil) hne
      · exact ⟨more, hm, he ▸ hr⟩

/-! ## The last section of a page -/

theorem isHeading_of_titlesOf {page : List Element} (h : titlesOf page = []) : ∀ e ∈ page, e.isHeading = false := by
  intro e he
  have hn := List.filterMap_eq_nil_iff.mp h e he
  cases e with
  | heading title level => cases hn
  | paragraph text => rfl
  | table headers rows => rfl
  | other kind => rfl

theorem exists_last_heading : ∀ {page : List Element}, titlesOf page ≠ [] → ∃ before title level body,
    page = before ++ .heading title level :: body ∧ ∀ e ∈ body, e.isHeading = false
  | [], h => absurd rfl h
  | e :: page, h => by
    by_cases ht : titlesOf page = []
    · cases e with
      | heading title level => exact ⟨[], title, level, page, rfl, isHeading_of_titlesOf ht⟩
      | paragraph text => exact absurd ht h
      | table headers rows => exact absurd ht h
      | other kind => exact absurd ht h
    · obtain ⟨before, title, level, body, rfl, hb⟩ := exists_last_heading ht
      exact ⟨e :: before, title, level, body, rfl, hb⟩

/-- What follows a page up to the next heading goes to the page's last section. -/
theorem exists_last_section {page : List Element} (h : (collect page).candidates ≠ 0) : ∃ before title body,
    (collect page).candidates = before.length + 1 ∧
    ∀ more, sectionsOf (page ++ more) = before ++ ⟨title, body ++ (cutSections more).1⟩ :: sectionsOf more := by
  have ht : titlesOf page ≠ [] := fun he => h (by rw [collect_candidates, he]; rfl)
  obtain ⟨front, title, level, body, rfl, hb⟩ := exists_last_heading ht
  have hs : ∀ more, sectionsOf (front ++ .heading title level :: body ++ more) =
      sectionsOf front ++ ⟨trim title, body ++ (cutSections more).1⟩ :: sectionsOf more := by
    intro more
    rw [List.append_assoc, List.cons_append, (sectionsOf_append_heading _ _ _ _).1, sectionsOf, sectionsOf,
      cutSections_append hb, sectionsOf]
  refine ⟨sectionsOf front, trim title, body, ?_, hs⟩
  have hl := congrArg List.length (hs [])
  rw [List.append_nil] at hl
  rw [collect_candidates, ← length_sectionsOf, hl, List.length_append]
  rfl

/-- When a page grows, all outcomes but the last stand, and the last evolves. -/
theorem outcomeAt_append (page : List Element) :
    let n := (collect page).candidates
    (∀ i, i + 1 < n → ∃ o, (collect page).outcomeAt i = some o ∧
      ∀ more, (collect (page ++ more)).outcomeAt i = some o) ∧
    ∀ i, i + 1 = n → ∃ o, (collect page).outcomeAt i = some o ∧
      (∀ more, ∃ o', (collect (page ++ more)).outcomeAt i = some o' ∧ Evolves o o') ∧
      FreeToEvolve (fun o' => ∃ more, (collect (page ++ more)).outcomeAt i = some o') o := by
  intro n
  by_cases hn : n = 0
  · rw [hn]
    exact ⟨fun i hi => absurd hi (by omega), fun i hi => absurd hi (by omega)⟩
  obtain ⟨before, title, body, hlen, hs⟩ := exists_last_section hn
  have hnil := List.append_nil page
  refine ⟨fun i hi => ?_, fun i hi => ?_⟩
  · have hi : i < before.length := by omega
    have ho : ∀ more, (collect (page ++ more)).outcomeAt i = some (before[i].outcome i) := fun more => by
      rw [outcomeAt_collect, hs, List.getElem?_append_left hi, List.getElem?_eq_getElem hi]
      rfl
    exact ⟨_, hnil ▸ ho [], ho⟩
  · obtain rfl : i = before.length := by omega
    have ho : ∀ more, (collect (page ++ more)).outcomeAt before.length =
        some ((Section.mk title (body ++ (cutSections more).1)).outcome before.length) := fun more => by
      rw [outcomeAt_collect, hs, List.getElem?_append_right (Nat.le_refl _), Nat.sub_self]
      rfl
    have hpage := ho []
    rw [hnil, cutSections, List.append_nil] at hpage
    refine ⟨_, hpage, fun more => ⟨_, ho more, Section.outcome_evolves ..⟩, ?_⟩
    -- What reaches an outcome of the section has no heading, so it goes to the section as a whole.
    refine (Section.free_to_evolve title body _).mono ?_
    rintro _ ⟨more, hm, rfl⟩
    have hc := cutSections_append hm []
    rw [List.append_nil] at hc
    exact ⟨more, by rw [ho, hc, cutSections, List.append_nil]⟩

end ZigDecls
