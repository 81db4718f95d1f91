import ZigDecls.Proofs.Collection
import ZigDecls.Proofs.Policies
import ZigDecls.Proofs.Screening
import ZigDecls.Run.Stage

/-!
# The stages on a page

A stage fails at a part that is missing, and on the elements of a page none is: whatever a stage asks
for is in the elements, or an earlier stage has given it. Each stage then gives what the work on whole
elements, records and rejections gives, and only a type without a rendering can end one of them.
-/

namespace ZigDecls

/-! ## Elements -/

/-- An element that is neither heading, paragraph nor table has no kind that is named as these are. -/
def Element.NamedApart : Element → Prop
  | .other kind => kind ≠ "heading" ∧ kind ≠ "paragraph" ∧ kind ≠ "table"
  | _ => True

theorem namedApart_elementsOf {items : List Item} : ∀ e ∈ elementsOf items, e.NamedApart := by
  intro e he
  obtain ⟨item, -, h⟩ := List.mem_filterMap.mp he
  unfold Item.element? at h
  grind [Element.NamedApart]

namespace Collector

theorem open?_close (c : Collector) : c.close.open? = none := by
  unfold close
  cases h : c.open? with
  | none => exact h
  | some s => dsimp only; cases s.close <;> rfl

theorem close_of_idle {c : Collector} (h : c.open? = none) : c.close = c := by unfold close; rw [h]

end Collector

namespace Sketch

theorem kind_ofElement_ne {e : ZigDecls.Element} (he : e.NamedApart) (hh : e.isHeading = false) :
    (ofElement e).kind ≠ some "heading" := by
  cases e with
  | heading title level => cases hh
  | paragraph text => simp [ofElement]
  | table headers rows => simp [ofElement]
  | other kind => exact fun hk => he.1 (Option.some.inj hk)

theorem readBy_of_idle {c : Collector} (ho : c.open? = none) {e : Element} {kind : String} (hk : e.kind = some kind)
    (hne : kind ≠ "heading") : e.readBy c = .ok (.other kind) := by
  unfold Element.readBy
  rw [hk, part_some_bind, if_neg hne, ho]
  rfl

/-- A collector reads less of an element than is there, but nothing that its step does not look at. -/
theorem readBy_ofElement (c : Collector) {e : ZigDecls.Element} (he : e.NamedApart) (hh : e.isHeading = false) :
    ∃ e', (ofElement e).readBy c = .ok e' ∧ c.step e' = c.step e := by
  cases ho : c.open? with
  | none =>
    obtain ⟨kind, hk⟩ : ∃ kind, (ofElement e).kind = some kind := by cases e <;> exact ⟨_, rfl⟩
    have hne : kind ≠ "heading" := fun h => kind_ofElement_ne he hh (h ▸ hk)
    refine ⟨.other kind, readBy_of_idle ho hk hne, ?_⟩
    rw [Collector.step_of_idle ho hh, Collector.step_of_idle ho rfl]
  | some s =>
    cases e with
    | heading title level => cases hh
    | paragraph text => exact ⟨_, by simp [Element.readBy, ofElement, pure, Except.pure, ho], rfl⟩
    | other kind =>
      obtain ⟨h₁, h₂, h₃⟩ := he
      exact ⟨_, by simp [Element.readBy, ofElement, pure, Except.pure, ho, h₁, h₂, h₃], rfl⟩
    | table headers rows =>
      by_cases hs : s.fields.isSome
      · refine ⟨.table [] [], by simp [Element.readBy, ofElement, pure, Except.pure, ho, hs], ?_⟩
        simp [Collector.step, ho, Candidate.addTable, hs]
      · by_cases hf : headersFit headers
        · exact ⟨_, by simp [Element.readBy, ofElement, pure, Except.pure, ho, hs, hf], rfl⟩
        · refine ⟨.table headers [], by simp [Element.readBy, ofElement, pure, Except.pure, ho, hs, hf], ?_⟩
          simp [Collector.step, ho, Candidate.addTable, hs, hf]

theorem collectFrom_of_not_heading {e : ZigDecls.Element} (he : e.NamedApart) (hh : e.isHeading = false)
    (c : Collector) (es : List Element) : collectFrom c (ofElement e :: es) = collectFrom (c.step e) es := by
  obtain ⟨e', hr, hs⟩ := readBy_ofElement c he hh
  rw [collectFrom, if_neg (kind_ofElement_ne he hh)]
  simp only [hr, hs]

theorem collectFrom_cons {e : ZigDecls.Element} (he : e.NamedApart) (c : Collector) (es : List Element) :
    collectFrom c (ofElement e :: es) = collectFrom (c.step e) es := by
  cases e with
  | heading title level =>
    -- The section is closed before the heading is read, and once more by the step.
    have hs : c.close.step (.heading title 0) = c.step (.heading title level) := by
      rw [Collector.step, Collector.step, Collector.close_of_idle c.open?_close]
    rw [collectFrom, ← hs]
    rfl
  | paragraph text => exact collectFrom_of_not_heading he rfl c es
  | table headers rows => exact collectFrom_of_not_heading he rfl c es
  | other kind => exact collectFrom_of_not_heading he rfl c es

theorem collectFrom_ofElements : ∀ (es : List ZigDecls.Element) (c : Collector), (∀ e ∈ es, e.NamedApart) →
    collectFrom c (es.map ofElement) = ((es.foldl Collector.step c).close, none)
  | [], c, _ => rfl
  | e :: es, c, h => by
    rw [List.map_cons, collectFrom_cons (h e (.head _)), List.foldl_cons]
    exact collectFrom_ofElements es (c.step e) fun e' he' => h e' (.tail _ he')

theorem collect_ofElements {es : List ZigDecls.Element} (h : ∀ e ∈ es, e.NamedApart) :
    collect (es.map ofElement) = (ZigDecls.collect es, none) := collectFrom_ofElements es .start h

/-! ## Records and rejections -/

theorem mapM_map_of_ok {α β γ : Type} {f : β → Except Failure γ} {g : α → β} {h : α → γ}
    (hf : ∀ a, f (g a) = .ok (h a)) : ∀ as : List α, (as.map g).mapM f = .ok (as.map h)
  | [] => rfl
  | a :: as => by rw [List.map_cons, List.mapM_cons, hf, mapM_map_of_ok hf as]; rfl

theorem rejection?_ofRecord (r : ZigDecls.Record) : (ofRecord r).rejection? = .ok r.rejection? := by
  unfold Record.rejection? ZigDecls.Record.rejection? ZigDecls.Record.flaw?
  simp only [ofRecord, part, bind, Except.bind, pure, Except.pure, List.isEmpty_map]
  split
  · rfl
  · split <;> rfl

theorem screen_ofRecords : ∀ rs : List ZigDecls.Record,
    screen (rs.map ofRecord) = .ok ⟨(ZigDecls.screen rs).good.map ofRecord, (ZigDecls.screen rs).rejected⟩
  | [] => rfl
  | r :: rs => by
    rw [List.map_cons, screen, rejection?_ofRecord, screen_ofRecords rs]
    simp only [bind, Except.bind, pure, Except.pure, ZigDecls.screen, ← Record.isNone_rejection?]
    cases hr : r.rejection? with
    | none => simp [hr]
    | some j => simp [hr]

theorem sortRejections_ofRejections (rs : List ZigDecls.Rejection) :
    sortRejections (rs.map ofRejection) = .ok ((ZigDecls.sortRejections rs).map ofRejection) := by
  have hk : (rs.map ofRejection).mapM (fun r => do return (← part "index" r.index, r)) =
      Except.ok (rs.map fun r => (r.index, ofRejection r)) := mapM_map_of_ok (by intro r; rfl) rs
  unfold sortRejections ZigDecls.sortRejections
  rw [hk]
  simp only [bind, Except.bind, pure, Except.pure]
  rw [← List.map_mergeSort (r := fun a b : ZigDecls.Rejection => decide (a.index ≤ b.index)), List.map_map]
  · rfl
  · exact fun _ _ _ _ => rfl

/-! ## Declarations -/

/-- What the work on whole records gives, as the work on sketches gives it: if it ended early, the
ledger is as it was. -/
def ledgerFirst {α} (ledger : List Unmapped) :
    Except UnmappedType (α × List Unmapped) → List Unmapped × Except Failure α
  | .ok (a, later) => (later, .ok a)
  | .error e => (ledger, .error (.unmapped e))

section
variable {settings : Settings}

/-- Only the strict setting ends the work, and under it nothing has been entered before. -/
theorem ledger_eq_of_declareFields_error {owner text : String} {f : ZigDecls.Field} {fs : List ZigDecls.Field}
    {ledger later : List Unmapped} {e : UnmappedType} (hf : f.declare settings owner ledger = .ok (text, later))
    (he : ZigDecls.declareFields settings owner later fs = .error e) : later = ledger := by
  cases hs : settings.strict with
  | false => rw [declareFields_lenient hs] at he; cases he
  | true => rw [f.declare_strict hs] at hf; exact congrArg Prod.snd (eq_of_orFirstFailure hf)

theorem ledger_eq_of_declareAll_error {block : String} {r : ZigDecls.Record} {rs : List ZigDecls.Record}
    {ledger later : List Unmapped} {e : UnmappedType} (hr : r.declare settings ledger = .ok (block, later))
    (he : ZigDecls.declareAll settings later rs = .error e) : later = ledger := by
  cases hs : settings.strict with
  | false => rw [declareAll_lenient hs] at he; cases he
  | true => rw [r.declare_strict hs] at hr; exact congrArg Prod.snd (eq_of_orFirstFailure hr)

end

section
variable (settings : Settings)

theorem declare_ofField (owner : String) (ledger : List Unmapped) (f : ZigDecls.Field) :
    (ofField f).declare settings owner ledger = (f.declare settings owner ledger).mapError .unmapped := by
  unfold Field.declare
  simp only [ofField, part_some_bind]
  cases hs : settings.strict with
  | false => rfl
  | true =>
    cases ht : typeFor settings f.typeName with
    | ok type => rfl
    | error e =>
      have hd : f.declare settings owner ledger = .error e := by
        unfold ZigDecls.Field.declare
        simp only [ht, hs, if_true]
      rw [hd]
      rfl

theorem declareFields_ofFields (owner : String) : ∀ (fs : List ZigDecls.Field) (ledger : List Unmapped),
    declareFields settings owner ledger (fs.map ofField) =
      ledgerFirst ledger (ZigDecls.declareFields settings owner ledger fs)
  | [], ledger => rfl
  | f :: fs, ledger => by
    rw [List.map_cons, declareFields, ZigDecls.declareFields]
    have hd := declare_ofField settings owner ledger f
    cases hf : f.declare settings owner ledger with
    | error e => rw [hd, hf]; rfl
    | ok p =>
      obtain ⟨text, later⟩ := p
      have hd' : (ofField f).declare settings owner ledger = .ok (text, later) := by rw [hd, hf]; rfl
      simp only [hd', declareFields_ofFields owner fs, bind, Except.bind]
      cases hr : ZigDecls.declareFields settings owner later fs with
      | ok q => rfl
      | error e => rw [ledger_eq_of_declareFields_error hf hr]; rfl

theorem declare_ofRecord (ledger : List Unmapped) (r : ZigDecls.Record) :
    (ofRecord r).declare settings ledger = ledgerFirst ledger (r.declare settings ledger) := by
  unfold Record.declare ZigDecls.Record.declare
  simp only [ofRecord, part_some_bind, pure, Except.pure]
  rw [declareFields_ofFields]
  cases ZigDecls.declareFields settings r.typeName ledger r.fields <;> rfl

theorem declareAll_ofRecords : ∀ (rs : List ZigDecls.Record) (ledger : List Unmapped),
    declareAll settings ledger (rs.map ofRecord) = ledgerFirst ledger (ZigDecls.declareAll settings ledger rs)
  | [], ledger => rfl
  | r :: rs, ledger => by
    rw [List.map_cons, declareAll, declare_ofRecord, ZigDecls.declareAll]
    cases hr : r.declare settings ledger with
    | error e => rfl
    | ok p =>
      obtain ⟨block, later⟩ := p
      simp only [ledgerFirst, declareAll_ofRecords rs, bind, Except.bind]
      cases he : ZigDecls.declareAll settings later rs with
      | ok q => rfl
      | error e => rw [ledger_eq_of_declareAll_error hr he]; rfl

end

end Sketch

theorem blocks_of_declareAll {settings : Settings} {records : List Record} {ledger later : List Unmapped}
    {blocks : List String} (h : declareAll settings ledger records = .ok (blocks, later)) :
    blocks = records.map (·.text settings) := by
  cases hs : settings.strict with
  | false => rw [declareAll_lenient hs] at h; exact (congrArg Prod.fst (Except.ok.inj h)).symm
  | true => rw [declareAll_strict hs] at h; exact congrArg Prod.fst (eq_of_orFirstFailure h)

theorem declareRecords_error_iff (settings : Settings) (records : List Record) (f : Failure) :
    (declareRecords settings records).2 = .error f ↔ settings.strict = true ∧
      ∃ e, f = .unmapped e ∧ (membersOf records).findSome? (fun m => m.2.failure? settings) = some e := by
  unfold declareRecords
  cases hs : settings.strict with
  | false => simp [ofRecords_lenient hs]
  | true =>
    rw [ofRecords_strict hs, orFirstFailure, findSome?_membersOf]
    cases (membersOf records).findSome? fun m => m.2.failure? settings with
    | none => simp
    | some e => simp [eq_comm]

/-! ## Stages -/

namespace Stage
open Sketch
variable {state : State}

theorem runCollect_eq {es : List ZigDecls.Element} (h : state.elements = some (es.map ofElement))
    (hn : ∀ e ∈ es, e.NamedApart) :
    let c := ZigDecls.collect es
    Stage.collect.run state = (c.events, .ok (.collected c.accepted c.rejected c.candidates)) := by
  unfold run runCollect
  rw [h]
  simp only [part, collect_ofElements hn]

variable {records : List ZigDecls.Record} {rejected : List ZigDecls.Rejection}
  (hr : state.records = some (records.map ofRecord))
include hr

/-- Rejections that were never listed are none. -/
theorem runReview_eq (hj : state.rejected.getD [] = rejected.map ofRejection) :
    let s := ZigDecls.review records rejected
    Stage.review.run state = (screenEvents (ZigDecls.screen records).rejected.length,
      .ok (.reviewed (s.good.map ofRecord) (s.rejected.map ofRejection))) := by
  unfold run runReview
  rw [hr, part_some_bind, screen_ofRecords]
  simp only [hj]
  rw [← List.map_append, sortRejections_ofRejections]
  rfl

theorem runDeclare_eq {settings : Settings} (hs : state.settings = some settings) :
    let d := declareRecords settings records
    Stage.declare.run state = (d.1, .declared <$> d.2) := by
  unfold run runDeclare declareRecords Code.ofRecords
  rw [hr, hs]
  simp only [part, Option.getD_some, declareAll_ofRecords]
  cases h : ZigDecls.declareAll settings [] records with
  | error e => rfl
  | ok p =>
    obtain ⟨blocks, ledger⟩ := p
    have hb : blocks.length = records.length := by rw [blocks_of_declareAll h, List.length_map]
    simp only [ledgerFirst, bind, Except.bind, pure, Except.pure, hb]
    rfl

theorem runSumUp_eq (hj : state.rejected = some (rejected.map ofRejection)) :
    let names := records.map (·.typeName)
    let unmapped := state.unmapped.getD 0
    Stage.sumUp.run state = (summaryEvents names rejected unmapped,
      .ok (.summed (summary names rejected unmapped))) := by
  have h₁ : (rejected.map ofRejection).mapM Rejection.complete = .ok (rejected.map id) :=
    mapM_map_of_ok complete_ofRejection rejected
  have h₂ : (records.map ofRecord).mapM (fun r => part "type_name" r.typeName) = .ok (records.map (·.typeName)) :=
    mapM_map_of_ok (by intro r; rfl) records
  unfold run runSumUp
  rw [hr, hj]
  simp only [Option.getD_some, h₁, h₂, List.map_id]

end Stage

/-- The state after a stage: a stage that failed has given nothing. -/
def State.after (state : State) : Except Failure Update → State
  | .ok update => state.merge update
  | .error _ => state

theorem runStages_cons {state : State} {stage : Stage} {log : List Event} {result : Except Failure Update}
    (h : stage.run state = (log, result)) (stages : List Stage) :
    runStages state (stage :: stages) = (stage, log, result) :: runStages (state.after result) stages := by
  rw [runStages, h]
  cases result <;> rfl

/-- Where the stages begin: with the elements of a page and the settings, and nothing else. -/
def State.ofPage (settings : Settings) (items : List Item) : State :=
  ⟨some ((elementsOf items).map Sketch.ofElement), none, none, none, some settings⟩

/-- Three of the stages give all that they can give, and the fourth fails under the strict setting
alone, at the first field whose type has no rendering. -/
theorem runStages_ofPage (settings : Settings) (items : List Item) :
    let c := collect (elementsOf items)
    let s := review c.accepted c.rejected
    let d := declareRecords settings s.good
    let names := s.good.map (·.typeName)
    let unmapped := d.2.toOption.elim 0 (·.unmapped.length)
    runStages (.ofPage settings items) [.collect, .review, .declare, .sumUp] =
      [(.collect, c.events, .ok (.collected c.accepted c.rejected c.candidates)),
        (.review, screenEvents (screen c.accepted).rejected.length,
          .ok (.reviewed (s.good.map Sketch.ofRecord) (s.rejected.map Sketch.ofRejection))),
        (.declare, d.1, .declared <$> d.2),
        (.sumUp, summaryEvents names s.rejected unmapped, .ok (.summed (summary names s.rejected unmapped)))] ∧
    ∀ f, d.2 = .error f ↔ settings.strict = true ∧
      ∃ e, f = .unmapped e ∧ (membersOf s.good).findSome? (fun m => m.2.failure? settings) = some e := by
  intro c s d names unmapped
  refine ⟨?_, declareRecords_error_iff settings s.good⟩
  let collected := (State.ofPage settings items).merge (.collected c.accepted c.rejected c.candidates)
  let reviewed := collected.merge (.reviewed (s.good.map Sketch.ofRecord) (s.rejected.map Sketch.ofRejection))
  have h₁ : Stage.collect.run (.ofPage settings items) =
      (c.events, .ok (.collected c.accepted c.rejected c.candidates)) :=
    Stage.runCollect_eq rfl namedApart_elementsOf
  have h₂ : Stage.review.run collected = (screenEvents (screen c.accepted).rejected.length,
      .ok (.reviewed (s.good.map Sketch.ofRecord) (s.rejected.map Sketch.ofRejection))) :=
    Stage.runReview_eq rfl rfl
  have h₃ : Stage.declare.run reviewed = (d.1, .declared <$> d.2) := Stage.runDeclare_eq rfl rfl
  have h₄ : Stage.sumUp.run (reviewed.after (.declared <$> d.2)) =
      (summaryEvents names s.rejected unmapped, .ok (.summed (summary names s.rejected unmapped))) := by
    simp only [unmapped]
    cases d.2 with
    | ok code => exact Stage.runSumUp_eq rfl rfl
    | error f => exact Stage.runSumUp_eq rfl rfl
  rw [runStages_cons h₁, State.after, runStages_cons h₂, State.after, runStages_cons h₃, runStages_cons h₄, runStages]

end ZigDecls
