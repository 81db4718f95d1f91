import ZigDecls.Proofs.Conservation
import ZigDecls.Run.Basic

/-!
# Nothing is dropped in silence

The pass warns of a candidate where it rejects it, and of nothing else, so its warnings are its
rejections. The summary lists all rejections that are left after the screening: one for each heading
without an accepted record, in the order of the headings.
-/

namespace ZigDecls

/-! ## Warnings of the pass -/

def Rejection.warning (r : Rejection) : Event := .discarded r.index r.typeName r.reason r.detail

theorem Rejection.line_warning (r : Rejection) (elapsed : String) :
    r.warning.line elapsed = "WARNING structgen.pipeline.builder: Discarding " ++ r.text := by
  have hfront : "WARNING" ++ " " ++ "structgen.pipeline.builder" ++ ": " ++ "Discarding " =
      "WARNING structgen.pipeline.builder: Discarding " := by decide
  rw [← hfront]
  show "WARNING" ++ " " ++ "structgen.pipeline.builder" ++ ": " ++
    ("Discarding " ++ toString r.index ++ ":" ++ r.typeName ++ " (" ++ r.reason.text ++ ": " ++ r.detail ++ ")") = _
  simp only [text, String.append_assoc]

namespace Collector

def warnings (c : Collector) : List Event := c.log.filter fun e => e.level = .warning

def Tells (c : Collector) : Prop := c.warnings = c.rejected.map Rejection.warning

variable {c : Collector}

theorem Tells.reject (h : c.Tells) (s : Candidate) (flaw : Flaw) : (c.reject s flaw).Tells := by
  unfold Tells warnings at *
  unfold Collector.reject
  simp only [List.filter_append, List.map_append, h]
  rfl

theorem Tells.close (h : c.Tells) : c.close.Tells := by
  unfold Collector.close
  cases c.open? with
  | none => exact h
  | some s =>
    dsimp only
    cases s.close with
    | ok record => exact h
    | error flaw => exact h.reject s flaw

theorem Tells.step (h : c.Tells) (e : Element) : (c.step e).Tells := by
  cases e with
  | heading title level => exact h.close
  | paragraph text =>
    unfold Collector.step
    cases c.open? <;> exact h
  | other kind =>
    unfold Collector.step
    cases c.open? with
    | none => exact h
    | some s =>
      unfold Tells warnings at *
      simp only [Option.elim_some, List.filter_append, h]
      exact List.append_nil _
  | table headers rows =>
    unfold Collector.step
    cases c.open? with
    | none => exact h
    | some s =>
      simp only [Option.elim_some]
      cases s.addTable headers rows with
      | ok s' => exact h
      | error flaw => exact h.reject s flaw

theorem Tells.foldl_step (h : c.Tells) (es : List Element) : (es.foldl Collector.step c).Tells := by
  induction es generalizing c with
  | nil => exact h
  | cons e es ih =>
    rw [List.foldl_cons]
    exact ih (h.step e)

theorem warnings_events (h : c.Tells) :
    c.events.filter (fun e => e.level = .warning) = c.rejected.map Rejection.warning := by
  unfold events
  rw [List.filter_append, ← h]
  exact List.append_nil _

end Collector

theorem tells_collect (elements : List Element) : (collect elements).Tells := by
  have hs : Collector.start.Tells := rfl
  exact (hs.foldl_step elements).close

/-! ## What is left for the summary -/

/-- The rejection that stands for the candidate in the end: its own, or the one its record gets when it
is screened. -/
def Outcome.rejection? : Outcome → Option Rejection
  | .ok r => r.rejection?
  | .error j => some j

theorem Outcome.label_of_rejection? {o : Outcome} {j : Rejection} (h : Outcome.rejection? o = some j) :
    j.label = Outcome.label o := by
  cases o with
  | ok r => exact Record.label_of_rejection? h
  | error j' =>
    cases h
    rfl

theorem rejections_perm : ∀ os : List Outcome,
    (rejectionsIn os ++ (recordsIn os).filterMap Record.rejection?).Perm (os.filterMap Outcome.rejection?)
  | [] => .refl _
  | .error j :: os => (rejections_perm os).cons j
  | .ok r :: os => by
    have ih := rejections_perm os
    cases hr : r.rejection? with
    | none =>
      have ho : Outcome.rejection? (.ok r) = none := hr
      have hrec : (recordsIn (.ok r :: os)).filterMap Record.rejection? = (recordsIn os).filterMap Record.rejection? :=
        List.filterMap_cons_none hr
      rw [List.filterMap_cons_none ho, hrec]
      exact ih
    | some j =>
      have ho : Outcome.rejection? (.ok r) = some j := hr
      have hrec : (recordsIn (.ok r :: os)).filterMap Record.rejection? =
          j :: (recordsIn os).filterMap Record.rejection? := List.filterMap_cons_some hr
      rw [List.filterMap_cons_some ho, hrec]
      exact List.perm_middle.trans (ih.cons j)

theorem rejections_sublist : ∀ os : List Outcome,
    ((os.filterMap Outcome.rejection?).map Rejection.label).Sublist (os.map Outcome.label)
  | [] => .refl _
  | o :: os => by
    have ih := rejections_sublist os
    cases ho : Outcome.rejection? o with
    | none =>
      rw [List.filterMap_cons_none ho]
      exact ih.cons _
    | some j =>
      rw [List.filterMap_cons_some ho, List.map_cons, List.map_cons, Outcome.label_of_rejection? ho]
      exact ih.cons_cons _

theorem review_rejected_eq (elements : List Element) :
    (review (collect elements).accepted (collect elements).rejected).rejected =
      (outcomesOf elements).filterMap Outcome.rejection? := by
  have hp : (review (collect elements).accepted (collect elements).rejected).rejected.Perm
      ((outcomesOf elements).filterMap Outcome.rejection?) := by
    refine (sortRejections_perm _).trans ?_
    rw [collect_accepted, collect_rejected]
    exact rejections_perm _
  have hs : ((outcomesOf elements).filterMap Outcome.rejection?).Pairwise fun a b => a.index < b.index := by
    have hl := rejections_sublist (outcomesOf elements)
    rw [labels_outcomesOf] at hl
    have hsorted := (candidateLabels_sorted elements).sublist hl
    rw [List.pairwise_map] at hsorted
    exact hsorted
  refine hp.eq_of_pairwise ?_ (review_rejected_sorted elements) hs
  intro a b _ _ hab hba
  omega

/-- The labels of the candidates that have no accepted record. -/
def lostLabels (elements : List Element) : List (Int × String) :=
  let s := review (collect elements).accepted (collect elements).rejected
  (candidateLabels elements).filter fun l => l ∉ s.good.map Record.label

theorem review_rejected_labels (elements : List Element) :
    (review (collect elements).accepted (collect elements).rejected).rejected.map Rejection.label =
      lostLabels elements := by
  have hp := review_labels elements
  have hsorted := candidateLabels_sorted elements
  have hrejected := review_rejected_sorted elements
  unfold lostLabels
  dsimp only at hp ⊢
  generalize review (collect elements).accepted (collect elements).rejected = s at *
  have hn : (candidateLabels elements).Nodup := hsorted.imp fun {a b} h he => by
    rw [he] at h
    omega
  have hd := (List.nodup_append.mp (hp.nodup_iff.mpr hn)).2.2
  have hr : (s.rejected.map Rejection.label).filter (fun l => l ∉ s.good.map Record.label) =
      s.rejected.map Rejection.label := by
    rw [List.filter_eq_self]
    intro l hl
    have : l ∉ s.good.map Record.label := fun hg => hd l hg l hl rfl
    simpa using this
  have hg : (s.good.map Record.label).filter (fun l => l ∉ s.good.map Record.label) = [] := by
    rw [List.filter_eq_nil_iff]
    intro l hl
    simpa using hl
  have hp := hp.filter fun l => decide (l ∉ s.good.map Record.label)
  rw [List.filter_append, hg, hr, List.nil_append] at hp
  refine hp.eq_of_pairwise ?_ (List.pairwise_map.mpr hrejected) (hsorted.filter _)
  intro a b _ _ hab hba
  omega

theorem lines_of_warnings (elements : List Element) (elapsed : String) :
    ((collect elements).events.filter fun e => e.level = .warning).map (·.line elapsed) =
      (collect elements).rejected.map fun r => "WARNING structgen.pipeline.builder: Discarding " ++ r.text := by
  rw [Collector.warnings_events (tells_collect elements), List.map_map]
  exact List.map_congr_left fun r _ => r.line_warning elapsed

theorem messages_of_summary (names : List String) (rejected : List Rejection) (unmapped : Nat) (elapsed : String) :
    (summaryEvents names rejected unmapped).map (·.message elapsed) =
      (if rejected.length = 0 then [] else ["Ignored " ++ toString rejected.length ++ " bad records, they are " ++
        ", ".intercalate (rejected.map Rejection.text)]) ++
      ("Generated " ++ toString names.length ++ " types, they are " ++ ", ".intercalate names) ::
        if unmapped = 0 then [] else [toString unmapped ++ " field types left as @compileError placeholders"] := by
  unfold summaryEvents ignoredEvents
  by_cases hu : unmapped = 0
  · cases rejected with
    | nil => simp only [hu]; rfl
    | cons j rejected => simp only [hu]; rfl
  · cases rejected with
    | nil => simp only [hu]; rfl
    | cons j rejected => simp only [hu]; rfl

/-- The warnings of the pass are its rejections, one each and in their order, and say what the summary
would list of them. After the screening the rejections are those of the sections without an accepted
record, in the order of their headings, and the summary lists all of them in one line, which it writes
only if there are any. -/
theorem drops_are_told (elements : List Element) (unmapped : Nat) (elapsed : String) :
    let c := collect elements
    let outcomes := (sectionsOf elements).mapIdx fun i s => s.outcome i
    let s := review c.accepted c.rejected
    let names := s.good.map (·.typeName)
    let lost := (titlesOf elements).length - s.good.length
    (∀ r : Rejection, r.text =
      toString r.index ++ ":" ++ r.typeName ++ " (" ++ r.reason.text ++ ": " ++ r.detail ++ ")") ∧
    (c.events.filter fun e => e.level = .warning).map (·.line elapsed) =
      c.rejected.map (fun r => "WARNING structgen.pipeline.builder: Discarding " ++ r.text) ∧
    s.rejected = outcomes.filterMap Outcome.rejection? ∧ s.rejected.map Rejection.label = lostLabels elements ∧
    (s.rejected.map (·.index)).Pairwise (· < ·) ∧ s.rejected.length = lost ∧
    (summaryEvents names s.rejected unmapped).map (·.message elapsed) =
      (if lost = 0 then [] else
        ["Ignored " ++ toString lost ++ " bad records, they are " ++
          ", ".intercalate (s.rejected.map Rejection.text)]) ++
      ("Generated " ++ toString names.length ++ " types, they are " ++ ", ".intercalate names) ::
        if unmapped = 0 then [] else [toString unmapped ++ " field types left as @compileError placeholders"] := by
  intro c outcomes s names lost
  have hlen : s.good.length + s.rejected.length = (titlesOf elements).length := by
    simpa [candidateLabels] using (review_labels elements).length_eq
  have hlost : s.rejected.length = lost := by omega
  have ho : outcomes = outcomesOf elements := List.mapIdx_eq_zipIdx_map
  refine ⟨fun _ => rfl, lines_of_warnings elements elapsed, ?_, review_rejected_labels elements, ?_, hlost, ?_⟩
  · rw [ho]
    exact review_rejected_eq elements
  · exact List.pairwise_map.mpr (review_rejected_sorted elements)
  · rw [← hlost]
    exact messages_of_summary names s.rejected unmapped elapsed

end ZigDecls
