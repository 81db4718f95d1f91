import ZigDecls.Proofs.Collection
import ZigDecls.Proofs.Screening
import ZigDecls.Run.Basic

/-!
# No candidate is lost or counted twice

Every heading of a page opens one candidate. After the pass and the screening each candidate is
either among the records or among the rejections, once, under its own index and title.
-/

namespace ZigDecls
open Text
open scoped List

def Outcome.label : Outcome → Int × String
  | .ok r => r.label
  | .error r => r.label

theorem Section.outcome_label (s : Section) (index : Nat) : Outcome.label (s.outcome index) = (↑index, s.title) := by
  unfold Section.outcome
  cases s.verdict <;> rfl

theorem labels_outcomesFrom : ∀ (sections : List Section) (n : Nat),
    (outcomesFrom n sections).map Outcome.label = (sections.zipIdx n).map fun p => (↑p.2, p.1.title)
  | [], _ => rfl
  | s :: sections, n => by
    rw [outcomesFrom_cons, List.map_cons, s.outcome_label, labels_outcomesFrom sections]; rfl

def candidateLabels (elements : List Element) : List (Int × String) :=
  (titlesOf elements).mapIdx fun i title => (↑i, trim title)

theorem labels_outcomesOf (elements : List Element) :
    (outcomesOf elements).map Outcome.label = candidateLabels elements := by
  rw [outcomesOf, labels_outcomesFrom, candidateLabels, List.mapIdx_eq_zipIdx_map]
  have h := congrArg (fun ts => (List.zipIdx ts).map fun p => ((p.2 : Int), p.1)) (titles_sectionsOf elements)
  simp only [List.zipIdx_map, List.map_map] at h
  exact h

/-! ## The two lists of a pass -/

theorem records_sublist : ∀ os : List Outcome, ((recordsIn os).map Record.label).Sublist (os.map Outcome.label)
  | [] => .refl _
  | .ok r :: os => (records_sublist os).cons_cons r.label
  | .error r :: os => (records_sublist os).cons r.label

theorem perm_outcomes : ∀ os : List Outcome,
    ((recordsIn os).map Record.label ++ (rejectionsIn os).map Rejection.label).Perm (os.map Outcome.label)
  | [] => .refl _
  | .ok r :: os => (perm_outcomes os).cons r.label
  | .error _ :: os => List.perm_middle.trans ((perm_outcomes os).cons _)

theorem candidateLabels_sorted (elements : List Element) :
    (candidateLabels elements).Pairwise fun a b => a.1 < b.1 := by
  rw [List.pairwise_iff_getElem]
  intro i j hi hj hij
  simp only [candidateLabels, List.getElem_mapIdx]
  omega

theorem labels_accepted_sublist (elements : List Element) :
    ((collect elements).accepted.map Record.label).Sublist (candidateLabels elements) := by
  rw [collect_accepted, ← labels_outcomesOf]
  exact records_sublist _

theorem typeName_of_mem_accepted {elements : List Element} {r : Record} (hr : r ∈ (collect elements).accepted) :
    ∃ title, r.typeName = trim title := by
  have h := (labels_accepted_sublist elements).subset (List.mem_map_of_mem hr)
  obtain ⟨i, hi, he⟩ := List.mem_mapIdx.mp h
  exact ⟨_, (congrArg Prod.snd he).symm⟩

/-! ## The two lists after the screening -/

theorem review_labels (elements : List Element) :
    let s := review (collect elements).accepted (collect elements).rejected
    (s.good.map Record.label ++ s.rejected.map Rejection.label).Perm (candidateLabels elements) := by
  let c := collect elements
  let s := screen c.accepted
  calc s.good.map Record.label ++ (sortRejections (c.rejected ++ s.rejected)).map Rejection.label
    _ ~ s.good.map Record.label ++ (c.rejected ++ s.rejected).map Rejection.label :=
      ((sortRejections_perm _).map _).append_left _
    _ ~ s.good.map Record.label ++ (s.rejected.map Rejection.label ++ c.rejected.map Rejection.label) := by
      rw [List.map_append]; exact List.perm_append_comm.append_left _
    _ ~ c.accepted.map Record.label ++ c.rejected.map Rejection.label := by
      rw [← List.append_assoc]; exact (screen_labels _).append_right _
    _ ~ (outcomesOf elements).map Outcome.label := by
      rw [collect_accepted, collect_rejected]; exact perm_outcomes _
    _ = candidateLabels elements := labels_outcomesOf elements

theorem review_good_sorted (elements : List Element) :
    (review (collect elements).accepted (collect elements).rejected).good.Pairwise fun a b => a.index < b.index := by
  have hs := (screen_good_sublist (collect elements).accepted).map Record.label
  have h := (candidateLabels_sorted elements).sublist (hs.trans (labels_accepted_sublist elements))
  rw [List.pairwise_map] at h
  exact h

theorem review_rejected_sorted (elements : List Element) :
    (review (collect elements).accepted (collect elements).rejected).rejected.Pairwise fun a b =>
      a.index < b.index := by
  have hp := review_labels elements
  have hn : ((candidateLabels elements).map (·.1)).Nodup :=
    List.pairwise_map.mpr ((candidateLabels_sorted elements).imp fun h => Int.ne_of_lt h)
  have hd := (hp.map (·.1)).nodup_iff.mpr hn
  rw [List.map_append, List.map_map, List.map_map] at hd
  have hd := List.pairwise_map.mp (List.nodup_append.mp hd).2.1
  exact (sortRejections_sorted _).imp₂ (fun _ _ hle hne => Int.lt_iff_le_and_ne.mpr ⟨hle, hne⟩) hd

/-- After the pass and the screening every candidate stands in one of the two lists, once, under its
index and its title, and both lists are in the order of the indices. -/
theorem review_conserves (elements : List Element) :
    let c := collect elements
    let s := review c.accepted c.rejected
    let titles := titlesOf elements
    c.candidates = titles.length ∧
    (s.good.map Record.label ++ s.rejected.map Rejection.label).Perm
      (titles.mapIdx fun i title => ((i : Int), trim title)) ∧
    (s.good.map (·.index)).Pairwise (· < ·) ∧ (s.rejected.map (·.index)).Pairwise (· < ·) ∧
    ∀ unmapped, let m := summary (s.good.map (·.typeName)) s.rejected unmapped
      m.accepted + m.rejected = titles.length := by
  intro c s titles
  have hp := review_labels elements
  refine ⟨collect_candidates elements, hp, ?_, ?_, fun unmapped => ?_⟩
  · exact List.pairwise_map.mpr (review_good_sorted elements)
  · exact List.pairwise_map.mpr (review_rejected_sorted elements)
  · simpa [summary, candidateLabels] using hp.length_eq

end ZigDecls
