import ZigDecls.Record.Screen

/-!
# Screening keeps every candidate

A record that is screened either stays as it is or leaves a rejection with its index and its name.
The rejections are put in the order of their indices, and none is lost or added by that.
-/

namespace ZigDecls

def Record.label (r : Record) : Int × String := (r.index, r.typeName)

def Rejection.label (r : Rejection) : Int × String := (r.index, r.typeName)

theorem Record.isNone_flaw? (r : Record) : r.flaw?.isNone = (isTypeName r.typeName && !r.fields.isEmpty) := by
  unfold Record.flaw?
  cases isTypeName r.typeName <;> cases r.fields <;> rfl

/-- A record stays exactly if it leaves no rejection. -/
theorem Record.isNone_rejection? (r : Record) : r.rejection?.isNone = r.flaw?.isNone := by
  unfold Record.rejection?
  exact Option.isNone_map

theorem Record.label_of_rejection? {r : Record} {j : Rejection} (h : r.rejection? = some j) : j.label = r.label := by
  obtain ⟨flaw, -, rfl⟩ := Option.map_eq_some_iff.mp h
  rfl

theorem screen_good_sublist (records : List Record) : (screen records).good.Sublist records :=
  List.filter_sublist

theorem mem_screen_good_iff {records : List Record} {r : Record} :
    r ∈ (screen records).good ↔ r ∈ records ∧ isTypeName r.typeName = true ∧ r.fields ≠ [] := by
  refine List.mem_filter.trans (and_congr_right fun _ => ?_)
  rw [r.isNone_flaw?]
  simp

theorem screen_labels (records : List Record) :
    ((screen records).good.map Record.label ++ (screen records).rejected.map Rejection.label).Perm
      (records.map Record.label) := by
  unfold screen
  simp only [← Record.isNone_rejection?]
  induction records with
  | nil => exact .refl _
  | cons r records ih =>
    cases h : r.rejection? with
    | none => simpa [h] using ih
    | some j =>
      rw [List.filterMap_cons_some h, List.filter_cons_of_neg (by simp [h]), List.map_cons, List.map_cons,
        Record.label_of_rejection? h]
      exact List.perm_middle.trans (ih.cons _)

theorem sortRejections_perm (rejections : List Rejection) : (sortRejections rejections).Perm rejections :=
  List.mergeSort_perm _ _

/-! ## The order of the rejections -/

def Rejection.notAfter (a b : Rejection) : Bool := decide (a.index ≤ b.index)

theorem Rejection.notAfter_iff {a b : Rejection} : a.notAfter b = true ↔ a.index ≤ b.index := decide_eq_true_iff

theorem Rejection.notAfter_trans (a b c : Rejection) (hab : a.notAfter b = true) (hbc : b.notAfter c = true) :
    a.notAfter c = true :=
  notAfter_iff.mpr (Int.le_trans (notAfter_iff.mp hab) (notAfter_iff.mp hbc))

theorem Rejection.notAfter_total (a b : Rejection) : (a.notAfter b || b.notAfter a) = true := by
  rw [Bool.or_eq_true, notAfter_iff, notAfter_iff]
  exact Int.le_total a.index b.index

theorem sortRejections_sorted (rejections : List Rejection) :
    (sortRejections rejections).Pairwise fun a b => a.index ≤ b.index := by
  have h : (sortRejections rejections).Pairwise fun a b => a.notAfter b = true :=
    List.pairwise_mergeSort Rejection.notAfter_trans Rejection.notAfter_total rejections
  exact h.imp Rejection.notAfter_iff.mp

theorem sortRejections_of_sorted {rejections : List Rejection} (h : rejections.Pairwise fun a b => a.index ≤ b.index) :
    sortRejections rejections = rejections :=
  List.mergeSort_of_pairwise (h.imp Rejection.notAfter_iff.mpr)

/-- Rejections with one index keep their order. -/
theorem filter_sortRejections (index : Int) (rejections : List Rejection) :
    (sortRejections rejections).filter (fun r => r.index = index) = rejections.filter fun r => r.index = index := by
  have hp : (rejections.filter fun r => r.index = index).Pairwise fun a b => a.notAfter b = true := by
    rw [List.pairwise_filter]
    refine List.pairwise_of_forall fun a b ha hb => Rejection.notAfter_iff.mpr (Int.le_of_eq ?_)
    exact (of_decide_eq_true ha).trans (of_decide_eq_true hb).symm
  have hs : (rejections.filter fun r => r.index = index).Sublist (sortRejections rejections) :=
    List.sublist_mergeSort Rejection.notAfter_trans Rejection.notAfter_total hp List.filter_sublist
  have hs := hs.filter fun r => decide (r.index = index)
  rw [List.filter_filter] at hs
  simp only [Bool.and_self] at hs
  exact (hs.eq_of_length ((sortRejections_perm rejections).filter _).length_eq.symm).symm

end ZigDecls
