import ZigDecls.Proofs.Stages

/-!
# The review as a merge

A review keeps the records that are fit, as they are and in their order, and puts the rejections of the
others behind the earlier ones of the same index. It loses nothing, and what it gives it leaves alone.
-/

namespace ZigDecls

/-! ## Records -/

theorem Record.rejection?_eq (r : Record) : r.rejection? =
    if isTypeName r.typeName = false then some ⟨r.index, r.typeName, .badTypeName, "not a TitleCase identifier"⟩
    else if r.fields = [] then some ⟨r.index, r.typeName, .incompleteRecord, "field table has no rows"⟩
    else none := by
  unfold Record.rejection? Record.flaw?
  cases isTypeName r.typeName <;> cases r.fields <;> rfl

theorem length_screen (records : List Record) :
    (screen records).good.length + (screen records).rejected.length = records.length := by
  simpa using (screen_labels records).length_eq

theorem screen_good (records : List Record) : screen (screen records).good = ⟨(screen records).good, []⟩ := by
  have hf : ∀ r ∈ (screen records).good, r.flaw?.isNone = true := fun r hr => (List.mem_filter.mp hr).2
  have hj : ∀ r ∈ (screen records).good, r.rejection? = none := fun r hr =>
    Option.isNone_iff_eq_none.mp (r.isNone_rejection?.trans (hf r hr))
  rw [screen, List.filter_eq_self.mpr hf, List.filterMap_eq_nil_iff.mpr hj]

/-! ## Reviews -/

theorem review_review (records : List Record) (earlier : List Rejection) :
    let s := review records earlier
    review s.good s.rejected = s := by
  intro s
  have hg : screen s.good = ⟨s.good, []⟩ := screen_good records
  have hs : sortRejections s.rejected = s.rejected := sortRejections_of_sorted (sortRejections_sorted _)
  rw [review, hg, List.append_nil, hs]

theorem length_review (records : List Record) (earlier : List Rejection) :
    let s := review records earlier
    s.good.length + s.rejected.length = records.length + earlier.length := by
  intro s
  have hg : s.good = (screen records).good := rfl
  have hr : s.rejected.length = earlier.length + (screen records).rejected.length := by
    rw [← List.length_append]
    exact (sortRejections_perm _).length_eq
  have hl := length_screen records
  rw [hg, hr]
  omega

/-- A review gives the records with a good name and a field, as they are and in their order, and all
rejections, the earlier ones and one for each record that it dropped: in the order of the indices, and
with one index the earlier ones first, each group in its own order. A second review changes nothing. -/
theorem runReview_merges (state : State) (records : List Record) (earlier : Option (List Rejection)) :
    let state := { state with
      records := some (records.map Sketch.ofRecord), rejected := earlier.map (·.map Sketch.ofRejection) }
    let before := earlier.getD []
    let dropped := records.filterMap fun r =>
      if isTypeName r.typeName = false then
        some (Rejection.mk r.index r.typeName .badTypeName "not a TitleCase identifier")
      else if r.fields = [] then some ⟨r.index, r.typeName, .incompleteRecord, "field table has no rows"⟩
      else none
    let s := review records before
    let update := Update.reviewed (s.good.map Sketch.ofRecord) (s.rejected.map Sketch.ofRejection)
    Stage.review.run state = (screenEvents dropped.length, .ok update) ∧
    s.good = records.filter (fun r => isTypeName r.typeName && !r.fields.isEmpty) ∧
    s.rejected.Perm (before ++ dropped) ∧ (s.rejected.map (·.index)).Pairwise (· ≤ ·) ∧
    (∀ i, s.rejected.filter (fun r => r.index = i) =
      before.filter (fun r => r.index = i) ++ dropped.filter fun r => r.index = i) ∧
    s.good.length + s.rejected.length = records.length + before.length ∧
    Stage.review.run (state.merge update) = ([], .ok update) := by
  intro state before dropped s update
  have hd : (screen records).rejected = dropped := congrArg (records.filterMap ·) (funext Record.rejection?_eq)
  have hs : s.rejected = sortRejections (before ++ dropped) := by rw [← hd]; rfl
  refine ⟨?_, ?_, ?_, ?_, fun i => ?_, length_review records before, ?_⟩
  · rw [← hd]
    refine Stage.runReview_eq rfl ?_
    cases earlier <;> rfl
  · exact congrArg (records.filter ·) (funext Record.isNone_flaw?)
  · rw [hs]
    exact sortRejections_perm _
  · rw [hs]
    exact List.pairwise_map.mpr (sortRejections_sorted _)
  · rw [hs, filter_sortRejections, List.filter_append]
  · let again := review s.good s.rejected
    have hr : Stage.review.run (state.merge update) = (screenEvents (screen s.good).rejected.length,
        .ok (.reviewed (again.good.map Sketch.ofRecord) (again.rejected.map Sketch.ofRejection))) :=
      Stage.runReview_eq rfl rfl
    have ha : again = s := review_review records before
    have hg : (screen s.good).rejected = [] := congrArg Screened.rejected (screen_good records)
    rw [hr, ha, hg]
    rfl

end ZigDecls
