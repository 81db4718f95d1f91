import Mathlib.Data.Bool.AllAny
import ZigDecls.Markup.Tag
import ZigDecls.Text.Opening

/-!
# Settled tags

`Tag.settled_settled`: a tag in settled form is settled to itself. Each way of settling a value leaves
its own results alone, and settling does not change which of them a tag calls for.
-/

namespace ZigDecls.Markup
open Text

/-! ## Lists of words -/

theorem splitOnP_words : ∀ {ws : List (List Char)}, (∀ w ∈ ws, w ≠ [] ∧ ∀ c ∈ w, isBlank c = false) →
    (([' '].intercalate ws).splitOnP isBlank).filter (fun w => !w.isEmpty) = ws
  | [], _ => by rw [List.intercalate_nil, List.splitOnP_nil]; rfl
  | [w], h => by
    obtain ⟨hne, hb⟩ := h w List.mem_cons_self
    rw [List.intercalate_singleton, List.splitOnP_eq_singleton hb]
    simp [hne]
  | w :: v :: ws, h => by
    obtain ⟨hne, hb⟩ := h w List.mem_cons_self
    rw [List.intercalate_cons_cons, List.append_assoc, List.singleton_append,
      List.splitOnP_append_cons_of_forall_mem hb ' ' (by decide), List.filter_cons_of_pos (by simp [hne]),
      splitOnP_words fun x hx => h x (List.mem_cons_of_mem _ hx)]

theorem singleSpaced_singleSpaced (cs : List Char) : singleSpaced (singleSpaced cs) = singleSpaced cs := by
  refine congrArg ([' '].intercalate ·) (splitOnP_words fun w hw => ?_)
  obtain ⟨hm, hne⟩ := List.mem_filter.mp hw
  exact ⟨by simpa using hne, fun c hc => (of_mem_splitOnP hm c hc).2⟩

/-! ## Content types -/

theorem prefix_of_settleParameter : ∀ {p cs : List Char}, (∀ c ∈ p, isBlank c = false) →
    p <+: settleParameter false cs → p <+: cs
  | [], _, _, _ => List.nil_prefix
  | _ :: _, [], _, h => h
  | c :: p, d :: cs, hb, h => by
    rw [settleParameter, if_neg (by simp)] at h
    obtain ⟨rfl, h⟩ := List.cons_prefix_cons.mp h
    rw [hb c List.mem_cons_self] at h
    exact List.cons_prefix_cons.mpr ⟨rfl, prefix_of_settleParameter (fun x hx => hb x (List.mem_cons_of_mem _ hx)) h⟩

theorem settleParameter_settleParameter (fresh : Bool) (cs : List Char) :
    settleParameter fresh (settleParameter fresh cs) = settleParameter fresh cs := by
  fun_induction settleParameter fresh cs with
  | case1 => rfl
  | case2 fresh c cs h =>
    have hf : fresh = true := by simp_all
    rw [hf]
    rfl
  | case3 fresh c cs h ih =>
    rw [settleParameter, if_neg, ih]
    -- a beginning with no blank in it is found in what is settled only where it was found before
    intro again
    refine h ?_
    simp only [Bool.and_eq_true, List.isPrefixOf_iff_prefix] at again ⊢
    obtain ⟨hf, begins⟩ := again
    have begins : 'c' :: "harset=".toList <+: c :: settleParameter (isBlank c) cs := begins
    obtain ⟨rfl, rest⟩ := List.cons_prefix_cons.mp begins
    rw [show isBlank 'c' = false by decide] at rest
    exact ⟨hf, List.cons_prefix_cons.mpr
      ⟨rfl, prefix_of_settleParameter (List.all_iff_forall_prop.mp (by decide)) rest⟩⟩

theorem mem_settleParameter {fresh : Bool} {cs : List Char} {c : Char} (h : c ∈ settleParameter fresh cs) :
    c ∈ cs ∨ c ∈ "charset=utf-8".toList := by
  fun_induction settleParameter fresh cs with
  | case1 => exact .inl h
  | case2 fresh d cs hp => exact .inr h
  | case3 fresh d cs hp ih =>
    rcases List.mem_cons.mp h with rfl | h
    · exact .inl List.mem_cons_self
    · exact (ih h).imp_left (List.mem_cons_of_mem _)

theorem settleContentType_settleContentType (cs : List Char) :
    settleContentType (settleContentType cs) = settleContentType cs := by
  have apart : ∀ part ∈ (cs.splitOn ';').map (settleParameter true), ';' ∉ part := by
    intro part hp hm
    obtain ⟨source, hs, rfl⟩ := List.mem_map.mp hp
    rw [List.splitOn_eq_splitOnP] at hs
    rcases mem_settleParameter hm with hm | hm
    · simpa using (of_mem_splitOnP hs _ hm).2
    · revert hm; decide
  have hne : (cs.splitOn ';').map (settleParameter true) ≠ [] := by simp [List.splitOn_ne_nil]
  unfold settleContentType
  rw [List.splitOn_intercalate ';' apart hne, List.map_map]
  congr 2
  funext part
  exact settleParameter_settleParameter true part

/-! ## Attributes -/

theorem nameLe_trans : ∀ {as bs cs : List Char}, nameLe as bs = true → nameLe bs cs = true → nameLe as cs = true
  | [], _, _, _, _ => rfl
  | a :: as, b :: bs, c :: cs, h, h' => by
    simp only [nameLe, Bool.or_eq_true, Bool.and_eq_true, decide_eq_true_eq, beq_iff_eq] at *
    obtain h | ⟨rfl, h⟩ := h <;> obtain h' | ⟨rfl, h'⟩ := h'
    · exact .inl (Nat.lt_trans h h')
    · exact .inl h
    · exact .inl h'
    · exact .inr ⟨rfl, nameLe_trans h h'⟩

theorem nameLe_total : ∀ as bs : List Char, (nameLe as bs || nameLe bs as) = true
  | [], _ => rfl
  | _ :: _, [] => rfl
  | a :: as, b :: bs => by
    have ih := nameLe_total as bs
    simp only [nameLe, Bool.or_eq_true, Bool.and_eq_true, decide_eq_true_eq, beq_iff_eq] at *
    rcases Nat.lt_trichotomy a.toNat b.toNat with h | h | h
    · exact .inl (.inl h)
    · have : a = b := Char.toNat_inj.mp h
      exact ih.imp (fun h => .inr ⟨this, h⟩) fun h => .inr ⟨this.symm, h⟩
    · exact .inr (.inl h)

theorem byName_byName (attributes : List (List Char × List Char)) : byName (byName attributes) = byName attributes :=
  List.mergeSort_of_pairwise (List.pairwise_mergeSort (fun a b c => @nameLe_trans a.1 b.1 c.1)
    (fun a b => nameLe_total a.1 b.1) attributes)

section
variable {seen : List (List Char)} {attributes : List (List Char × List Char)}

theorem not_seen_of_mem_firstOfEach {a : List Char × List Char} (h : a ∈ firstOfEach seen attributes) :
    a.1 ∉ seen ∧ a ∈ attributes := by
  fun_induction firstOfEach seen attributes with
  | case1 => cases h
  | case2 seen b as hb ih => exact ⟨(ih h).1, List.mem_cons_of_mem _ (ih h).2⟩
  | case3 seen b as hb ih =>
    rcases List.mem_cons.mp h with rfl | h
    · exact ⟨by simpa using hb, List.mem_cons_self⟩
    · obtain ⟨hs, hm⟩ := ih h
      exact ⟨fun hm => hs (List.mem_cons_of_mem _ hm), List.mem_cons_of_mem _ hm⟩

theorem nodup_firstOfEach : ((firstOfEach seen attributes).map (·.1)).Nodup := by
  fun_induction firstOfEach seen attributes with
  | case1 => exact List.nodup_nil
  | case2 seen b as hb ih => exact ih
  | case3 seen b as hb ih =>
    rw [List.map_cons, List.nodup_cons]
    refine ⟨fun hm => ?_, ih⟩
    obtain ⟨a, ha, he⟩ := List.mem_map.mp hm
    exact (not_seen_of_mem_firstOfEach ha).1 (he ▸ List.mem_cons_self)

theorem firstOfEach_eq_self (h : (attributes.map (·.1)).Nodup) (hs : ∀ a ∈ attributes, a.1 ∉ seen) :
    firstOfEach seen attributes = attributes := by
  fun_induction firstOfEach seen attributes with
  | case1 => rfl
  | case2 seen b as hb ih => exact absurd (List.contains_iff_mem.mp hb) (hs b List.mem_cons_self)
  | case3 seen b as hb ih =>
    rw [List.map_cons, List.nodup_cons] at h
    rw [ih h.2]
    intro a ha hm
    rcases List.mem_cons.mp hm with he | hm
    · exact h.1 (he ▸ List.mem_map_of_mem ha)
    · exact hs a (List.mem_cons_of_mem _ ha) hm

end

section
variable {tag : Tag}

theorem attribute?_eq_some_iff (h : (tag.attributes.map (·.1)).Nodup) {key : String} {value : List Char} :
    tag.attribute? key = some value ↔ (key.toList, value) ∈ tag.attributes := by
  unfold Tag.attribute?
  generalize tag.attributes = attributes at h ⊢
  induction attributes with
  | nil => simp
  | cons a as ih =>
    rw [List.map_cons, List.nodup_cons] at h
    rw [List.find?_cons, List.mem_cons]
    by_cases ha : a.1 = key.toList
    · have hno : (key.toList, value) ∉ as := fun hm => h.1 (ha ▸ List.mem_map_of_mem hm)
      simp only [ha, beq_self_eq_true, Option.map_some, Option.some.injEq, hno, or_false]
      exact ⟨fun e => by rw [← ha, ← e], fun e => by rw [← e]⟩
    · have hne : (key.toList, value) ≠ a := fun e => ha (by rw [← e])
      have hb : (a.1 == key.toList) = false := by simpa using ha
      rw [hb]
      simp only [hne, false_or]
      exact ih h.2

def Tag.single (tag : Tag) : Tag := { tag with attributes := firstOfEach [] tag.attributes }

theorem Tag.settled_eq (tag : Tag) : tag.settled =
    ⟨tag.name, byName (tag.single.attributes.map fun a => (a.1, tag.single.settleValue a.1 a.2))⟩ := rfl

theorem mem_settled {a : List Char × List Char} : a ∈ tag.settled.attributes ↔
    ∃ value, (a.1, value) ∈ tag.single.attributes ∧ tag.single.settleValue a.1 value = a.2 := by
  rw [Tag.settled_eq]
  show a ∈ List.mergeSort _ _ ↔ _
  rw [List.mem_mergeSort, List.mem_map]
  constructor
  · rintro ⟨b, hb, rfl⟩
    exact ⟨b.2, hb, rfl⟩
  · rintro ⟨value, hv, he⟩
    exact ⟨(a.1, value), hv, Prod.ext rfl he⟩

theorem nodup_settled : (tag.settled.attributes.map (·.1)).Nodup := by
  have hp : (tag.settled.attributes.map (·.1)).Perm (tag.single.attributes.map (·.1)) := by
    have := (List.mergeSort_perm (tag.single.attributes.map fun a => (a.1, tag.single.settleValue a.1 a.2))
      fun a b => nameLe a.1 b.1).map (·.1)
    rwa [List.map_map] at this
  exact hp.nodup_iff.mpr nodup_firstOfEach

theorem attribute?_settled (key : String) :
    tag.settled.attribute? key = (tag.single.attribute? key).map (tag.single.settleValue key.toList) := by
  refine Option.ext fun value => ?_
  rw [attribute?_eq_some_iff nodup_settled, mem_settled, Option.map_eq_some_iff]
  exact exists_congr fun v => and_congr_left fun _ => (attribute?_eq_some_iff nodup_firstOfEach).symm

/-! ## Values -/

theorem holdsWords_meta {element : List Char} (he : isIn ["meta"] element = true) :
    ∀ key ∈ ["charset", "content", "http-equiv"], holdsWords element key.toList = false :=
  forall_of_isIn (P := fun element =>
    ∀ key ∈ ["charset", "content", "http-equiv"], holdsWords element key.toList = false)
    (by decide) he

theorem mem_settleContentType {cs : List Char} {c : Char} (h : c ∈ settleContentType cs) :
    c ∈ cs ∨ c ∈ " ;charset=utf-8".toList := by
  rcases mem_intercalate h with rfl | ⟨part, hp, hc⟩
  · exact .inr (by decide)
  · obtain ⟨source, hs, rfl⟩ := List.mem_map.mp hp
    rw [List.splitOn_eq_splitOnP] at hs
    rcases mem_settleParameter hc with hc | hc
    · exact .inl (of_mem_splitOnP hs c hc).1
    · exact .inr (List.mem_cons_of_mem _ (List.mem_cons_of_mem _ hc))

/-- A rule is about a value that holds no list of words. It settles what it has settled to itself, and
brings no characters in but these. -/
theorem encodingRule?_eq_some {name : String} {settle : List Char → List Char}
    (h : tag.encodingRule? = some (name, settle)) :
    isIn ["meta"] tag.name = true ∧ name ∈ ["charset", "content"] ∧ (∀ value, settle (settle value) = settle value) ∧
      ∀ value, ∀ c ∈ settle value, c ∈ value ∨ c ∈ " ;charset=utf-8".toList := by
  unfold Tag.encodingRule? at h
  split at h
  · cases h
  next hm =>
  refine ⟨by simpa using hm, ?_⟩
  split at h
  · cases h
    exact ⟨by decide, fun _ => rfl, fun _ c hc => .inr (List.mem_append_right " ;charset=".toList hc)⟩
  split at h
  · cases h
    exact ⟨by decide, settleContentType_settleContentType, fun _ _ => mem_settleContentType⟩
  · cases h

theorem settleValue_settleValue (key value : List Char) :
    tag.settleValue key (tag.settleValue key value) = tag.settleValue key value := by
  unfold Tag.settleValue
  cases hr : tag.encodingRule? with
  | none =>
    dsimp only
    split
    · exact singleSpaced_singleSpaced value
    · rfl
  | some rule =>
    obtain ⟨name, settle⟩ := rule
    obtain ⟨hm, hn, twice, -⟩ := encodingRule?_eq_some hr
    dsimp only
    by_cases hk : (name.toList == key) = true
    · have hw : holdsWords tag.name key = false := by
        rw [← eq_of_beq hk]
        exact holdsWords_meta hm name (List.mem_append_left ["http-equiv"] hn)
      simp only [hk, hw, if_true, Bool.false_eq_true, if_false, twice]
    · simp only [hk, Bool.false_eq_true, if_false]
      split
      · exact singleSpaced_singleSpaced value
      · rfl

/-- The value that says whether there is a content type is not settled itself. -/
theorem settleValue_equiv (hm : isIn ["meta"] tag.name = true) (value : List Char) :
    tag.settleValue "http-equiv".toList value = value := by
  unfold Tag.settleValue
  rw [holdsWords_meta hm "http-equiv" (by decide)]
  cases hr : tag.encodingRule? with
  | none => rfl
  | some rule =>
    have apart : ∀ name ∈ ["charset", "content"], (name.toList == "http-equiv".toList) = false := by decide
    exact if_neg (by rw [apart rule.1 (encodingRule?_eq_some hr).2.1]; exact Bool.false_ne_true)

theorem encodingRule?_settled : tag.settled.encodingRule? = tag.single.encodingRule? := by
  unfold Tag.encodingRule?
  show (if (!isIn ["meta"] tag.name) = true then none else _) = if (!isIn ["meta"] tag.name) = true then none else _
  split
  · rfl
  next hm =>
  have hm : isIn ["meta"] tag.single.name = true := by
    rw [Bool.not_eq_true', Bool.not_eq_false] at hm
    exact hm
  have equiv : tag.settled.attribute? "http-equiv" = tag.single.attribute? "http-equiv" := by
    rw [attribute?_settled, funext (settleValue_equiv hm)]
    exact Option.map_id_apply
  rw [equiv, attribute?_settled, Option.isSome_map]

theorem settleValue_settled : tag.settled.settleValue = tag.single.settleValue := by
  unfold Tag.settleValue
  rw [encodingRule?_settled]
  rfl

theorem single_settled : tag.settled.single = tag.settled := by
  unfold Tag.single
  rw [firstOfEach_eq_self nodup_settled fun _ _ => List.not_mem_nil]

theorem Tag.settled_settled (tag : Tag) : tag.settled.settled = tag.settled := by
  have same : (tag.settled.attributes.map fun a => (a.1, tag.settled.settleValue a.1 a.2)) =
      tag.settled.attributes := by
    refine (List.map_congr_left fun a ha => ?_).trans (List.map_id _)
    obtain ⟨value, -, he⟩ := mem_settled.mp ha
    rw [settleValue_settled, ← he, settleValue_settleValue, he]
    rfl
  rw [Tag.settled_eq, single_settled, same]
  exact congrArg (Tag.mk tag.name) (byName_byName _)

/-- Settling brings no characters into a value but these. -/
theorem mem_settleValue {key value : List Char} {c : Char} (h : c ∈ tag.settleValue key value) :
    c ∈ value ∨ c ∈ " ;charset=utf-8".toList := by
  unfold Tag.settleValue at h
  have worded : c ∈ (if holdsWords tag.name key = true then singleSpaced value else value) →
      c ∈ value ∨ c ∈ " ;charset=utf-8".toList := by
    intro h
    split at h
    · rcases mem_intercalate h with rfl | ⟨word, hw, hc⟩
      · exact .inr (by decide)
      · exact .inl (of_mem_splitOnP (List.mem_filter.mp hw).1 c hc).1
    · exact .inl h
  cases hr : tag.encodingRule? with
  | none =>
    rw [hr] at h
    exact worded h
  | some rule =>
    rw [hr] at h
    dsimp only at h
    split at h
    · exact ((encodingRule?_eq_some hr).2.2.2 _ c h).elim worded .inr
    · exact worded h

end

end ZigDecls.Markup
