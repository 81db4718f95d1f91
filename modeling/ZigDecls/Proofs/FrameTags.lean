import ZigDecls.Proofs.Regions

/-!
# Tags of the frame inside the body

A page has one `html`, one `head` and one `body`. The walk passes over the tags of a second one inside the
body, so that none is laid there again (`noFrameTags`).
-/

namespace ZigDecls.Markup

/-- The walk is in the body, has passed over the tags of the frame among those that are open around it, and
has laid none of them from where an element bears the id. -/
structure InBody (id : List Char) (around : List (List Char)) (s : Nesting) : Prop where
  elements : ∃ inner, s.elements = inner ++ bodyElements ∧ ∀ e ∈ inner, isIn pageNames e = false
  hasBody : s.hasBody = true
  passed : s.passed = around.countP (isIn pageNames)
  laid : NoneFrom (¬·.Inner) id s.pieces

theorem isTagKind_not_inner : IsTagKind (¬·.Inner) where
  void h := h
  text _ := not_not_intro trivial
  verbatim _ := not_not_intro trivial
  comment _ := not_not_intro trivial
  closing _ := not_not_intro trivial

theorem carries_inner {id : List Char} :
    Carries (NoneFrom (¬·.Inner) id) (¬¬·.Inner) :=
  carries_noneFrom isTagKind_not_inner

section
variable {id : List Char} {around : List (List Char)} {s : Nesting} {last : Option Piece} {p : Piece} {tag : Tag}
  {name content : List Char} {n : Nat}

theorem InBody.endText (h : InBody id around s) : InBody id around s.endText where
  elements := by
    rw [elements_endText]
    exact h.elements
  hasBody := (frame_endText s).1.trans h.hasBody
  passed := (frame_endText s).2.trans h.passed
  laid := carries_inner.endText h.laid

theorem InBody.length (h : InBody id around s) : 2 ≤ s.elements.length := by
  obtain ⟨inner, he, -⟩ := h.elements
  rw [he, List.length_append]
  exact Nat.le_add_left _ _

theorem InBody.leave (h : InBody id around s) (hl : 2 < s.elements.length) :
    InBody id around s.leave ∧ s.leave.elements.length + 1 = s.elements.length := by
  obtain ⟨inner, he, hno⟩ := h.elements
  cases inner with
  | nil =>
    rw [he] at hl
    exact absurd hl (by decide)
  | cons e inner =>
    have he : s.elements = e :: (inner ++ bodyElements) := he
    have hs := carries_inner.leave h.laid
    rw [leave_eq he] at hs ⊢
    refine ⟨⟨⟨inner, rfl, fun a ha => hno a (List.mem_cons_of_mem e ha)⟩, ?_, ?_, hs⟩, ?_⟩
    · exact (frame_endText s).1.trans h.hasBody
    · exact (frame_endText s).2.trans h.passed
    · rw [he, List.length_cons]

theorem InBody.leaveMany (h : InBody id around s) (hl : n + 2 ≤ s.elements.length) :
    InBody id around (s.leaveMany n) := by
  induction n generalizing s with
  | zero => exact h
  | succ n ih =>
    obtain ⟨hs, hlen⟩ := h.leave (by omega)
    exact ih hs (by omega)

theorem length_takeWhile_append_le {α} {f : α → Bool} {front back : List α} {a : α} (ha : f a = false) :
    ((front ++ a :: back).takeWhile f).length ≤ front.length := by
  rw [List.takeWhile_append, List.takeWhile_cons_of_neg (by simp [ha]), List.append_nil]
  split
  · exact Nat.le_refl _
  · exact (List.takeWhile_prefix f).length_le

theorem InBody.endBefore (h : InBody id around s) (name : List Char) : InBody id around (s.endBefore name) := by
  obtain ⟨inner, he, -⟩ := h.elements
  refine h.leaveMany ?_
  have hlen := @length_takeWhile_append_le _ _ inner ["html".toList] _ (endsBefore_body name)
  rw [he, List.length_append]
  exact Nat.add_le_add_right hlen 2

theorem misplaced_eq (h : InBody id around s) (name : List Char) : s.misplaced name = isIn pageNames name := by
  obtain ⟨inner, he, -⟩ := h.elements
  have hlen : (s.elements.length != 1) = true := by
    have := h.length
    simp only [bne_iff_ne]
    omega
  have hne : s.elements.isEmpty = false := by
    rw [he]
    simp [bodyElements]
  have hbody : s.elements.any (isIn ["body"]) = true := by
    rw [he, List.any_append, Bool.or_eq_true]
    exact .inr (by decide)
  rw [Nesting.misplaced, hlen, hne, hbody]
  simp [isIn, pageNames, Bool.or_assoc]

theorem InBody.enter (h : InBody id around s) (hno : isIn pageNames tag.name = false) :
    InBody id (tag.name :: around) (s.enter tag) where
  elements := by
    obtain ⟨inner, he, hinner⟩ := h.elements
    refine ⟨tag.name :: inner, ?_, List.forall_mem_cons.mpr ⟨hno, hinner⟩⟩
    rw [elements_enter, he]
    rfl
  hasBody := by
    show (s.endText.hasBody || _) = true
    rw [h.endText.hasBody, Bool.true_or]
  passed := by
    rw [List.countP_cons_of_neg (by simp [hno])]
    exact h.endText.passed
  laid := carries_inner.enter (not_not_intro hno) h.laid

theorem InBody.openTag (h : InBody id around s) (tag : Tag) (closed : Bool)
    (hclosed : (closed || isIn emptyNames tag.name) = true → isIn pageNames tag.name = false) :
    InBody id (if closed || isIn emptyNames tag.name then around else tag.name :: around) (s.openTag tag closed) := by
  have hs := h.endBefore tag.name
  unfold Nesting.openTag
  rw [prepare_eq_self hs.hasBody hs.length tag.name]
  dsimp only
  rw [misplaced_eq hs]
  generalize (closed || isIn emptyNames tag.name) = ends at hclosed
  cases hp : isIn pageNames tag.name with
  | true =>
    -- the tag is passed over, and its closing tag is to be passed over too
    have hends : ends = false := Bool.eq_false_iff.mpr fun he => by
      rw [hclosed he] at hp
      cases hp
    rw [hends]
    refine ⟨hs.elements, hs.hasBody, ?_, hs.laid⟩
    show (s.endBefore tag.name).passed + 1 = (tag.name :: around).countP _
    rw [List.countP_cons_of_pos hp, hs.passed]
  | false =>
    have hin := hs.enter hp
    cases ends with
    | false => exact hin
    | true =>
      have hleft := (hin.leave (by rw [elements_enter, List.length_cons]; exact Nat.lt_succ_of_le hs.length)).1
      refine ⟨hleft.elements, hleft.hasBody, ?_, hleft.laid⟩
      rw [← List.countP_cons_of_neg (p := isIn pageNames) (a := tag.name) (by simp [hp])]
      exact hleft.passed

theorem InBody.closeTag (h : InBody id (name :: around) s) : InBody id around (s.closeTag name) := by
  have hpassed := h.passed
  unfold Nesting.closeTag
  cases hp : isIn pageNames name with
  | true =>
    rw [List.countP_cons_of_pos hp] at hpassed
    rw [if_pos ⟨by omega, hp⟩]
    exact ⟨h.elements, h.hasBody, by show s.passed - 1 = _; omega, h.laid⟩
  | false =>
    rw [List.countP_cons_of_neg (by simp [hp])] at hpassed
    have h : InBody id around s := ⟨h.elements, h.hasBody, hpassed, h.laid⟩
    obtain ⟨inner, he, -⟩ := h.elements
    have hframe : bodyElements.dropWhile (fun e => e != name) = [] := List.dropWhile_eq_nil_iff.mpr fun e he => by
      have hpage : ∀ e ∈ bodyElements, isIn pageNames e = true := by decide
      rw [bne_iff_ne]
      rintro rfl
      rw [hpage e he] at hp
      cases hp
    rw [if_neg fun hn => by rw [pageNames] at hp; rw [hp] at hn; cases hn.2]
    dsimp only
    split
    · exact h
    next hne =>
    split
    · -- the element that is closed stands in front of the body
      refine h.leaveMany ?_
      have hsplit := List.takeWhile_append_dropWhile (p := fun e => e != name) (l := inner)
      rw [he, List.dropWhile_append] at hne
      have hrest : inner.dropWhile (fun e => e != name) ≠ [] := fun hnil => hne (by rw [hnil]; exact hframe)
      have hlen := congrArg List.length hsplit
      rw [List.length_append] at hlen
      have := List.length_pos_iff.mpr hrest
      rw [he, List.takeWhile_append, if_neg (by omega), List.length_append]
      show _ ≤ inner.length + 2
      omega
    · exact h

theorem InBody.addText (h : InBody id around s) (content : List Char) : InBody id around (s.addText content) := by
  obtain ⟨inner, he, hno⟩ := h.elements
  obtain ⟨e, hhead, hin⟩ := exists_parent hno
  rw [addText_eq_push (by rw [he, hhead]) hin]
  exact ⟨h.elements, h.hasBody, h.passed, h.laid⟩

/-- One token of a region: by cases of the piece that it was read from. -/
theorem InBody.step (h : InBody id around s) (parent : Option (List Char))
    (hf : p.Fits (around ++ bodyElements).head? last) (hd : ∀ content, p ≠ .documentType content)
    (hc : ∀ name, p = .closing name → around ≠ []) :
    InBody id (p.after around) (s.step (p.token parent)) := by
  cases p with
  | opening tag =>
    obtain ⟨-, -, hempty, -⟩ := hf
    have ho := h.openTag tag false fun he => by
      rw [hempty] at he
      cases he
    rwa [hempty] at ho
  | void tag =>
    have hno := forall_of_isIn (P := fun name => isIn pageNames name = false) (by decide) hf.2.1
    exact h.openTag tag true fun _ => hno
  | closing name =>
    cases around with
    | nil => exact absurd rfl (hc name rfl)
    | cons e around =>
      obtain rfl : e = name := Option.some.inj hf.1
      exact h.closeTag
  | text content => exact h.addText _
  | verbatim content => exact h.addText content
  | comment content =>
    have hs := h.endText
    exact ⟨hs.elements, hs.hasBody, hs.passed, carries_inner.add (not_not_intro trivial) hs.laid⟩
  | documentType content => exact absurd rfl (hd content)

/-- By induction on the pieces. -/
theorem InBody.inside {qs : List Piece} (h : InBody id around s) (hi : Inside around last qs) :
    InBody id [] ((tokensIn (around ++ bodyElements) qs).foldl Nesting.step s) := by
  induction qs generalizing around last s with
  | nil =>
    obtain rfl : around = [] := hi
    exact h
  | cons q qs ih =>
    obtain ⟨hne, hf, hd, hi⟩ := hi
    have hs := ih (h.step (around ++ bodyElements).head? (fits_body hne hf) hd fun _ _ => hne) hi
    rw [← after_append hne] at hs
    exact hs

theorem InBody.region {region : List Piece} (h : InBody id [] s) (hr : IsRegion region) :
    InBody id [] ((tokensIn bodyElements region).foldl Nesting.step s) := by
  have hf := (follows_region hr none).1
  cases hr with
  | void proper isVoid => exact h.step bodyElements.head? hf.1 hf.2.1 fun _ he => nomatch he
  | @element tag inside proper ends holds isInside =>
    exact (h.step bodyElements.head? hf.1 hf.2.1 fun _ he => nomatch he).inside isInside

/-- In the page that holds a region, no element of the frame stands in what bears an id. -/
theorem noFrameTags {region : List Piece} (hr : IsRegion region) :
    NoneFrom (¬·.Inner) id (pieces (tokensIn [] (pageOf region))).reverse := by
  obtain ⟨elements, hasBody, passed, pieces, run, -⟩ := walks_frame
  rw [endText_of_run (run rfl)] at pieces
  have hstart : InBody id [] (frameTokens.foldl Nesting.step .start) :=
    ⟨⟨[], elements, fun _ he => absurd he List.not_mem_nil⟩, hasBody, passed,
      pieces ▸ noneFrom_of_not_bears (List.forall_mem_cons.mpr ⟨rfl, List.forall_mem_singleton.mpr rfl⟩)⟩
  rw [Markup.pieces, tokensIn_pageOf hr, List.foldl_append, List.foldl_append]
  exact carries_inner.finish (carries_inner.closeTag _ (carries_inner.closeTag _ (hstart.region hr).laid))

end

end ZigDecls.Markup
