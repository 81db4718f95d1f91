import Mathlib.Data.List.TakeWhile
import ZigDecls.Markup.Region
import ZigDecls.Proofs.SecondWalk

/-!
# Regions of well-formed pages

The region that a well-formed page has for an id is one whole element in settled form, with no document
type in it (`region_of_wellFormed`).
-/

namespace ZigDecls.Markup

/-! ## What all pieces have -/

/-- The pieces go on having the property when the walk lays a piece of its own. -/
structure Carries (holds : List Piece → Prop) (allowed : Piece → Prop) : Prop where
  add : ∀ {p : Piece} {ps : List Piece}, allowed p → holds ps → holds (p :: ps)
  void : ∀ {tag : Tag} {ps : List Piece}, holds (.opening tag :: ps) → holds (.void tag :: ps)
  text : ∀ content, allowed (.text content)
  verbatim : ∀ content, allowed (.verbatim content)
  comment : ∀ content, allowed (.comment content)
  closing : ∀ name, allowed (.closing name)

def AllowsBare (allowed : Piece → Prop) : Prop := ∀ name, allowed (.opening ⟨name, []⟩)

def Token.Brings (allowed : Piece → Prop) : Token → Prop
  | .opening tag _ => allowed (.opening tag.settled)
  | .documentType content => allowed (.documentType (Text.trimList content))
  | _ => True

section
variable {holds : List Piece → Prop} {allowed : Piece → Prop} {s : Nesting}

theorem Carries.endText (hc : Carries holds allowed) (h : holds s.pieces) : holds s.endText.pieces := by
  rw [pieces_endText]
  split
  · exact h
  · split
    · exact hc.add (hc.verbatim _) h
    · exact hc.add (hc.text _) h

theorem Carries.close (hc : Carries holds allowed) {e : List Char} {ps : List Piece} (h : holds ps) :
    holds (close e ps) := by
  unfold Markup.close
  split
  · split
    · exact hc.void h
    · exact hc.add (hc.closing e) h
  · exact hc.add (hc.closing e) h

theorem Carries.leave (hc : Carries holds allowed) (h : holds s.pieces) : holds s.leave.pieces := by
  cases he : s.elements with
  | nil =>
    have hs : s.leave = s.endText := by
      unfold Nesting.leave
      dsimp only
      rw [elements_endText, he]
    rw [hs]
    exact hc.endText h
  | cons e es =>
    rw [leave_eq he]
    exact hc.close (hc.endText h)

theorem Carries.leaveMany (hc : Carries holds allowed) {n : Nat} (h : holds s.pieces) :
    holds (s.leaveMany n).pieces := by
  induction n generalizing s with
  | zero => exact h
  | succ n ih => exact ih (hc.leave h)

theorem Carries.enter (hc : Carries holds allowed) {tag : Tag} (ht : allowed (.opening tag.settled))
    (h : holds s.pieces) :
    holds (s.enter tag).pieces := hc.add ht (hc.endText h)

theorem Carries.closeTag (hc : Carries holds allowed) (name : List Char) (h : holds s.pieces) :
    holds (s.closeTag name).pieces := by
  unfold Nesting.closeTag
  split
  · exact h
  dsimp only
  split
  · exact h
  split
  · exact hc.leaveMany h
  · exact h

theorem Carries.enterNamed (hc : Carries holds allowed) (hb : AllowsBare allowed) {name : String} (h : holds s.pieces) :
    holds (s.enterNamed name).pieces := by
  have ht : allowed (.opening (Tag.settled ⟨name.toList, []⟩)) := by
    rw [settled_bare]
    exact hb _
  exact hc.enter ht h

theorem Carries.before (hc : Carries holds allowed) (hb : AllowsBare allowed) (tag : List Char) (h : holds s.pieces) :
    holds ((s.endBefore tag).prepare tag).pieces := by
  have h : holds (s.endBefore tag).pieces := hc.leaveMany h
  generalize s.endBefore tag = s at h
  unfold Nesting.prepare
  split
  · exact h
  have first : holds (if s.elements.isEmpty then s.enterNamed "html" else s).pieces := by
    split
    · exact hc.enterNamed hb h
    · exact h
  dsimp only
  generalize (if s.elements.isEmpty then s.enterNamed "html" else s) = s' at first
  repeat' split
  all_goals first | exact first | exact hc.enterNamed hb first

theorem Carries.step (hc : Carries holds allowed) (hb : AllowsBare allowed) {t : Token} (ht : t.Brings allowed)
    (h : holds s.pieces) : holds (s.step t).pieces := by
  cases t with
  | opening tag closed =>
    have hb := hc.before hb tag.name h
    show holds (s.openTag tag closed).pieces
    unfold Nesting.openTag
    dsimp only
    split
    · exact hb
    split
    · exact hc.leave (hc.enter ht hb)
    · exact hc.enter ht hb
  | closing name => exact hc.closeTag name h
  | text content =>
    show holds (s.addText content).pieces
    unfold Nesting.addText
    split
    · dsimp only
      split
      · exact h
      · exact hc.enterNamed hb (hc.before hb _ (s := s.push _) h)
    · exact h
  | comment content => exact hc.add (hc.comment _) (hc.endText h)
  | documentType content => exact hc.add ht (hc.endText h)

theorem Carries.foldl (hc : Carries holds allowed) (hb : AllowsBare allowed) {ts : List Token}
    (ht : ∀ t ∈ ts, t.Brings allowed) (h : holds s.pieces) : holds (ts.foldl Nesting.step s).pieces := by
  induction ts generalizing s with
  | nil => exact h
  | cons t ts ih =>
    obtain ⟨ht, hts⟩ := List.forall_mem_cons.mp ht
    exact ih hts (hc.step hb ht h)

theorem Carries.finish (hc : Carries holds allowed) (h : holds s.pieces) : holds s.finish.reverse := by
  rw [Nesting.finish, List.reverse_reverse]
  exact hc.endText (hc.leaveMany h)

theorem carries_all (void : ∀ {tag : Tag}, allowed (.opening tag) → allowed (.void tag))
    (text : ∀ content, allowed (.text content)) (verbatim : ∀ content, allowed (.verbatim content))
    (comment : ∀ content, allowed (.comment content)) (closing : ∀ name, allowed (.closing name)) :
    Carries (∀ p ∈ ·, allowed p) allowed where
  add hp hps := List.forall_mem_cons.mpr ⟨hp, hps⟩
  void h := List.forall_mem_cons.mpr ((List.forall_mem_cons.mp h).imp_left void)
  text := text
  verbatim := verbatim
  comment := comment
  closing := closing

end

/-! ## Tags in settled form -/

def Piece.Settled : Piece → Prop
  | .opening tag | .void tag => tag.settled = tag
  | _ => True

theorem carries_settled : Carries (∀ p ∈ ·, p.Settled) Piece.Settled :=
  carries_all (fun h => h) (fun _ => trivial) (fun _ => trivial) (fun _ => trivial) fun _ => trivial

theorem pieces_settled (ts : List Token) : ∀ p ∈ pieces ts, p.Settled := by
  have brings : ∀ t ∈ ts, t.Brings Piece.Settled := fun t _ => by
    cases t with
    | opening tag closed => exact Tag.settled_settled tag
    | _ => exact trivial
  have h := carries_settled.finish
    (carries_settled.foldl (s := Nesting.start) settled_bare brings fun p hp => nomatch hp)
  exact fun p hp => h p (List.mem_reverse.mpr hp)

/-! ## What cannot stand in a region -/

/-- Nothing of the kind stands among the pieces from the first that bears the id. -/
def NoneFrom (kind : Piece → Prop) (id : List Char) : List Piece → Prop
  | [] => True
  | p :: ps => (kind p → ∀ q ∈ p :: ps, q.bears id = false) ∧ NoneFrom kind id ps

/-- The kind is one of tags or of document types, and the same for a tag that is closed at once. -/
structure IsTagKind (kind : Piece → Prop) : Prop where
  void : ∀ {tag : Tag}, kind (.void tag) → kind (.opening tag)
  text : ∀ content, ¬kind (.text content)
  verbatim : ∀ content, ¬kind (.verbatim content)
  comment : ∀ content, ¬kind (.comment content)
  closing : ∀ name, ¬kind (.closing name)

section
variable {kind : Piece → Prop} {id : List Char} {ps : List Piece}

theorem carries_noneFrom (hk : IsTagKind kind) : Carries (NoneFrom kind id) (¬kind ·) where
  add hp hps := ⟨fun h => absurd h hp, hps⟩
  void h := ⟨fun hv => List.forall_mem_cons.mpr (List.forall_mem_cons.mp (h.1 (hk.void hv))), h.2⟩
  text := hk.text
  verbatim := hk.verbatim
  comment := hk.comment
  closing := hk.closing

theorem carries_not_bears : Carries (∀ p ∈ ·, Piece.bears id p = false) (Piece.bears id · = false) :=
  carries_all (fun h => h) (fun _ => rfl) (fun _ => rfl) (fun _ => rfl) fun _ => rfl

theorem noneFrom_of_not_bears (h : ∀ p ∈ ps, p.bears id = false) : NoneFrom kind id ps := by
  induction ps with
  | nil => trivial
  | cons p ps ih => exact ⟨fun _ => h, ih fun q hq => h q (List.mem_cons_of_mem p hq)⟩

theorem not_kind_of_noneFrom {front rest : List Piece} {q : Piece} (h : NoneFrom kind id (rest.reverse ++ q :: front))
    (hq : q.bears id = true) : ∀ p ∈ q :: rest, ¬kind p := by
  have hlater {later : List Piece} (h : NoneFrom kind id (later ++ q :: front)) : ∀ p ∈ q :: later, ¬kind p := by
    induction later with
    | nil =>
      intro p hp hk
      obtain rfl := List.mem_singleton.mp hp
      rw [h.1 hk p List.mem_cons_self] at hq
      cases hq
    | cons a later ih =>
      intro p hp hk
      rcases List.mem_cons.mp hp with rfl | hp
      · exact ih h.2 p List.mem_cons_self hk
      rcases List.mem_cons.mp hp with rfl | hp
      · rw [h.1 hk q (by simp)] at hq
        cases hq
      · exact ih h.2 p (List.mem_cons_of_mem q hp) hk
  exact fun p hp => hlater h p (by simpa using hp)

end

def Piece.IsDocumentType (p : Piece) : Prop := ∃ content, p = .documentType content

theorem isTagKind_isDocumentType : IsTagKind Piece.IsDocumentType where
  void h := nomatch h.choose_spec
  text _ := fun ⟨_, h⟩ => nomatch h
  verbatim _ := fun ⟨_, h⟩ => nomatch h
  comment _ := fun ⟨_, h⟩ => nomatch h
  closing _ := fun ⟨_, h⟩ => nomatch h

section
variable {id : List Char}

theorem mem_closesAll {around : List (List Char)} {ts : List Token} (h : closesAll around ts = true) :
    ∀ t ∈ ts, (∀ content, t ≠ .documentType content) ∧
      ∀ tag closed, t = .opening tag closed → isIn ["plaintext"] tag.name = false := by
  intro t ht
  obtain ⟨front, back, rfl⟩ := List.append_of_mem ht
  obtain ⟨inner, h⟩ := exists_closesAll h
  constructor
  · rintro content rfl
    cases h
  · rintro tag closed rfl
    rw [closesAll] at h
    split at h
    · cases h
    · next hp => exact Bool.eq_false_iff.mpr hp

/-- In front nothing bears an id, and behind it no document type comes. -/
theorem noDocumentType {page : List Char} (h : WellFormed page) :
    NoneFrom Piece.IsDocumentType id (pieces (tokens page)).reverse := by
  have hfront : ∀ t ∈ (tokens page).takeWhile Token.isFront, t.Brings (Piece.bears id · = false) := fun t ht => by
    have hf := List.mem_takeWhile_imp ht
    cases t with
    | opening tag closed => cases hf
    | _ => first | exact rfl | exact trivial
  have hback : ∀ t ∈ (tokens page).dropWhile Token.isFront, t.Brings (¬·.IsDocumentType) := fun t ht => by
    cases t with
    | opening tag closed => exact fun ⟨_, he⟩ => nomatch he
    | documentType content => exact absurd rfl ((mem_closesAll h _ ht).1 content)
    | _ => exact trivial
  have hbears := carries_not_bears.foldl (s := Nesting.start) (fun _ => rfl) hfront fun p hp => nomatch hp
  have hc : Carries (NoneFrom Piece.IsDocumentType id) (¬·.IsDocumentType) := carries_noneFrom isTagKind_isDocumentType
  have htypes := hc.foldl (fun _ ⟨_, he⟩ => nomatch he) hback (noneFrom_of_not_bears hbears)
  rw [← List.foldl_append, List.takeWhile_append_dropWhile] at htypes
  exact hc.finish htypes

end

/-! ## The region with an id -/

section
variable {ps past rest : List Piece} {own outer : List (List Char)} {id : List Char}

theorem orderly_of_append : ∀ {qs : List Piece}, Orderly (qs ++ ps) → Orderly ps
  | [], h => h
  | _ :: _, h => orderly_of_append h.2

theorem takeElements_zero (ps : List Piece) : takeElements 0 ps = [] := by cases ps <;> rfl

/-- Where elements of its own are still open, taking them to their ends stays inside: by induction on the
pieces that are left. -/
theorem inside_takeElements (ho : Orderly (rest.reverse ++ past)) (hclosed : openAfter (rest.reverse ++ past) = [])
    (hopen : openAfter past = own ++ outer) (hne : own ≠ []) (hd : ∀ p ∈ rest, ¬p.IsDocumentType) :
    Inside own past.head? (takeElements own.length rest) := by
  induction rest generalizing past own with
  | nil =>
    rw [List.reverse_nil, List.nil_append, hopen] at hclosed
    exact absurd (List.append_eq_nil_iff.mp hclosed).1 hne
  | cons p rest ih =>
    rw [List.reverse_cons, List.append_assoc, List.singleton_append] at ho hclosed
    obtain ⟨hp, later⟩ := List.forall_mem_cons.mp hd
    obtain ⟨e, es, rfl⟩ := List.exists_cons_of_ne_nil hne
    have hfits : p.Fits (e :: es).head? past.head? := by
      have hf := (orderly_of_append ho).1
      rwa [hopen] at hf
    have hafter : openAfter (p :: past) = p.after (e :: es ++ outer) := by rw [openAfter, hopen]
    have inside {n : Nat} (h : Inside (p.after (e :: es)) (some p) (takeElements n rest)) :
        Inside (e :: es) past.head? (p :: takeElements n rest) := ⟨hne, hfits, fun content he => hp ⟨content, he⟩, h⟩
    cases p with
    | opening tag =>
      have hafter : openAfter (.opening tag :: past) = tag.name :: e :: es ++ outer := hafter
      exact inside (ih ho hclosed hafter (List.cons_ne_nil _ _) later)
    | closing name =>
      cases es with
      | nil =>
        refine inside (n := 0) ?_
        rw [takeElements_zero]
        rfl
      | cons a es =>
        have hafter : openAfter (.closing name :: past) = a :: es ++ outer := hafter
        exact inside (ih ho hclosed hafter (List.cons_ne_nil _ _) later)
    | _ => exact inside (ih ho hclosed (show _ = e :: es ++ outer from hafter) (List.cons_ne_nil _ _) later)

theorem mem_takeElements {n : Nat} {p : Piece} (h : p ∈ takeElements n ps) : p ∈ ps := by
  induction ps generalizing n with
  | nil => cases n <;> cases h
  | cons q ps ih =>
    cases n with
    | zero => cases h
    | succ n =>
      unfold takeElements at h
      split at h
      all_goals exact List.mem_cons.mpr ((List.mem_cons.mp h).imp_right ih)

theorem findRegion?_eq_some {region : List Piece} : findRegion? id ps = some region ↔
    ∃ front q rest, ps = front ++ q :: rest ∧ (∀ p ∈ front, p.bears id = false) ∧ q.bears id = true ∧
      region = firstElement (q :: rest) := by
  have hsplit := List.takeWhile_append_dropWhile (p := fun p => !Piece.bears id p) (l := ps)
  constructor
  · intro h
    have hq := List.head?_dropWhile_not (fun p => !Piece.bears id p) ps
    unfold findRegion? at h
    cases hd : ps.dropWhile fun p => !Piece.bears id p with
    | nil =>
      rw [hd] at h
      cases h
    | cons q rest =>
      rw [hd] at h hq hsplit
      cases h
      refine ⟨_, q, rest, hsplit.symm, fun p hp => ?_, by simpa using hq, rfl⟩
      simpa using List.mem_takeWhile_imp hp
  · rintro ⟨front, q, rest, rfl, hfront, hq, rfl⟩
    have hdrop : (front ++ q :: rest).dropWhile (fun p => !Piece.bears id p) = q :: rest := by
      rw [List.dropWhile_append_of_pos fun p hp => by simp [hfront p hp], List.dropWhile_cons_of_neg (by simp [hq])]
    unfold findRegion?
    rw [hdrop]

theorem mem_firstElement {p q : Piece} {rest : List Piece} (h : p ∈ firstElement (q :: rest)) : p ∈ q :: rest := by
  cases q with
  | opening tag => exact List.mem_cons.mpr ((List.mem_cons.mp h).imp_right mem_takeElements)
  | _ => exact List.mem_cons.mpr (.inl (List.mem_singleton.mp h))

/-- A region of orderly pieces that are all closed is one whole element, which bears the id. -/
theorem isRegion_findRegion? (ho : Orderly ps.reverse) (hclosed : openAfter ps.reverse = [])
    (htypes : NoneFrom Piece.IsDocumentType id ps.reverse) {region : List Piece} (h : findRegion? id ps = some region) :
    IsRegion region ∧ region.head?.any (Piece.bears id) = true := by
  obtain ⟨front, q, rest, rfl, -, hbears, rfl⟩ := findRegion?_eq_some.mp h
  rw [List.reverse_append, List.reverse_cons, List.append_assoc, List.singleton_append] at ho hclosed htypes
  have hd : ∀ p ∈ rest, ¬p.IsDocumentType := fun p hp =>
    not_kind_of_noneFrom htypes hbears p (List.mem_cons_of_mem q hp)
  have hfits := (orderly_of_append ho).1
  cases q with
  | opening tag =>
    obtain ⟨proper, ends, holds, -⟩ := hfits
    have hopen : openAfter (.opening tag :: front.reverse) = [tag.name] ++ openAfter front.reverse := rfl
    exact ⟨.element proper ends holds (inside_takeElements ho hclosed hopen (List.cons_ne_nil _ _) hd), hbears⟩
  | void tag => exact ⟨.void hfits.1 hfits.2.1, hbears⟩
  | _ => cases hbears

/-- The region that a well-formed page has for the id. -/
theorem region_of_wellFormed {page : List Char} (hp : WellFormed page) {region : List Piece}
    (h : findRegion? id (pieces (tokens page)) = some region) :
    IsRegion region ∧ region.head?.any (Piece.bears id) = true ∧ ∀ p ∈ region, p.Settled := by
  have hend : ∀ tag closed, Token.opening tag closed ∈ tokens page → isIn ["plaintext"] tag.name = false := by
    intro tag closed ht
    rw [← List.takeWhile_append_dropWhile (p := Token.isFront) (l := tokens page)] at ht
    rcases List.mem_append.mp ht with hf | hb
    · exact nomatch List.mem_takeWhile_imp hf
    · exact (mem_closesAll hp _ hb).2 tag closed rfl
  obtain ⟨ho, hclosed⟩ := pieces_orderly (read_of_wellFormed hp) hend
  obtain ⟨hregion, hbears⟩ := isRegion_findRegion? ho hclosed (noDocumentType hp) h
  obtain ⟨front, q, rest, hps, -, -, rfl⟩ := findRegion?_eq_some.mp h
  exact ⟨hregion, hbears, fun p hm => pieces_settled _ p (hps ▸ List.mem_append_right front (mem_firstElement hm))⟩

end

end ZigDecls.Markup
