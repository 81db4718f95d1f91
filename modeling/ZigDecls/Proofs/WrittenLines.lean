import ZigDecls.Markup.Region
import ZigDecls.Proofs.SecondWalk

/-!
# Line endings in what is written

Pieces are written with the characters that they hold, carriage returns too, and these are read as line
feeds. The page that a region is written to is read as one that holds the region with its line endings
unified (`tokens_pageAround`).
-/

namespace ZigDecls.Markup
open Text

/-! ## Characters that are written as they are -/

def controls : List Char := ['\x00', '\r', '\n']

section
variable {f : Char → List Char} {c d : Char} {cs : List Char}

theorem eq_of_mem_spelled (hf : Spells f) (hc : c ∈ controls) (h : c ∈ f d) : c = d := by
  obtain ⟨he, -⟩ | ⟨name, hw, he⟩ := hf d
  · rw [he] at h
    exact List.mem_singleton.mp h
  · have ordinary : ∀ w ∈ written, controls.all fun c => c ∉ '&' :: (w.2.toList ++ [';']) := by decide
    exact absurd (he ▸ h) (List.all_iff_forall_prop.mp (ordinary _ hw) c hc)

theorem spelled_control (hf : Spells f) (hc : c ∈ controls) : f c = [c] := by
  obtain ⟨he, -⟩ | ⟨name, hw, -⟩ := hf c
  · exact he
  · have ordinary : ∀ w ∈ written, w.1 ∉ controls := by decide
    exact absurd hc (ordinary _ hw)

theorem mem_flatMap_spelled (hf : Spells f) (hc : c ∈ controls) : c ∈ cs.flatMap f ↔ c ∈ cs := by
  rw [List.mem_flatMap]
  constructor
  · rintro ⟨d, hd, hm⟩
    rwa [eq_of_mem_spelled hf hc hm]
  · intro h
    exact ⟨c, h, by rw [spelled_control hf hc]; exact List.mem_singleton_self c⟩

theorem head_of_flatMap_spelled (hf : Spells f) (h : (cs.flatMap f).head? = some '\n') : cs.head? = some '\n' := by
  cases cs with
  | nil => cases h
  | cons d cs =>
    rw [List.flatMap_cons] at h
    obtain ⟨he, -⟩ | ⟨name, -, he⟩ := hf d
    all_goals
      rw [he] at h
      cases h
    rfl

theorem unifyNewlines_flatMap (hf : Spells f) (cs : List Char) :
    unifyNewlines (cs.flatMap f) = (unifyNewlines cs).flatMap f := by
  have hr : f '\r' = ['\r'] := spelled_control hf (by decide)
  have hn : f '\n' = ['\n'] := spelled_control hf (by decide)
  fun_induction unifyNewlines cs with
  | case1 => rfl
  | case2 cs ih =>
    rw [List.flatMap_cons, List.flatMap_cons, List.flatMap_cons, hr, hn, ← ih]
    exact unifyNewlines.eq_2 _
  | case3 c cs hno ih =>
    have apart : (f c).getLast? = some '\r' → (cs.flatMap f).head? ≠ some '\n' := by
      intro hl hh
      obtain rfl := eq_of_mem_spelled hf (by decide) (List.mem_of_getLast? hl)
      obtain ⟨rest, hrest⟩ := List.head?_eq_some_iff.mp (head_of_flatMap_spelled hf hh)
      exact hno rest rfl hrest
    rw [List.flatMap_cons, List.flatMap_cons, unifyNewlines_append _ _ apart, ih]
    congr 1
    split
    · next hc =>
      rw [hc, hr, hn]
      rfl
    · next hc => exact unifyNewlines_self _ fun hm => hc (eq_of_mem_spelled hf (by decide) hm).symm

/-- What has no carriage return stays as it is in front of anything. -/
theorem unifyNewlines_behind {front : List Char} (hr : '\r' ∉ front) (cs : List Char) :
    unifyNewlines (front ++ cs) = front ++ unifyNewlines cs := by
  rw [unifyNewlines_append _ _ fun hl => absurd (List.mem_of_getLast? hl) hr, unifyNewlines_self _ hr]

theorem unifyNewlines_before (front : List Char) (hc : c ≠ '\n') :
    unifyNewlines (front ++ c :: cs) = unifyNewlines front ++ unifyNewlines (c :: cs) :=
  unifyNewlines_append _ _ fun _ h => hc (Option.some.inj h)

end

/-! ## Tags -/

def Tag.unified (tag : Tag) : Tag :=
  { tag with attributes := tag.attributes.map fun a => (a.1, unifyNewlines a.2) }

section
variable {tag : Tag} {a : List Char × List Char} {c : Char} {cs : List Char}

/-- How the value is written does not change with its line endings. -/
theorem writeValue_spelled (value : List Char) : ∃ mark f, mark ∉ controls ∧ Spells f ∧
    writeValue value = mark :: value.flatMap f ++ [mark] ∧
    writeValue (unifyNewlines value) = mark :: (unifyNewlines value).flatMap f ++ [mark] := by
  have same {mark : Char} (hr : mark ≠ '\r') (hn : mark ≠ '\n') :
      (escape (unifyNewlines value)).contains mark = (escape value).contains mark := by
    rw [escape_eq, ← unifyNewlines_flatMap spells_escapeChar, ← escape_eq, Bool.eq_iff_iff, List.contains_iff_mem,
      List.contains_iff_mem, mem_unifyNewlines_iff hr hn]
  unfold writeValue
  dsimp only
  rw [same (by decide) (by decide), same (by decide) (by decide)]
  split
  · exact ⟨'"', escapeChar, by decide, spells_escapeChar, rfl, rfl⟩
  split
  · exact ⟨'\'', escapeChar, by decide, spells_escapeChar, rfl, rfl⟩
  · refine ⟨'"', quotedChar, by decide, spells_quotedChar, ?_, ?_⟩
    · rw [← escape_flatMap_quoteChar]
      rfl
    · rw [← escape_flatMap_quoteChar]
      rfl

theorem control_mem_writeAttribute (hc : c ∈ controls) : c ∈ writeAttribute a ↔ c ∈ a.1 ∨ c ∈ a.2 := by
  obtain ⟨mark, f, hmark, hf, hw, -⟩ := writeValue_spelled a.2
  have apart : c ≠ ' ' ∧ c ≠ '=' ∧ c ≠ mark :=
    ⟨fun he => absurd (he ▸ hc) (by decide), fun he => absurd (he ▸ hc) (by decide), fun he => hmark (he ▸ hc)⟩
  rw [writeAttribute, hw]
  simp [apart, mem_flatMap_spelled hf hc]

theorem control_not_mem_of_spelled (hs : Spelled cs) (hc : c ∈ controls) : c ∉ cs := by
  intro hm
  obtain ⟨-, hends, hnul⟩ := hs c hm
  have breaks : ∀ c ∈ controls, c = '\x00' ∨ Reader.endsName c = true := List.all_iff_forall_prop.mp (by decide)
  rcases breaks c hc with rfl | he
  · exact hnul rfl
  · rw [he] at hends
    cases hends

theorem unifyNewlines_writeAttribute (hk : IsKey a.1) :
    unifyNewlines (writeAttribute a) = writeAttribute (a.1, unifyNewlines a.2) := by
  obtain ⟨mark, f, hmark, hf, hw, hu⟩ := writeValue_spelled a.2
  have hr : '\r' ≠ mark := fun he => hmark (he ▸ by decide)
  have hn : mark ≠ '\n' := fun he => hmark (he ▸ by decide)
  have hfront : '\r' ∉ ' ' :: a.1 ++ ['=', mark] := by
    simp [hr, control_not_mem_of_spelled hk.1 (show '\r' ∈ controls by decide)]
  have hparts : writeAttribute a = (' ' :: a.1 ++ ['=', mark]) ++ (a.2.flatMap f ++ [mark]) := by
    rw [writeAttribute, hw]
    simp
  have hend : unifyNewlines [mark] = [mark] := unifyNewlines_self _ (by simpa using hr)
  rw [hparts, unifyNewlines_behind hfront, unifyNewlines_before _ hn, unifyNewlines_flatMap hf, hend,
    writeAttribute, hu]
  simp

theorem unifyNewlines_writeAttributes {as : List (List Char × List Char)} (hk : ∀ a ∈ as, IsKey a.1) :
    unifyNewlines (as.flatMap writeAttribute) = (as.map fun a => (a.1, unifyNewlines a.2)).flatMap writeAttribute := by
  induction as with
  | nil => rfl
  | cons a as ih =>
    obtain ⟨ha, hk⟩ := List.forall_mem_cons.mp hk
    have apart : (writeAttribute a).getLast? = some '\r' → (as.flatMap writeAttribute).head? ≠ some '\n' := by
      intro _ hh
      cases as with
      | nil => cases hh
      | cons b as =>
        rw [List.flatMap_cons, writeAttribute] at hh
        exact absurd (Option.some.inj hh) (by decide)
    rw [List.flatMap_cons, unifyNewlines_append _ _ apart, unifyNewlines_writeAttribute ha, ih hk, List.map_cons,
      List.flatMap_cons]

theorem unifyNewlines_write (ht : tag.Proper) : unifyNewlines tag.write = tag.unified.write := by
  have hname : '\r' ∉ '<' :: tag.name := by
    simp [control_not_mem_of_spelled ht.1.1 (show '\r' ∈ controls by decide)]
  rw [Tag.write, unifyNewlines_behind hname, unifyNewlines_writeAttributes fun a ha => (ht.2 a ha).1]
  rfl

theorem unified_proper (ht : tag.Proper) : tag.unified.Proper := by
  refine ⟨ht.1, fun a ha => ?_⟩
  obtain ⟨b, hb, rfl⟩ := List.mem_map.mp ha
  obtain ⟨hk, hn⟩ := ht.2 b hb
  exact ⟨hk, fun hm => hn ((mem_unifyNewlines_iff (by decide) (by decide)).mp hm)⟩

theorem nulFree_tag (ht : tag.Proper) : NulFree tag.write := by
  have hc : '\x00' ∈ controls := by decide
  intro hm
  rcases List.mem_append.mp hm with hm | hm
  · rcases List.mem_cons.mp hm with hm | hm
    · exact absurd hm (by decide)
    · exact control_not_mem_of_spelled ht.1.1 hc hm
  · obtain ⟨a, ha, hm⟩ := List.mem_flatMap.mp hm
    obtain ⟨hk, hn⟩ := ht.2 a ha
    exact ((control_mem_writeAttribute hc).mp hm).elim (control_not_mem_of_spelled hk.1 hc) hn

end

/-! ## Pieces -/

def Piece.unified : Piece → Piece
  | .opening tag => .opening tag.unified
  | .void tag => .void tag.unified
  | .text content => .text (unifyNewlines content)
  | p => p

section
variable {p : Piece} {ps : List Piece} {parent : Option (List Char)} {last : Option Piece} {around : List (List Char)}

@[simp] theorem isText_unified (p : Piece) : p.unified.isText = p.isText := by cases p <;> rfl

@[simp] theorem isOpening_unified (p : Piece) : p.unified.isOpening = p.isOpening := by cases p <;> rfl

@[simp] theorem after_unified (p : Piece) (around : List (List Char)) : p.unified.after around = p.after around := by
  cases p <;> rfl

theorem fits_unified (h : p.Fits parent last) : p.unified.Fits parent (last.map Piece.unified) := by
  have htext : (last.map Piece.unified).any Piece.isText = last.any Piece.isText := by cases last <;> simp
  have hopening : (last.map Piece.unified).any Piece.isOpening = last.any Piece.isOpening := by cases last <;> simp
  cases p with
  | opening tag => exact ⟨unified_proper h.1, h.2⟩
  | void tag => exact ⟨unified_proper h.1, h.2⟩
  | closing name => exact ⟨h.1, fun ho => h.2 (hopening ▸ ho)⟩
  | text content =>
    obtain ⟨hn, hne, hl, hp⟩ := h
    refine ⟨fun hm => hn ((mem_unifyNewlines_iff (by decide) (by decide)).mp hm), mt unifyNewlines_eq_nil.mp hne,
      htext.trans hl, ?_⟩
    rw [hopening]
    exact hp
  | verbatim content => exact ⟨h.1, h.2.1, hopening.trans h.2.2.1, h.2.2.2⟩
  | comment content => exact h
  | documentType content => trivial

theorem inside_unified (h : Inside around last ps) : Inside around (last.map Piece.unified) (ps.map Piece.unified) := by
  induction ps generalizing around last with
  | nil => exact h
  | cons p ps ih =>
    obtain ⟨hne, hf, hd, h⟩ := h
    refine ⟨hne, fits_unified hf, fun content he => ?_, ?_⟩
    · cases p <;> first | exact hd _ rfl | cases he
    · rw [after_unified]
      exact ih h

theorem isRegion_unified {region : List Piece} (h : IsRegion region) : IsRegion (region.map Piece.unified) := by
  cases h with
  | void proper isVoid => exact .void (unified_proper proper) isVoid
  | element proper ends holds isInside => exact .element (unified_proper proper) ends holds (inside_unified isInside)

theorem unifyNewlines_piece (hf : p.Fits parent last) (hd : ∀ content, p ≠ .documentType content)
    (hn : ∀ e ∈ parent, Spelled e) : unifyNewlines p.write = p.unified.write := by
  have readable {content : List Char} (h : Readable content) : '\r' ∉ content := fun hm => (h _ hm).2 rfl
  cases p with
  | opening tag =>
    show unifyNewlines (tag.write ++ ['>']) = tag.unified.write ++ ['>']
    rw [unifyNewlines_before _ (by decide), unifyNewlines_write hf.1]
    rfl
  | void tag =>
    show unifyNewlines (tag.write ++ ['/', '>']) = tag.unified.write ++ ['/', '>']
    rw [unifyNewlines_before _ (by decide), unifyNewlines_write hf.1]
    rfl
  | closing name =>
    have hname := control_not_mem_of_spelled (hn name hf.1) (show '\r' ∈ controls by decide)
    exact unifyNewlines_self ('<' :: '/' :: name ++ ['>']) (by simp [hname])
  | text content => exact unifyNewlines_flatMap spells_escapeChar content
  | verbatim content => exact unifyNewlines_self _ (readable hf.1)
  | comment content => exact unifyNewlines_self ("<!--".toList ++ content ++ "-->".toList) (by simp [readable hf.1.1])
  | documentType content => exact absurd rfl (hd content)

theorem nulFree_piece (hf : p.Fits parent last) (hd : ∀ content, p ≠ .documentType content)
    (hn : ∀ e ∈ parent, Spelled e) : NulFree p.write := by
  cases p with
  | opening tag => exact nulFree_append.mpr ⟨nulFree_tag hf.1, by unfold NulFree; decide⟩
  | void tag => exact nulFree_append.mpr ⟨nulFree_tag hf.1, by unfold NulFree; decide⟩
  | closing name =>
    have hname := control_not_mem_of_spelled (hn name hf.1) (show '\x00' ∈ controls by decide)
    show '\x00' ∉ '<' :: '/' :: name ++ ['>']
    simp [hname]
  | text content => exact fun hm => hf.1 ((mem_flatMap_spelled spells_escapeChar (by decide)).mp hm)
  | verbatim content => exact nulFree_of_readable hf.1
  | comment content =>
    show '\x00' ∉ "<!--".toList ++ content ++ "-->".toList
    have hcontent : '\x00' ∉ content := nulFree_of_readable hf.1.1
    simp [hcontent]
  | documentType content => exact absurd rfl (hd content)

/-- A line ending does not stand across two pieces: no text comes behind a text. -/
theorem apart_of_follows (hf : p.Fits around.head? last) (hd : ∀ content, p ≠ .documentType content)
    (h : Follows (p.after around) (some p) ps) : p.write.getLast? = some '\r' → (write ps).head? ≠ some '\n' := by
  intro hl
  have noReturn (front : List Char) (he : (front ++ ['>']).getLast? = some '\r') : False := by
    rw [List.getLast?_concat] at he
    exact absurd (Option.some.inj he) (by decide)
  cases p with
  | opening tag => exact (noReturn _ hl).elim
  | void tag => exact (noReturn (tag.write ++ ['/']) (by rw [List.append_assoc]; exact hl)).elim
  | closing name => exact (noReturn _ hl).elim
  | text content =>
    cases ps with
    | nil => exact nofun
    | cons q ps =>
      cases q with
      | text content => exact nomatch h.1.2.2.1
      | verbatim content => exact nomatch h.1.2.2.1
      | documentType content => exact absurd rfl (h.2.1 content)
      | _ => exact fun hh => absurd (Option.some.inj hh) (by decide)
  | verbatim content => exact absurd rfl (hf.1 '\r' (List.mem_of_getLast? hl)).2
  | comment content =>
    exact (noReturn ("<!--".toList ++ content ++ ['-', '-']) (by rw [List.append_assoc]; exact hl)).elim
  | documentType content => exact absurd rfl (hd content)

/-- By induction on the pieces. -/
theorem unifyNewlines_pieces (hn : Nest around) (h : Follows around last ps) :
    unifyNewlines (write ps) = write (ps.map Piece.unified) ∧ NulFree (write ps) := by
  induction ps generalizing around last with
  | nil => exact ⟨rfl, List.not_mem_nil⟩
  | cons p ps ih =>
    obtain ⟨hf, hd, h⟩ := h
    have names : ∀ e ∈ around.head?, Spelled e := fun e he => (hn.names e (List.mem_of_mem_head? he)).1
    obtain ⟨hu, hfree⟩ := ih (nest_after hn hf) h
    constructor
    · show unifyNewlines (p.write ++ write ps) = p.unified.write ++ write (ps.map Piece.unified)
      rw [unifyNewlines_append _ _ (apart_of_follows hf hd h), unifyNewlines_piece hf hd names, hu]
    · exact nulFree_append.mpr ⟨nulFree_piece hf hd names, hfree⟩

end

/-! ## The page around a region -/

section
variable {region : List Piece}

theorem readable_eq {rest : List Char} (h : NulFree ('<' :: rest)) :
    readable ('<' :: rest) = unifyNewlines ('<' :: rest) := by
  unfold readable
  dsimp only
  split
  · next cs hm => exact absurd (List.cons.inj hm).1 (by decide)
  refine (List.map_congr_left fun c hc => if_neg ?_).trans (List.map_id _)
  rintro rfl
  exact h ((mem_unifyNewlines_iff (by decide) (by decide)).mp hc)

theorem pageAround_eq (body : List Char) : ∃ rest, pageAround body = '<' :: rest := by
  have hhead : "<html><body>".toList.head? = some '<' := by decide
  obtain ⟨front, hfront⟩ := List.head?_eq_some_iff.mp hhead
  have hopen : "<html><body>".toList ++ body = '<' :: (front ++ body) := congrArg (· ++ body) hfront
  exact ⟨_, congrArg (· ++ "</body></html>".toList) hopen⟩

theorem return_mem_pageOf {ps : List Piece} : '\r' ∈ write (pageOf ps) ↔ '\r' ∈ write ps := by
  have hfront : '\r' ∉ "<html><body>".toList := by decide
  have hback : '\r' ∉ "</body></html>".toList := by decide
  rw [write_pageOf, List.mem_append, List.mem_append, or_iff_left hback, or_iff_right hfront]

theorem map_unified_pageOf (ps : List Piece) : (pageOf ps).map Piece.unified = pageOf (ps.map Piece.unified) := by
  simp [pageOf, Piece.unified, Tag.unified]

theorem readable_pageAround (h : IsRegion region) :
    readable (pageAround (write region)) = unifyNewlines (write (pageOf region)) := by
  have hnest : Nest [] := ⟨fun _ he => absurd he List.not_mem_nil, fun _ he => absurd he List.not_mem_nil⟩
  have hpage : write (pageOf region) = pageAround (write region) := write_pageOf region
  obtain ⟨-, hn⟩ := unifyNewlines_pieces hnest (follows_pageOf h).1
  obtain ⟨rest, hrest⟩ := pageAround_eq (write region)
  rw [hpage, hrest] at hn ⊢
  exact readable_eq hn

theorem unifyNewlines_pageOf (h : IsRegion region) :
    unifyNewlines (write (pageOf region)) = write (pageOf (region.map Piece.unified)) := by
  have hnest : Nest [] := ⟨fun _ he => absurd he List.not_mem_nil, fun _ he => absurd he List.not_mem_nil⟩
  rw [(unifyNewlines_pieces hnest (follows_pageOf h).1).1, map_unified_pageOf]

theorem tokens_pageAround (h : IsRegion region) :
    tokens (pageAround (write region)) = tokensIn [] (pageOf (region.map Piece.unified)) := by
  obtain ⟨hf, hclosed⟩ := follows_pageOf (isRegion_unified h)
  rw [tokens, readable_pageAround h, unifyNewlines_pageOf h]
  exact finish_write hf hclosed

/-- Without carriage returns the region is read as it was written. -/
theorem tokens_pageAround_self (h : IsRegion region) (hr : '\r' ∉ write region) :
    tokens (pageAround (write region)) = tokensIn [] (pageOf region) := by
  obtain ⟨hf, hclosed⟩ := follows_pageOf h
  have hpage : '\r' ∉ write (pageOf region) := by
    rw [return_mem_pageOf]
    exact hr
  rw [tokens, readable_pageAround h, unifyNewlines_self _ hpage]
  exact finish_write hf hclosed

theorem return_not_mem_unified (h : IsRegion region) : '\r' ∉ write (region.map Piece.unified) := by
  rw [← return_mem_pageOf, ← unifyNewlines_pageOf h]
  exact return_not_mem_unifyNewlines _

end

end ZigDecls.Markup
