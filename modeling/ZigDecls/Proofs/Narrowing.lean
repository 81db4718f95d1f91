import ZigDecls.Proofs.FrameTags
import ZigDecls.Proofs.WrittenLines

/-!
# Narrowing a page twice

The page that a well-formed page is narrowed to is well-formed too. Narrowing it again gives the same page
where each piece of the region is read back as it was written (`Piece.Keeps`), and not otherwise.
-/

namespace ZigDecls.Markup
open Text

/-! ## What is kept -/

/-- White space in these elements that is settled, or stands where it is left as it is. -/
def KeepsBlank (around : List (List Char)) (content : List Char) : Prop :=
  (∀ c ∈ content, isSpace c = true) → content = ['\n'] ∨ content = [' '] ∨ around.any (isIn preservingNames) = true

/-- A piece in these elements that is the same when it is written and read back. -/
def Piece.Keeps (around : List (List Char)) : Piece → Prop
  | .text content => (staysEscaped around.head? = true → ∀ c ∈ content, c ≠ '&' ∧ c ≠ '<' ∧ c ≠ '>') ∧
      KeepsBlank around content
  | .verbatim content | .comment content => KeepsBlank around content
  | _ => True

def AllKeep (around : List (List Char)) : List Piece → Prop
  | [] => True
  | p :: ps => p.Keeps around ∧ AllKeep (p.after around) ps

section
variable {around outer : List (List Char)} {content : List Char} {p : Piece} {ps : List Piece} {last : Option Piece}

theorem settleSpace_eq_self_iff : settleSpace content = content ↔
    ((∀ c ∈ content, isSpace c = true) → content = ['\n'] ∨ content = [' ']) := by
  constructor
  · intro h hall
    unfold settleSpace at h
    rw [if_pos (List.all_eq_true.mpr hall)] at h
    split at h
    · exact .inl h.symm
    · exact .inr h.symm
  · intro h
    unfold settleSpace
    split
    · next hall =>
      rcases h (List.all_eq_true.mp hall) with rfl | rfl
      · rfl
      · rfl
    · rfl

theorem settleIn_eq_self_iff : settleIn around content = content ↔ KeepsBlank around content := by
  unfold settleIn KeepsBlank
  split
  · next h => simp [h]
  · next h => simp [settleSpace_eq_self_iff, h]

theorem settleIn_cases (around : List (List Char)) (content : List Char) : settleIn around content = content ∨
    (∀ c ∈ content, isSpace c = true) ∧ (settleIn around content = ['\n'] ∨ settleIn around content = [' ']) := by
  unfold settleIn
  split
  · exact .inl rfl
  · exact settleSpace_cases content

/-- What is blank has no references in it. -/
theorem escape_eq_self_of_blank (h : ∀ c ∈ escape content, isSpace c = true) : escape content = content := by
  refine escape_eq_self_iff.mpr fun c hc => ?_
  obtain ⟨-, plain⟩ | ⟨name, -, he⟩ := escapeChar_cases c
  · exact plain
  · have hm : '&' ∈ escape content := List.mem_flatMap.mpr ⟨c, hc, by
      show '&' ∈ escapeChar c
      rw [he]
      exact List.mem_cons_self⟩
    exact absurd (h _ hm) (by decide)

theorem settleIn_escape_eq_iff : settleIn around (escape content) = content ↔
    (∀ c ∈ content, c ≠ '&' ∧ c ≠ '<' ∧ c ≠ '>') ∧ KeepsBlank around content := by
  rw [← escape_eq_self_iff, ← settleIn_eq_self_iff]
  constructor
  · intro h
    have he : escape content = content := by
      rcases settleIn_cases around (escape content) with hs | ⟨hblank, -⟩
      · exact hs.symm.trans h
      · exact escape_eq_self_of_blank hblank
    rw [he] at h
    exact ⟨he, h⟩
  · rintro ⟨he, hs⟩
    rw [he, hs]

theorem again_eq_self (hs : p.Settled) (hk : p.Keeps around) : p.again around = p := by
  cases p with
  | opening tag => exact congrArg Piece.opening hs
  | void tag => exact congrArg Piece.void hs
  | text content =>
    obtain ⟨hplain, hblank⟩ := hk
    refine congrArg Piece.text ?_
    split
    · next hesc => exact settleIn_escape_eq_iff.mpr ⟨hplain hesc, hblank⟩
    · exact settleIn_eq_self_iff.mpr hblank
  | verbatim content => exact congrArg Piece.verbatim (settleIn_eq_self_iff.mpr hk)
  | comment content => exact congrArg Piece.comment (settleIn_eq_self_iff.mpr hk)
  | _ => rfl

theorem againIn_eq_self (hs : ∀ p ∈ ps, p.Settled) (hk : AllKeep around ps) : againIn around ps = ps := by
  induction ps generalizing around with
  | nil => rfl
  | cons p ps ih =>
    obtain ⟨hp, hs⟩ := List.forall_mem_cons.mp hs
    rw [againIn, again_eq_self hp hk.1, ih hs hk.2]

/-- A piece that is read back as the same token is kept. -/
theorem keeps_of_token
    (h : (p.again around).token (around ++ bodyElements).head? = p.token (around ++ bodyElements).head?) :
    p.Keeps around := by
  cases p with
  | text content =>
    unfold Piece.again Piece.token at h
    dsimp only at h
    rw [staysEscaped_body] at h
    split at h
    · next hesc =>
      obtain ⟨hplain, hblank⟩ := settleIn_escape_eq_iff.mp (escape_injective (Token.text.inj h))
      exact ⟨fun _ => hplain, hblank⟩
    · next hno => exact ⟨fun hesc => absurd hesc hno, settleIn_eq_self_iff.mp (Token.text.inj h)⟩
  | verbatim content => exact settleIn_eq_self_iff.mp (Token.text.inj h)
  | comment content => exact settleIn_eq_self_iff.mp (Token.comment.inj h)
  | _ => trivial

theorem after_again (p : Piece) (around outer : List (List Char)) : (p.again around).after outer = p.after outer := by
  cases p <;> rfl

theorem allKeep_of_tokens (hi : Inside around last ps)
    (h : tokensIn (around ++ bodyElements) (againIn around ps) = tokensIn (around ++ bodyElements) ps) :
    AllKeep around ps := by
  induction ps generalizing around last with
  | nil => trivial
  | cons p ps ih =>
    obtain ⟨hne, -, -, hi⟩ := hi
    obtain ⟨hp, hps⟩ := List.cons.inj h
    rw [after_again, after_append hne] at hps
    exact ⟨keeps_of_token hp, ih hi hps⟩

end

/-! ## The region in the page around it -/

section
variable {around own : List (List Char)} {last : Option Piece} {ps region : List Piece} {id : List Char}

theorem closesAll_tokensIn (h : Follows around last ps) (hclosed : leftOpen around ps = []) :
    closesAll around (tokensIn around ps) = true := by
  induction ps generalizing around last with
  | nil =>
    obtain rfl : around = [] := hclosed
    rfl
  | cons p ps ih =>
    obtain ⟨hf, hd, h⟩ := h
    have hrest : closesAll (p.after around) (tokensIn (p.after around) ps) = true := ih h hclosed
    cases p with
    | opening tag =>
      obtain ⟨-, ends, holds, -⟩ := hf
      show closesAll around (.opening tag false :: _) = true
      rw [closesAll, ends, holds]
      exact hrest
    | void tag =>
      have ends : isIn ["plaintext"] tag.name = false :=
        forall_of_isIn (P := fun name => isIn ["plaintext"] name = false) (by decide) hf.2.1
      show closesAll around (.opening tag true :: _) = true
      rw [closesAll, ends]
      exact hrest
    | closing name =>
      show closesAll around (.closing name :: _) = true
      rw [closesAll, hf.1, beq_self_eq_true, Bool.true_and]
      exact hrest
    | documentType content => exact absurd rfl (hd content)
    | _ => exact hrest

/-- What a page is narrowed to is well-formed again. -/
theorem wellFormed_pageAround (h : IsRegion region) : WellFormed (pageAround (write region)) := by
  obtain ⟨hf, hclosed⟩ := follows_pageOf (isRegion_unified h)
  have hall := closesAll_tokensIn hf hclosed
  rw [WellFormed, tokens_pageAround h]
  exact hall

theorem takeElements_again (h : Inside own last ps) (rest : List Piece) :
    takeElements own.length (againIn own ps ++ rest) = againIn own ps := by
  induction ps generalizing own last with
  | nil =>
    obtain rfl : own = [] := h
    exact takeElements_zero rest
  | cons p ps ih =>
    obtain ⟨hne, -, -, h⟩ := h
    obtain ⟨e, es, rfl⟩ := List.exists_cons_of_ne_nil hne
    cases p with
    | _ => exact congrArg (_ :: ·) (ih h)

/-- The region laid again is the one with the id, as its first tag is the same. -/
theorem findRegion?_again (h : IsRegion region) (hs : ∀ p ∈ region, p.Settled)
    (hb : region.head?.any (Piece.bears id) = true) :
    findRegion? id (pageOf (againIn [] region)) = some (againIn [] region) := by
  refine findRegion?_eq_some.mpr ?_
  have hfront : ∀ p ∈ ([.opening ⟨"html".toList, []⟩, .opening ⟨"body".toList, []⟩] : List Piece), p.bears id = false :=
    List.forall_mem_cons.mpr ⟨rfl, List.forall_mem_singleton.mpr rfl⟩
  cases h with
  | @void tag proper isVoid =>
    have hsettled : tag.settled = tag := hs _ List.mem_cons_self
    refine ⟨_, .void tag.settled, _, rfl, hfront, ?_, rfl⟩
    rw [hsettled]
    exact hb
  | @element tag inside proper ends holds isInside =>
    have hsettled : tag.settled = tag := hs _ List.mem_cons_self
    refine ⟨_, .opening tag.settled, _, rfl, hfront, ?_, ?_⟩
    · rw [hsettled]
      exact hb
    · exact congrArg (_ :: ·) (takeElements_again isInside _).symm

def Token.Inner : Token → Prop
  | .opening tag _ => isIn pageNames tag.name = false
  | _ => True

theorem inner_iff_tokens : (∀ p ∈ ps, p.Inner) ↔ ∀ t ∈ tokensIn around ps, t.Inner := by
  induction ps generalizing around with
  | nil => exact ⟨fun _ _ h => absurd h List.not_mem_nil, fun _ _ h => absurd h List.not_mem_nil⟩
  | cons p ps ih =>
    rw [tokensIn, List.forall_mem_cons, List.forall_mem_cons, ih]
    refine and_congr_left' ?_
    cases p <;> exact Iff.rfl

/-- Regions that are written alike are read alike. -/
theorem tokensIn_eq_of_write {other : List Piece} (h : IsRegion region) (ho : IsRegion other)
    (hw : write region = write other) : tokensIn bodyElements region = tokensIn bodyElements other := by
  have hpages : write (pageOf region) = write (pageOf other) := by rw [write_pageOf, write_pageOf, hw]
  have hread : tokensIn [] (pageOf region) = tokensIn [] (pageOf other) := by
    rw [← finish_write (follows_pageOf h).1 (follows_pageOf h).2, hpages,
      finish_write (follows_pageOf ho).1 (follows_pageOf ho).2]
  rw [tokensIn_pageOf h, tokensIn_pageOf ho] at hread
  exact List.append_cancel_right (List.append_cancel_left hread)

end

/-! ## Carriage returns -/

section
variable {around : List (List Char)} {content : List Char} {tag : Tag} {p : Piece} {ps : List Piece}

theorem return_mem_settleIn (h : '\r' ∈ settleIn around content) : '\r' ∈ content := by
  rcases settleIn_cases around content with he | ⟨-, he | he⟩
  · rwa [he] at h
  · rw [he] at h
    exact absurd h (by decide)
  · rw [he] at h
    exact absurd h (by decide)

theorem return_mem_settled (h : '\r' ∈ tag.settled.write) : '\r' ∈ tag.write := by
  have hc : '\r' ∈ controls := by decide
  rw [Tag.write, List.mem_append] at h ⊢
  refine h.imp_right fun h => ?_
  obtain ⟨a, ha, hm⟩ := List.mem_flatMap.mp h
  obtain ⟨value, hv, he⟩ := mem_settled.mp ha
  refine List.mem_flatMap.mpr ⟨(a.1, value), (not_seen_of_mem_firstOfEach hv).2, (control_mem_writeAttribute hc).mpr ?_⟩
  refine ((control_mem_writeAttribute hc).mp hm).imp_right fun hm => ?_
  rw [← he] at hm
  exact (mem_settleValue hm).resolve_right (by decide)

theorem return_mem_again (h : '\r' ∈ (p.again around).write) : '\r' ∈ p.write := by
  have escaped {content : List Char} : '\r' ∈ escape content ↔ '\r' ∈ content :=
    mem_flatMap_spelled spells_escapeChar (by decide)
  cases p with
  | opening tag => exact List.mem_append.mpr ((List.mem_append.mp h).imp_left return_mem_settled)
  | void tag => exact List.mem_append.mpr ((List.mem_append.mp h).imp_left return_mem_settled)
  | text content =>
    have hm := return_mem_settleIn (escaped.mp h)
    split at hm
    · exact hm
    · exact escaped.mpr hm
  | verbatim content => exact return_mem_settleIn h
  | comment content =>
    have h : '\r' ∈ "<!--".toList ++ settleIn around content ++ "-->".toList := h
    show '\r' ∈ "<!--".toList ++ content ++ "-->".toList
    simp only [List.mem_append] at h ⊢
    exact h.imp_left (Or.imp_right return_mem_settleIn)
  | _ => exact h

theorem return_mem_againIn (h : '\r' ∈ write (againIn around ps)) : '\r' ∈ write ps := by
  induction ps generalizing around with
  | nil => cases h
  | cons p ps ih => exact List.mem_append.mpr ((List.mem_append.mp h).imp return_mem_again ih)

end

/-! ## The second selection -/

theorem narrowToElement_eq_ok {page id out : List Char} : narrowToElement page id = .ok out ↔
    ∃ region, findRegion? id (pieces (tokens page)) = some region ∧ out = pageAround (write region) := by
  unfold narrowToElement
  split
  · next h => simp [h]
  · next region h => simp [h, eq_comm]

theorem exists_findRegion? {ps : List Piece} {id : List Char} (h : ∃ p ∈ ps, p.bears id = true) :
    ∃ region, findRegion? id ps = some region := by
  obtain ⟨p, hp, hbears⟩ := h
  unfold findRegion?
  split
  · next hnil => exact absurd hbears (by simpa using List.dropWhile_eq_nil_iff.mp hnil p hp)
  · exact ⟨_, rfl⟩

theorem narrow_some {page : List Char} {id : String} (hid : id ≠ "") :
    narrow page (some id) = narrowToElement page id.toList := by
  unfold narrow
  split
  · next h => cases h
  · next h => exact absurd (Option.some.inj h) hid
  · next h => cases h; rfl

theorem pageAround_injective {cs ds : List Char} (h : pageAround cs = pageAround ds) : cs = ds :=
  List.append_cancel_left (List.append_cancel_right h)

section
variable {region second : List Piece} {id : List Char}

/-- Where all is kept, the region is found again. -/
theorem findRegion?_of_kept (h : IsRegion region) (hs : ∀ p ∈ region, p.Settled)
    (hb : region.head?.any (Piece.bears id) = true) (hr : '\r' ∉ write region) (hin : ∀ p ∈ region, p.Inner)
    (hk : AllKeep [] region) : findRegion? id (pieces (tokens (pageAround (write region)))) = some region := by
  have hfound := findRegion?_again h hs hb
  rw [againIn_eq_self hs hk] at hfound
  rw [tokens_pageAround_self h hr, pieces_pageOf h hin, againIn_eq_self hs hk, hfound]

/-- No tag of the frame stands in what is found in the page around a region. -/
theorem inner_of_findRegion? (h : IsRegion region)
    (hf : findRegion? id (pieces (tokens (pageAround (write region)))) = some second) : ∀ p ∈ second, p.Inner := by
  have hno : NoneFrom (¬·.Inner) id _ := noFrameTags (isRegion_unified h)
  obtain ⟨front, q, rest, hps, -, hq, rfl⟩ := findRegion?_eq_some.mp hf
  rw [← tokens_pageAround h, hps, List.reverse_append, List.reverse_cons, List.append_assoc,
    List.singleton_append] at hno
  exact fun p hp => not_not.mp (not_kind_of_noneFrom hno hq p (mem_firstElement hp))

theorem return_not_mem_findRegion? (h : IsRegion region) (hin : ∀ p ∈ region, p.Inner)
    (hf : findRegion? id (pieces (tokens (pageAround (write region)))) = some second) : '\r' ∉ write second := by
  have hinner : ∀ p ∈ region.map Piece.unified, p.Inner := by
    intro p hp
    obtain ⟨q, hq, rfl⟩ := List.mem_map.mp hp
    have hq := hin q hq
    cases q <;> exact hq
  obtain ⟨front, q, rest, hps, -, -, rfl⟩ := findRegion?_eq_some.mp hf
  rw [tokens_pageAround h, pieces_pageOf (isRegion_unified h) hinner] at hps
  intro hm
  obtain ⟨p, hp, hm⟩ := List.mem_flatMap.mp hm
  have hwhole : '\r' ∈ write (pageOf (againIn [] (region.map Piece.unified))) :=
    List.mem_flatMap.mpr ⟨p, hps ▸ List.mem_append_right front (mem_firstElement hp), hm⟩
  exact return_not_mem_unified h (return_mem_againIn (return_mem_pageOf.mp hwhole))

/-- A region that is found again as it was written is kept. -/
theorem kept_of_findRegion? (h : IsRegion region) (hs : ∀ p ∈ region, p.Settled)
    (hb : region.head?.any (Piece.bears id) = true)
    (hf : findRegion? id (pieces (tokens (pageAround (write region)))) = some second)
    (hw : write second = write region) :
    '\r' ∉ write region ∧ (∀ p ∈ region, p.Inner) ∧ AllKeep [] region := by
  have hsecond := (region_of_wellFormed (wellFormed_pageAround h) hf).1
  -- both regions are read back from the same markup, each as its own tokens
  have htokens := tokensIn_eq_of_write hsecond h hw
  have hin : ∀ p ∈ region, p.Inner :=
    inner_iff_tokens.mpr (htokens ▸ inner_iff_tokens.mp (inner_of_findRegion? h hf))
  have hr : '\r' ∉ write region := hw ▸ return_not_mem_findRegion? h hin hf
  refine ⟨hr, hin, ?_⟩
  -- without carriage returns what is found is the region laid again, piece by piece
  rw [tokens_pageAround_self h hr, pieces_pageOf h hin, findRegion?_again h hs hb] at hf
  obtain rfl := Option.some.inj hf
  cases h with
  | void proper isVoid => exact ⟨trivial, trivial⟩
  | element proper ends holds isInside => exact ⟨trivial, allKeep_of_tokens isInside (List.cons.inj htokens).2⟩

end

def Piece.isNamed (names : List String) : Piece → Bool
  | .opening tag | .void tag => isIn names tag.name
  | _ => false

/-- What the page is narrowed to is narrowed to itself. -/
def SameTwice (page : List Char) (id : String) : Prop :=
  (narrow page (some id) >>= fun out => narrow out (some id)) = narrow page (some id)

instance (page : List Char) (id : String) : Decidable (SameTwice page id) := inferInstanceAs (Decidable (_ = _))

/-- A well-formed page is narrowed to an element that it has, and that page to itself exactly where the
element is kept: no carriage return is in it, no element of the frame of a page, no text that stays escaped,
and no white space that only an element around it has left as it is. -/
theorem sameTwice_iff_kept {page : List Char} (hp : WellFormed page) {id : String} (hid : id ≠ "")
    (hb : ∃ p ∈ pieces (tokens page), p.bears id.toList = true) :
    ∃ region, findRegion? id.toList (pieces (tokens page)) = some region ∧
      narrow page (some id) = .ok (pageAround (write region)) ∧
      (SameTwice page id ↔ '\r' ∉ write region ∧ (∀ p ∈ region, p.Inner) ∧ AllKeep [] region) := by
  obtain ⟨region, hf⟩ := exists_findRegion? hb
  obtain ⟨hregion, hbears, hs⟩ := region_of_wellFormed hp hf
  have honce : narrow page (some id) = .ok (pageAround (write region)) := by
    rw [narrow_some hid]
    exact narrowToElement_eq_ok.mpr ⟨region, hf, rfl⟩
  have htwice : SameTwice page id ↔ narrow (pageAround (write region)) (some id) = .ok (pageAround (write region)) := by
    rw [SameTwice, honce]
    rfl
  refine ⟨region, hf, honce, ?_⟩
  rw [htwice, narrow_some hid, narrowToElement_eq_ok]
  constructor
  · rintro ⟨second, hsecond, he⟩
    exact kept_of_findRegion? hregion hs hbears hsecond (pageAround_injective he).symm
  · rintro ⟨hr, hin, hk⟩
    exact ⟨region, findRegion?_of_kept hregion hs hbears hr hin hk, rfl⟩

theorem sameTwice_paragraph : WellFormed "<html><body><p id=\"r\">a<br/></p></body></html>".toList ∧
    ∃ region, findRegion? "r".toList (pieces (tokens "<html><body><p id=\"r\">a<br/></p></body></html>".toList)) =
        some region ∧
      narrow "<html><body><p id=\"r\">a<br/></p></body></html>".toList (some "r") = .ok (pageAround (write region)) ∧
      (SameTwice "<html><body><p id=\"r\">a<br/></p></body></html>".toList "r" ↔
        '\r' ∉ write region ∧ (∀ p ∈ region, p.Inner) ∧ AllKeep [] region) :=
  ⟨by decide +kernel, sameTwice_iff_kept (by decide +kernel) (by decide) (by decide +kernel)⟩

/-- The well-formed page has an element with the id, which is no `html` and no `body`, and is narrowed to
something else the second time. -/
def ChangesAgain (page id : String) : Prop :=
  WellFormed page.toList ∧ (∃ p ∈ pieces (tokens page.toList), p.bears id.toList = true) ∧
    ((findRegion? id.toList (pieces (tokens page.toList))).bind List.head?).any (Piece.isNamed ["html", "body"]) =
      false ∧
    ¬SameTwice page.toList id

instance (page id : String) : Decidable (ChangesAgain page id) := inferInstanceAs (Decidable (_ ∧ _))

/-- The reference to a carriage return is the only one in the page. -/
theorem tokens_return : tokens "<html><body><b id=\"r\">&#13;a</b></body></html>".toList =
    frameTokens ++ [.opening ⟨"b".toList, [("id".toList, "r".toList)]⟩ false, .text ['\r', 'a'], .closing "b".toList,
      .closing "body".toList, .closing "html".toList] := by
  have hread : tokens "<html><body><b id=\"r\">&#13;a</b></body></html>".toList =
      frameTokens ++ [.opening ⟨"b".toList, [("id".toList, resolve .value "r".toList)]⟩ false,
        .text (resolve .text "&#13;a".toList), .closing "b".toList, .closing "body".toList,
          .closing "html".toList] := by
    with_unfolding_all rfl
  have hvalue : resolve .value "r".toList = "r".toList := by decide +kernel
  have hreference : reference? .text "#13;a".toList = some (['\r'], ['a']) := by decide +kernel
  have hrest : resolve .text ['a'] = ['a'] := by decide +kernel
  have htext : resolve .text "&#13;a".toList = ['\r', 'a'] := (resolve_reference hreference).trans (congrArg _ hrest)
  rw [hread, hvalue]
  exact congrArg (fun text => frameTokens ++ [_, Token.text text, _, _, _]) htext

/-- A carriage return becomes a line feed, a `head` is no part of a body, the text of an `iframe` is escaped
again, and the spaces that a `pre` around the element has kept become one. -/
theorem changesAgain : ChangesAgain "<html><body><b id=\"r\">&#13;a</b></body></html>" "r" ∧
    ChangesAgain "<html><head id=\"r\"></head><body></body></html>" "r" ∧
    ChangesAgain "<html><body><iframe id=\"r\">&amp;</iframe></body></html>" "r" ∧
    ChangesAgain "<html><body><pre><b id=\"r\">  </b></pre></body></html>" "r" := by
  have honce : narrow "<html><body><b id=\"r\">&#13;a</b></body></html>".toList (some "r") =
      .ok "<html><body><b id=\"r\">\ra</b></body></html>".toList := by
    rw [narrow_some (by decide), narrowToElement, tokens_return]
    decide +kernel
  refine ⟨⟨?_, ?_, ?_, ?_⟩, by decide +kernel, by decide +kernel, by decide +kernel⟩
  · rw [WellFormed, tokens_return]
    decide +kernel
  · rw [tokens_return]
    decide +kernel
  · rw [tokens_return]
    decide +kernel
  · rw [SameTwice, honce]
    decide +kernel

end ZigDecls.Markup
