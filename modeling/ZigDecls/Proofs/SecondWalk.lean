import ZigDecls.Proofs.WrittenMarkup

/-!
# Walking over what was written

In the body of a page that holds nothing else, the walk lays each piece that was read back again in its
place: tags are settled, and blank texts too, unless an element around them keeps them
(`walks_step`, `pieces_pageOf`).
-/

namespace ZigDecls.Markup

/-! ## Pieces laid again -/

def settleIn (around : List (List Char)) (content : List Char) : List Char :=
  if around.any (isIn preservingNames) then content else settleSpace content

/-- What a piece in these elements becomes when it is written and read back. -/
def Piece.again (around : List (List Char)) : Piece → Piece
  | .opening tag => .opening tag.settled
  | .void tag => .void tag.settled
  | .text content => .text (settleIn around (if staysEscaped around.head? then escape content else content))
  | .verbatim content => .verbatim (settleIn around content)
  | .comment content => .comment (settleIn around content)
  | .closing name => .closing name
  | .documentType content => .documentType content

def againIn (around : List (List Char)) : List Piece → List Piece
  | [] => []
  | p :: ps => p.again around :: againIn (p.after around) ps

def bodyElements : List (List Char) := ["body".toList, "html".toList]

/-- The walk is in the body behind a piece, and has laid these pieces. -/
structure Walks (around : List (List Char)) (last : Option Piece) (s : Nesting) (ps : List Piece) : Prop where
  elements : s.elements = around ++ bodyElements
  hasBody : s.hasBody = true
  passed : s.passed = 0
  pieces : s.endText.pieces = ps
  run : last.any Piece.isText = false → s.run = []
  opened : ps.head?.any Piece.isOpening = true → last.any Piece.isOpening = true

def Piece.Inner : Piece → Prop
  | .opening tag | .void tag => isIn pageNames tag.name = false
  | _ => True

section
variable {around : List (List Char)} {last : Option Piece} {s : Nesting} {ps : List Piece} {p : Piece}
  {name content : List Char} {tag : Tag}

theorem endBefore_eq_self (h : ∀ e ∈ s.elements.head?, endsBefore name e = false) : s.endBefore name = s := by
  have hnone : s.elements.takeWhile (endsBefore name) = [] := by
    cases he : s.elements with
    | nil => rfl
    | cons e es =>
      rw [he] at h
      rw [List.takeWhile_cons, h e rfl]
      rfl
  rw [Nesting.endBefore, hnone]
  rfl

theorem prepare_eq_self (hb : s.hasBody = true) (hl : 2 ≤ s.elements.length) (name : List Char) :
    s.prepare name = s := by
  have hne : s.elements.isEmpty = false := by
    cases he : s.elements with
    | nil =>
      rw [he] at hl
      cases hl
    | cons e es => rfl
  have hlong : ¬s.elements.length ≤ 1 := by omega
  simp only [Nesting.prepare, hne, hb, hlong, Bool.false_eq_true, if_false, if_true, decide_false, Bool.and_false,
    Bool.true_or, ite_self]

theorem endsBefore_body (name : List Char) : endsBefore name "body".toList = false := by
  have none : ∀ e ∈ endings, (e.1.toList == "body".toList) = false := by decide
  refine List.any_eq_false.mpr fun e he => ?_
  rw [none e he]
  simp

theorem settle_eq (hw : Walks around last s ps) (content : List Char) : s.settle content = settleIn around content := by
  have hnone : bodyElements.any (isIn preservingNames) = false := by decide
  rw [Nesting.settle, settleIn, hw.elements, List.any_append, hnone, Bool.or_false]

theorem frame_endText (s : Nesting) : s.endText.hasBody = s.hasBody ∧ s.endText.passed = s.passed := by
  unfold Nesting.endText
  split <;> exact ⟨rfl, rfl⟩

theorem openTag_eq (hw : Walks around last s ps) (hj : Joins (around ++ bodyElements).head? tag.name)
    (hin : isIn pageNames tag.name = false) (haround : ∀ e ∈ around, isIn pageNames e = false) (closed : Bool) :
    s.openTag tag closed = if closed || isIn emptyNames tag.name then (s.enter tag).leave else s.enter tag := by
  have hends : ∀ e ∈ s.elements.head?, endsBefore tag.name e = false := by
    intro e he
    rw [hw.elements] at he
    cases around with
    | nil =>
      cases he
      exact endsBefore_body tag.name
    | cons a around =>
      obtain rfl : a = e := Option.some.inj he
      rcases hj with hp | hj
      · rw [hin] at hp
        cases hp
      · exact (hj a rfl).resolve_left fun hp => by
          rw [haround a List.mem_cons_self] at hp
          cases hp
  have hlen : 2 ≤ s.elements.length := by
    rw [hw.elements]
    simp [bodyElements]
  unfold Nesting.openTag
  rw [endBefore_eq_self hends, prepare_eq_self hw.hasBody hlen]
  dsimp only
  rw [not_misplaced hin]
  rfl

theorem walks_enter (hw : Walks around last s ps) : Walks (tag.name :: around) (some (.opening tag)) (s.enter tag)
    (.opening tag.settled :: ps) where
  elements := by rw [elements_enter, hw.elements]; rfl
  hasBody := by
    show (s.endText.hasBody || _) = true
    rw [(frame_endText s).1, hw.hasBody, Bool.true_or]
  passed := (frame_endText s).2.trans hw.passed
  pieces := by rw [endText_of_run (run_enter s tag), pieces_enter, hw.pieces]
  run := fun _ => run_enter s tag
  opened := fun _ => rfl

theorem not_opening_close {e : List Char} : (close e ps).head?.any Piece.isOpening = false := by
  unfold close
  split
  · split <;> rfl
  · rfl

theorem walks_leave (hw : Walks (name :: around) last s ps) (next : Piece) :
    Walks around (some next) s.leave (close name ps) := by
  have he : s.elements = name :: (around ++ bodyElements) := hw.elements
  have hrun : s.leave.run = [] := by
    rw [leave_eq he]
    exact run_endText s
  refine ⟨?_, ?_, ?_, ?_, fun _ => hrun, fun h => ?_⟩
  · rw [leave_eq he]
  · rw [leave_eq he]
    exact (frame_endText s).1.trans hw.hasBody
  · rw [leave_eq he]
    exact (frame_endText s).2.trans hw.passed
  · rw [endText_of_run hrun, leave_eq he, hw.pieces]
  · rw [not_opening_close] at h
    cases h

theorem walks_emit (hw : Walks around last s ps) (ho : p.isOpening = false) (next : Piece) :
    Walks around (some next) (s.emit p) (p :: ps) where
  elements := (elements_emit s p).trans hw.elements
  hasBody := (frame_endText s).1.trans hw.hasBody
  passed := (frame_endText s).2.trans hw.passed
  pieces := by rw [endText_of_run (run_emit s p), pieces_emit, hw.pieces]
  run := fun _ => run_emit s p
  opened := fun h => by rw [List.head?_cons, Option.any_some, ho] at h; cases h

theorem walks_push (hw : Walks around last s ps) (hl : last.any Piece.isText = false) (hne : content ≠ [])
    {next : Piece} (ht : next.isText = true) :
    Walks around (some next) (s.push content)
      ((if s.isVerbatim then .verbatim (settleIn around content) else .text (settleIn around content)) :: ps) where
  elements := hw.elements
  hasBody := hw.hasBody
  passed := hw.passed
  pieces := by
    have hrun : (s.push content).run = content := by
      rw [Nesting.push, hw.run hl, List.nil_append]
    have hpieces : (s.push content).pieces = ps := by rw [← hw.pieces, endText_of_run (hw.run hl)]; rfl
    have hsettle : (s.push content).settle content = settleIn around content := settle_eq hw content
    rw [pieces_endText, hrun, if_neg hne, hpieces, hsettle]
    rfl
  run := fun h => by rw [Option.any_some, ht] at h; cases h
  opened := fun h => by
    rw [List.head?_cons, Option.any_some] at h
    split at h <;> cases h

theorem close_eq_closing {e : List Char} (h : ps.head?.any Piece.isOpening = true → isIn voidNames e = false) :
    close e ps = .closing e :: ps := by
  unfold close
  split
  · rw [h rfl]
    rfl
  · rfl

theorem not_text_of_opening (h : last.any Piece.isOpening = true) : last.any Piece.isText = false := by
  cases last with
  | none => rfl
  | some p => cases p <;> first | rfl | cases h

theorem exists_parent (haround : ∀ e ∈ around, isIn pageNames e = false) :
    ∃ e, (around ++ bodyElements).head? = some e ∧ isIn ["html", "head"] e = false := by
  cases around with
  | nil => exact ⟨"body".toList, rfl, by decide⟩
  | cons e around =>
    refine ⟨e, rfl, ?_⟩
    have hno := haround e List.mem_cons_self
    simp only [pageNames, isIn, List.any_cons, List.any_nil, Bool.or_false, Bool.or_eq_false_iff] at hno
    simp only [isIn, List.any_cons, List.any_nil, hno, Bool.or_false]

theorem staysEscaped_body : staysEscaped (around ++ bodyElements).head? = staysEscaped around.head? := by
  cases around with
  | nil => decide
  | cons e around => rfl

theorem walks_text (next : Piece) (verbatim : Bool) (hw : Walks around last s ps)
    (haround : ∀ e ∈ around, isIn pageNames e = false) (hl : last.any Piece.isText = false) (hne : content ≠ [])
    (ht : next.isText = true)
    (hv : ∀ e ∈ (around ++ bodyElements).head?, isIn verbatimNames e = verbatim) :
    Walks around (some next) (s.addText content)
      ((if verbatim then .verbatim (settleIn around content) else .text (settleIn around content)) :: ps) := by
  obtain ⟨e, he, hno⟩ := exists_parent haround
  have hs : s.elements.head? = some e := by rw [hw.elements, he]
  have hvis : s.isVerbatim = verbatim := by
    rw [Nesting.isVerbatim, hs]
    exact hv e he
  rw [addText_eq_push hs hno, ← hvis]
  exact walks_push hw hl hne ht

/-- One token: the piece that it was read from is laid again. -/
theorem walks_step (hw : Walks around last s ps) (hf : p.Fits (around ++ bodyElements).head? last) (hin : p.Inner)
    (haround : ∀ e ∈ around, isIn pageNames e = false) (hd : ∀ content, p ≠ .documentType content)
    (hc : ∀ name, p = .closing name → around ≠ []) :
    Walks (p.after around) (some p) (s.step (p.token (around ++ bodyElements).head?)) (p.again around :: ps) := by
  cases p with
  | opening tag =>
    obtain ⟨-, -, hempty, -, hj⟩ := hf
    show Walks _ _ (s.openTag tag false) _
    rw [openTag_eq hw hj hin haround, hempty]
    exact walks_enter hw
  | void tag =>
    obtain ⟨-, hvoid, -, hj⟩ := hf
    show Walks _ _ (s.openTag tag true) _
    rw [openTag_eq hw hj hin haround]
    have hopen : Walks (tag.name :: around) (some (.opening tag)) (s.enter tag) (.opening tag.settled :: ps) :=
      walks_enter hw
    have hl := walks_leave hopen (.void tag)
    rwa [close_opening, if_pos hvoid] at hl
  | closing name =>
    obtain ⟨hp, hvoid⟩ := hf
    cases around with
    | nil => exact absurd rfl (hc name rfl)
    | cons e around =>
    obtain rfl : e = name := Option.some.inj hp
    have he : s.elements = e :: (around ++ bodyElements) := hw.elements
    show Walks around _ (s.closeTag e) _
    rw [closeTag_eq_leave he (.inl hw.passed)]
    have hl := walks_leave hw (.closing e)
    rwa [close_eq_closing fun h => hvoid (hw.opened h)] at hl
  | text content =>
    obtain ⟨-, hne, hl, hp⟩ := hf
    have hne' : (if staysEscaped around.head? then escape content else content) ≠ [] := by
      split
      · exact escape_ne_nil hne
      · exact hne
    have hw := walks_text (.text content) false hw haround hl hne' rfl fun e he => (hp e he).1
    show Walks _ _ (s.addText (if staysEscaped (around ++ bodyElements).head? then escape content else content)) _
    rwa [staysEscaped_body]
  | verbatim content =>
    obtain ⟨-, hne, hl, e, first, he, hv, -, -⟩ := hf
    refine walks_text (.verbatim content) true hw haround (not_text_of_opening hl) hne rfl fun a ha => ?_
    have ha : a ∈ (around ++ bodyElements).head? := ha
    rw [he] at ha
    cases ha
    exact hv
  | comment content =>
    show Walks _ _ (s.emit (.comment (s.settle content))) _
    rw [settle_eq hw]
    exact walks_emit hw rfl _
  | documentType content => exact absurd rfl (hd content)

/-! ## Whole regions -/

/-- What stands inside an element, up to where it is closed. -/
def Inside (around : List (List Char)) (last : Option Piece) : List Piece → Prop
  | [] => around = []
  | p :: ps => around ≠ [] ∧ p.Fits around.head? last ∧ (∀ content, p ≠ .documentType content) ∧
      Inside (p.after around) (some p) ps

/-- One element with all in it. -/
inductive IsRegion : List Piece → Prop
  | void {tag : Tag} (proper : tag.Proper) (isVoid : isIn voidNames tag.name = true) : IsRegion [.void tag]
  | element {tag : Tag} {inside : List Piece} (proper : tag.Proper) (ends : isIn ["plaintext"] tag.name = false)
      (holds : isIn emptyNames tag.name = false) (isInside : Inside [tag.name] (some (.opening tag)) inside) :
      IsRegion (.opening tag :: inside)

def pageOf (ps : List Piece) : List Piece :=
  .opening ⟨"html".toList, []⟩ :: .opening ⟨"body".toList, []⟩ ::
    (ps ++ [.closing "body".toList, .closing "html".toList])

theorem write_pageOf (ps : List Piece) : write (pageOf ps) =
    "<html><body>".toList ++ write ps ++ "</body></html>".toList := by
  have hfront : write [.opening ⟨"html".toList, []⟩, .opening ⟨"body".toList, []⟩] = "<html><body>".toList := by decide
  have hback : write [.closing "body".toList, .closing "html".toList] = "</body></html>".toList := by decide
  have hparts : pageOf ps = [.opening ⟨"html".toList, []⟩, .opening ⟨"body".toList, []⟩] ++ ps ++
      [.closing "body".toList, .closing "html".toList] := rfl
  rw [hparts, ← hfront, ← hback, write, write, write, write, List.flatMap_append, List.flatMap_append]

theorem after_append (hne : around ≠ []) (p : Piece) (outer : List (List Char)) :
    p.after (around ++ outer) = p.after around ++ outer := by
  obtain ⟨e, es, rfl⟩ := List.exists_cons_of_ne_nil hne
  cases p <;> rfl

/-- The elements around a region do not matter inside it. -/
theorem follows_of_inside {outer : List (List Char)} {rest : List Piece} (hrest : ∀ last, Follows outer last rest)
    (h : Inside around last ps) : Follows (around ++ outer) last (ps ++ rest) := by
  induction ps generalizing around last with
  | nil =>
    obtain rfl : around = [] := h
    exact hrest last
  | cons p ps ih =>
    obtain ⟨hne, hf, hd, h⟩ := h
    refine ⟨?_, hd, ?_⟩
    · obtain ⟨e, es, rfl⟩ := List.exists_cons_of_ne_nil hne
      exact hf
    · rw [after_append hne]
      exact ih h

theorem leftOpen_append (around : List (List Char)) (ps qs : List Piece) :
    leftOpen around (ps ++ qs) = leftOpen (leftOpen around ps) qs := List.foldl_append

theorem leftOpen_inside {outer : List (List Char)} (h : Inside around last ps) :
    leftOpen (around ++ outer) ps = outer := by
  induction ps generalizing around last with
  | nil =>
    obtain rfl : around = [] := h
    rfl
  | cons p ps ih =>
    obtain ⟨hne, -, -, h⟩ := h
    show leftOpen (p.after (around ++ outer)) ps = outer
    rw [after_append hne]
    exact ih h

theorem follows_closings (last : Option Piece) :
    Follows bodyElements last [.closing "body".toList, .closing "html".toList] :=
  ⟨⟨rfl, fun _ => by decide⟩, fun _ h => (nomatch h), ⟨rfl, fun _ => by decide⟩, fun _ h => (nomatch h), trivial⟩

theorem plain_body : Plain bodyElements.head? := plain_some (by decide)

theorem follows_region {region : List Piece} (h : IsRegion region) (last : Option Piece) :
    Follows bodyElements last (region ++ [.closing "body".toList, .closing "html".toList]) ∧
      leftOpen bodyElements region = bodyElements := by
  have joins (name : List Char) : Joins bodyElements.head? name := .inr fun e he => by
    cases he
    exact .inl (by decide)
  cases h with
  | void proper isVoid =>
    exact ⟨⟨⟨proper, isVoid, plain_body, joins _⟩, fun _ h => (nomatch h), follows_closings _⟩, rfl⟩
  | element proper ends holds isInside =>
    exact ⟨⟨⟨proper, ends, holds, plain_body, joins _⟩, fun _ h => (nomatch h),
      follows_of_inside follows_closings isInside⟩, leftOpen_inside isInside⟩

theorem follows_pageOf {region : List Piece} (h : IsRegion region) :
    Follows [] none (pageOf region) ∧ leftOpen [] (pageOf region) = [] := by
  have frame : ∀ n ∈ ["html", "body"], Tag.Proper ⟨n.toList, []⟩ ∧ isIn ["plaintext"] n.toList = false ∧
      isIn emptyNames n.toList = false ∧ isIn pageNames n.toList = true := by
    have names : ∀ n ∈ ["html", "body"], n ∈ ["html", "head", "body", "p"] ∧ isIn ["plaintext"] n.toList = false ∧
      isIn emptyNames n.toList = false ∧ isIn pageNames n.toList = true := by decide
    intro n hn
    obtain ⟨hm, rest⟩ := names n hn
    exact ⟨⟨isName_of_mem n hm, fun _ ha => absurd ha List.not_mem_nil⟩, rest⟩
  obtain ⟨html, hends, hholds, hpage⟩ := frame "html" (by decide)
  obtain ⟨body, bends, bholds, bpage⟩ := frame "body" (by decide)
  obtain ⟨hf, hl⟩ := follows_region h (some (.opening ⟨"body".toList, []⟩))
  constructor
  · exact ⟨⟨html, hends, hholds, fun _ he => (nomatch he), .inl hpage⟩, fun _ h => (nomatch h),
      ⟨body, bends, bholds, plain_some (by decide), .inl bpage⟩, fun _ h => (nomatch h), hf⟩
  · show leftOpen bodyElements (region ++ _) = []
    rw [leftOpen_append, hl]
    rfl

/-! ## The second walk -/

theorem tokensIn_append (around : List (List Char)) (ps qs : List Piece) :
    tokensIn around (ps ++ qs) = tokensIn around ps ++ tokensIn (leftOpen around ps) qs := by
  induction ps generalizing around with
  | nil => rfl
  | cons p ps ih =>
    show _ :: tokensIn (p.after around) (ps ++ qs) = _ :: (tokensIn (p.after around) ps ++ _)
    rw [ih]
    rfl

def frameTokens : List Token := [.opening ⟨"html".toList, []⟩ false, .opening ⟨"body".toList, []⟩ false]

theorem tokensIn_pageOf {region : List Piece} (h : IsRegion region) : tokensIn [] (pageOf region) =
    frameTokens ++ (tokensIn bodyElements region ++ [.closing "body".toList, .closing "html".toList]) := by
  show _ :: _ :: tokensIn bodyElements (region ++ _) = _
  rw [tokensIn_append, (follows_region h none).2]
  rfl

theorem inner_after (haround : ∀ e ∈ around, isIn pageNames e = false) (hin : p.Inner) :
    ∀ e ∈ p.after around, isIn pageNames e = false := by
  cases p with
  | opening tag => exact List.forall_mem_cons.mpr ⟨hin, haround⟩
  | closing name => exact fun e he => haround e (List.mem_of_mem_tail he)
  | _ => exact haround

theorem fits_body (hne : around ≠ []) (hf : p.Fits around.head? last) : p.Fits (around ++ bodyElements).head? last := by
  obtain ⟨e, es, rfl⟩ := List.exists_cons_of_ne_nil hne
  exact hf

/-- By induction on the pieces. -/
theorem walks_inside {qs : List Piece} (hw : Walks around last s ps) (h : Inside around last qs)
    (hin : ∀ p ∈ qs, p.Inner) (haround : ∀ e ∈ around, isIn pageNames e = false) :
    ∃ last', Walks [] last' ((tokensIn (around ++ bodyElements) qs).foldl Nesting.step s)
      ((againIn around qs).reverse ++ ps) := by
  induction qs generalizing around last s ps with
  | nil =>
    obtain rfl : around = [] := h
    exact ⟨last, hw⟩
  | cons q qs ih =>
    obtain ⟨hne, hf, hd, h⟩ := h
    obtain ⟨hq, hin⟩ := List.forall_mem_cons.mp hin
    obtain ⟨last', hl⟩ := ih (walks_step hw (fits_body hne hf) hq haround hd fun _ _ => hne)
      h hin (inner_after haround hq)
    refine ⟨last', ?_⟩
    show Walks [] last' ((tokensIn (q.after (around ++ bodyElements)) qs).foldl _ _)
      ((_ :: againIn (q.after around) qs).reverse ++ ps)
    rw [after_append hne, List.reverse_cons, List.append_assoc]
    exact hl

/-- A region is walked over in the body, and laid there again. -/
theorem walks_region {region : List Piece} (h : IsRegion region) (hw : Walks [] last s ps)
    (hin : ∀ p ∈ region, p.Inner) :
    ∃ last', Walks [] last' ((tokensIn bodyElements region).foldl Nesting.step s)
      ((againIn [] region).reverse ++ ps) := by
  have hf := (follows_region h last).1
  have hno : ∀ e ∈ ([] : List (List Char)), isIn pageNames e = false := fun e he => absurd he List.not_mem_nil
  cases h with
  | void proper isVoid => exact ⟨_, walks_step hw hf.1 (hin _ List.mem_cons_self) hno hf.2.1 fun _ h => (nomatch h)⟩
  | @element tag inside proper ends holds isInside =>
    obtain ⟨htag, hin⟩ := List.forall_mem_cons.mp hin
    have hopen := walks_step hw hf.1 htag hno hf.2.1 fun _ h => (nomatch h)
    obtain ⟨last', hl⟩ := walks_inside hopen isInside hin (inner_after hno htag)
    refine ⟨last', ?_⟩
    show Walks [] last' _ ((_ :: againIn [tag.name] inside).reverse ++ ps)
    rw [List.reverse_cons, List.append_assoc]
    exact hl

theorem finish_of_closed (he : s.elements = []) (hr : s.run = []) : s.finish = s.pieces.reverse := by
  rw [Nesting.finish, he]
  show (s.endText).pieces.reverse = _
  rw [endText_of_run hr]

/-- The frame of the page is closed around the pieces. -/
theorem finish_body (hw : Walks [] last s ps) :
    (([Token.closing "body".toList, .closing "html".toList]).foldl Nesting.step s).finish =
      (.closing "html".toList :: .closing "body".toList :: ps).reverse := by
  have hbody : s.elements = "body".toList :: ["html".toList] := hw.elements
  have hs : s.closeTag "body".toList =
      { s.endText with elements := ["html".toList], pieces := .closing "body".toList :: ps } := by
    rw [closeTag_eq_leave hbody (.inl hw.passed), leave_eq hbody, hw.pieces, close_eq_closing fun _ => by decide]
  have hpassed : (s.closeTag "body".toList).passed = 0 := by
    rw [hs]
    exact (frame_endText s).2.trans hw.passed
  have hrun : (s.closeTag "body".toList).run = [] := by
    rw [hs]
    exact run_endText s
  have helements : (s.closeTag "body".toList).elements = "html".toList :: [] := by rw [hs]
  have ht : (s.closeTag "body".toList).closeTag "html".toList =
      { s.closeTag "body".toList with
        elements := [], pieces := .closing "html".toList :: .closing "body".toList :: ps } := by
    have hpieces : (s.closeTag "body".toList).pieces = .closing "body".toList :: ps := by rw [hs]
    rw [closeTag_eq_leave helements (.inl hpassed), leave_eq helements, endText_of_run hrun, hpieces,
      close_eq_closing fun _ => by decide]
  show ((s.closeTag "body".toList).closeTag "html".toList).finish = _
  rw [ht]
  exact finish_of_closed rfl hrun

theorem settled_bare (name : List Char) : Tag.settled ⟨name, []⟩ = ⟨name, []⟩ :=
  congrArg (Tag.mk name) List.mergeSort_nil

theorem walks_frame : Walks [] (some (.opening ⟨"body".toList, []⟩)) (frameTokens.foldl Nesting.step .start)
    [.opening ⟨"body".toList, []⟩, .opening ⟨"html".toList, []⟩] := by
  have hopen : frameTokens.foldl Nesting.step .start =
      (Nesting.start.enter ⟨"html".toList, []⟩).enter ⟨"body".toList, []⟩ := rfl
  refine ⟨by decide, by decide, by decide, ?_, fun _ => by decide, fun _ => rfl⟩
  rw [hopen, endText_of_run (run_enter _ _), pieces_enter, endText_of_run (run_enter _ _), pieces_enter, settled_bare,
    settled_bare]
  rfl

/-- The page that holds a region is read and walked over to the page that holds the region laid again. -/
theorem pieces_pageOf {region : List Piece} (h : IsRegion region) (hin : ∀ p ∈ region, p.Inner) :
    pieces (tokensIn [] (pageOf region)) = pageOf (againIn [] region) := by
  obtain ⟨last, hw⟩ := walks_region h walks_frame hin
  rw [pieces, tokensIn_pageOf h, List.foldl_append, List.foldl_append, finish_body hw]
  simp [pageOf]

end

end ZigDecls.Markup
