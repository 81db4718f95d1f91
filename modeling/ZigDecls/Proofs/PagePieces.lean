import ZigDecls.Markup.Nesting
import ZigDecls.Proofs.PageTokens
import ZigDecls.Proofs.SettledTags

/-!
# The pieces of a page

The walk over the tokens of a page lays pieces that nest: each element closes where it can, no two texts
stand side by side, and no element stands in one that ends before it (`Piece.Fits`, `pieces_orderly`).
Pieces are kept with the last one in front.
-/

namespace ZigDecls.Markup

/-! ## Orderly pieces -/

def Piece.after (around : List (List Char)) : Piece → List (List Char)
  | .opening tag => tag.name :: around
  | .closing _ => around.tail
  | _ => around

def openAfter : List Piece → List (List Char)
  | [] => []
  | p :: ps => p.after (openAfter ps)

def Piece.isText : Piece → Bool
  | .text _ | .verbatim _ => true
  | _ => false

def Piece.isOpening : Piece → Bool
  | .opening _ => true
  | _ => false

def pageNames : List String := ["html", "head", "body"]

/-- An element with the name can stand in the parent and need not end it. -/
def Joins (parent : Option (List Char)) (name : List Char) : Prop :=
  isIn pageNames name = true ∨ ∀ e ∈ parent, isIn pageNames e = true ∨ endsBefore name e = false

def Plain (parent : Option (List Char)) : Prop := ∀ e ∈ parent, rawContent? e = none

/-- A piece can stand in the parent behind the piece before it. -/
def Piece.Fits (parent : Option (List Char)) (last : Option Piece) : Piece → Prop
  | .opening tag => tag.Proper ∧ isIn ["plaintext"] tag.name = false ∧ isIn emptyNames tag.name = false ∧
      Plain parent ∧ Joins parent tag.name
  | .void tag => tag.Proper ∧ isIn voidNames tag.name = true ∧ Plain parent ∧ Joins parent tag.name
  | .closing name => parent = some name ∧ (last.any Piece.isOpening = true → isIn voidNames name = false)
  | .text content => NulFree content ∧ content ≠ [] ∧ last.any Piece.isText = false ∧
      ∀ e ∈ parent, isIn verbatimNames e = false ∧ (rawContent? e = none ∨ last.any Piece.isOpening = true)
  | .verbatim content => Readable content ∧ content ≠ [] ∧ last.any Piece.isOpening = true ∧
      ∃ e first, parent = some e ∧ isIn verbatimNames e = true ∧ rawContent? e = some first ∧
        Closes first e content.reverse
  | .comment content => IsComment content ∧ Plain parent
  | .documentType _ => True

def Orderly : List Piece → Prop
  | [] => True
  | p :: ps => p.Fits (openAfter ps).head? ps.head? ∧ Orderly ps

def Lays (elements : List (List Char)) (ps : List Piece) : Prop := Orderly ps ∧ openAfter ps = elements

theorem lays_cons {es : List (List Char)} {ps : List Piece} {p : Piece} (h : Lays es ps)
    (hf : p.Fits es.head? ps.head?) :
    Lays (p.after es) (p :: ps) := by
  obtain ⟨ho, rfl⟩ := h
  exact ⟨⟨hf, ho⟩, rfl⟩

/-! ## Blank texts -/

theorem settleSpace_cases (cs : List Char) : settleSpace cs = cs ∨
    (∀ c ∈ cs, isSpace c = true) ∧ (settleSpace cs = ['\n'] ∨ settleSpace cs = [' ']) := by
  unfold settleSpace
  split
  · next h =>
    refine .inr ⟨List.all_eq_true.mp h, ?_⟩
    split
    · exact .inl rfl
    · exact .inr rfl
  · exact .inl rfl

/-- What stays true when a blank text becomes one line feed or one space. -/
theorem settle_induction {P : List Char → Prop} {cs : List Char} (s : Nesting) (h : P cs) (newline : P ['\n'])
    (space : P [' ']) : P (s.settle cs) := by
  unfold Nesting.settle
  split
  · exact h
  · rcases settleSpace_cases cs with he | ⟨-, he | he⟩
    · rwa [he]
    · rwa [he]
    · rwa [he]

/-! ## Parts of the walk -/

section
variable {s : Nesting} {tag : Tag} {name content : List Char} {es : List (List Char)} {ps : List Piece}

@[simp] theorem elements_endText (s : Nesting) : s.endText.elements = s.elements := by
  unfold Nesting.endText
  split <;> rfl

@[simp] theorem run_endText (s : Nesting) : s.endText.run = [] := by
  unfold Nesting.endText
  split
  · next h => exact List.isEmpty_iff.mp h
  · rfl

theorem pieces_endText (s : Nesting) : s.endText.pieces =
    if s.run = [] then s.pieces
    else (if s.isVerbatim then .verbatim (s.settle s.run) else .text (s.settle s.run)) :: s.pieces := by
  unfold Nesting.endText
  cases hr : s.run <;> rfl

@[simp] theorem elements_emit (s : Nesting) (p : Piece) : (s.emit p).elements = s.elements := elements_endText s

@[simp] theorem run_emit (s : Nesting) (p : Piece) : (s.emit p).run = [] := run_endText s

@[simp] theorem pieces_emit (s : Nesting) (p : Piece) : (s.emit p).pieces = p :: s.endText.pieces := rfl

@[simp] theorem elements_enter (s : Nesting) (tag : Tag) : (s.enter tag).elements = tag.name :: s.elements :=
  congrArg (tag.name :: ·) (elements_endText s)

@[simp] theorem run_enter (s : Nesting) (tag : Tag) : (s.enter tag).run = [] := run_endText s

@[simp] theorem pieces_enter (s : Nesting) (tag : Tag) :
    (s.enter tag).pieces = .opening tag.settled :: s.endText.pieces := rfl

def close (e : List Char) : List Piece → List Piece
  | .opening tag :: ps => if isIn voidNames e then .void tag :: ps else .closing e :: .opening tag :: ps
  | ps => .closing e :: ps

theorem close_opening (e : List Char) (tag : Tag) (ps : List Piece) : close e (.opening tag :: ps) =
    if isIn voidNames e then .void tag :: ps else .closing e :: .opening tag :: ps := rfl

theorem leave_eq {e : List Char} (h : s.elements = e :: es) :
    s.leave = { s.endText with elements := es, pieces := close e s.endText.pieces } := by
  have he : s.endText.elements = e :: es := (elements_endText s).trans h
  unfold Nesting.leave close
  dsimp only
  rw [he]
  cases hp : s.endText.pieces with
  | nil => rfl
  | cons p ps =>
    cases p with
    | opening tag =>
      dsimp only
      split <;> rfl
    | _ => rfl

theorem last_close {e : List Char} : (close e ps).head?.any Piece.isText = false := by
  unfold close
  split
  · split <;> rfl
  · rfl

theorem lays_close {e : List Char} (h : Lays (e :: es) ps) : Lays es (close e ps) := by
  unfold close
  split
  · next tag ps =>
    split
    · -- the opening piece gives way to one that stands where it stood
      obtain ⟨⟨⟨proper, -, -, joins⟩, ho⟩, he⟩ := h
      obtain ⟨rfl, rfl⟩ := List.cons.inj he
      next hv => exact ⟨⟨⟨proper, hv, joins⟩, ho⟩, rfl⟩
    · next hv => exact lays_cons h ⟨rfl, fun _ => Bool.eq_false_iff.mpr hv⟩
  · next hno =>
    refine lays_cons h ⟨rfl, fun hl => ?_⟩
    cases ps with
    | nil => cases hl
    | cons p ps =>
      cases p with
      | opening tag => exact absurd rfl (hno tag ps)
      | _ => cases hl

/-! ## Sound states -/

/-- The pieces laid so far are orderly, and a text may have begun behind them. -/
structure Nesting.Sound (s : Nesting) : Prop where
  lays : Lays s.elements s.pieces
  plain : ∀ e ∈ s.elements, rawContent? e = none
  run : NulFree s.run
  last : s.pieces.head?.any Piece.isText = false

theorem Nesting.Sound.plain_head (h : s.Sound) : Plain s.elements.head? := fun e he =>
  h.plain e (List.mem_of_mem_head? he)

theorem not_verbatim_of_plain {e : List Char} (h : rawContent? e = none) : isIn verbatimNames e = false :=
  Bool.eq_false_iff.mpr fun hv =>
    forall_of_isIn (P := fun e => rawContent? e ≠ none) (by decide) hv h

theorem isVerbatim_of_plain (h : Plain s.elements.head?) : s.isVerbatim = false := by
  unfold Nesting.isVerbatim
  cases he : s.elements.head? with
  | none => rfl
  | some e => exact not_verbatim_of_plain (h e he)

theorem settle_fits {last : Option Piece} {parent : Option (List Char)} (hn : NulFree content) (hne : content ≠ [])
    (hl : last.any Piece.isText = false)
    (hp : ∀ e ∈ parent, isIn verbatimNames e = false ∧ (rawContent? e = none ∨ last.any Piece.isOpening = true)) :
    (Piece.text (s.settle content)).Fits parent last := by
  refine ⟨?_, ?_, hl, hp⟩
  · exact settle_induction s hn (by unfold NulFree; decide) (by unfold NulFree; decide)
  · exact settle_induction (P := (· ≠ [])) s hne (by decide) (by decide)

theorem Nesting.Sound.lays_endText (h : s.Sound) : Lays s.elements s.endText.pieces := by
  rw [pieces_endText, isVerbatim_of_plain h.plain_head]
  split
  · exact h.lays
  · next hne =>
    exact lays_cons h.lays (settle_fits h.run hne h.last fun e he =>
      ⟨not_verbatim_of_plain (h.plain_head e he), .inl (h.plain_head e he)⟩)

theorem Nesting.Sound.passed (h : s.Sound) (n : Nat) : Nesting.Sound { s with passed := n } :=
  ⟨h.lays, h.plain, h.run, h.last⟩

theorem Nesting.Sound.push (h : s.Sound) (hc : NulFree content) : (s.push content).Sound :=
  ⟨h.lays, h.plain, nulFree_append.mpr ⟨h.run, hc⟩, h.last⟩

/-- A piece that neither opens nor closes an element. -/
theorem Nesting.Sound.emit {p : Piece} (h : s.Sound) (ha : p.after s.elements = s.elements) (ht : p.isText = false)
    (hf : p.Fits s.elements.head? s.endText.pieces.head?) : (s.emit p).Sound := by
  refine ⟨?_, by simpa using h.plain, by simp [NulFree], ht⟩
  rw [elements_emit, pieces_emit, ← ha]
  exact lays_cons h.lays_endText hf

theorem settled_proper (h : tag.Proper) : tag.settled.Proper := by
  refine ⟨h.1, fun a ha => ?_⟩
  obtain ⟨value, hv, he⟩ := mem_settled.mp ha
  obtain ⟨hk, hn⟩ := h.2 _ (not_seen_of_mem_firstOfEach hv).2
  refine ⟨hk, fun hm => ?_⟩
  rw [← he] at hm
  rcases mem_settleValue hm with hm | hm
  · exact hn hm
  · revert hm; decide

theorem Nesting.Sound.lays_enter (h : s.Sound) (ht : tag.Proper) (hend : isIn ["plaintext"] tag.name = false)
    (hempty : isIn emptyNames tag.name = false) (hj : Joins s.elements.head? tag.name) :
    Lays (s.enter tag).elements (s.enter tag).pieces := by
  rw [elements_enter, pieces_enter]
  exact lays_cons h.lays_endText ⟨settled_proper ht, hend, hempty, h.plain_head, hj⟩

theorem Nesting.Sound.enter (h : s.Sound) (ht : tag.Proper) (hend : isIn ["plaintext"] tag.name = false)
    (hempty : isIn emptyNames tag.name = false) (hj : Joins s.elements.head? tag.name)
    (hraw : rawContent? tag.name = none) : (s.enter tag).Sound := by
  refine ⟨h.lays_enter ht hend hempty hj, ?_, by simp [NulFree], rfl⟩
  rw [elements_enter]
  exact List.forall_mem_cons.mpr ⟨hraw, h.plain⟩

theorem Nesting.Sound.leave (h : s.Sound) (hne : s.elements ≠ []) :
    s.leave.Sound ∧ s.leave.elements = s.elements.tail := by
  obtain ⟨e, es, he⟩ := List.exists_cons_of_ne_nil hne
  have hp := h.plain
  have hl := h.lays_endText
  rw [he] at hp hl
  rw [leave_eq he, he]
  exact ⟨⟨lays_close hl, fun e he => hp e (List.mem_cons_of_mem _ he), by simp [NulFree], last_close⟩, rfl⟩

theorem endText_of_run (h : s.run = []) : s.endText = s := by
  unfold Nesting.endText
  rw [h]
  rfl

/-- An element that ends with its opening tag, or right behind it. -/
theorem Nesting.Sound.enter_leave (h : s.Sound) (ht : tag.Proper) (hend : isIn ["plaintext"] tag.name = false)
    (hj : Joins s.elements.head? tag.name) : (s.enter tag).leave.Sound := by
  have hl : Lays s.elements (close tag.name (s.enter tag).pieces) := by
    rw [pieces_enter, close_opening]
    split
    · next hv => exact lays_cons (p := .void tag.settled) h.lays_endText ⟨settled_proper ht, hv, h.plain_head, hj⟩
    · next hv =>
      have hempty : isIn emptyNames tag.name = false := Bool.eq_false_iff.mpr fun he =>
        hv (forall_of_isIn (P := fun name => isIn voidNames name = true) (by decide) he)
      have hopen := h.lays_enter ht hend hempty hj
      rw [elements_enter] at hopen
      exact lays_cons (p := .closing tag.name) hopen ⟨rfl, fun _ => Bool.eq_false_iff.mpr hv⟩
  rw [leave_eq (elements_enter s tag), endText_of_run (run_enter s tag)]
  exact ⟨hl, h.plain, by simp [NulFree], (last_close : (close tag.name (s.enter tag).pieces).head?.any _ = false)⟩

/-- What the text token of a raw element holds. -/
theorem mem_rawTokens {content : RawContent} {body text : List Char} (hb : Readable body)
    (h : Token.text text ∈ rawTokens content body) :
    NulFree text ∧ (content ≠ .referring → text = body.reverse) := by
  unfold rawTokens at h
  split at h
  · cases h
  · cases List.mem_singleton.mp h
    split
    · next hr => exact ⟨resolve_nulFree (nulFree_reverse.mpr (nulFree_of_readable hb)), fun hne => absurd hr hne⟩
    · exact ⟨nulFree_reverse.mpr (nulFree_of_readable hb), fun _ => rfl⟩

/-- An element with a content that is all text. -/
theorem Nesting.Sound.enter_push_leave (h : s.Sound) (ht : tag.Proper) (hend : isIn ["plaintext"] tag.name = false)
    (hj : Joins s.elements.head? tag.name) {first : RawContent} {body text : List Char}
    (hraw : rawContent? tag.name = some first) (hb : Readable body) (hc : Closes first tag.name body)
    (hm : Token.text text ∈ rawTokens first body) : ((s.enter tag).push text).leave.Sound := by
  obtain ⟨hn, hverb⟩ := mem_rawTokens hb hm
  by_cases hne : text = []
  · have same : (s.enter tag).push text = s.enter tag := by
      rw [hne, Nesting.push, List.append_nil]
    rw [same]
    exact h.enter_leave ht hend hj
  have hempty : isIn emptyNames tag.name = false :=
    forall_of_isIn (P := fun name => isIn emptyNames name = false) (by decide) (isIn_of_rawContent? hraw)
  have hopen := h.lays_enter ht hend hempty hj
  rw [elements_enter] at hopen
  have hl : Lays (tag.name :: s.elements) ((s.enter tag).push text).endText.pieces := by
    rw [pieces_endText]
    have hrun : ((s.enter tag).push text).run = text := by
      show (s.enter tag).run ++ text = text
      rw [run_enter, List.nil_append]
    have hvis : ((s.enter tag).push text).isVerbatim = isIn verbatimNames tag.name := by
      show ((s.enter tag).elements.head?.map _).getD false = _
      rw [elements_enter]
      rfl
    rw [hrun, if_neg hne, hvis]
    split
    · next hv =>
      have hkind : rawContent? tag.name ≠ some .referring ∧ rawContent? tag.name ≠ some .endless :=
        forall_of_isIn (P := fun name => rawContent? name ≠ some .referring ∧ rawContent? name ≠ some .endless)
          (by decide) hv
      rw [hraw] at hkind
      have htext : text = body.reverse := hverb fun hf => hkind.1 (congrArg some hf)
      have blank {c : Char} (h : c ≠ '<' ∧ c ≠ '\x00' ∧ c ≠ '\r') :
          Readable [c] ∧ [c] ≠ [] ∧ Closes first tag.name [c].reverse :=
        ⟨readable_cons.mpr ⟨h.2, fun _ hm => absurd hm List.not_mem_nil⟩, List.cons_ne_nil c [],
          closes_of_no_less hraw (fun hf => hkind.2 (congrArg some hf)) (by simpa [eq_comm] using h.1)⟩
      have read : Readable text ∧ text ≠ [] ∧ Closes first tag.name text.reverse :=
        ⟨fun c hm => hb c (by rwa [htext, List.mem_reverse] at hm), hne, by rwa [htext, List.reverse_reverse]⟩
      have settled := settle_induction (P := fun c => Readable c ∧ c ≠ [] ∧ Closes first tag.name c.reverse)
        ((s.enter tag).push text) read (blank (by decide)) (blank (by decide))
      exact lays_cons (p := .verbatim _) hopen
        ⟨settled.1, settled.2.1, rfl, tag.name, first, rfl, hv, hraw, settled.2.2⟩
    · next hv =>
      refine lays_cons (p := .text _) hopen (settle_fits hn hne rfl fun e he => ?_)
      cases he
      exact ⟨Bool.eq_false_iff.mpr hv, .inr rfl⟩
  have helements : ((s.enter tag).push text).elements = tag.name :: s.elements := elements_enter s tag
  rw [leave_eq helements]
  exact ⟨lays_close hl, h.plain, by simp [NulFree], last_close⟩

theorem Nesting.Sound.leaveMany (h : s.Sound) {n : Nat} (hn : n ≤ s.elements.length) :
    (s.leaveMany n).Sound ∧ (s.leaveMany n).elements = s.elements.drop n := by
  induction n generalizing s with
  | zero => exact ⟨h, rfl⟩
  | succ n ih =>
    have hne : s.elements ≠ [] := fun he => by rw [he] at hn; cases hn
    obtain ⟨hs, he⟩ := h.leave hne
    have hlen : n ≤ s.leave.elements.length := by
      rw [he, List.length_tail]
      omega
    obtain ⟨hs, hd⟩ := ih hs hlen
    refine ⟨hs, hd.trans ?_⟩
    rw [he, List.drop_tail]

theorem Nesting.Sound.endBefore (h : s.Sound) (name : List Char) :
    (s.endBefore name).Sound ∧ ∀ e ∈ (s.endBefore name).elements.head?, endsBefore name e = false := by
  have hsplit := List.takeWhile_append_dropWhile (p := endsBefore name) (l := s.elements)
  have hlen : (s.elements.takeWhile (endsBefore name)).length ≤ s.elements.length :=
    List.IsPrefix.length_le (List.takeWhile_prefix _)
  obtain ⟨hs, hd⟩ := h.leaveMany hlen
  refine ⟨hs, fun e he => ?_⟩
  have hrest : s.elements.drop (s.elements.takeWhile (endsBefore name)).length =
      s.elements.dropWhile (endsBefore name) := by
    conv => lhs; arg 2; rw [← hsplit]
    exact List.drop_left
  have he : e ∈ (s.elements.dropWhile (endsBefore name)).head? := by
    rwa [Nesting.endBefore, hd, hrest] at he
  have hhead := List.head?_dropWhile_not (endsBefore name) s.elements
  rw [Option.mem_def.mp he] at hhead
  exact hhead

/-! ## Steps of the walk -/

theorem isName_of_mem : ∀ n ∈ ["html", "head", "body", "p"], IsName n.toList := by
  have spelled : ∀ n ∈ ["html", "head", "body", "p"],
      n.toList.all fun c => c.toLower = c ∧ Reader.endsName c = false ∧ c ≠ '\x00' := by decide
  have begins : ∀ n ∈ ["html", "head", "body", "p"], (n.toList.head?.map Char.isAlpha) = some true := by decide
  intro n hn
  refine ⟨List.all_iff_forall_prop.mp (spelled n hn), ?_⟩
  obtain ⟨c, hc, ha⟩ := Option.map_eq_some_iff.mp (begins n hn)
  obtain ⟨cs, hcs⟩ := List.head?_eq_some_iff.mp hc
  exact ⟨c, cs, hcs, ha⟩

theorem Nesting.Sound.enterNamed (h : s.Sound) {n : String} (hn : n ∈ ["html", "head", "body", "p"])
    (hj : Joins s.elements.head? n.toList) : (s.enterNamed n).Sound := by
  have plain : ∀ n ∈ ["html", "head", "body", "p"], isIn ["plaintext"] n.toList = false ∧
      isIn emptyNames n.toList = false ∧ rawContent? n.toList = none := by decide
  obtain ⟨hend, hempty, hraw⟩ := plain n hn
  have proper : Tag.Proper ⟨n.toList, []⟩ := ⟨isName_of_mem n hn, fun _ ha => absurd ha List.not_mem_nil⟩
  exact h.enter proper hend hempty hj hraw

theorem joins_of_head {n : String} (hn : n ∈ pageNames) (he : s.elements.head? = some n.toList) :
    Joins s.elements.head? name := by
  refine .inr fun e hm => .inl ?_
  rw [he] at hm
  cases hm
  exact List.any_eq_true.mpr ⟨n, hn, beq_self_eq_true _⟩

/-- Only the elements of the page are opened, and they end before nothing. -/
theorem Nesting.Sound.prepare (h : s.Sound) (hj : ∀ e ∈ s.elements.head?, endsBefore name e = false) :
    (s.prepare name).Sound ∧ Joins (s.prepare name).elements.head? name := by
  have opened {s : Nesting} (h : s.Sound) {n : String} (hn : n ∈ pageNames) :
      (s.enterNamed n).Sound ∧ Joins (s.enterNamed n).elements.head? name := by
    refine ⟨h.enterNamed (List.mem_append_left ["p"] hn) (.inl ?_), joins_of_head hn (by simp [Nesting.enterNamed])⟩
    exact List.any_eq_true.mpr ⟨n, hn, beq_self_eq_true _⟩
  unfold Nesting.prepare
  split
  · exact ⟨h, .inr fun e he => .inr (hj e he)⟩
  have first : (if s.elements.isEmpty then s.enterNamed "html" else s).Sound ∧
      Joins (if s.elements.isEmpty then s.enterNamed "html" else s).elements.head? name := by
    split
    · exact opened h (by decide)
    · exact ⟨h, .inr fun e he => .inr (hj e he)⟩
  dsimp only
  generalize (if s.elements.isEmpty then s.enterNamed "html" else s) = s' at first
  split
  · exact first
  split
  · split
    · exact first
    · exact opened first.1 (by decide)
  split
  · exact first
  split
  · exact first
  · exact opened first.1 (by decide)

theorem Nesting.Sound.before (h : s.Sound) (name : List Char) :
    ((s.endBefore name).prepare name).Sound ∧ Joins ((s.endBefore name).prepare name).elements.head? name :=
  (h.endBefore name).1.prepare (h.endBefore name).2

theorem Nesting.Sound.openTag (h : s.Sound) {closed : Bool} (ht : tag.Proper)
    (hend : isIn ["plaintext"] tag.name = false) (hplain : closed = true ∨ rawContent? tag.name = none) :
    (s.openTag tag closed).Sound := by
  obtain ⟨hs, hj⟩ := h.before tag.name
  unfold Nesting.openTag
  dsimp only
  split
  · exact hs.passed _
  split
  · exact hs.enter_leave ht hend hj
  · next hopen =>
    simp only [Bool.or_eq_true, not_or, Bool.not_eq_true] at hopen
    exact hs.enter ht hend hopen.2 hj (hplain.resolve_left fun hc => by rw [hc] at hopen; cases hopen.1)

theorem Nesting.Sound.closeTag (h : s.Sound) (name : List Char) : (s.closeTag name).Sound := by
  unfold Nesting.closeTag
  split
  · exact h.passed _
  dsimp only
  have hsplit := List.takeWhile_append_dropWhile (p := fun e => e != name) (l := s.elements)
  split
  · exact h
  · next hne =>
    split
    · refine (h.leaveMany ?_).1
      have hlen := congrArg List.length hsplit
      rw [List.length_append] at hlen
      have := List.length_pos_iff.mpr hne
      omega
    · exact h

theorem Nesting.Sound.addText (h : s.Sound) (hn : NulFree content) : (s.addText content).Sound := by
  have hfront : NulFree (content.takeWhile isSpace) := fun hm => hn ((List.takeWhile_prefix _).subset hm)
  have hrest : NulFree (content.dropWhile isSpace) := fun hm => hn ((List.dropWhile_suffix _).subset hm)
  unfold Nesting.addText
  split
  · dsimp only
    split
    · exact h.push hfront
    · next hd =>
      obtain ⟨hs, hj⟩ := (h.push hfront).before ['p']
      exact (hs.enterNamed (n := "p") (by decide) hj).push hrest
  · exact h.push hn

theorem Nesting.Sound.comment (h : s.Sound) (hc : IsComment content) :
    (s.emit (.comment (s.settle content))).Sound := by
  refine h.emit rfl rfl ⟨?_, h.plain_head⟩
  have blank : ∀ c ∈ ['\n', ' '], (c ≠ '\x00' ∧ c ≠ '\r') ∧ c ≠ '>' := List.all_iff_forall_prop.mp (by decide)
  have single {c : Char} (hc : c ∈ ['\n', ' ']) : IsComment [c] :=
    ⟨readable_cons.mpr ⟨(blank c hc).1, fun _ hm => absurd hm List.not_mem_nil⟩,
      fun he => absurd he (blank c hc).2, trivial⟩
  exact settle_induction s hc (single (by decide)) (single (by decide))

/-- The closing tag of the innermost element. -/
theorem closeTag_eq_leave {e : List Char} (he : s.elements = e :: es) (hp : s.passed = 0 ∨ isIn pageNames e = false) :
    s.closeTag e = s.leave := by
  have hno : ¬(s.passed ≠ 0 ∧ isIn ["html", "head", "body"] e = true) := by
    rintro ⟨hne, hin⟩
    rcases hp with hp | hp
    · exact hne hp
    · rw [pageNames, hin] at hp
      cases hp
  unfold Nesting.closeTag
  rw [if_neg hno, he]
  simp [Nesting.leaveMany]

theorem not_misplaced (h : isIn pageNames name = false) : s.misplaced name = false := by
  simp only [pageNames, isIn, List.any_cons, List.any_nil, Bool.or_false, Bool.or_eq_false_iff] at h
  simp only [Nesting.misplaced, isIn, List.any_cons, List.any_nil, Bool.or_false, h, Bool.false_and]

theorem addText_eq_push {e : List Char} (he : s.elements.head? = some e) (hin : isIn ["html", "head"] e = false) :
    s.addText content = s.push content := by
  have ho : s.outside = false := by rw [Nesting.outside, he]; exact hin
  unfold Nesting.addText
  rw [ho]
  rfl

/-- By cases of whether there is text in the raw element. -/
theorem Nesting.Sound.raw (h : s.Sound) (ht : tag.Proper) (hend : isIn ["plaintext"] tag.name = false)
    {first : RawContent} {body : List Char} (hraw : rawContent? tag.name = some first) (hb : Readable body)
    (hc : Closes first tag.name body) :
    (((rawTokens first body).foldr (fun t s => s.step t) (s.openTag tag false)).closeTag tag.name).Sound := by
  have apart : isIn pageNames tag.name = false ∧ isIn ["html", "head"] tag.name = false ∧
    isIn emptyNames tag.name = false :=
    forall_of_isIn (P := fun name => isIn pageNames name = false ∧ isIn ["html", "head"] name = false ∧
      isIn emptyNames name = false) (by decide) (isIn_of_rawContent? hraw)
  obtain ⟨hs, hj⟩ := h.before tag.name
  generalize hs' : (s.endBefore tag.name).prepare tag.name = s' at hs hj
  have hopen : s.openTag tag false = s'.enter tag := by
    unfold Nesting.openTag
    dsimp only
    rw [hs', not_misplaced apart.1, apart.2.2]
    rfl
  rw [hopen]
  rcases rawTokens_cases first body with hr | ⟨text, hr⟩
  · rw [hr, List.foldr_nil, closeTag_eq_leave (elements_enter s' tag) (.inr apart.1)]
    exact hs.enter_leave ht hend hj
  · have hpush : (s'.enter tag).addText text = (s'.enter tag).push text :=
      addText_eq_push (by rw [elements_enter, List.head?_cons]) apart.2.1
    have helements : ((s'.enter tag).push text).elements = tag.name :: s'.elements := elements_enter s' tag
    rw [hr, List.foldr_cons, List.foldr_nil, Nesting.step, hpush, closeTag_eq_leave helements (.inr apart.1)]
    exact hs.enter_push_leave ht hend hj hraw hb hc (by rw [hr]; exact List.mem_cons_self)

/-- Tokens that are read, and no `plaintext` among them, keep the pieces orderly: by induction on how
they were read. -/
theorem foldr_step_sound {ts : List Token} (hr : Read ts)
    (hend : ∀ tag closed, Token.opening tag closed ∈ ts → isIn ["plaintext"] tag.name = false) :
    (ts.foldr (fun t s => s.step t) Nesting.start).Sound := by
  induction hr with
  | start => exact ⟨⟨trivial, rfl⟩, fun _ h => absurd h List.not_mem_nil, List.not_mem_nil, rfl⟩
  | opening before proper plain ih =>
    have hs := ih fun tag closed hm => hend tag closed (List.mem_cons_of_mem _ hm)
    exact hs.openTag proper (hend _ _ List.mem_cons_self) plain
  | closing before isName ih =>
    exact (ih fun tag closed hm => hend tag closed (List.mem_cons_of_mem _ hm)).closeTag _
  | text before free ih => exact (ih fun tag closed hm => hend tag closed (List.mem_cons_of_mem _ hm)).addText free
  | comment before isComment ih =>
    exact (ih fun tag closed hm => hend tag closed (List.mem_cons_of_mem _ hm)).comment isComment
  | documentType before ih =>
    exact (ih fun tag closed hm => hend tag closed (List.mem_cons_of_mem _ hm)).emit rfl rfl trivial
  | @raw ts tag content body before proper isRaw readable closes ih =>
    have later {t : Token} (hm : t ∈ Token.opening tag false :: ts) :
        t ∈ Token.closing tag.name :: (rawTokens content body ++ .opening tag false :: ts) :=
      List.mem_cons_of_mem _ (List.mem_append_right _ hm)
    have hs := ih fun tag closed hm => hend tag closed (later (List.mem_cons_of_mem _ hm))
    rw [List.foldr_cons, List.foldr_append]
    exact hs.raw proper (hend _ _ (later List.mem_cons_self)) isRaw readable closes

/-- The pieces of what was read are orderly, and every element is closed. -/
theorem pieces_orderly {ts : List Token} (hr : Read ts.reverse)
    (hend : ∀ tag closed, Token.opening tag closed ∈ ts → isIn ["plaintext"] tag.name = false) :
    Lays [] (pieces ts).reverse := by
  have hs := foldr_step_sound hr fun tag closed hm => hend tag closed (List.mem_reverse.mp hm)
  rw [List.foldr_reverse] at hs
  unfold pieces Nesting.finish
  rw [List.reverse_reverse]
  obtain ⟨hs, he⟩ := hs.leaveMany (Nat.le_refl _)
  rw [List.drop_length] at he
  exact he ▸ hs.lays_endText

end

end ZigDecls.Markup
