import ZigDecls.Markup.Writer
import ZigDecls.Proofs.PagePieces

/-!
# Reading what was written

Orderly pieces are read back from what they are written as, each as one token (`finish_write`). A text
in an element whose content is verbatim stays escaped.
-/

namespace ZigDecls.Markup
open Reader

/-! ## Chunks of markup -/

def Reader.read (r : Reader) (cs : List Char) : Reader := cs.foldl Reader.step r

/-- The reader is between pieces of markup, behind these tokens and perhaps a text. -/
def Reader.Between (r : Reader) (ts : List Token) : Prop := r.endText = ⟨.text, [], ts⟩

section
variable {r : Reader} {name key body cs : List Char} {ts : List Token} {tag : Tag} {draft : Draft} {first : RawContent}

theorem read_append (r : Reader) (cs ds : List Char) : r.read (cs ++ ds) = (r.read cs).read ds := List.foldl_append

theorem read_cons (r : Reader) (c : Char) (cs : List Char) : r.read (c :: cs) = (r.step c).read cs := rfl

theorem read_nil (r : Reader) : r.read [] = r := rfl

theorem mode_of_between (h : r.Between ts) : r.mode = .text := by
  have hm : r.endText.mode = r.mode := by
    unfold Reader.endText
    split <;> rfl
  rw [← hm, h]

theorem step_less (h : r.Between ts) : r.step '<' = r.goto .less := by
  unfold Reader.step
  rw [mode_of_between h]
  rfl

theorem endText_goto (h : r.Between ts) (mode : Mode) : (r.goto mode).endText = ⟨mode, [], ts⟩ := by
  have hg : (r.goto mode).endText = r.endText.goto mode := by
    unfold Reader.endText Reader.goto
    dsimp only
    split <;> rfl
  rw [hg, h]
  rfl

theorem between_self (ts : List Token) : Reader.Between ⟨.text, [], ts⟩ ts := rfl

/-! ### Tags -/

theorem read_name (closing : Bool) (begun : List Char) (hs : Spelled cs) :
    Reader.read ⟨.tagName closing begun, [], ts⟩ cs = ⟨.tagName closing (cs.reverse ++ begun), [], ts⟩ := by
  induction cs generalizing begun with
  | nil => rfl
  | cons c cs ih =>
    obtain ⟨⟨hl, he, -⟩, hs⟩ := List.forall_mem_cons.mp hs
    have hstep : Reader.step ⟨.tagName closing begun, [], ts⟩ c = ⟨.tagName closing (c :: begun), [], ts⟩ := by
      simp only [Reader.step, he, hl, Reader.goto]
      rfl
    rw [read_cons, hstep, ih _ hs]
    simp

theorem read_opening_name (h : r.Between ts) (hn : IsName name) :
    r.read ('<' :: name) = ⟨.tagName false name.reverse, [], ts⟩ := by
  obtain ⟨hs, c, cs, rfl, ha⟩ := hn
  obtain ⟨⟨hl, -⟩, hs⟩ := List.forall_mem_cons.mp hs
  have hstep : (r.goto .less).step c = ⟨.tagName false [c], [], ts⟩ := by
    show (if c.isAlpha then _ else _) = _
    rw [if_pos ha, endText_goto h, hl]
    rfl
  rw [read_cons, step_less h, read_cons, hstep, read_name false [c] hs, List.reverse_cons]

theorem read_closing_name (h : r.Between ts) (hn : IsName name) :
    r.read ('<' :: '/' :: name) = ⟨.tagName true name.reverse, [], ts⟩ := by
  obtain ⟨hs, c, cs, rfl, ha⟩ := hn
  obtain ⟨⟨hl, -⟩, hs⟩ := List.forall_mem_cons.mp hs
  have hslash : (r.goto .less).step '/' = r.goto .lessSlash := rfl
  have hstep : (r.goto .lessSlash).step c = ⟨.tagName true [c], [], ts⟩ := by
    show (if c.isAlpha then _ else _) = _
    rw [if_pos ha, endText_goto h, hl]
    rfl
  rw [read_cons, step_less h, read_cons, hslash, read_cons, hstep, read_name true [c] hs, List.reverse_cons]

/-- What ends a name is read as it is inside the tag. -/
theorem read_behind_name (closing : Bool) (name : List Char) {c : Char} (hc : endsName c = true) (cs : List Char) :
    Reader.read ⟨.tagName closing name.reverse, [], ts⟩ (c :: cs) =
      Reader.read ⟨.inTag ⟨closing, name, []⟩, [], ts⟩ (c :: cs) := by
  have hstep : Reader.step ⟨.tagName closing name.reverse, [], ts⟩ c =
      Reader.step ⟨.inTag ⟨closing, name, []⟩, [], ts⟩ c := by
    simp only [Reader.step, hc, if_true, List.reverse_reverse]
    rfl
  rw [read_cons, hstep]
  rfl

theorem read_key (draft : Draft) {begun : List Char} (hs : Spelled cs) (hq : '=' ∉ cs) :
    Reader.read ⟨.attributeName draft begun, [], ts⟩ cs = ⟨.attributeName draft (cs.reverse ++ begun), [], ts⟩ := by
  induction cs generalizing begun with
  | nil => rfl
  | cons c cs ih =>
    obtain ⟨⟨hl, he, -⟩, hs⟩ := List.forall_mem_cons.mp hs
    rw [List.mem_cons, not_or] at hq
    have hsp : isSpace c = false := by
      simp only [endsName, Bool.or_eq_false_iff] at he
      exact he.1.1
    have hstep : Reader.step ⟨.attributeName draft begun, [], ts⟩ c = ⟨.attributeName draft (c :: begun), [], ts⟩ := by
      show (if c = '=' then _ else _) = _
      rw [if_neg fun e => hq.1 e.symm, hsp, he, hl]
      rfl
    rw [read_cons, hstep, ih hs hq.2]
    simp

theorem read_value (draft : Draft) {mark : Char} {begun : List Char} (hm : mark ∉ cs) :
    Reader.read ⟨.value draft key (some mark) begun, [], ts⟩ cs =
      ⟨.value draft key (some mark) (cs.reverse ++ begun), [], ts⟩ := by
  induction cs generalizing begun with
  | nil => rfl
  | cons c cs ih =>
    rw [List.mem_cons, not_or] at hm
    have hstep : Reader.step ⟨.value draft key (some mark) begun, [], ts⟩ c =
        ⟨.value draft key (some mark) (c :: begun), [], ts⟩ := by
      show (if c = mark then _ else _) = _
      rw [if_neg fun e => hm.1 e.symm]
      rfl
    rw [read_cons, hstep, ih hm.2]
    simp

/-- A value stands between two marks that are not in it, and stands for what was written. -/
theorem writeValue_cases (value : List Char) : ∃ mark text, writeValue value = mark :: text ++ [mark] ∧
    (mark = '"' ∨ mark = '\'') ∧ mark ∉ text ∧ resolve .value text = value := by
  unfold writeValue
  dsimp only
  split
  · next h => exact ⟨'"', escape value, rfl, .inl rfl, by simpa using h, resolve_escape value⟩
  split
  · next h => exact ⟨'\'', escape value, rfl, .inr rfl, by simpa using h, resolve_escape value⟩
  · refine ⟨'"', (escape value).flatMap quoteChar, rfl, .inl rfl, ?_, resolve_quoted value⟩
    intro hm
    obtain ⟨c, -, hc⟩ := List.mem_flatMap.mp hm
    unfold quoteChar at hc
    split at hc
    · revert hc; decide
    · next hne => exact hne (List.mem_singleton.mp hc).symm

theorem read_attribute (draft : Draft) {a : List Char × List Char} (hk : IsKey a.1) :
    Reader.read ⟨.inTag draft, [], ts⟩ (writeAttribute a) =
      ⟨.inTag { draft with attributes := draft.attributes ++ [a] }, [], ts⟩ := by
  obtain ⟨key, value⟩ := a
  obtain ⟨hs, c, cs, rfl, hq⟩ := hk
  obtain ⟨⟨hl, he, -⟩, hs⟩ := List.forall_mem_cons.mp hs
  obtain ⟨mark, text, hw, hmark, hm, hr⟩ := writeValue_cases value
  have hspace : Reader.step ⟨.inTag draft, [], ts⟩ ' ' = ⟨.inTag draft, [], ts⟩ := rfl
  have hbegin : Reader.step ⟨.inTag draft, [], ts⟩ c = ⟨.attributeName draft [c], [], ts⟩ := by
    simp only [endsName, Bool.or_eq_false_iff, decide_eq_false_iff_not] at he
    show (if isSpace c then _ else _) = _
    rw [he.1.1, if_neg (by decide), if_neg he.1.2, if_neg he.2, hl]
    rfl
  have hequals (name : List Char) :
      Reader.step ⟨.attributeName draft name, [], ts⟩ '=' = ⟨.beforeValue draft name, [], ts⟩ := rfl
  have hopen (name : List Char) :
      Reader.step ⟨.beforeValue draft name, [], ts⟩ mark = ⟨.value draft name (some mark) [], [], ts⟩ := by
    rcases hmark with rfl | rfl <;> rfl
  have hclose (name body : List Char) : Reader.step ⟨.value draft name (some mark) body, [], ts⟩ mark =
      ⟨.inTag (addAttribute draft name body), [], ts⟩ := by
    show (if mark = mark then _ else _) = _
    rw [if_pos rfl]
    rfl
  have hadd : addAttribute draft (c :: cs).reverse text.reverse =
      { draft with attributes := draft.attributes ++ [(c :: cs, value)] } := by
    rw [addAttribute, List.reverse_reverse, List.reverse_reverse, hr]
  show Reader.read _ (' ' :: c :: (cs ++ '=' :: writeValue value)) = _
  rw [read_cons, hspace, read_cons, hbegin, read_append, read_key draft hs hq, read_cons, hequals, hw, List.cons_append,
    read_cons, hopen, read_append, read_value draft hm, read_cons, hclose, read_nil, List.append_nil,
    ← List.reverse_cons, hadd]

theorem read_attributes (draft : Draft) {as : List (List Char × List Char)} (hk : ∀ a ∈ as, IsKey a.1) :
    Reader.read ⟨.inTag draft, [], ts⟩ (as.flatMap writeAttribute) =
      ⟨.inTag { draft with attributes := draft.attributes ++ as }, [], ts⟩ := by
  induction as generalizing draft with
  | nil => rw [List.flatMap_nil, read_nil, List.append_nil]
  | cons a as ih =>
    obtain ⟨ha, hk⟩ := List.forall_mem_cons.mp hk
    rw [List.flatMap_cons, read_append, read_attribute draft ha, ih _ hk, List.append_assoc, List.singleton_append]

/-- A tag that is written is read up to what ends it. -/
theorem read_tag (h : r.Between ts) (ht : tag.Proper) {c : Char} (hc : endsName c = true) (cs : List Char) :
    r.read (tag.write ++ c :: cs) = Reader.read ⟨.inTag ⟨false, tag.name, tag.attributes⟩, [], ts⟩ (c :: cs) := by
  obtain ⟨hn, ha⟩ := ht
  have hattributes := @read_attributes ts ⟨false, tag.name, []⟩ tag.attributes fun a hm => (ha a hm).1
  rw [List.nil_append] at hattributes
  rw [Tag.write, List.append_assoc, read_append, read_opening_name h hn, ← hattributes, ← read_append]
  cases has : tag.attributes with
  | nil => exact read_behind_name false tag.name hc cs
  | cons a as => exact read_behind_name false tag.name (by decide) _

/-! ### Whole tags -/

theorem step_tag_end (draft : Draft) (ts : List Token) :
    Reader.step ⟨.inTag draft, [], ts⟩ '>' = Reader.finishTag ⟨.inTag draft, [], ts⟩ draft false := rfl

theorem read_opening (h : r.Between ts) (ht : tag.Proper) (hr : rawContent? tag.name = none) :
    r.read (tag.write ++ ['>']) = ⟨.text, [], .opening tag false :: ts⟩ := by
  rw [read_tag h ht (by decide), read_cons, read_nil, step_tag_end]
  unfold Reader.finishTag
  rw [if_neg Bool.false_ne_true]
  simp only [hr]
  rfl

theorem read_opening_raw (h : r.Between ts) (ht : tag.Proper) (hr : rawContent? tag.name = some first) :
    r.read (tag.write ++ ['>']) = ⟨.raw first tag.name [], [], .opening tag false :: ts⟩ := by
  rw [read_tag h ht (by decide), read_cons, read_nil, step_tag_end]
  unfold Reader.finishTag
  rw [if_neg Bool.false_ne_true]
  simp only [hr]
  rfl

theorem read_void (h : r.Between ts) (ht : tag.Proper) :
    r.read (tag.write ++ ['/', '>']) = ⟨.text, [], .opening tag true :: ts⟩ := by
  have hslash (draft : Draft) : Reader.step ⟨.inTag draft, [], ts⟩ '/' = ⟨.slash draft, [], ts⟩ := rfl
  have hend (draft : Draft) :
      Reader.step ⟨.slash draft, [], ts⟩ '>' = Reader.finishTag ⟨.slash draft, [], ts⟩ draft true := rfl
  rw [read_tag h ht (by decide), read_cons, hslash, read_cons, read_nil, hend]
  unfold Reader.finishTag
  rw [if_neg Bool.false_ne_true]
  simp only [if_true]
  split <;> rfl

theorem read_closing (h : r.Between ts) (hn : IsName name) :
    r.read ('<' :: '/' :: name ++ ['>']) = ⟨.text, [], .closing name :: ts⟩ := by
  rw [read_append, read_closing_name h hn, read_behind_name true name (by decide), read_cons, read_nil]
  rfl

/-! ### Texts and comments -/

theorem read_text (run : List Char) (hl : '<' ∉ cs) :
    Reader.read ⟨.text, run, ts⟩ cs = ⟨.text, cs.reverse ++ run, ts⟩ := by
  induction cs generalizing run with
  | nil => rfl
  | cons c cs ih =>
    rw [List.mem_cons, not_or] at hl
    have hstep : Reader.step ⟨.text, run, ts⟩ c = ⟨.text, c :: run, ts⟩ := by
      show (if c = '<' then _ else _) = _
      rw [if_neg fun e => hl.1 e.symm]
      rfl
    rw [read_cons, hstep, ih _ hl.2]
    simp

theorem uninterrupted_of_append : ∀ {front : List Char}, Uninterrupted (front ++ body) → Uninterrupted body
  | [], h => h
  | _ :: _, h => uninterrupted_of_append h.2

theorem read_comment_body (hu : Uninterrupted (cs.reverse ++ body)) :
    Reader.read ⟨.comment body, [], ts⟩ cs = ⟨.comment (cs.reverse ++ body), [], ts⟩ := by
  induction cs generalizing body with
  | nil => rfl
  | cons c cs ih =>
    rw [List.reverse_cons, List.append_assoc, List.singleton_append] at hu
    have hend : (if c = '>' then commentEnd? body else none) = none := by
      split
      · next hc => exact (uninterrupted_of_append hu).1 hc
      · rfl
    have hstep : Reader.step ⟨.comment body, [], ts⟩ c = ⟨.comment (c :: body), [], ts⟩ := by
      simp only [Reader.step, hend]
      rfl
    rw [read_cons, hstep, ih hu]
    simp

theorem read_comment (h : r.Between ts) {content : List Char} (hc : IsComment content) :
    r.read ("<!--".toList ++ content ++ "-->".toList) = ⟨.text, [], .comment content :: ts⟩ := by
  have hbegin : r.read "<!--".toList = ⟨.comment [], [], ts⟩ := by
    have hbang : (r.goto .less).step '!' = ⟨.bang [], [], ts⟩ := by
      show (r.goto .less).endText.goto (.bang []) = _
      rw [endText_goto h]
      rfl
    show r.read ['<', '!', '-', '-'] = _
    rw [read_cons, step_less h, read_cons, hbang]
    rfl
  have hend : Reader.read ⟨.comment content.reverse, [], ts⟩ "-->".toList =
      ⟨.text, [], .comment content.reverse.reverse :: ts⟩ := rfl
  have hbody : Uninterrupted (content.reverse ++ []) := by
    rw [List.append_nil]
    exact hc.2
  rw [read_append, read_append, hbegin, read_comment_body hbody, List.append_nil, hend, List.reverse_reverse]

/-! ### Contents that are all text -/

theorem goesOn_of_append : ∀ {front : List Char}, GoesOn first name (front ++ body) → GoesOn first name body
  | [], h => h
  | _ :: _, h => goesOn_of_append h.2

theorem stepRaw_eq (r : Reader) (content : RawContent) (name body : List Char) (c : Char) :
    r.stepRaw content name body c =
      if mayClose content && endsName c && endsWith body (closingMark name) then
        (r.endRaw content (body.drop (closingMark name).length)).stepInTag ⟨true, name, []⟩ c
      else r.goto (.raw (stepContent content body c) name (c :: body)) := rfl

theorem read_raw (hg : GoesOn first name (cs.reverse ++ body)) :
    Reader.read ⟨.raw (contentAt first body) name body, [], ts⟩ cs =
      ⟨.raw (contentAt first (cs.reverse ++ body)) name (cs.reverse ++ body), [], ts⟩ := by
  induction cs generalizing body with
  | nil => rfl
  | cons c cs ih =>
    rw [List.reverse_cons, List.append_assoc, List.singleton_append] at hg
    have hon : (mayClose (contentAt first body) && endsName c && endsWith body (closingMark name)) = false :=
      (goesOn_of_append hg).1
    have hstep : Reader.step ⟨.raw (contentAt first body) name body, [], ts⟩ c =
        ⟨.raw (contentAt first (c :: body)) name (c :: body), [], ts⟩ := by
      show Reader.stepRaw _ _ _ _ _ = _
      rw [stepRaw_eq, hon]
      rfl
    rw [read_cons, hstep, ih hg]
    simp

theorem read_raw_closing (hn : IsName name) (hc : Closes first name body) :
    Reader.read ⟨.raw (contentAt first body) name body, [], ts⟩ ('<' :: '/' :: name ++ ['>']) =
      ⟨.text, [], .closing name :: (rawTokens first body ++ ts)⟩ := by
  have lower : (closingMark name).map Char.toLower = closingMark name := by
    rw [closingMark, List.map_cons, List.map_cons, List.map_congr_left (g := id) fun c hm => (hn.1 c hm).1, List.map_id]
    rfl
  obtain ⟨hg, hmay⟩ := hc
  generalize hwhole : (closingMark name).reverse ++ body = whole at hg hmay
  have hdrop : whole.drop (closingMark name).length = body := by
    rw [← hwhole, ← List.length_reverse, List.drop_left]
  have hends : (mayClose (contentAt first whole) && endsName '>' && endsWith whole (closingMark name)) = true := by
    rw [hmay, endsWith_iff.mpr ⟨_, body, hwhole.symm, by rw [List.map_reverse, lower]⟩]
    rfl
  have hclose : Reader.step ⟨.raw (contentAt first whole) name whole, [], ts⟩ '>' =
      ⟨.text, [], .closing name :: (rawTokens first body ++ ts)⟩ := by
    obtain ⟨ht, hr⟩ := tokens_endRaw ⟨.raw (contentAt first whole) name whole, [], ts⟩ (contentAt first whole) body
    rw [rawTokens_contentAt] at ht
    show Reader.stepRaw _ _ _ _ _ = _
    rw [stepRaw_eq, hends, if_pos rfl, hdrop]
    show Reader.emit _ _ = _
    rw [Reader.emit, ht, hr]
  show Reader.read _ (closingMark name ++ ['>']) = _
  rw [read_append, read_raw (by rwa [hwhole]), hwhole, read_cons, hclose, read_nil]

end

/-! ## Pieces -/

def staysEscaped (parent : Option (List Char)) : Bool :=
  match parent.bind rawContent? with
  | none | some .referring => false
  | some _ => true

def Piece.token (parent : Option (List Char)) : Piece → Token
  | .opening tag => .opening tag false
  | .void tag => .opening tag true
  | .closing name => .closing name
  | .text content => .text (if staysEscaped parent then escape content else content)
  | .verbatim content => .text content
  | .comment content => .comment content
  | .documentType content => .documentType content

def tokensIn (around : List (List Char)) : List Piece → List Token
  | [] => []
  | p :: ps => p.token around.head? :: tokensIn (p.after around) ps

def leftOpen (around : List (List Char)) (ps : List Piece) : List (List Char) :=
  ps.foldl (fun es p => p.after es) around

/-- The pieces fit one behind the other, and no document type is among them. -/
def Follows (around : List (List Char)) (last : Option Piece) : List Piece → Prop
  | [] => True
  | p :: ps => p.Fits around.head? last ∧ (∀ content, p ≠ .documentType content) ∧ Follows (p.after around) (some p) ps

/-- Names of open elements; only the innermost can hold nothing but text. -/
structure Nest (around : List (List Char)) : Prop where
  names : ∀ e ∈ around, IsName e
  plain : ∀ e ∈ around.tail, rawContent? e = none

/-- Where the reader is behind a piece in the parent, when it has read these tokens. -/
structure Stands (parent : Option (List Char)) (last : Option Piece) (r : Reader) (ts : List Token) : Prop where
  plain : Plain parent → r.Between ts ∧ (last.any Piece.isText = false → r.run = [])
  raw : ∀ {e : List Char} {first : RawContent}, parent = some e → rawContent? e = some first →
    ∃ body past, r = ⟨.raw (contentAt first body) e body, [], past⟩ ∧ rawTokens first body ++ past = ts ∧
      Closes first e body ∧ (last.any Piece.isOpening = true → body = [])

section
variable {around : List (List Char)} {parent : Option (List Char)} {last : Option Piece} {r : Reader}
  {ts : List Token} {p : Piece}

theorem nest_after (hn : Nest around) (hf : p.Fits around.head? last) : Nest (p.after around) := by
  obtain ⟨names, plain⟩ := hn
  cases p with
  | opening tag =>
    refine ⟨List.forall_mem_cons.mpr ⟨hf.1.1, names⟩, fun e he => ?_⟩
    cases around with
    | nil => cases he
    | cons a around =>
      rcases List.mem_cons.mp he with rfl | he
      · exact hf.2.2.2.1 _ rfl
      · exact plain e he
  | closing name =>
    exact ⟨fun e he => names e (List.mem_of_mem_tail he), fun e he => plain e (List.mem_of_mem_tail he)⟩
  | _ => exact ⟨names, plain⟩

theorem not_endless {name : List Char} {first : RawContent} (hend : isIn ["plaintext"] name = false)
    (hr : rawContent? name = some first) : first ≠ .endless := by
  rintro rfl
  unfold rawContent? at hr
  repeat' split at hr
  all_goals simp_all

/-- What holds of no raw element says nothing where the parent is plain. -/
theorem stands_of_plain (h : Plain parent) (hb : r.Between ts) (hr : last.any Piece.isText = false → r.run = []) :
    Stands parent last r ts := by
  refine ⟨fun _ => ⟨hb, hr⟩, fun he hraw => ?_⟩
  rw [h _ he] at hraw
  cases hraw

theorem stands_of_raw {e : List Char} {first : RawContent} {body : List Char} {past : List Token}
    (hraw : rawContent? e = some first) (hr : r = ⟨.raw (contentAt first body) e body, [], past⟩)
    (ht : rawTokens first body ++ past = ts) (hc : Closes first e body)
    (hl : last.any Piece.isOpening = true → body = []) :
    Stands (some e) last r ts := by
  refine ⟨fun h => ?_, fun he hraw' => ?_⟩
  · rw [h e rfl] at hraw
    cases hraw
  · cases he
    rw [hraw] at hraw'
    cases hraw'
    exact ⟨body, past, hr, ht, hc, hl⟩

theorem plain_some {e : List Char} (h : rawContent? e = none) : Plain (some e) := by
  intro a ha
  cases ha
  exact h

theorem stands_opening {tag : Tag} (h : Stands parent last r ts) (hf : (Piece.opening tag).Fits parent last) :
    Stands (some tag.name) (some (.opening tag)) (r.read (tag.write ++ ['>'])) (.opening tag false :: ts) := by
  obtain ⟨proper, hend, -, plain, -⟩ := hf
  have hb := (h.plain plain).1
  rcases Option.eq_none_or_eq_some (rawContent? tag.name) with hr | ⟨first, hr⟩
  · rw [read_opening hb proper hr]
    exact stands_of_plain (plain_some hr) (between_self _) fun _ => rfl
  · rw [read_opening_raw hb proper hr]
    exact stands_of_raw hr rfl rfl (closes_of_no_less hr (not_endless hend hr) List.not_mem_nil) fun _ => rfl

theorem stands_void {tag : Tag} (h : Stands parent last r ts) (hf : (Piece.void tag).Fits parent last) :
    Stands parent (some (.void tag)) (r.read (tag.write ++ ['/', '>'])) (.opening tag true :: ts) := by
  obtain ⟨proper, -, plain, -⟩ := hf
  rw [read_void (h.plain plain).1 proper]
  exact stands_of_plain plain (between_self _) fun _ => rfl

theorem stands_closing {name : List Char} {outer : List (List Char)} (hn : Nest (name :: outer))
    (h : Stands (some name) last r ts) :
    Stands outer.head? (some (.closing name)) (r.read ('<' :: '/' :: name ++ ['>'])) (.closing name :: ts) := by
  have hname := hn.names name List.mem_cons_self
  have hplain : Plain outer.head? := fun e he => hn.plain e (List.mem_of_mem_head? he)
  rcases Option.eq_none_or_eq_some (rawContent? name) with hr | ⟨first, hr⟩
  · rw [read_closing (h.plain (plain_some hr)).1 hname]
    exact stands_of_plain hplain (between_self _) fun _ => rfl
  · obtain ⟨body, past, rfl, rfl, hc, -⟩ := h.raw rfl hr
    rw [read_raw_closing hname hc]
    exact stands_of_plain hplain (between_self _) fun _ => rfl

theorem stands_comment {content : List Char} (h : Stands parent last r ts)
    (hf : (Piece.comment content).Fits parent last) :
    Stands parent (some (.comment content)) (r.read ("<!--".toList ++ content ++ "-->".toList))
      (.comment content :: ts) := by
  obtain ⟨hc, plain⟩ := hf
  rw [read_comment (h.plain plain).1 hc]
  exact stands_of_plain plain (between_self _) fun _ => rfl

theorem escape_ne_nil {content : List Char} (h : content ≠ []) : escape content ≠ [] := fun he =>
  h (escape_injective (he.trans escape_nil.symm))

theorem staysEscaped_of_plain (h : Plain parent) : staysEscaped parent = false := by
  have hb : parent.bind rawContent? = none := by
    cases parent with
    | none => rfl
    | some e => exact h e rfl
  rw [staysEscaped, hb]

theorem staysEscaped_of_raw {e : List Char} {first : RawContent} (hraw : rawContent? e = some first) :
    staysEscaped (some e) = decide (first ≠ .referring) := by
  rw [staysEscaped, Option.bind_some, hraw]
  cases first <;> rfl

theorem stands_text_plain {content : List Char} (h : Stands parent last r ts)
    (hf : (Piece.text content).Fits parent last) (plain : Plain parent) :
    Stands parent (some (.text content)) (r.read (escape content))
      (.text (if staysEscaped parent then escape content else content) :: ts) := by
  obtain ⟨-, hne, hl, -⟩ := hf
  obtain ⟨hb, hrun⟩ := h.plain plain
  have hr : r = ⟨.text, [], ts⟩ := by
    have hself : r.endText = r := by
      unfold Reader.endText
      rw [hrun hl]
      rfl
    rw [← hb, hself]
  have hend : Reader.Between ⟨.text, (escape content).reverse, ts⟩ (.text content :: ts) := by
    unfold Reader.Between Reader.endText
    rw [if_neg (by simpa using escape_ne_nil hne)]
    show (⟨.text, [], .text (resolve .text (escape content).reverse.reverse) :: ts⟩ : Reader) = _
    rw [List.reverse_reverse, resolve_escape]
  rw [hr, read_text [] (less_not_mem_escape content), List.append_nil, staysEscaped_of_plain plain]
  exact stands_of_plain plain hend fun ht => by cases ht

theorem stands_text_raw {content e : List Char} {first : RawContent} (hraw : rawContent? e = some first)
    (hend : first ≠ .endless) (h : Stands (some e) last r ts) (hf : (Piece.text content).Fits (some e) last) :
    Stands (some e) (some (.text content)) (r.read (escape content))
      (.text (if staysEscaped (some e) then escape content else content) :: ts) := by
  obtain ⟨-, hne, -, hp⟩ := hf
  obtain ⟨-, hl⟩ := hp e rfl
  have hl := hl.resolve_left fun hn => by rw [hn] at hraw; cases hraw
  obtain ⟨body, past, rfl, rfl, -, hbody⟩ := h.raw rfl hraw
  have hless : '<' ∉ (escape content).reverse := by simpa using less_not_mem_escape content
  have hc := closes_of_no_less hraw hend hless
  have hg : GoesOn first e ((escape content).reverse ++ []) := by
    rw [List.append_nil]
    exact goesOn_of_append hc.1
  have htokens : rawTokens first (escape content).reverse =
      [.text (if staysEscaped (some e) then escape content else content)] := by
    unfold rawTokens
    rw [if_neg (by simpa using escape_ne_nil hne), List.reverse_reverse, resolve_escape, staysEscaped_of_raw hraw]
    by_cases hf : first = .referring
    · rw [if_pos hf, if_neg (by simpa using hf)]
    · rw [if_neg hf, if_pos (by simpa using hf)]
  obtain rfl := hbody hl
  rw [read_raw hg, List.append_nil]
  exact stands_of_raw hraw rfl (by rw [htokens]; rfl) hc fun ht => by cases ht

theorem stands_verbatim {content e : List Char} {first : RawContent} (hraw : rawContent? e = some first)
    (hv : isIn verbatimNames e = true) (h : Stands (some e) last r ts) (hl : last.any Piece.isOpening = true)
    (hne : content ≠ []) (hc : Closes first e content.reverse) :
    Stands (some e) (some (.verbatim content)) (r.read content) (.text content :: ts) := by
  obtain ⟨body, past, rfl, rfl, -, hbody⟩ := h.raw rfl hraw
  have hg : GoesOn first e (content.reverse ++ []) := by
    rw [List.append_nil]
    exact goesOn_of_append hc.1
  have hkind : rawContent? e ≠ some .referring :=
    forall_of_isIn (P := fun e => rawContent? e ≠ some .referring) (by decide) hv
  have htokens : rawTokens first content.reverse = [.text content] := by
    unfold rawTokens
    rw [if_neg (by simpa using hne), if_neg fun he => hkind (hraw.trans (congrArg some he)),
      List.reverse_reverse]
  obtain rfl := hbody hl
  rw [read_raw hg, List.append_nil]
  exact stands_of_raw hraw rfl (by rw [htokens]; rfl) hc fun ht => by cases ht

/-- One piece more: the reader stands behind it, and has read it as its token. -/
theorem stands_write (hn : Nest around) (hend : ∀ e ∈ around, isIn ["plaintext"] e = false)
    (h : Stands around.head? last r ts) (hf : p.Fits around.head? last) (hd : ∀ content, p ≠ .documentType content) :
    Stands (p.after around).head? (some p) (r.read p.write) (p.token around.head? :: ts) := by
  cases p with
  | opening tag => exact stands_opening h hf
  | void tag => exact stands_void h hf
  | closing name =>
    cases around with
    | nil => cases hf.1
    | cons e around =>
      obtain rfl : e = name := Option.some.inj hf.1
      exact stands_closing hn h
  | text content =>
    by_cases plain : Plain around.head?
    · exact stands_text_plain h hf plain
    · cases around with
      | nil => exact absurd (fun e he => by cases he) plain
      | cons e around =>
        rcases Option.eq_none_or_eq_some (rawContent? e) with hr | ⟨first, hr⟩
        · exact absurd (plain_some hr) plain
        · exact stands_text_raw hr (not_endless (hend e List.mem_cons_self) hr) h hf
  | verbatim content =>
    obtain ⟨-, hne, hl, e, first, he, hv, hr, hc⟩ := hf
    show Stands around.head? _ _ _
    rw [he] at h ⊢
    exact stands_verbatim hr hv h hl hne hc
  | comment content => exact stands_comment h hf
  | documentType content => exact absurd rfl (hd content)

theorem not_plaintext_after (hend : ∀ e ∈ around, isIn ["plaintext"] e = false) (hf : p.Fits around.head? last) :
    ∀ e ∈ p.after around, isIn ["plaintext"] e = false := by
  cases p with
  | opening tag => exact List.forall_mem_cons.mpr ⟨hf.2.1, hend⟩
  | closing name => exact fun e he => hend e (List.mem_of_mem_tail he)
  | _ => exact hend

/-- By induction on the pieces. -/
theorem stands_writes {ps : List Piece} (hn : Nest around) (hend : ∀ e ∈ around, isIn ["plaintext"] e = false)
    (h : Stands around.head? last r ts) (hf : Follows around last ps) :
    ∃ last', Stands (leftOpen around ps).head? last' (r.read (write ps)) ((tokensIn around ps).reverse ++ ts) := by
  induction ps generalizing around last r ts with
  | nil => exact ⟨last, h⟩
  | cons p ps ih =>
    obtain ⟨hp, hd, hf⟩ := hf
    obtain ⟨last', hs⟩ := ih (nest_after hn hp) (not_plaintext_after hend hp) (stands_write hn hend h hp hd) hf
    refine ⟨last', ?_⟩
    rw [write, List.flatMap_cons, ← write, read_append, tokensIn, List.reverse_cons, List.append_assoc,
      List.singleton_append]
    exact hs

/-- Pieces in which every element is closed are read as their tokens. -/
theorem finish_write {ps : List Piece} (hf : Follows [] none ps) (hclosed : leftOpen [] ps = []) :
    (Reader.start.read (write ps)).finish = tokensIn [] ps := by
  have plain : Plain none := fun e he => by cases he
  have hnest : Nest [] := ⟨fun _ he => absurd he List.not_mem_nil, fun _ he => absurd he List.not_mem_nil⟩
  have hstart : Stands ([] : List (List Char)).head? none Reader.start [] :=
    stands_of_plain plain (between_self []) fun _ => rfl
  obtain ⟨last, hs⟩ := stands_writes hnest (fun _ he => absurd he List.not_mem_nil) hstart hf
  rw [hclosed, List.append_nil] at hs
  have hb := (hs.plain plain).1
  unfold Reader.finish
  rw [mode_of_between hb]
  dsimp only
  rw [hb, List.reverse_reverse]

end

end ZigDecls.Markup
