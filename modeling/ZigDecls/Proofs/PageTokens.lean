import ZigDecls.Proofs.RawContents
import ZigDecls.Proofs.References

/-!
# The tokens of a page

What the reader gives can be written so that it is read again: names end where they are written to end,
no comment holds its own end, and what is all text stands between its tags (`Read`). Each character
keeps the reader on such tokens (`Sound`), and so does a whole page that closes what it opens
(`read_of_wellFormed`).
-/

namespace ZigDecls.Markup
open Text Reader

/-! ## What can be written -/

def Spelled (cs : List Char) : Prop := ∀ c ∈ cs, c.toLower = c ∧ endsName c = false ∧ c ≠ '\x00'

def IsName (name : List Char) : Prop := Spelled name ∧ ∃ c cs, name = c :: cs ∧ c.isAlpha = true

def IsKey (key : List Char) : Prop := Spelled key ∧ ∃ c cs, key = c :: cs ∧ '=' ∉ cs

def Tag.Proper (tag : Tag) : Prop := IsName tag.name ∧ ∀ a ∈ tag.attributes, IsKey a.1 ∧ NulFree a.2

def Readable (cs : List Char) : Prop := ∀ c ∈ cs, c ≠ '\x00' ∧ c ≠ '\r'

/-- Nothing in the body ends the comment; its last character is in front. -/
def Uninterrupted : List Char → Prop
  | [] => True
  | c :: body => (c = '>' → commentEnd? body = none) ∧ Uninterrupted body

def IsComment (content : List Char) : Prop := Readable content ∧ Uninterrupted content.reverse

def rawTokens (content : RawContent) (body : List Char) : List Token :=
  if body.isEmpty then [] else [.text (if content = .referring then resolve .text body.reverse else body.reverse)]

/-- Tokens that a reader can have read, the last one in front. -/
inductive Read : List Token → Prop
  | start : Read []
  | opening {ts : List Token} {tag : Tag} {closed : Bool} (before : Read ts) (proper : tag.Proper)
      (plain : closed = true ∨ rawContent? tag.name = none) : Read (.opening tag closed :: ts)
  | closing {ts : List Token} {name : List Char} (before : Read ts) (isName : IsName name) : Read (.closing name :: ts)
  | text {ts : List Token} {content : List Char} (before : Read ts) (free : NulFree content) :
      Read (.text content :: ts)
  | comment {ts : List Token} {content : List Char} (before : Read ts) (isComment : IsComment content) :
      Read (.comment content :: ts)
  | documentType {ts : List Token} {content : List Char} (before : Read ts) : Read (.documentType content :: ts)
  /-- An element whose content is all text. -/
  | raw {ts : List Token} {tag : Tag} {content : RawContent} {body : List Char} (before : Read ts) (proper : tag.Proper)
      (isRaw : rawContent? tag.name = some content) (readable : Readable body)
      (closes : Closes content tag.name body) :
      Read (.closing tag.name :: (rawTokens content body ++ .opening tag false :: ts))

/-! ## The reader -/

def Draft.Fits (tag : Draft) (ts : List Token) : Prop :=
  if tag.closing then Read (.closing tag.name :: ts) else Read ts ∧ Tag.Proper ⟨tag.name, tag.attributes⟩

def Mode.Sound (ts : List Token) : Mode → Prop
  | .text | .less | .lessSlash | .documentType _ => Read ts
  | .bang body | .remark body => Read ts ∧ Readable body ∧ '>' ∉ body
  | .comment body => Read ts ∧ Readable body ∧ Uninterrupted body
  | .tagName _ name => Read ts ∧ IsName name.reverse
  | .inTag tag | .slash tag => tag.Fits ts
  | .attributeName tag name | .afterName tag name | .beforeValue tag name => tag.Fits ts ∧ IsKey name.reverse
  | .value tag name _ body => tag.Fits ts ∧ IsKey name.reverse ∧ NulFree body
  | .raw content name body => ∃ past tag first, ts = .opening tag false :: past ∧ Read past ∧ tag.Proper ∧
      tag.name = name ∧ rawContent? name = some first ∧ content = contentAt first body ∧ GoesOn first name body ∧
      Readable body

structure Reader.Sound (r : Reader) : Prop where
  run : NulFree r.run
  mode : r.mode.Sound r.tokens

section
variable {r : Reader} {tag : Draft} {name body : List Char} {c : Char}

theorem nulFree_of_readable {cs : List Char} (h : Readable cs) : NulFree cs := fun hm => (h _ hm).1 rfl

theorem readable_cons {cs : List Char} : Readable (c :: cs) ↔ (c ≠ '\x00' ∧ c ≠ '\r') ∧ Readable cs :=
  List.forall_mem_cons

theorem readable_singleton (hc : c ≠ '\x00' ∧ c ≠ '\r') : Readable [c] :=
  readable_cons.mpr ⟨hc, fun _ h => absurd h List.not_mem_nil⟩

theorem spelled_toLower {cs : List Char} (hs : Spelled cs) (hc : c ≠ '\x00') (he : endsName c = false) :
    Spelled (cs ++ [c.toLower]) := by
  intro d hd
  rcases List.mem_append.mp hd with hd | hd
  · exact hs d hd
  · rw [List.mem_singleton] at hd
    subst hd
    exact ⟨toLower_toLower c, (endsName_toLower c).trans he, fun h => hc ((toLower_eq_iff (by decide)).mp h)⟩

theorem isKey_snoc {key : List Char} (hk : IsKey key) (hc : c ≠ '\x00') (he : endsName c = false) (hq : c ≠ '=') :
    IsKey (key ++ [c.toLower]) := by
  obtain ⟨hs, d, cs, rfl, hn⟩ := hk
  refine ⟨spelled_toLower hs hc he, d, cs ++ [c.toLower], rfl, ?_⟩
  rw [List.mem_append, List.mem_singleton, not_or]
  exact ⟨hn, fun h => hq ((toLower_eq_iff (by decide)).mp h.symm)⟩

theorem uninterrupted_of_not_mem (h : '>' ∉ body) : Uninterrupted body := by
  induction body with
  | nil => trivial
  | cons c body ih =>
    rw [List.mem_cons, not_or] at h
    exact ⟨fun hc => absurd hc.symm h.1, ih h.2⟩

theorem isComment_reverse (hr : Readable body) (hu : Uninterrupted body) : IsComment body.reverse :=
  ⟨fun c hc => hr c (List.mem_reverse.mp hc), by rwa [List.reverse_reverse]⟩

theorem isComment_of_commentEnd? {content : List Char} (hr : Readable body) (hu : Uninterrupted body)
    (h : commentEnd? body = some content) : IsComment content := by
  unfold commentEnd? at h
  split at h
  · next rest =>
    cases h
    exact isComment_reverse (fun c hc => hr c (by simp [hc])) hu.2.2
  · next rest =>
    cases h
    exact isComment_reverse (fun c hc => hr c (by simp [hc])) hu.2.2.2
  · cases h
    exact ⟨fun _ hc => absurd hc List.not_mem_nil, trivial⟩
  · cases h
    exact ⟨fun _ hc => absurd hc List.not_mem_nil, trivial⟩
  · cases h

/-! ### Steps of the reader -/

theorem endText_sound (hn : NulFree r.run) (hr : Read r.tokens) : NulFree r.endText.run ∧ Read r.endText.tokens := by
  unfold Reader.endText
  split
  · exact ⟨hn, hr⟩
  · exact ⟨List.not_mem_nil, .text hr (resolve_nulFree (nulFree_reverse.mpr hn))⟩

theorem finishTag_sound {closed : Bool} (hn : NulFree r.run) (ht : tag.Fits r.tokens) :
    (r.finishTag tag closed).Sound := by
  unfold Draft.Fits at ht
  unfold Reader.finishTag
  split
  · next h =>
    rw [if_pos h] at ht
    exact ⟨hn, ht⟩
  · next h =>
    rw [if_neg h] at ht
    dsimp only
    split
    · next content hraw =>
      split
      · next hc => exact ⟨hn, .opening ht.1 ht.2 (.inl hc)⟩
      · next hc =>
        obtain rfl : closed = false := by simpa using hc
        exact ⟨hn, r.tokens, _, content, rfl, ht.1, ht.2, rfl, hraw, rfl, trivial, fun _ h => absurd h List.not_mem_nil⟩
    · next hraw => exact ⟨hn, .opening ht.1 ht.2 (.inr hraw)⟩

theorem addAttribute_fits {ts : List Token} (ht : tag.Fits ts) (hk : IsKey name.reverse) (hb : NulFree body) :
    (addAttribute tag name body).Fits ts := by
  unfold Draft.Fits at *
  show if tag.closing then _ else _
  split
  · next h => rwa [if_pos h] at ht
  · next h =>
    rw [if_neg h] at ht
    refine ⟨ht.1, ht.2.1, fun a ha => ?_⟩
    rcases List.mem_append.mp ha with ha | ha
    · exact ht.2.2 a ha
    · rw [List.mem_singleton] at ha
      subst ha
      exact ⟨hk, resolve_nulFree (nulFree_reverse.mpr hb)⟩

theorem stepInTag_sound (hn : NulFree r.run) (ht : tag.Fits r.tokens) (hc : c ≠ '\x00') :
    (r.stepInTag tag c).Sound := by
  unfold Reader.stepInTag
  split
  · exact ⟨hn, ht⟩
  next hs =>
  split
  · exact ⟨hn, ht⟩
  next hslash =>
  split
  · exact finishTag_sound hn ht
  next hgreater =>
  have he : endsName c = false := by simp_all [endsName]
  exact ⟨hn, ht, spelled_toLower (fun _ h => absurd h List.not_mem_nil) hc he, c.toLower, [], rfl, List.not_mem_nil⟩

theorem stepBang_sound (hn : NulFree r.run) (hr : Read r.tokens) (hb : Readable body) (hg : '>' ∉ body)
    (hc : c ≠ '\x00' ∧ c ≠ '\r') : (r.stepBang body c).Sound := by
  unfold Reader.stepBang
  dsimp only
  split
  · exact ⟨hn, .comment hr (isComment_reverse hb (uninterrupted_of_not_mem hg))⟩
  next hne =>
  have grown : Readable (c :: body) ∧ '>' ∉ c :: body :=
    ⟨readable_cons.mpr ⟨hc, hb⟩, List.not_mem_cons_of_ne_of_not_mem (fun h => hne h.symm) hg⟩
  split
  · exact ⟨hn, hr, fun _ h => absurd h List.not_mem_nil, trivial⟩
  split
  · exact ⟨hn, hr⟩
  split
  · exact ⟨hn, hr, grown⟩
  · exact ⟨hn, hr, grown⟩

theorem contentAt_eq_referring_iff {content : RawContent} :
    contentAt content body = .referring ↔ content = .referring := by
  induction body with
  | nil => exact Iff.rfl
  | cons c body ih =>
    rw [← ih, contentAt]
    cases contentAt content body with
    | script state => simp [stepContent]
    | _ => rfl

theorem rawTokens_contentAt {content : RawContent} (rest : List Char) :
    rawTokens (contentAt content body) rest = rawTokens content rest := by
  simp only [rawTokens, contentAt_eq_referring_iff]

theorem tokens_endRaw (r : Reader) (content : RawContent) (body : List Char) :
    (r.endRaw content body).tokens = rawTokens content body ++ r.tokens ∧ (r.endRaw content body).run = r.run := by
  unfold Reader.endRaw rawTokens
  split
  · exact ⟨rfl, rfl⟩
  · split <;> exact ⟨rfl, rfl⟩

/-- By cases of whether the character ends the content: then the closing tag has begun. -/
theorem stepRaw_sound {content : RawContent} (hn : NulFree r.run) (hm : Mode.Sound r.tokens (.raw content name body))
    (hc : c ≠ '\x00' ∧ c ≠ '\r') : (r.stepRaw content name body c).Sound := by
  obtain ⟨past, opened, first, hts, hread, hproper, rfl, hraw, rfl, hgoes, hbody⟩ := hm
  have hends : (mayClose (contentAt first body) && endsName c && endsWith body ('<' :: '/' :: opened.name)) =
      endsAt first opened.name body c := rfl
  unfold Reader.stepRaw
  dsimp only
  rw [hends]
  split
  · next he =>
    have hcloses := closes_of_endsAt (map_toLower_closingMark (isIn_of_rawContent? hraw)) hgoes he
    have hrest : Readable (body.drop (closingMark opened.name).length) := fun d hd => hbody d (List.mem_of_mem_drop hd)
    obtain ⟨htokens, hrun⟩ := tokens_endRaw r (contentAt first body) (body.drop (closingMark opened.name).length)
    refine stepInTag_sound (hrun ▸ hn) ?_ hc.1
    show Read (.closing opened.name ::
      (r.endRaw (contentAt first body) (body.drop (closingMark opened.name).length)).tokens)
    rw [htokens, rawTokens_contentAt, hts]
    exact .raw hread hproper hraw hrest hcloses
  · next he =>
    exact ⟨hn, past, opened, first, hts, hread, hproper, rfl, hraw, rfl, ⟨Bool.eq_false_iff.mpr he, hgoes⟩,
      readable_cons.mpr ⟨hc, hbody⟩⟩

theorem isName_begin (ha : c.isAlpha = true) (hc : c ≠ '\x00') : IsName [c.toLower].reverse :=
  ⟨spelled_toLower (fun _ h => absurd h List.not_mem_nil) hc (not_endsName_of_isAlpha ha), c.toLower, [], rfl,
    isAlpha_toLower ha⟩

/-! ### One character, by the mode -/

theorem step_text_sound (hmode : r.mode = .text) (hn : NulFree r.run) (hr : Read r.tokens) (hc : c ≠ '\x00') :
    (r.step c).Sound := by
  unfold Reader.step
  rw [hmode]
  dsimp only
  split
  · exact ⟨hn, hr⟩
  · exact ⟨nulFree_cons.mpr ⟨hc, hn⟩, hr⟩

theorem step_less_sound (hmode : r.mode = .less) (hn : NulFree r.run) (hr : Read r.tokens)
    (hc : c ≠ '\x00' ∧ c ≠ '\r') : (r.step c).Sound := by
  have ended := endText_sound hn hr
  have pushed : NulFree ('<' :: r.run) := nulFree_cons.mpr ⟨by decide, hn⟩
  unfold Reader.step
  rw [hmode]
  dsimp only
  split
  · next ha => exact ⟨ended.1, ended.2, isName_begin ha hc.1⟩
  split
  · exact ⟨hn, hr⟩
  split
  · exact ⟨ended.1, ended.2, fun _ h => absurd h List.not_mem_nil, List.not_mem_nil⟩
  split
  · next hq => exact ⟨ended.1, ended.2, readable_singleton hc, by rw [hq]; decide⟩
  split
  · exact ⟨pushed, hr⟩
  · exact ⟨nulFree_cons.mpr ⟨hc.1, pushed⟩, hr⟩

theorem step_lessSlash_sound (hmode : r.mode = .lessSlash) (hn : NulFree r.run) (hr : Read r.tokens)
    (hc : c ≠ '\x00' ∧ c ≠ '\r') : (r.step c).Sound := by
  have ended := endText_sound hn hr
  unfold Reader.step
  rw [hmode]
  dsimp only
  split
  · next ha => exact ⟨ended.1, ended.2, isName_begin ha hc.1⟩
  split
  · exact ⟨ended.1, ended.2⟩
  · next hg => exact ⟨ended.1, ended.2, readable_singleton hc, by simpa [eq_comm] using hg⟩

theorem step_remark_sound (hmode : r.mode = .remark body) (hn : NulFree r.run) (hr : Read r.tokens)
    (hb : Readable body) (hg : '>' ∉ body) (hc : c ≠ '\x00' ∧ c ≠ '\r') : (r.step c).Sound := by
  unfold Reader.step
  rw [hmode]
  dsimp only
  split
  · exact ⟨hn, .comment hr (isComment_reverse hb (uninterrupted_of_not_mem hg))⟩
  · next hne => exact ⟨hn, hr, readable_cons.mpr ⟨hc, hb⟩, List.not_mem_cons_of_ne_of_not_mem (fun h => hne h.symm) hg⟩

theorem step_comment_sound (hmode : r.mode = .comment body) (hn : NulFree r.run) (hr : Read r.tokens)
    (hb : Readable body) (hu : Uninterrupted body) (hc : c ≠ '\x00' ∧ c ≠ '\r') : (r.step c).Sound := by
  unfold Reader.step
  rw [hmode]
  dsimp only
  split
  · next content he =>
    split at he
    · exact ⟨hn, .comment hr (isComment_of_commentEnd? hb hu he)⟩
    · cases he
  · next he => exact ⟨hn, hr, readable_cons.mpr ⟨hc, hb⟩, fun hg => by rwa [if_pos hg] at he, hu⟩

theorem step_documentType_sound (hmode : r.mode = .documentType body) (hn : NulFree r.run) (hr : Read r.tokens) :
    (r.step c).Sound := by
  unfold Reader.step
  rw [hmode]
  dsimp only
  split
  · exact ⟨hn, .documentType hr⟩
  · exact ⟨hn, hr⟩

theorem step_tagName_sound {closing : Bool} (hmode : r.mode = .tagName closing name) (hn : NulFree r.run)
    (hr : Read r.tokens) (hname : IsName name.reverse) (hc : c ≠ '\x00') : (r.step c).Sound := by
  unfold Reader.step
  rw [hmode]
  dsimp only
  split
  · refine stepInTag_sound hn ?_ hc
    unfold Draft.Fits
    split
    · exact .closing hr hname
    · exact ⟨hr, hname, fun _ h => absurd h List.not_mem_nil⟩
  · next he =>
    refine ⟨hn, hr, ?_⟩
    obtain ⟨hs, d, ds, hd, ha⟩ := hname
    rw [List.reverse_cons]
    exact ⟨spelled_toLower hs hc (Bool.eq_false_iff.mpr he), d, ds ++ [c.toLower], by rw [hd]; rfl, ha⟩

theorem step_attributeName_sound (hmode : r.mode = .attributeName tag name) (hn : NulFree r.run)
    (ht : tag.Fits r.tokens) (hk : IsKey name.reverse) (hc : c ≠ '\x00') : (r.step c).Sound := by
  unfold Reader.step
  rw [hmode]
  dsimp only
  split
  · exact ⟨hn, ht, hk⟩
  next hq =>
  split
  · exact ⟨hn, ht, hk⟩
  split
  · exact stepInTag_sound hn (addAttribute_fits ht hk List.not_mem_nil) hc
  · next he =>
    refine ⟨hn, ht, ?_⟩
    rw [List.reverse_cons]
    exact isKey_snoc hk hc (Bool.eq_false_iff.mpr he) hq

theorem step_afterName_sound (hmode : r.mode = .afterName tag name) (hn : NulFree r.run) (ht : tag.Fits r.tokens)
    (hk : IsKey name.reverse) (hc : c ≠ '\x00') : (r.step c).Sound := by
  unfold Reader.step
  rw [hmode]
  dsimp only
  split
  · exact ⟨hn, ht, hk⟩
  split
  · exact ⟨hn, hmode ▸ ⟨ht, hk⟩⟩
  · exact stepInTag_sound hn (addAttribute_fits ht hk List.not_mem_nil) hc

theorem step_beforeValue_sound (hmode : r.mode = .beforeValue tag name) (hn : NulFree r.run) (ht : tag.Fits r.tokens)
    (hk : IsKey name.reverse) (hc : c ≠ '\x00') : (r.step c).Sound := by
  unfold Reader.step
  rw [hmode]
  dsimp only
  split
  · exact ⟨hn, hmode ▸ ⟨ht, hk⟩⟩
  split
  · exact ⟨hn, ht, hk, List.not_mem_nil⟩
  split
  · exact finishTag_sound hn (addAttribute_fits ht hk List.not_mem_nil)
  · exact ⟨hn, ht, hk, nulFree_cons.mpr ⟨hc, List.not_mem_nil⟩⟩

theorem step_value_sound {mark : Option Char} (hmode : r.mode = .value tag name mark body) (hn : NulFree r.run)
    (ht : tag.Fits r.tokens) (hk : IsKey name.reverse) (hb : NulFree body) (hc : c ≠ '\x00') : (r.step c).Sound := by
  unfold Reader.step
  rw [hmode]
  cases mark with
  | some q =>
    dsimp only
    split
    · exact ⟨hn, addAttribute_fits ht hk hb⟩
    · exact ⟨hn, ht, hk, nulFree_cons.mpr ⟨hc, hb⟩⟩
  | none =>
    dsimp only
    split
    · exact stepInTag_sound hn (addAttribute_fits ht hk hb) hc
    · exact ⟨hn, ht, hk, nulFree_cons.mpr ⟨hc, hb⟩⟩

theorem step_slash_sound (hmode : r.mode = .slash tag) (hn : NulFree r.run) (ht : tag.Fits r.tokens)
    (hc : c ≠ '\x00') : (r.step c).Sound := by
  unfold Reader.step
  rw [hmode]
  dsimp only
  split
  · exact finishTag_sound hn ht
  · exact stepInTag_sound hn ht hc

theorem step_sound (h : r.Sound) (hc : c ≠ '\x00' ∧ c ≠ '\r') : (r.step c).Sound := by
  obtain ⟨hn, hm⟩ := h
  cases hmode : r.mode with
  | text =>
    rw [hmode] at hm
    exact step_text_sound hmode hn hm hc.1
  | less =>
    rw [hmode] at hm
    exact step_less_sound hmode hn hm hc
  | lessSlash =>
    rw [hmode] at hm
    exact step_lessSlash_sound hmode hn hm hc
  | bang body =>
    rw [hmode] at hm
    unfold Reader.step
    rw [hmode]
    exact stepBang_sound hn hm.1 hm.2.1 hm.2.2 hc
  | remark body =>
    rw [hmode] at hm
    exact step_remark_sound hmode hn hm.1 hm.2.1 hm.2.2 hc
  | comment body =>
    rw [hmode] at hm
    exact step_comment_sound hmode hn hm.1 hm.2.1 hm.2.2 hc
  | documentType body =>
    rw [hmode] at hm
    exact step_documentType_sound hmode hn hm
  | tagName closing name =>
    rw [hmode] at hm
    exact step_tagName_sound hmode hn hm.1 hm.2 hc.1
  | inTag tag =>
    rw [hmode] at hm
    unfold Reader.step
    rw [hmode]
    exact stepInTag_sound hn hm hc.1
  | attributeName tag name =>
    rw [hmode] at hm
    exact step_attributeName_sound hmode hn hm.1 hm.2 hc.1
  | afterName tag name =>
    rw [hmode] at hm
    exact step_afterName_sound hmode hn hm.1 hm.2 hc.1
  | beforeValue tag name =>
    rw [hmode] at hm
    exact step_beforeValue_sound hmode hn hm.1 hm.2 hc.1
  | value tag name mark body =>
    rw [hmode] at hm
    exact step_value_sound hmode hn hm.1 hm.2.1 hm.2.2 hc.1
  | slash tag =>
    rw [hmode] at hm
    exact step_slash_sound hmode hn hm hc.1
  | raw content name body =>
    rw [hmode] at hm
    unfold Reader.step
    rw [hmode]
    exact stepRaw_sound hn hm hc

theorem foldl_step_sound {cs : List Char} (h : r.Sound) (hcs : Readable cs) : (cs.foldl Reader.step r).Sound := by
  induction cs generalizing r with
  | nil => exact h
  | cons c cs ih =>
    rw [readable_cons] at hcs
    exact ih (step_sound h hcs.1) hcs.2

def Unended (ts : List Token) : Prop :=
  ∃ content body tag past, ts = rawTokens content body ++ .opening tag false :: past ∧ isIn rawNames tag.name = true

theorem read_before_closing {ts : List Token} (h : Read (.closing name :: ts)) : Read ts ∨ Unended ts := by
  cases h with
  | closing before isName => exact .inl before
  | raw before proper isRaw readable closes => exact .inr ⟨_, _, _, _, rfl, isIn_of_rawContent? isRaw⟩

theorem read_or_unended {ts : List Token} (ht : tag.Fits ts) : Read ts ∨ Unended ts := by
  unfold Draft.Fits at ht
  split at ht
  · exact read_before_closing ht
  · exact .inl ht.1

theorem finish_read (h : r.Sound) : Read r.finish.reverse ∨ Unended r.finish.reverse := by
  obtain ⟨hn, hm⟩ := h
  have pushed : NulFree ('<' :: r.run) := nulFree_cons.mpr ⟨by decide, hn⟩
  unfold Reader.finish
  rw [List.reverse_reverse]
  cases hmode : r.mode with
  | text =>
    rw [hmode] at hm
    exact .inl (endText_sound hn hm).2
  | less =>
    rw [hmode] at hm
    exact .inl (@endText_sound (r.push '<') pushed hm).2
  | lessSlash =>
    rw [hmode] at hm
    exact .inl (@endText_sound ((r.push '<').push '/') (nulFree_cons.mpr ⟨by decide, pushed⟩) hm).2
  | bang body | remark body =>
    rw [hmode] at hm
    exact .inl (.comment hm.1 (isComment_reverse hm.2.1 (uninterrupted_of_not_mem hm.2.2)))
  | comment body =>
    rw [hmode] at hm
    exact .inl (.comment hm.1 (isComment_reverse hm.2.1 hm.2.2))
  | documentType body =>
    rw [hmode] at hm
    exact .inl hm
  | tagName closing name =>
    rw [hmode] at hm
    exact .inl hm.1
  | inTag tag | slash tag =>
    rw [hmode] at hm
    exact read_or_unended hm
  | attributeName tag name | afterName tag name | beforeValue tag name | value tag name mark body =>
    rw [hmode] at hm
    exact read_or_unended hm.1
  | raw content name body =>
    rw [hmode] at hm
    obtain ⟨past, opened, first, hts, -, -, rfl, hraw, -⟩ := hm
    exact .inr ⟨_, _, _, _, (tokens_endRaw r content body).1.trans (by rw [hts]), isIn_of_rawContent? hraw⟩

end

/-! ## Well-formed pages -/

def Token.isFront : Token → Bool
  | .documentType _ | .comment _ | .text _ => true
  | _ => false

/-- Whether the elements that are open, and those that the tokens open, are closed in order and no
others. Nothing closes a `plaintext`, and a document type stands in no element. -/
def closesAll (around : List (List Char)) : List Token → Bool
  | [] => around.isEmpty
  | .opening tag closed :: ts =>
    if isIn ["plaintext"] tag.name then false
    else if closed || isIn emptyNames tag.name then closesAll around ts
    else closesAll (tag.name :: around) ts
  | .closing name :: ts => around.head? == some name && closesAll around.tail ts
  | .text _ :: ts | .comment _ :: ts => closesAll around ts
  | .documentType _ :: _ => false

/-- A page that closes what it opens, with document types in front only. -/
def WellFormed (page : List Char) : Prop := closesAll [] ((tokens page).dropWhile Token.isFront) = true

instance (page : List Char) : Decidable (WellFormed page) := inferInstanceAs (Decidable (_ = true))

theorem readable_readable (page : List Char) : Readable (readable page) := by
  intro c hc
  obtain ⟨d, hd, rfl⟩ := List.mem_map.mp hc
  split
  · exact ⟨by decide, by decide⟩
  · next hn => exact ⟨hn, fun h => return_not_mem_unifyNewlines _ (h ▸ hd)⟩

theorem tokens_read (page : List Char) : Read (tokens page).reverse ∨ Unended (tokens page).reverse :=
  finish_read (foldl_step_sound ⟨List.not_mem_nil, Read.start⟩ (readable_readable page))

theorem exists_closesAll {front ts : List Token} {around : List (List Char)}
    (h : closesAll around (front ++ ts) = true) :
    ∃ inner, closesAll inner ts = true := by
  induction front generalizing around with
  | nil => exact ⟨around, h⟩
  | cons t front ih =>
    cases t with
    | opening tag closed =>
      rw [List.cons_append, closesAll] at h
      split at h
      · cases h
      split at h
      · exact ih h
      · exact ih h
    | closing name =>
      rw [List.cons_append, closesAll, Bool.and_eq_true] at h
      exact ih h.2
    | text content => exact ih h
    | comment content => exact ih h
    | documentType content => cases h

theorem exists_dropWhile_isFront {ts : List Token} {tag : Tag} {closed : Bool} (before : List Token) :
    ∃ front, (before ++ .opening tag closed :: ts).dropWhile Token.isFront = front ++ .opening tag closed :: ts := by
  rw [List.dropWhile_append]
  split
  · exact ⟨[], rfl⟩
  · exact ⟨_, rfl⟩

theorem rawTokens_cases (content : RawContent) (body : List Char) :
    rawTokens content body = [] ∨ ∃ text, rawTokens content body = [.text text] := by
  unfold rawTokens
  split
  · exact .inl rfl
  · exact .inr ⟨_, rfl⟩

theorem read_of_wellFormed {page : List Char} (h : WellFormed page) : Read (tokens page).reverse := by
  refine (tokens_read page).resolve_right ?_
  rintro ⟨content, body, tag, past, hts, hraw⟩
  rw [List.reverse_eq_iff, List.reverse_append, List.reverse_cons, List.append_assoc, List.singleton_append] at hts
  obtain ⟨front, hrest⟩ :=
    @exists_dropWhile_isFront (rawTokens content body).reverse tag false past.reverse
  rw [WellFormed, hts, hrest] at h
  obtain ⟨inner, h⟩ := exists_closesAll h
  have full : isIn emptyNames tag.name = false :=
    forall_of_isIn (P := fun name => isIn emptyNames name = false) (by decide) hraw
  rw [closesAll, full] at h
  split at h
  · cases h
  rcases rawTokens_cases content body with hr | ⟨text, hr⟩
  all_goals
    rw [hr] at h
    cases h

end ZigDecls.Markup
