import Mathlib.Data.Bool.AllAny
import ZigDecls.Markup.Reader

/-!
# Contents that are all text

Where the content of a raw element ends does not hang on the case of its characters, and a content
without `<` is ended by its closing tag and by nothing in it (`closes_of_no_less`). Bodies are kept with
their last character in front.
-/

namespace ZigDecls.Markup
open Reader

/-! ## Lower case -/

theorem toNat_toLower (c : Char) :
    c.toLower.toNat = if 65 ≤ c.toNat ∧ c.toNat ≤ 90 then c.toNat + 32 else c.toNat := by
  unfold Char.toLower
  by_cases h : 65 ≤ c.toNat ∧ c.toNat ≤ 90
  · have hv : c.val ≥ 'A'.val ∧ c.val ≤ 'Z'.val := h
    rw [dif_pos hv, if_pos h]
    show (c.val + ('a'.val - 'A'.val)).toNat = c.val.toNat + 32
    have hn : c.val.toNat ≤ 90 := h.2
    rw [UInt32.toNat_add]
    show (c.val.toNat + 32) % 4294967296 = _
    omega
  · have hv : ¬(c.val ≥ 'A'.val ∧ c.val ≤ 'Z'.val) := h
    rw [dif_neg hv, if_neg h]

/-- A character that is no letter is the lower case of itself only. -/
theorem toLower_eq_iff {c d : Char} (hd : d.toNat < 65 ∨ 90 < d.toNat ∧ d.toNat < 97) : c.toLower = d ↔ c = d := by
  have hn := toNat_toLower c
  constructor
  · intro h
    rw [h] at hn
    apply Char.toNat_inj.mp
    split at hn <;> omega
  · intro h
    subst h
    rw [if_neg (by omega)] at hn
    exact Char.toNat_inj.mp hn

theorem toLower_toLower (c : Char) : c.toLower.toLower = c.toLower := by
  apply Char.toNat_inj.mp
  have hn := toNat_toLower c
  rw [toNat_toLower c.toLower]
  split at hn <;> rw [if_neg (by omega)]

theorem isAlpha_iff {c : Char} : c.isAlpha = true ↔ 65 ≤ c.toNat ∧ c.toNat ≤ 90 ∨ 97 ≤ c.toNat ∧ c.toNat ≤ 122 := by
  unfold Char.isAlpha Char.isUpper Char.isLower
  simp only [Bool.or_eq_true, Bool.and_eq_true, decide_eq_true_eq]
  exact Iff.rfl

theorem isAlpha_toLower {c : Char} (h : c.isAlpha = true) : c.toLower.isAlpha = true := by
  have := isAlpha_iff.mp h
  rw [isAlpha_iff, toNat_toLower]
  split <;> omega

def nameEnds : List Char := [' ', '\n', '\t', '\x0c', '\r', '/', '>']

theorem endsName_iff {c : Char} : endsName c = true ↔ c ∈ nameEnds := by
  simp [endsName, isSpace, nameEnds, or_assoc]

theorem endsName_toLower (c : Char) : endsName c.toLower = endsName c := by
  have low : ∀ d ∈ nameEnds, d.toNat < 65 ∨ 90 < d.toNat ∧ d.toNat < 97 := List.all_iff_forall_prop.mp (by decide)
  rw [Bool.eq_iff_iff, endsName_iff, endsName_iff]
  constructor
  · intro h
    exact (toLower_eq_iff (low _ h)).mp rfl ▸ h
  · intro h
    rw [(toLower_eq_iff (low c h)).mpr rfl]
    exact h

theorem not_endsName_of_isAlpha {c : Char} (h : c.isAlpha = true) : endsName c = false := by
  have apart : ∀ d ∈ nameEnds, d.isAlpha = false := List.all_iff_forall_prop.mp (by decide)
  rw [Bool.eq_false_iff]
  intro he
  rw [apart c (endsName_iff.mp he)] at h
  cases h

/-! ## Where a content ends -/

def contentAt (content : RawContent) : List Char → RawContent
  | [] => content
  | c :: body => stepContent (contentAt content body) body c

def closingMark (name : List Char) : List Char := '<' :: '/' :: name

/-- Whether the character ends the content behind this body. -/
def endsAt (content : RawContent) (name body : List Char) (c : Char) : Bool :=
  mayClose (contentAt content body) && endsName c && endsWith body (closingMark name)

def GoesOn (content : RawContent) (name : List Char) : List Char → Prop
  | [] => True
  | c :: body => endsAt content name body c = false ∧ GoesOn content name body

/-- The closing tag behind the body ends the content, and nothing does before. -/
def Closes (content : RawContent) (name body : List Char) : Prop :=
  GoesOn content name ((closingMark name).reverse ++ body) ∧
    mayClose (contentAt content ((closingMark name).reverse ++ body)) = true

section
variable {content : RawContent} {name body mark : List Char}

theorem endsWith_map (body mark : List Char) : endsWith (body.map Char.toLower) mark = endsWith body mark := by
  have twice : Char.toLower ∘ Char.toLower = Char.toLower := funext toLower_toLower
  rw [endsWith, endsWith, ← List.map_take, ← List.map_reverse, List.map_map, twice]

theorem stepContent_map (content : RawContent) (body : List Char) (c : Char) :
    stepContent content (body.map Char.toLower) c.toLower = stepContent content body c := by
  have grown (mark : List Char) : endsWith (c.toLower :: body.map Char.toLower) mark = endsWith (c :: body) mark :=
    endsWith_map (c :: body) mark
  cases content with
  | script state => cases state <;> simp only [stepContent, stepScript, grown, endsWith_map, endsName_toLower]
  | _ => rfl

theorem contentAt_map (body : List Char) : contentAt content (body.map Char.toLower) = contentAt content body := by
  induction body with
  | nil => rfl
  | cons c body ih =>
    show stepContent (contentAt content (body.map Char.toLower)) _ _ = _
    rw [ih, stepContent_map]
    rfl

theorem goesOn_map (body : List Char) : GoesOn content name (body.map Char.toLower) ↔ GoesOn content name body := by
  induction body with
  | nil => exact Iff.rfl
  | cons c body ih =>
    show endsAt content name (body.map Char.toLower) c.toLower = false ∧ _ ↔ _
    rw [endsAt, contentAt_map, endsName_toLower, endsWith_map, ih]
    rfl

theorem endsWith_iff : endsWith body mark = true ↔
    ∃ last rest, body = last ++ rest ∧ last.map Char.toLower = mark.reverse := by
  rw [endsWith, beq_iff_eq, List.map_reverse]
  constructor
  · intro h
    exact ⟨body.take mark.length, body.drop mark.length, (List.take_append_drop _ _).symm,
      List.reverse_eq_iff.mp h⟩
  · rintro ⟨last, rest, rfl, h⟩
    have hl := congrArg List.length h
    rw [List.length_map, List.length_reverse] at hl
    rw [← hl, List.take_left, h, List.reverse_reverse]

/-- A content that the reader saw end is ended by its closing tag in lower case too. -/
theorem closes_of_endsAt {c : Char} (hl : (closingMark name).map Char.toLower = closingMark name)
    (hg : GoesOn content name body) (he : endsAt content name body c = true) :
    Closes content name (body.drop (closingMark name).length) := by
  simp only [endsAt, Bool.and_eq_true] at he
  obtain ⟨⟨hm, -⟩, hw⟩ := he
  obtain ⟨last, rest, rfl, h⟩ := endsWith_iff.mp hw
  have hn := congrArg List.length h
  rw [List.length_map, List.length_reverse] at hn
  rw [← hn, List.drop_left]
  have same : ((closingMark name).reverse ++ rest).map Char.toLower = (last ++ rest).map Char.toLower := by
    rw [List.map_append, List.map_append, h, List.map_reverse, hl]
  constructor
  · rw [← goesOn_map, same, goesOn_map]
    exact hg
  · rw [← contentAt_map, same, contentAt_map]
    exact hm

end

/-! ## The elements with such contents -/

def rawNames : List String :=
  ["textarea", "title", "iframe", "noembed", "noframes", "style", "xmp", "script", "plaintext"]

section
variable {name body : List Char} {content : RawContent}

theorem isIn_of_rawContent? (h : rawContent? name = some content) : isIn rawNames name = true := by
  have any {names : List String} (hn : isIn names name = true) (hsub : ∀ n ∈ names, n ∈ rawNames) :
      isIn rawNames name = true := by
    obtain ⟨n, hm, he⟩ := List.any_eq_true.mp hn
    exact List.any_eq_true.mpr ⟨n, hsub n hm, he⟩
  unfold rawContent? at h
  split at h
  · next hn => exact any hn (by decide)
  split at h
  · next hn => exact any hn (by decide)
  split at h
  · next hn => exact any hn (by decide)
  split at h
  · next hn => exact any hn (by decide)
  · cases h

theorem rawContent?_cases (h : rawContent? name = some content) :
    content = .referring ∨ content = .verbatim ∨ content = .script .plain ∨ content = .endless := by
  unfold rawContent? at h
  repeat' split at h
  all_goals simp_all

theorem map_toLower_closingMark (h : isIn rawNames name = true) :
    (closingMark name).map Char.toLower = closingMark name :=
  forall_of_isIn (P := fun name => (closingMark name).map Char.toLower = closingMark name) (by decide) h

/-! ## Contents without markup -/

theorem eq_of_append_less {last rest front body : List Char} (h : last ++ '<' :: rest = front ++ '<' :: body)
    (hf : '<' ∉ front) (hb : '<' ∉ body) : last = front := by
  rcases List.append_eq_append_iff.mp h with ⟨more, hm, ht⟩ | ⟨more, hm, ht⟩
  · cases more with
    | nil => rw [hm, List.append_nil]
    | cons c more =>
      obtain ⟨rfl, -⟩ := List.cons.inj ht
      exact absurd (hm ▸ List.mem_append_right _ List.mem_cons_self) hf
  · cases more with
    | nil => rw [hm, List.append_nil]
    | cons c more =>
      obtain ⟨-, ht⟩ := List.cons.inj ht
      exact absurd (ht ▸ List.mem_append_right _ List.mem_cons_self) hb

theorem eq_of_endsWith_less {tail : List Char} (h : endsWith body ('<' :: tail) = true) :
    ∃ last rest, body = last ++ '<' :: rest ∧ last.map Char.toLower = tail.reverse := by
  obtain ⟨last, rest, rfl, hl⟩ := endsWith_iff.mp h
  rw [List.reverse_cons] at hl
  obtain ⟨last, less, rfl, ht, hc⟩ := List.map_eq_append_iff.mp hl
  obtain ⟨c, rfl, hc⟩ := List.map_eq_singleton_iff.mp hc
  have hless : c = '<' := (toLower_eq_iff (by decide)).mp ((List.cons.inj hc).1)
  exact ⟨last, rest, by rw [hless, List.append_assoc, List.singleton_append], ht⟩

theorem endsAt_eq_false {c : Char} (h : ∀ last rest, body = last ++ '<' :: rest → last.length ≠ name.length + 1) :
    endsAt content name body c = false := by
  rw [endsAt, Bool.and_eq_false_iff]
  refine .inr (Bool.eq_false_iff.mpr fun he => ?_)
  obtain ⟨last, rest, hb, hm⟩ := eq_of_endsWith_less he
  refine h last rest hb ?_
  rw [← List.length_map Char.toLower, hm, List.length_reverse, List.length_cons]

theorem goesOn_of_no_less (hb : '<' ∉ body) : GoesOn content name body := by
  induction body with
  | nil => trivial
  | cons c body ih =>
    rw [List.mem_cons, not_or] at hb
    refine ⟨endsAt_eq_false fun last rest he => absurd ?_ hb.2, ih hb.2⟩
    exact he ▸ List.mem_append_right _ List.mem_cons_self

/-- By induction on what stands behind the last `<`, too little for a closing tag. -/
theorem goesOn_of_less {front : List Char} (hf : '<' ∉ front) (hl : front.length ≤ name.length + 1) (hb : '<' ∉ body) :
    GoesOn content name (front ++ '<' :: body) := by
  induction front with
  | nil =>
    refine ⟨endsAt_eq_false fun last rest he => absurd ?_ hb, goesOn_of_no_less hb⟩
    exact he ▸ List.mem_append_right _ List.mem_cons_self
  | cons c front ih =>
    rw [List.mem_cons, not_or] at hf
    rw [List.length_cons] at hl
    refine ⟨endsAt_eq_false fun last rest he => ?_, ih hf.2 (by omega)⟩
    rw [eq_of_append_less he.symm hf.2 hb]
    omega

theorem stepContent_eq_self {c : Char} (hc : content = .referring ∨ content = .verbatim ∨ content = .script .plain)
    (h : c = '-' → '<' ∉ body) : stepContent content body c = content := by
  obtain rfl | rfl | rfl := hc
  · rfl
  · rfl
  have no : endsWith (c :: body) "<!--".toList = false := by
    refine Bool.eq_false_iff.mpr fun he => ?_
    obtain ⟨last, rest, hb, hm⟩ := eq_of_endsWith_less he
    obtain ⟨d, last, rfl, hd, -⟩ := List.map_eq_cons_iff.mp hm
    obtain ⟨rfl, hrest⟩ := List.cons.inj hb
    have hd : c = '-' := (toLower_eq_iff (by decide)).mp hd
    exact h hd (hrest ▸ List.mem_append_right _ List.mem_cons_self)
  rw [stepContent, stepScript, no]
  rfl

theorem contentAt_of_no_less (hc : content = .referring ∨ content = .verbatim ∨ content = .script .plain)
    (hb : '<' ∉ body) : contentAt content body = content := by
  induction body with
  | nil => rfl
  | cons c body ih =>
    rw [List.mem_cons, not_or] at hb
    rw [contentAt, ih hb.2, stepContent_eq_self hc fun _ => hb.2]

theorem contentAt_of_less (hc : content = .referring ∨ content = .verbatim ∨ content = .script .plain)
    {front : List Char} (hf : '-' ∉ front) (hb : '<' ∉ body) : contentAt content (front ++ '<' :: body) = content := by
  induction front with
  | nil =>
    rw [List.nil_append, contentAt, contentAt_of_no_less hc hb, stepContent_eq_self hc fun h => by cases h]
  | cons c front ih =>
    rw [List.mem_cons, not_or] at hf
    rw [List.cons_append, contentAt, ih hf.2, stepContent_eq_self hc fun h => absurd h.symm hf.1]

theorem closes_of_no_less (hr : rawContent? name = some content) (hc : content ≠ .endless) (hb : '<' ∉ body) :
    Closes content name body := by
  have plain : content = .referring ∨ content = .verbatim ∨ content = .script .plain := by
    rcases rawContent?_cases hr with h | h | h | h
    · exact .inl h
    · exact .inr (.inl h)
    · exact .inr (.inr h)
    · exact absurd h hc
  have clear : '<' ∉ ('/' :: name).reverse ∧ '-' ∉ ('/' :: name).reverse :=
    forall_of_isIn (P := fun name => '<' ∉ ('/' :: name).reverse ∧ '-' ∉ ('/' :: name).reverse) (by decide)
      (isIn_of_rawContent? hr)
  have shape : (closingMark name).reverse ++ body = ('/' :: name).reverse ++ '<' :: body := by
    rw [closingMark, List.reverse_cons, List.append_assoc, List.singleton_append]
  rw [Closes, shape, contentAt_of_less plain clear.2 hb]
  refine ⟨goesOn_of_less clear.1 (by simp) hb, ?_⟩
  rcases plain with rfl | rfl | rfl <;> rfl

end

end ZigDecls.Markup
