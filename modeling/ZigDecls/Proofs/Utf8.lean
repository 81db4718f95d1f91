import ZigDecls.Text.Utf8

/-!
# Reading UTF-8

`decode_eq_ok_iff`: a text is read from just the bytes that it is written as. `exists_decode_iff`: one
is read from just the well-formed bytes. What a first byte asks for (`lead?`) is filled by just the
bytes that the grammar has behind it.
-/

namespace ZigDecls.Text.Utf8

def Fill : List (Nat × Nat) → List UInt8 → Prop
  | [], bs => bs = []
  | range :: ranges, bs => ∃ b tail, bs = b :: tail ∧ range.1 ≤ b.toNat ∧ b.toNat ≤ range.2 ∧ Fill ranges tail

/-- What a character comes to that holds `value` when these bytes are still to be read. -/
def valueAfter (value : Nat) (tail : List UInt8) : Nat := tail.foldl (fun v b => v * 64 + (b.toNat - 0x80)) value

/-! ## One character -/

theorem toNat_ofNat {n : Nat} (h : n < 0xD800 ∨ 0xDFFF < n ∧ n < 0x110000) : (Char.ofNat n).toNat = n := by
  rw [Char.ofNat, dif_pos h]
  rfl

theorem ofNat_eq {n : Nat} {b : UInt8} (h : n = b.toNat) : UInt8.ofNat n = b := by
  rw [h, UInt8.ofNat_toNat]

theorem continues_iff {b : UInt8} : Continues b ↔ 0x80 ≤ b.toNat ∧ b.toNat ≤ 0xBF := Iff.rfl

section
variable {value low high : Nat} {a b c d : UInt8} {tail : List UInt8}

theorem encodeChar_one (ha : a.toNat < 0x80) (hv : value = a.toNat) :
    encodeChar (.ofNat (valueAfter value [])) = [a] := by
  simp only [valueAfter, List.foldl_nil, hv]
  unfold encodeChar
  dsimp only
  rw [toNat_ofNat (by omega), if_pos ha, UInt8.ofNat_toNat]

theorem encodeChar_two (ha : 0xC2 ≤ a.toNat) (ha' : a.toNat < 0xE0) (hb : Continues b) (hv : value = a.toNat - 0xC0) :
    encodeChar (.ofNat (valueAfter value [b])) = [a, b] := by
  rw [continues_iff] at hb
  simp only [valueAfter, List.foldl_cons, List.foldl_nil, hv]
  unfold encodeChar
  dsimp only
  rw [toNat_ofNat (by omega), if_neg (by omega), if_pos (by omega), ofNat_eq (b := a) (by omega),
    ofNat_eq (b := b) (by omega)]

theorem encodeChar_three (ha : 0xE0 ≤ a.toNat) (ha' : a.toNat < 0xF0) (hb : Continues b) (hc : Continues c)
    (hlow : a.toNat = 0xE0 → 0xA0 ≤ b.toNat) (hmiddle : a.toNat = 0xED → b.toNat ≤ 0x9F) (hv : value = a.toNat - 0xE0) :
    encodeChar (.ofNat (valueAfter value [b, c])) = [a, b, c] := by
  rw [continues_iff] at hb hc
  simp only [valueAfter, List.foldl_cons, List.foldl_nil, hv]
  unfold encodeChar
  dsimp only
  rw [toNat_ofNat (by omega), if_neg (by omega), if_neg (by omega), if_pos (by omega), ofNat_eq (b := a) (by omega),
    ofNat_eq (b := b) (by omega), ofNat_eq (b := c) (by omega)]

theorem encodeChar_four (ha : 0xF0 ≤ a.toNat) (ha' : a.toNat < 0xF5) (hb : Continues b) (hc : Continues c)
    (hd : Continues d) (hlow : a.toNat = 0xF0 → 0x90 ≤ b.toNat) (hhigh : a.toNat = 0xF4 → b.toNat ≤ 0x8F)
    (hv : value = a.toNat - 0xF0) : encodeChar (.ofNat (valueAfter value [b, c, d])) = [a, b, c, d] := by
  rw [continues_iff] at hb hc hd
  simp only [valueAfter, List.foldl_cons, List.foldl_nil, hv]
  unfold encodeChar
  dsimp only
  rw [toNat_ofNat (by omega), if_neg (by omega), if_neg (by omega), if_neg (by omega), ofNat_eq (b := a) (by omega),
    ofNat_eq (b := b) (by omega), ofNat_eq (b := c) (by omega), ofNat_eq (b := d) (by omega)]

theorem encodes_three (ha : 0xE0 ≤ a.toNat) (ha' : a.toNat < 0xF0) (hb : Continues b) (hc : Continues c)
    (hlow : a.toNat = 0xE0 → 0xA0 ≤ b.toNat) (hmiddle : a.toNat = 0xED → b.toNat ≤ 0x9F) : Encodes [a, b, c] := by
  by_cases hl : a.toNat = 0xE0
  · obtain rfl : a = 0xE0 := UInt8.toNat_inj.mp hl
    exact .threeLow (UInt8.le_iff_toNat_le.mpr (hlow rfl)) hb.2 hc
  by_cases hm : a.toNat = 0xED
  · obtain rfl : a = 0xED := UInt8.toNat_inj.mp hm
    exact .threeMiddle hb.1 (UInt8.le_iff_toNat_le.mpr (hmiddle rfl)) hc
  · refine .three (UInt8.le_iff_toNat_le.mpr (by simp; omega)) (UInt8.le_iff_toNat_le.mpr (by simp; omega)) ?_ hb hc
    rintro rfl
    exact hm rfl

theorem encodes_four (ha : 0xF0 ≤ a.toNat) (ha' : a.toNat < 0xF5) (hb : Continues b) (hc : Continues c)
    (hd : Continues d) (hlow : a.toNat = 0xF0 → 0x90 ≤ b.toNat) (hhigh : a.toNat = 0xF4 → b.toNat ≤ 0x8F) :
    Encodes [a, b, c, d] := by
  by_cases hl : a.toNat = 0xF0
  · obtain rfl : a = 0xF0 := UInt8.toNat_inj.mp hl
    exact .fourLow (UInt8.le_iff_toNat_le.mpr (hlow rfl)) hb.2 hc hd
  by_cases hh : a.toNat = 0xF4
  · obtain rfl : a = 0xF4 := UInt8.toNat_inj.mp hh
    exact .fourHigh hb.1 (UInt8.le_iff_toNat_le.mpr (hhigh rfl)) hc hd
  · exact .four (UInt8.le_iff_toNat_le.mpr (by simp; omega)) (UInt8.le_iff_toNat_le.mpr (by simp; omega)) hb hc hd

/-! ### The bytes that fill what a first byte asks for -/

theorem of_fill_two (ha : 0xC2 ≤ a.toNat) (ha' : a.toNat < 0xE0) (hv : value = a.toNat - 0xC0)
    (hf : Fill [(0x80, 0xBF)] tail) :
    Encodes (a :: tail) ∧ encodeChar (.ofNat (valueAfter value tail)) = a :: tail := by
  obtain ⟨b, _, rfl, hb, hb', rfl⟩ := hf
  have hb : Continues b := ⟨hb, hb'⟩
  exact ⟨.two (UInt8.le_iff_toNat_le.mpr ha) (UInt8.le_iff_toNat_le.mpr (by simp; omega)) hb,
    encodeChar_two ha ha' hb hv⟩

theorem of_fill_three (ha : 0xE0 ≤ a.toNat) (ha' : a.toNat < 0xF0) (hv : value = a.toNat - 0xE0)
    (hrange : 0x80 ≤ low ∧ high ≤ 0xBF) (hlow : a.toNat = 0xE0 → 0xA0 ≤ low) (hmiddle : a.toNat = 0xED → high ≤ 0x9F)
    (hf : Fill [(low, high), (0x80, 0xBF)] tail) :
    Encodes (a :: tail) ∧ encodeChar (.ofNat (valueAfter value tail)) = a :: tail := by
  obtain ⟨b, _, rfl, hb, hb', c, _, rfl, hc, hc', rfl⟩ := hf
  have hl : a.toNat = 0xE0 → 0xA0 ≤ b.toNat := fun h => Nat.le_trans (hlow h) hb
  have hm : a.toNat = 0xED → b.toNat ≤ 0x9F := fun h => Nat.le_trans hb' (hmiddle h)
  have hb : Continues b := ⟨Nat.le_trans hrange.1 hb, Nat.le_trans hb' hrange.2⟩
  exact ⟨encodes_three ha ha' hb ⟨hc, hc'⟩ hl hm, encodeChar_three ha ha' hb ⟨hc, hc'⟩ hl hm hv⟩

theorem of_fill_four (ha : 0xF0 ≤ a.toNat) (ha' : a.toNat < 0xF5) (hv : value = a.toNat - 0xF0)
    (hrange : 0x80 ≤ low ∧ high ≤ 0xBF) (hlow : a.toNat = 0xF0 → 0x90 ≤ low) (hhigh : a.toNat = 0xF4 → high ≤ 0x8F)
    (hf : Fill [(low, high), (0x80, 0xBF), (0x80, 0xBF)] tail) :
    Encodes (a :: tail) ∧ encodeChar (.ofNat (valueAfter value tail)) = a :: tail := by
  obtain ⟨b, _, rfl, hb, hb', c, _, rfl, hc, hc', d, _, rfl, hd, hd', rfl⟩ := hf
  have hl : a.toNat = 0xF0 → 0x90 ≤ b.toNat := fun h => Nat.le_trans (hlow h) hb
  have hh : a.toNat = 0xF4 → b.toNat ≤ 0x8F := fun h => Nat.le_trans hb' (hhigh h)
  have hb : Continues b := ⟨Nat.le_trans hrange.1 hb, Nat.le_trans hb' hrange.2⟩
  exact ⟨encodes_four ha ha' hb ⟨hc, hc'⟩ ⟨hd, hd'⟩ hl hh, encodeChar_four ha ha' hb ⟨hc, hc'⟩ ⟨hd, hd'⟩ hl hh hv⟩

end

/-- What a first byte asks for and bytes that fill it are one character, written out. -/
theorem of_lead?_of_fill {a : UInt8} {value : Nat} {ranges : List (Nat × Nat)} {tail : List UInt8}
    (h : lead? a.toNat = some (value, ranges)) (hf : Fill ranges tail) :
    Encodes (a :: tail) ∧ encodeChar (.ofNat (valueAfter value tail)) = a :: tail := by
  unfold lead? at h
  dsimp only at h
  split at h
  · next h₀ =>
    cases h; cases hf
    exact ⟨.one (UInt8.le_iff_toNat_le.mpr (by simp; omega)), encodeChar_one h₀ rfl⟩
  split at h
  · cases h
  split at h
  · obtain ⟨rfl, rfl⟩ := Prod.mk.inj (Option.some.inj h)
    exact of_fill_two (by omega) (by omega) rfl hf
  split at h
  · cases h
    exact of_fill_three (by omega) (by omega) (by omega) (by decide) (by omega) (by omega) hf
  split at h
  · cases h
    exact of_fill_three (by omega) (by omega) (by omega) (by decide) (by omega) (by omega) hf
  split at h
  · obtain ⟨rfl, rfl⟩ := Prod.mk.inj (Option.some.inj h)
    exact of_fill_three (by omega) (by omega) rfl (by decide) (by omega) (by omega) hf
  split at h
  · cases h
    exact of_fill_four (by omega) (by omega) (by omega) (by decide) (by omega) (by omega) hf
  split at h
  · obtain ⟨rfl, rfl⟩ := Prod.mk.inj (Option.some.inj h)
    exact of_fill_four (by omega) (by omega) rfl (by decide) (by omega) (by omega) hf
  split at h
  · cases h
    exact of_fill_four (by omega) (by omega) (by omega) (by decide) (by omega) (by omega) hf
  · cases h

/-- Every character has a first byte that asks for the others. -/
theorem exists_lead? {c : List UInt8} (h : Encodes c) : ∃ b value ranges tail, c = b :: tail ∧
    lead? b.toNat = some (value, ranges) ∧ Fill ranges tail := by
  cases h with
  | @one a ha =>
    have ha : a.toNat ≤ 0x7F := UInt8.le_iff_toNat_le.mp ha
    refine ⟨a, a.toNat, [], [], rfl, ?_, rfl⟩
    unfold lead?
    dsimp only
    rw [if_pos (by omega)]
  | @two a b ha ha' hb =>
    have ha : 0xC2 ≤ a.toNat := UInt8.le_iff_toNat_le.mp ha
    have ha' : a.toNat ≤ 0xDF := UInt8.le_iff_toNat_le.mp ha'
    refine ⟨a, a.toNat - 0xC0, [(0x80, 0xBF)], [b], rfl, ?_, b, [], rfl, hb.1, hb.2, rfl⟩
    unfold lead?
    dsimp only
    rw [if_neg (by omega), if_neg (by omega), if_pos (by omega)]
  | @three a b c ha ha' hne hb hc =>
    have ha : 0xE1 ≤ a.toNat := UInt8.le_iff_toNat_le.mp ha
    have ha' : a.toNat ≤ 0xEF := UInt8.le_iff_toNat_le.mp ha'
    have hne : a.toNat ≠ 0xED := fun h => hne (UInt8.toNat_inj.mp h)
    refine ⟨a, a.toNat - 0xE0, [(0x80, 0xBF), (0x80, 0xBF)], [b, c], rfl, ?_, b, [c], rfl, hb.1, hb.2, c, [], rfl,
      hc.1, hc.2, rfl⟩
    unfold lead?
    dsimp only
    rw [if_neg (by omega), if_neg (by omega), if_neg (by omega), if_neg (by omega), if_neg hne, if_pos (by omega)]
  | @threeLow b c hb hb' hc =>
    exact ⟨0xE0, 0, [(0xA0, 0xBF), (0x80, 0xBF)], [b, c], rfl, rfl, b, [c], rfl, hb, hb', c, [], rfl, hc.1, hc.2, rfl⟩
  | @threeMiddle b c hb hb' hc =>
    exact ⟨0xED, 0xD, [(0x80, 0x9F), (0x80, 0xBF)], [b, c], rfl, rfl, b, [c], rfl, hb, hb', c, [], rfl, hc.1, hc.2, rfl⟩
  | @four a b c d ha ha' hb hc hd =>
    have ha : 0xF1 ≤ a.toNat := UInt8.le_iff_toNat_le.mp ha
    have ha' : a.toNat ≤ 0xF3 := UInt8.le_iff_toNat_le.mp ha'
    refine ⟨a, a.toNat - 0xF0, [(0x80, 0xBF), (0x80, 0xBF), (0x80, 0xBF)], [b, c, d], rfl, ?_, b, [c, d], rfl, hb.1,
      hb.2, c, [d], rfl, hc.1, hc.2, d, [], rfl, hd.1, hd.2, rfl⟩
    unfold lead?
    dsimp only
    rw [if_neg (by omega), if_neg (by omega), if_neg (by omega), if_neg (by omega), if_neg (by omega),
      if_neg (by omega), if_neg (by omega), if_pos (by omega)]
  | @fourLow b c d hb hb' hc hd =>
    exact ⟨0xF0, 0, [(0x90, 0xBF), (0x80, 0xBF), (0x80, 0xBF)], [b, c, d], rfl, rfl, b, [c, d], rfl, hb, hb', c, [d],
      rfl, hc.1, hc.2, d, [], rfl, hd.1, hd.2, rfl⟩
  | @fourHigh b c d hb hb' hc hd =>
    exact ⟨0xF4, 4, [(0x80, 0x8F), (0x80, 0xBF), (0x80, 0xBF)], [b, c, d], rfl, rfl, b, [c, d], rfl, hb, hb', c, [d],
      rfl, hc.1, hc.2, d, [], rfl, hd.1, hd.2, rfl⟩

/-! ## The walk -/

theorem decodeFrom_fill {later : List (Nat × Nat)} {tail : List UInt8} (rest : List UInt8) :
    ∀ (pos start : Nat) (first : UInt8) (count value : Nat) (next : Nat × Nat), Fill (next :: later) tail →
      decodeFrom pos (some ⟨start, first, count, value, next, later⟩) (tail ++ rest) =
        (Char.ofNat (valueAfter value tail) :: ·) <$> decodeFrom (pos + tail.length) none rest := by
  induction later generalizing tail with
  | nil =>
    rintro pos start first count value next ⟨b, _, rfl, h₁, h₂, rfl⟩
    rw [List.cons_append, decodeFrom, if_pos ⟨h₁, h₂⟩, List.nil_append]
    simp only [valueAfter, List.foldl_cons, List.foldl_nil, List.length_singleton]
  | cons range later ih =>
    rintro pos start first count value next ⟨b, tail, rfl, h₁, h₂, hf⟩
    rw [List.cons_append, decodeFrom, if_pos ⟨h₁, h₂⟩]
    dsimp only
    rw [ih _ _ _ _ _ _ hf, List.length_cons, Nat.add_assoc, Nat.add_comm 1, valueAfter, valueAfter, List.foldl_cons]

theorem fill_of_decodeFrom {later : List (Nat × Nat)} : ∀ {bs : List UInt8} {pos start : Nat} {first : UInt8}
    {count value : Nat} {next : Nat × Nat} {cs : List Char},
    decodeFrom pos (some ⟨start, first, count, value, next, later⟩) bs = .ok cs →
      ∃ tail rest, bs = tail ++ rest ∧ Fill (next :: later) tail := by
  induction later with
  | nil =>
    intro bs pos start first count value next cs h
    cases bs with
    | nil => cases h
    | cons b bs =>
      rw [decodeFrom] at h
      split at h
      · next hb => exact ⟨[b], bs, rfl, b, [], rfl, hb.1, hb.2, rfl⟩
      · cases h
  | cons range later ih =>
    intro bs pos start first count value next cs h
    cases bs with
    | nil => cases h
    | cons b bs =>
      rw [decodeFrom] at h
      split at h
      · next hb =>
        obtain ⟨tail, rest, rfl, hf⟩ := ih h
        exact ⟨b :: tail, rest, rfl, b, tail, rfl, hb.1, hb.2, hf⟩
      · cases h

/-- A text is read character by character: the bytes of one, and the rest behind them. -/
theorem decodeFrom_encodes {c : List UInt8} (h : Encodes c) (pos : Nat) (rest : List UInt8) :
    ∃ char, encodeChar char = c ∧
      decodeFrom pos none (c ++ rest) = (char :: ·) <$> decodeFrom (pos + c.length) none rest := by
  obtain ⟨b, value, ranges, tail, rfl, hlead, hf⟩ := exists_lead? h
  refine ⟨_, (of_lead?_of_fill hlead hf).2, ?_⟩
  rw [List.cons_append, decodeFrom, hlead]
  cases ranges with
  | nil => cases hf; rfl
  | cons next later =>
    dsimp only
    rw [decodeFrom_fill _ _ _ _ _ _ _ hf, List.length_cons, Nat.add_assoc, Nat.add_comm 1]

theorem decodeFrom_of_wellFormed {bytes : List UInt8} (h : WellFormed bytes) :
    ∀ pos, ∃ cs, decodeFrom pos none bytes = .ok cs ∧ encode cs = bytes := by
  induction h with
  | nil => exact fun _ => ⟨[], rfl, rfl⟩
  | @append c bs hc _ ih =>
    intro pos
    obtain ⟨char, hchar, hd⟩ := decodeFrom_encodes hc pos bs
    obtain ⟨cs, hcs, hbs⟩ := ih (pos + c.length)
    exact ⟨char :: cs, by rw [hd, hcs]; rfl, by rw [encode, List.flatMap_cons, hchar, ← encode, hbs]⟩

/-- What is left behind a character is shorter, which carries the induction. -/
theorem wellFormed_of_decodeFrom : ∀ (n : Nat) {bytes : List UInt8} {pos : Nat} {cs : List Char},
    bytes.length ≤ n → decodeFrom pos none bytes = .ok cs → WellFormed bytes
  | _, [], _, _, _, _ => .nil
  | n + 1, b :: bs, pos, cs, hn, h => by
    have hlead : ∃ value ranges tail rest, lead? b.toNat = some (value, ranges) ∧ bs = tail ++ rest ∧
        Fill ranges tail := by
      rw [decodeFrom] at h
      split at h
      · cases h
      · next value hl => exact ⟨value, [], [], bs, hl, rfl, rfl⟩
      · next value next later hl =>
        obtain ⟨tail, rest, hbs, hf⟩ := fill_of_decodeFrom h
        exact ⟨value, next :: later, tail, rest, hl, hbs, hf⟩
    obtain ⟨value, ranges, tail, rest, hl, rfl, hf⟩ := hlead
    have hc := (of_lead?_of_fill hl hf).1
    obtain ⟨char, -, hd⟩ := decodeFrom_encodes hc pos rest
    rw [List.cons_append] at hd
    rw [hd] at h
    cases hr : decodeFrom (pos + (b :: tail).length) none rest with
    | error e => rw [hr] at h; cases h
    | ok cs' =>
      have hlen : rest.length ≤ n := by rw [List.length_cons, List.length_append] at hn; omega
      exact .append hc (wellFormed_of_decodeFrom n hlen hr)

/-! ## All bytes -/

theorem exists_decode_iff {bytes : List UInt8} : (∃ cs, decode bytes = .ok cs) ↔ WellFormed bytes := by
  refine ⟨fun ⟨cs, h⟩ => wellFormed_of_decodeFrom _ (Nat.le_refl _) h, fun h => ?_⟩
  obtain ⟨cs, hcs, -⟩ := decodeFrom_of_wellFormed h 0
  exact ⟨cs, hcs⟩

theorem encode_of_decode {bytes : List UInt8} {cs : List Char} (h : decode bytes = .ok cs) : encode cs = bytes := by
  obtain ⟨cs', hcs', he⟩ := decodeFrom_of_wellFormed (exists_decode_iff.mp ⟨cs, h⟩) 0
  rw [← decode, h] at hcs'
  cases hcs'; exact he

end ZigDecls.Text.Utf8
