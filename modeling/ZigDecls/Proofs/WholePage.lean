import ZigDecls.Page.Load
import ZigDecls.Proofs.Utf8

/-!
# Pages that are loaded whole

Without a region the layout analysis gets the bytes of the file, but for their line endings. Reading
and writing UTF-8 leave every byte as it was, and a carriage return or a line feed is never a part of
another character, so that the line endings may as well be unified in the bytes.
-/

namespace ZigDecls
open Text

namespace Text.Utf8

/-- A byte below 0x80 stands for the character with its number, and is in no other. -/
theorem toNat_of_mem_encodeChar {c : Char} {b : UInt8} (hb : b.toNat < 0x80) (h : b ∈ encodeChar c) :
    c.toNat = b.toNat := by
  have hc : c.toNat < 0x110000 := by
    have hv := c.valid
    simp only [UInt32.isValidChar, Nat.isValidChar] at hv
    show c.val.toNat < 0x110000
    omega
  have upper {k : Nat} (hk : 0x80 ≤ k ∧ k < 0x100) : b ≠ UInt8.ofNat k := by
    rintro rfl
    rw [UInt8.toNat_ofNat'] at hb
    omega
  unfold encodeChar at h
  dsimp only at h
  by_cases h₁ : c.toNat < 0x80
  · rw [if_pos h₁] at h
    rw [List.mem_singleton.mp h, UInt8.toNat_ofNat']
    omega
  rw [if_neg h₁] at h
  exfalso
  by_cases h₂ : c.toNat < 0x800
  · rw [if_pos h₂] at h
    simp only [List.mem_cons, List.not_mem_nil, or_false] at h
    rcases h with h | h <;> exact upper (by omega) h
  rw [if_neg h₂] at h
  by_cases h₃ : c.toNat < 0x10000
  · rw [if_pos h₃] at h
    simp only [List.mem_cons, List.not_mem_nil, or_false] at h
    rcases h with h | h | h <;> exact upper (by omega) h
  · rw [if_neg h₃] at h
    simp only [List.mem_cons, List.not_mem_nil, or_false] at h
    rcases h with h | h | h | h <;> exact upper (by omega) h

theorem encodeChar_ne_nil (c : Char) : encodeChar c ≠ [] := by
  unfold encodeChar
  dsimp only
  repeat' split
  all_goals exact List.cons_ne_nil _ _

theorem encode_cons (c : Char) (cs : List Char) : encode (c :: cs) = encodeChar c ++ encode cs := List.flatMap_cons

end Text.Utf8

open Utf8

theorem unifyNewlineBytes_append : ∀ {bs : List UInt8} (rest : List UInt8), 13 ∉ bs →
    unifyNewlineBytes (bs ++ rest) = bs ++ unifyNewlineBytes rest
  | [], _, _ => rfl
  | b :: bs, rest, h => by
    rw [List.mem_cons, not_or] at h
    have hb : b ≠ 13 := fun e => h.1 e.symm
    rw [List.cons_append, unifyNewlineBytes, if_neg hb, unifyNewlineBytes_append rest h.2]
    · rfl
    · exact fun _ e => absurd e hb

theorem encode_unifyNewlines (cs : List Char) : encode (unifyNewlines cs) = unifyNewlineBytes (encode cs) := by
  fun_induction unifyNewlines cs with
  | case1 => rfl
  | case2 cs ih =>
    rw [encode_cons, ih]; rfl
  | case3 c cs hnl ih =>
    by_cases hc : c = '\r'
    · subst hc
      rw [if_pos rfl, encode_cons, encode_cons, ih]
      -- No line feed follows, as a character or as a byte.
      refine (unifyNewlineBytes.eq_3 13 (encode cs) fun bs _ hbs => ?_).symm
      cases cs with
      | nil => cases hbs
      | cons d ds =>
        rw [encode_cons] at hbs
        have hmem : (10 : UInt8) ∈ encodeChar d := by
          cases hd : encodeChar d with
          | nil => exact absurd hd (encodeChar_ne_nil d)
          | cons b tail =>
            rw [hd] at hbs
            cases hbs
            simp
        have hd : d = '\n' := Char.toNat_inj.mp (toNat_of_mem_encodeChar (by decide) hmem)
        exact hnl ds rfl (congrArg (· :: ds) hd)
    · have h13 : (13 : UInt8) ∉ encodeChar c := fun h =>
        hc (Char.toNat_inj.mp (toNat_of_mem_encodeChar (by decide) h))
      rw [if_neg hc, encode_cons, encode_cons, ih, unifyNewlineBytes_append _ h13]

/-- Without a region a page is read and nothing else. -/
theorem streamOf_whole {tree : Tree} {path : CodePoints} {bytes : List UInt8}
    (hfile : tree.find (.ofPoints path) = .ok (some (.file bytes))) {region : Option CodePoints}
    (hregion : region.getD [] = []) : streamOf tree path region =
      match decode bytes with
      | .error fault => .error (.encoding fault)
      | .ok cs => .ok ⟨(Path.ofPoints path).stem ++ ".html", unifyNewlines cs⟩ := by
  have hnarrow (page : List Char) : regionIn page region = .ok page := by
    cases region with
    | none => rfl
    | some id => obtain rfl : id = [] := hregion; rfl
  have hread : readPage tree path =
      match decode bytes with
      | .error fault => .error (.encoding fault)
      | .ok cs => .ok (unifyNewlines cs) := by
    rw [readPage, hfile]; rfl
  rw [streamOf, hread]
  cases decode bytes with
  | error fault => rfl
  | ok cs => simp only [bind, Except.bind, hnarrow, pure, Except.pure]

/-- Loading a page without a region fails to read it just if its bytes are no well-formed UTF-8. Else
the layout analysis is handed the bytes of the file, with nothing changed but the line endings. -/
theorem load_whole {tree : Tree} {path : CodePoints} {bytes : List UInt8}
    (hfile : tree.find (.ofPoints path) = .ok (some (.file bytes))) {region : Option CodePoints}
    (hregion : region.getD [] = []) (items : List Item) :
    ((∃ fault, load tree path region items = .error (.encoding fault)) ↔ ¬ WellFormed bytes) ∧
    (WellFormed bytes → ∃ page, load tree path region items = .ok page ∧
      encode page.stream.html = unifyNewlineBytes bytes) := by
  rw [load, streamOf_whole hfile hregion, ← exists_decode_iff]
  cases hd : decode bytes with
  | error fault =>
    refine ⟨iff_of_true ⟨fault, rfl⟩ ?_, ?_⟩
    · rintro ⟨cs, h⟩; cases h
    · rintro ⟨cs, h⟩; cases h
  | ok cs =>
    refine ⟨iff_of_false ?_ (not_not_intro ⟨cs, rfl⟩), fun _ => ⟨_, rfl, ?_⟩⟩
    · rintro ⟨fault, h⟩; cases h
    · rw [encode_unifyNewlines, encode_of_decode hd]

/-- A byte order mark and a letter of two bytes stay, and three line endings of two kinds are unified. -/
theorem load_whole_marked :
    let bytes : List UInt8 := [0xEF, 0xBB, 0xBF, 0x0D, 0x0A, 0x0D, 0x0D, 0xC3, 0xA9]
    let tree : Tree := ⟨[(["page.html"], bytes)], []⟩
    tree.find (.ofPoints "page.html") = .ok (some (.file bytes)) ∧ (some ([] : CodePoints)).getD [] = [] ∧
      WellFormed bytes ∧
    ∃ page, load tree "page.html" (some []) [] = .ok page ∧
      encode page.stream.html = [0xEF, 0xBB, 0xBF, 0x0A, 0x0A, 0x0A, 0xC3, 0xA9] := by
  intro bytes tree
  have hfile : tree.find (.ofPoints "page.html") = .ok (some (.file bytes)) := by rfl
  have hwell : WellFormed bytes := exists_decode_iff.mp ⟨['\ufeff', '\r', '\n', '\r', '\r', 'é'], by rfl⟩
  have hregion : (some ([] : CodePoints)).getD [] = [] := rfl
  exact ⟨hfile, hregion, hwell, (load_whole hfile hregion []).2 hwell⟩

end ZigDecls
