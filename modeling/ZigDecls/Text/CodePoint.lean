import ZigDecls.Text.Utf8

/-!
# Texts with surrogates

A text that comes from outside as bytes or as units of 16 bits may hold surrogates: code points that are
no characters and have no bytes in UTF-8. Such a text is a list of code points, and a string is one
without surrogates. Shown, a surrogate is a backslash, `u` and four digits.
-/

namespace ZigDecls.Text

inductive CodePoint
  | char (c : Char)
  /-- The surrogates are counted from the first one. -/
  | surrogate (n : Fin 0x800)
deriving DecidableEq, Repr

abbrev CodePoints := List CodePoint

@[coe] def CodePoints.ofString (s : String) : CodePoints := s.toList.map .char

instance : Coe String CodePoints := ⟨CodePoints.ofString⟩

namespace CodePoint

def isSurrogate : CodePoint → Bool
  | char _ => false
  | surrogate _ => true

def char? : CodePoint → Option Char
  | char c => some c
  | surrogate _ => none

/-- The surrogates that stand for single bytes in the name of a file. -/
def standsForByte : CodePoint → Bool
  | char _ => false
  | surrogate n => 0x480 ≤ n.val && n.val ≤ 0x4FF

/-- As many bytes as the code point takes in the name of a file. -/
def byteCount : CodePoint → Nat
  | char c => c.utf8Size
  | surrogate _ => 1

def escaped (n : Fin 0x800) : List Char := '\\' :: 'u' :: hex 4 (0xD800 + n.val)

def shown : CodePoint → List Char
  | char c => [c]
  | surrogate n => escaped n

def quotedIn (mark : Char) : CodePoint → List Char
  | char c => escapeIn mark c
  | surrogate n => escaped n

/-- The character, or one that stands in for the surrogate. -/
def standIn : CodePoint → Char
  | char c => c
  | surrogate _ => '\ufffd'

end CodePoint

namespace CodePoints

/-- The string, if the text has no surrogates. -/
def string? (ps : CodePoints) : Option String := .ofList <$> ps.mapM CodePoint.char?

def shown (ps : CodePoints) : String := .ofList (ps.flatMap CodePoint.shown)

def quoted (ps : CodePoints) : String :=
  let mark := quoteMark (ps.filterMap CodePoint.char?)
  .ofList (mark :: ps.flatMap (CodePoint.quotedIn mark) ++ [mark])

def standIn (ps : CodePoints) : String := .ofList (ps.map CodePoint.standIn)

def byteCount : CodePoints → Nat
  | [] => 0
  | p :: ps => p.byteCount + byteCount ps

end CodePoints

/-! ## Encoding -/

/-- Surrogates in a row, from `start` on, that have no bytes. -/
structure NoBytes where
  start : Nat
  first : Fin 0x800
  count : Nat
deriving DecidableEq, Repr

def NoBytes.message (f : NoBytes) : String :=
  let place :=
    if f.count = 1 then "character '" ++ .ofList (CodePoint.escaped f.first) ++ "' in position " ++ toString f.start
    else "characters in position " ++ toString f.start ++ "-" ++ toString (f.start + f.count - 1)
  "'utf-8' codec can't encode " ++ place ++ ": surrogates not allowed"

/-- The first surrogate that is not let pass, and the surrogates that follow it. -/
def noBytesFrom? (passes : CodePoint → Bool) (pos : Nat) : CodePoints → Option NoBytes
  | [] => none
  | .char _ :: ps => noBytesFrom? passes (pos + 1) ps
  | .surrogate n :: ps =>
    if passes (.surrogate n) then noBytesFrom? passes (pos + 1) ps
    else some ⟨pos, n, 1 + (ps.takeWhile CodePoint.isSurrogate).length⟩

/-- The bytes of a text in UTF-8. -/
def CodePoints.encode (ps : CodePoints) : Except NoBytes (List UInt8) :=
  match noBytesFrom? (fun _ => false) 0 ps with
  | some fault => .error fault
  | none => .ok (Utf8.encode (ps.filterMap CodePoint.char?))

/-- Why a text can be no name of a file. -/
def CodePoints.unnameable? (ps : CodePoints) : Option NoBytes := noBytesFrom? CodePoint.standsForByte 0 ps

/-! ## Strings -/

theorem noBytesFrom?_eq_none_iff {passes : CodePoint → Bool} : ∀ {pos : Nat} {ps : CodePoints},
    noBytesFrom? passes pos ps = none ↔ ∀ p ∈ ps, p.isSurrogate = true → passes p = true
  | _, [] => by simp [noBytesFrom?]
  | _, .char c :: ps => by simp [noBytesFrom?, noBytesFrom?_eq_none_iff, CodePoint.isSurrogate]
  | _, .surrogate n :: ps => by
    unfold noBytesFrom?
    split
    · rename_i hp
      simp [noBytesFrom?_eq_none_iff, CodePoint.isSurrogate, hp]
    · rename_i hp
      simp [CodePoint.isSurrogate, hp]

namespace CodePoints

theorem byteCount_append : ∀ ps qs : CodePoints, byteCount (ps ++ qs) = byteCount ps + byteCount qs
  | [], qs => (Nat.zero_add _).symm
  | p :: ps, qs => by rw [List.cons_append, byteCount, byteCount, byteCount_append ps, Nat.add_assoc]

theorem filterMap_char? (s : String) : (ofString s).filterMap CodePoint.char? = s.toList := by
  have hf : CodePoint.char? ∘ CodePoint.char = some := rfl
  rw [ofString, List.filterMap_map, hf, List.filterMap_some]

theorem exists_string_iff {ps : CodePoints} : (∃ s : String, ps = s) ↔ ∀ p ∈ ps, p.isSurrogate = false := by
  constructor
  · rintro ⟨s, rfl⟩ p hp
    obtain ⟨c, -, rfl⟩ := List.mem_map.mp hp
    rfl
  · intro h
    refine ⟨standIn ps, ?_⟩
    rw [standIn, ofString, String.toList_ofList, List.map_map]
    refine (List.map_id ps).symm.trans (List.map_congr_left fun p hp => ?_)
    cases p with
    | char c => rfl
    | surrogate n => cases h _ hp

theorem encode_string (s : String) : encode s = .ok s.toUTF8.data.toList := by
  have hn : noBytesFrom? (fun _ => false) 0 (s : CodePoints) = none := by
    rw [noBytesFrom?_eq_none_iff]
    intro p hp hs
    rw [exists_string_iff.mp ⟨s, rfl⟩ p hp] at hs
    cases hs
  rw [encode, hn, filterMap_char?, Utf8.encode_toList]

theorem encode_eq_error {ps : CodePoints} (h : ∀ s : String, ps ≠ s) : ∃ fault, encode ps = .error fault := by
  unfold encode
  cases hn : noBytesFrom? (fun _ => false) 0 ps with
  | some fault => exact ⟨fault, rfl⟩
  | none =>
    rw [noBytesFrom?_eq_none_iff] at hn
    obtain ⟨s, hs⟩ := exists_string_iff.mpr fun p hp => by simpa using hn p hp
    exact absurd hs (h s)

end CodePoints

end ZigDecls.Text
