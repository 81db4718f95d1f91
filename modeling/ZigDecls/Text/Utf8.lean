import ZigDecls.Text.Quoted

/-!
# UTF-8

Reading is a walk over the bytes that keeps the character still open: where it began, what it
holds so far, and the ranges its next bytes must lie in. A walk that gets stuck says at which byte
the open character began, how many of its bytes were read, and what was wrong with the next one.
-/

namespace ZigDecls.Text.Utf8

inductive Cause
  | startByte
  | continuationByte
  | endOfData
deriving DecidableEq, Repr

def Cause.text : Cause → String
  | .startByte => "invalid start byte"
  | .continuationByte => "invalid continuation byte"
  | .endOfData => "unexpected end of data"

/-- The bytes from `start` on, `count` of them and `first` in front, are no character. -/
structure Fault where
  start : Nat
  first : UInt8
  count : Nat
  cause : Cause
deriving DecidableEq, Repr

def Fault.message (f : Fault) : String :=
  let place :=
    if f.count = 1 then
      "byte 0x" ++ .ofList (hex 2 f.first.toNat) ++ " in position " ++ toString f.start
    else
      "bytes in position " ++ toString f.start ++ "-" ++ toString (f.start + f.count - 1)
  "'utf-8' codec can't decode " ++ place ++ ": " ++ f.cause.text

/-- What a first byte holds, and the ranges of the bytes that must follow it. -/
def lead? (b : Nat) : Option (Nat × List (Nat × Nat)) :=
  let any := (0x80, 0xBF)
  if b < 0x80 then some (b, [])
  else if b < 0xC2 then none
  else if b < 0xE0 then some (b - 0xC0, [any])
  else if b = 0xE0 then some (0, [(0xA0, 0xBF), any])
  else if b = 0xED then some (0xD, [(0x80, 0x9F), any])
  else if b < 0xF0 then some (b - 0xE0, [any, any])
  else if b = 0xF0 then some (0, [(0x90, 0xBF), any, any])
  else if b < 0xF4 then some (b - 0xF0, [any, any, any])
  else if b = 0xF4 then some (4, [(0x80, 0x8F), any, any])
  else none

/-- A character whose last byte has not been read. -/
structure Pending where
  start : Nat
  first : UInt8
  count : Nat
  value : Nat
  next : Nat × Nat
  later : List (Nat × Nat)

def Pending.fault (p : Pending) (cause : Cause) : Fault := ⟨p.start, p.first, p.count, cause⟩

def decodeFrom (pos : Nat) : Option Pending → List UInt8 → Except Fault (List Char)
  | none, [] => .ok []
  | some p, [] => .error (p.fault .endOfData)
  | none, b :: bs =>
    match lead? b.toNat with
    | none => .error ⟨pos, b, 1, .startByte⟩
    | some (value, []) => (Char.ofNat value :: ·) <$> decodeFrom (pos + 1) none bs
    | some (value, next :: later) => decodeFrom (pos + 1) (some ⟨pos, b, 1, value, next, later⟩) bs
  | some p, b :: bs =>
    if p.next.1 ≤ b.toNat ∧ b.toNat ≤ p.next.2 then
      let value := p.value * 64 + (b.toNat - 0x80)
      match p.later with
      | [] => (Char.ofNat value :: ·) <$> decodeFrom (pos + 1) none bs
      | next :: later =>
        decodeFrom (pos + 1) (some { p with count := p.count + 1, value, next, later }) bs
    else .error (p.fault .continuationByte)

def decode (bytes : List UInt8) : Except Fault (List Char) := decodeFrom 0 none bytes

def encodeChar (c : Char) : List UInt8 :=
  let n := c.toNat
  let byte (k : Nat) : UInt8 := .ofNat k
  if n < 0x80 then [byte n]
  else if n < 0x800 then [byte (0xC0 + n / 64), byte (0x80 + n % 64)]
  else if n < 0x10000 then [byte (0xE0 + n / 4096), byte (0x80 + n / 64 % 64), byte (0x80 + n % 64)]
  else [byte (0xF0 + n / 262144), byte (0x80 + n / 4096 % 64), byte (0x80 + n / 64 % 64), byte (0x80 + n % 64)]

def encode (cs : List Char) : List UInt8 := cs.flatMap encodeChar

theorem encodeChar_eq (c : Char) : encodeChar c = String.utf8EncodeChar c := by
  have hc : c.toNat < 0x110000 := by
    have hv := c.valid
    simp only [UInt32.isValidChar, Nat.isValidChar] at hv
    show c.val.toNat < 0x110000
    omega
  have hn : c.val.toNat = c.toNat := rfl
  unfold encodeChar String.utf8EncodeChar
  simp only [hn]
  by_cases h₁ : c.toNat < 0x80
  · rw [if_pos h₁, if_pos (by omega)]
  by_cases h₂ : c.toNat < 0x800
  · rw [if_neg h₁, if_pos h₂, if_neg (by omega), if_pos (by omega)]
    rw [Nat.mod_eq_of_lt (a := c.toNat / 64) (b := 32) (by omega), Nat.add_comm 0xC0, Nat.add_comm 0x80]
  by_cases h₃ : c.toNat < 0x10000
  · rw [if_neg h₁, if_neg h₂, if_pos h₃, if_neg (by omega), if_neg (by omega), if_pos (by omega)]
    rw [Nat.mod_eq_of_lt (a := c.toNat / 4096) (b := 16) (by omega)]
    rw [Nat.add_comm 0xE0, Nat.add_comm 0x80, Nat.add_comm 0x80]
  · rw [if_neg h₁, if_neg h₂, if_neg h₃, if_neg (by omega), if_neg (by omega), if_neg (by omega)]
    rw [Nat.mod_eq_of_lt (a := c.toNat / 262144) (b := 8) (by omega)]
    rw [Nat.add_comm 0xF0, Nat.add_comm 0x80, Nat.add_comm 0x80, Nat.add_comm 0x80]

/-- The bytes of a text are those that the core library gives it. -/
theorem encode_toList (s : String) : encode s.toList = s.toUTF8.data.toList := by
  have h : s.toUTF8 = s.toList.utf8Encode := String.utf8Encode_toList.symm
  rw [h, encode, List.utf8Encode, funext encodeChar_eq]
  simp

/-! ## Well-formed bytes -/

def Continues (b : UInt8) : Prop := 0x80 ≤ b ∧ b ≤ 0xBF

/-- The bytes of a character. The ranges behind `E0`, `ED`, `F0` and `F4` are narrower than elsewhere, which
leaves out the forms that are too long, the surrogates, and what lies above the last code point. -/
inductive Encodes : List UInt8 → Prop
  | one {a} : a ≤ 0x7F → Encodes [a]
  | two {a b} : 0xC2 ≤ a → a ≤ 0xDF → Continues b → Encodes [a, b]
  | three {a b c} : 0xE1 ≤ a → a ≤ 0xEF → a ≠ 0xED → Continues b → Continues c → Encodes [a, b, c]
  | threeLow {b c} : 0xA0 ≤ b → b ≤ 0xBF → Continues c → Encodes [0xE0, b, c]
  | threeMiddle {b c} : 0x80 ≤ b → b ≤ 0x9F → Continues c → Encodes [0xED, b, c]
  | four {a b c d} : 0xF1 ≤ a → a ≤ 0xF3 → Continues b → Continues c → Continues d → Encodes [a, b, c, d]
  | fourLow {b c d} : 0x90 ≤ b → b ≤ 0xBF → Continues c → Continues d → Encodes [0xF0, b, c, d]
  | fourHigh {b c d} : 0x80 ≤ b → b ≤ 0x8F → Continues c → Continues d → Encodes [0xF4, b, c, d]

inductive WellFormed : List UInt8 → Prop
  | nil : WellFormed []
  | append {c bs} : Encodes c → WellFormed bs → WellFormed (c ++ bs)

end ZigDecls.Text.Utf8
