import ZigDecls.Markup.Entity

/-!
# Character references

`&name;`, `&#n;` and `&#xn;` in markup stand for characters. An ampersand that begins no reference
stands for itself.
-/

namespace ZigDecls.Markup
open Text

/-- What the numbers from 0x80 to 0x9F stand for. -/
def upperControls : List Nat :=
  [0x20AC, 0x81, 0x201A, 0x192, 0x201E, 0x2026, 0x2020, 0x2021, 0x2C6, 0x2030, 0x160, 0x2039, 0x152,
   0x8D, 0x17D, 0x8F, 0x90, 0x2018, 0x2019, 0x201C, 0x201D, 0x2022, 0x2013, 0x2014, 0x2DC, 0x2122,
   0x161, 0x203A, 0x153, 0x9D, 0x17E, 0x178]

/-- The character of a number; a number that is none stands for the replacement character. -/
def numbered (n : Nat) : Char :=
  let n := if 0x80 ≤ n ∧ n < 0xA0 then upperControls.getD (n - 0x80) n else n
  if h : n.isValidChar ∧ n ≠ 0 then Char.ofNatAux n h.1 else Char.ofNat 0xFFFD

def digitValue? (base : Nat) (c : Char) : Option Nat :=
  let v :=
    if '0' ≤ c ∧ c ≤ '9' then c.toNat - '0'.toNat
    else if 'a' ≤ c ∧ c ≤ 'f' then c.toNat - 'a'.toNat + 10
    else if 'A' ≤ c ∧ c ≤ 'F' then c.toNat - 'A'.toNat + 10
    else base
  if v < base then some v else none

/-- The number that the text begins with, and the rest behind it and its semicolon, which may be
missing. -/
def number? (base : Nat) (cs : List Char) : Option (Nat × List Char) :=
  let isDigit (c : Char) := (digitValue? base c).isSome
  let digits := cs.takeWhile isDigit
  if digits.isEmpty then none
  else
    let n := digits.foldl (fun n c => n * base + (digitValue? base c).getD 0) 0
    match cs.dropWhile isDigit with
    | ';' :: rest => some (n, rest)
    | rest => some (n, rest)

theorem number?_length {base n : Nat} {cs rest : List Char} (h : number? base cs = some (n, rest)) :
    rest.length ≤ cs.length := by
  unfold number? at h
  have hl := length_takeWhile_add (fun c => (digitValue? base c).isSome) cs
  simp only at h
  split at h
  · cases h
  · split at h
    · next r hr => cases h; rw [hr, List.length_cons] at hl; omega
    · cases h; omega

/-- What the text behind an ampersand refers to, and the rest behind the reference. -/
def reference? (place : Place) : List Char → Option (List Char × List Char)
  | '#' :: 'x' :: cs | '#' :: 'X' :: cs => (number? 16 cs).map fun r => ([numbered r.1], r.2)
  | '#' :: cs => (number? 10 cs).map fun r => ([numbered r.1], r.2)
  | cs => entity? place cs

theorem reference?_length {place : Place} {cs content rest : List Char}
    (h : reference? place cs = some (content, rest)) : rest.length ≤ cs.length := by
  unfold reference? at h
  split at h
  case h_4 => exact entity?_length h
  all_goals
    obtain ⟨⟨n, r⟩, hn, heq⟩ := Option.map_eq_some_iff.mp h
    cases heq
    have := number?_length hn
    simp only [List.length_cons]
    omega

/-- The text that the markup of a text or of a value stands for. -/
def resolve (place : Place) : List Char → List Char
  | [] => []
  | c :: cs =>
    if c = '&' then
      match _ref : reference? place cs with
      | some (content, rest) => content ++ resolve place rest
      | none => c :: resolve place cs
    else c :: resolve place cs
termination_by cs => cs.length
decreasing_by
  · have := reference?_length _ref; simp only [List.length_cons]; omega
  · simp
  · simp

end ZigDecls.Markup
