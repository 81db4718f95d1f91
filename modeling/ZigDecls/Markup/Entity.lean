import ZigDecls.Markup.Entity.Table
import ZigDecls.Text.Opening

/-!
# Entities

An entity is a character, or two, with a name. Its name ends with a semicolon; an older name may
also stand bare. Where several names fit, the longest is meant.
-/

namespace ZigDecls.Markup
open Text

structure Entity where
  name : List Char
  content : List Char
  /-- Whether the name may stand without a semicolon. -/
  bare : Bool
deriving DecidableEq, Repr

def entities : List Entity :=
  namedCharacters.map fun e => ⟨e.1.toList, e.2.map Char.ofNat, bareNames.contains e.1⟩

/-- Where markup refers to characters: in a text, or in the value of an attribute. -/
inductive Place
  | text
  | value
deriving DecidableEq, Repr

/-- Whether a bare name ends before these characters. Addresses are full of ampersands, so that in a
value what could go on with the name, or give it a value, makes it no name. -/
def Place.endsName : Place → List Char → Bool
  | .value, c :: _ => !(c.isAlphanum || c = '=')
  | _, _ => true

/-- What is left behind the entity, if its name begins the text. -/
def Entity.rest? (place : Place) (cs : List Char) (e : Entity) : Option (List Char) :=
  match e.name.isPrefixOf? cs with
  | some (';' :: rest) => some rest
  | some rest => if e.bare && place.endsName rest then some rest else none
  | none => none

theorem Entity.rest?_length {place : Place} {cs rest : List Char} {e : Entity}
    (h : e.rest? place cs = some rest) : rest.length ≤ cs.length := by
  have shorter {r : List Char} (hp : e.name.isPrefixOf? cs = some r) : r.length ≤ cs.length := by
    rw [eq_append_of_isPrefixOf? hp, List.length_append]
    omega
  unfold Entity.rest? at h
  split at h
  · next r hp =>
    cases h
    have := shorter hp
    rw [List.length_cons] at this
    omega
  · next r _ hp =>
    split at h
    · cases h; exact shorter hp
    · cases h
  · cases h

/-- What the longest name at the beginning of the text stands for, and the rest behind it. -/
def entity? (place : Place) (cs : List Char) : Option (List Char × List Char) :=
  (entities.filterMap fun e => (e.rest? place cs).map fun rest => (e.content, rest)).getLast?

theorem entity?_length {place : Place} {cs content rest : List Char}
    (h : entity? place cs = some (content, rest)) : rest.length ≤ cs.length := by
  obtain ⟨e, _, he⟩ := List.mem_filterMap.mp (List.mem_of_getLast? h)
  obtain ⟨r, hr, heq⟩ := Option.map_eq_some_iff.mp he
  cases heq
  exact Entity.rest?_length hr

end ZigDecls.Markup
