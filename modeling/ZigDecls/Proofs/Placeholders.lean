import ZigDecls.Proofs.Policies

/-!
# Placeholders say their reason

A placeholder holds the reason in a string literal. Read from the left, where a backslash takes the
character behind it, the literal ends at its closing quote and not before, and what it spells is the
reason. So a placeholder is the placeholder of one reason.
-/

namespace ZigDecls

/-! ## Reading a literal -/

inductive Glyph
  | plain (c : Char)
  | escaped (c : Char)
  /-- A backslash with nothing behind it. -/
  | dangling
deriving DecidableEq, Repr

namespace Glyph

/-- No quote stands by itself, and only a backslash or a quote has a backslash in front. -/
def IsSound : Glyph → Prop
  | plain c => c ≠ '"'
  | escaped c => c = '\\' ∨ c = '"'
  | dangling => False

def char? : Glyph → Option Char
  | plain c => some c
  | escaped c => some c
  | dangling => none

end Glyph

def glyphsOf : List Char → List Glyph
  | [] => []
  | ['\\'] => [.dangling]
  | '\\' :: c :: cs => .escaped c :: glyphsOf cs
  | c :: cs => .plain c :: glyphsOf cs

theorem glyphsOf_cons {c : Char} (h : c ≠ '\\') (cs : List Char) : glyphsOf (c :: cs) = .plain c :: glyphsOf cs := by
  rw [glyphsOf]
  · exact fun hc _ => h hc
  · exact fun _ _ hc _ => h hc

/-- Of what the last rule reads: the rules before it read every backslash. -/
theorem ne_backslash {c : Char} {cs : List Char} (hnil : c = '\\' → cs = [] → False)
    (hcons : ∀ d ds, c = '\\' → cs = d :: ds → False) : c ≠ '\\' := by
  cases cs with
  | nil => exact fun he => hnil he rfl
  | cons d ds => exact fun he => hcons d ds he rfl

theorem glyphsOf_append (ds : List Char) {cs : List Char} (h : .dangling ∉ glyphsOf cs) :
    glyphsOf (cs ++ ds) = glyphsOf cs ++ glyphsOf ds := by
  fun_induction glyphsOf cs with
  | case1 => rfl
  | case2 => exact absurd List.mem_cons_self h
  | case3 c cs ih =>
    rw [List.mem_cons, not_or] at h
    rw [List.cons_append, List.cons_append, glyphsOf, ih h.2]
    rfl
  | case4 c cs hnil hcons ih =>
    rw [List.mem_cons, not_or] at h
    rw [List.cons_append, glyphsOf_cons (ne_backslash hnil hcons), ih h.2]
    rfl

/-- Reading back takes exactly the literals without a fault, and gives what they spell. -/
theorem unescapeLiteral?_eq_some_iff {cs ds : List Char} :
    unescapeLiteral? cs = some ds ↔
      (∀ g ∈ glyphsOf cs, g.IsSound) ∧ (glyphsOf cs).filterMap Glyph.char? = ds := by
  fun_induction glyphsOf cs generalizing ds with
  | case1 => simp [unescapeLiteral?]
  | case2 => simp [unescapeLiteral?, Glyph.IsSound]
  | case3 c cs ih =>
    rw [unescapeLiteral?]
    by_cases h : c = '\\' ∨ c = '"'
    · simp [h, ih, Glyph.IsSound, Glyph.char?, and_assoc]
    · simp [h, Glyph.IsSound]
  | case4 c cs hnil hcons ih =>
    have hc : c ≠ '\\' := ne_backslash hnil hcons
    rw [unescapeLiteral?]
    by_cases h : c = '"'
    · simp [h, Glyph.IsSound]
    · simp [h, ih, Glyph.IsSound, Glyph.char?, and_assoc]
    · exact fun he _ => hc he
    · exact fun _ _ he _ => hc he

/-! ## Writing a literal -/

def substitute (c : Char) (text cs : List Char) : List Char := cs.flatMap fun d => if d = c then text else [d]

/-- First the backslashes, then the quotes: the other way round the backslashes in front of the quotes
would be doubled too. -/
theorem escapeLiteral_eq (cs : List Char) :
    escapeLiteral cs = substitute '"' ['\\', '"'] (substitute '\\' ['\\', '\\'] cs) := by
  unfold escapeLiteral substitute
  rw [List.flatMap_assoc]
  refine congrArg (cs.flatMap ·) (funext fun c => ?_)
  by_cases hb : c = '\\'
  · subst hb; rfl
  · by_cases hq : c = '"'
    · subst hq; rfl
    · simp [hb, hq]

theorem escapeLiteral_injective {cs ds : List Char} (h : escapeLiteral cs = escapeLiteral ds) : cs = ds := by
  have hr := unescapeLiteral?_escapeLiteral cs
  rw [h, unescapeLiteral?_escapeLiteral] at hr
  exact (Option.some.inj hr).symm

theorem placeholder_injective {reason reason' : String} (h : placeholder reason = placeholder reason') :
    reason = reason' := by
  have hl := congrArg String.toList h
  unfold placeholder at hl
  simp only [String.toList_append, String.toList_ofList] at hl
  have he := List.append_cancel_left (List.append_cancel_right hl)
  exact String.toList_injective (escapeLiteral_injective he)

/-- A field whose type has no rendering gets a placeholder. Its literal has no fault and spells the
reason, the first quote that stands by itself is the one that closes it, and no other reason has this
placeholder. The reason of a union quotes the type as it was documented. -/
theorem declare_unmapped {settings : Settings} {field : Field} {e : UnmappedType} (hs : settings.strict = false)
    (he : typeFor settings field.typeName = .error e) (owner : String) (ledger : List Unmapped) :
    ∃ body : String,
      let type := "@compileError(\"" ++ body ++ "\")"
      field.declare settings owner ledger =
        .ok (commentText "    " field.description ++ "\n" ++ "    " ++ field.name ++ ": " ++
            (if "Optional.".toList.isPrefixOf field.description.toList then "?" ++ type ++ " = null" else type) ++ ",\n",
          ledger ++ [⟨owner, field.name, field.typeName, e.reason⟩]) ∧
      body.toList = substitute '"' ['\\', '"'] (substitute '\\' ['\\', '\\'] e.reason.toList) ∧
      (∀ g ∈ glyphsOf body.toList, g.IsSound) ∧
      (glyphsOf body.toList).filterMap Glyph.char? = e.reason.toList ∧
      (∀ rest, glyphsOf (body.toList ++ '"' :: rest) = glyphsOf body.toList ++ .plain '"' :: glyphsOf rest) ∧
      (e.cause = .union → e.reason = "Type name includes 'or' not yet supported: '" ++ field.typeName ++ "'") ∧
      ∀ reason, placeholder reason = type → reason = e.reason := by
  let body : String := .ofList (escapeLiteral e.reason.toList)
  have hb : body.toList = escapeLiteral e.reason.toList := String.toList_ofList
  have hr := unescapeLiteral?_escapeLiteral e.reason.toList
  rw [← hb] at hr
  obtain ⟨hsound, hspelt⟩ := unescapeLiteral?_eq_some_iff.mp hr
  refine ⟨body, ?_, ?_, hsound, hspelt, fun rest => ?_, fun hc => ?_, fun reason h => placeholder_injective h⟩
  · rw [field.declare_lenient hs]
    unfold Field.typeText Field.unmapped?
    rw [he]
    rfl
  · rw [hb, escapeLiteral_eq]
  · rw [glyphsOf_append _ fun hd => hsound _ hd, glyphsOf_cons (by decide)]
  · rw [UnmappedType.reason, hc, documented_of_typeFor he]

theorem declare_unmapped_quoted :
    let settings : Settings := { Settings.standard with unionsAsJson := false }
    let field : Field := ⟨"item", "Photo or \"Video\\", "Optional. The item."⟩
    let e : UnmappedType := ⟨field.typeName, .union⟩
    settings.strict = false ∧ typeFor settings field.typeName = .error e ∧
    ∃ body : String, field.declare settings "Media" [] =
        .ok (commentText "    " field.description ++ "\n" ++ "    " ++ field.name ++ ": " ++
            ("?" ++ ("@compileError(\"" ++ body ++ "\")") ++ " = null") ++ ",\n", [⟨"Media", "item", field.typeName, e.reason⟩]) ∧
      (∀ g ∈ glyphsOf body.toList, g.IsSound) ∧ (glyphsOf body.toList).filterMap Glyph.char? = e.reason.toList := by
  intro settings field e
  have hf : field.failure? settings = some e := by decide +kernel
  have he := (Field.failure?_eq_some_iff settings).mp hf
  have optional : "Optional.".toList.isPrefixOf field.description.toList = true := by decide +kernel
  obtain ⟨body, hd, -, hsound, hspelt, -⟩ := declare_unmapped rfl he "Media" []
  rw [if_pos optional] at hd
  exact ⟨rfl, he, body, hd, hsound, hspelt⟩

end ZigDecls
