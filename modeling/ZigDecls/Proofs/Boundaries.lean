import ZigDecls.Page.Item
import ZigDecls.Proofs.Collection
import ZigDecls.Proofs.TypeNames

/-!
# Sections on a page of layout items

The items of a page become elements before its sections are cut. A header item with a text opens a
section; one without a text gives no element, so it does not end the section it stands in, and what
stands after it is still read there.
-/

namespace ZigDecls
open Text

namespace Item

def isHeader (item : Item) : Bool := headingLabels.contains (capitals item.label)

def hasText (item : Item) : Bool := item.text.getD "" != ""

def opensSection (item : Item) : Bool := item.isHeader && item.hasText

def title (item : Item) : String := trim (item.text.getD "")

variable {item : Item}

theorem tableLabels_of_isHeader (h : item.isHeader = true) : tableLabels.contains (capitals item.label) = false := by
  unfold isHeader headingLabels at h
  simp only [List.contains_cons, List.contains_nil, Bool.or_false, Bool.or_eq_true, beq_iff_eq] at h
  rcases h with h | h
  · rw [h]; decide
  · rw [h]; decide

theorem element?_of_opensSection (h : item.opensSection = true) :
    item.element? = some (.heading item.title item.headingLevel) := by
  obtain ⟨hh, ht⟩ : item.isHeader = true ∧ item.hasText = true := by simpa [opensSection] using h
  unfold element? title
  unfold hasText at ht
  simp only [tableLabels_of_isHeader hh]
  unfold isHeader at hh
  cases hx : item.text with
  | none => rw [hx] at ht; cases ht
  | some text =>
    rw [hx] at ht
    have : text ≠ "" := by simpa using ht
    simpa using hh

theorem element?_of_isHeader (h : item.isHeader = true) (ht : item.hasText = false) : item.element? = none := by
  unfold element?
  unfold hasText at ht
  simp only [tableLabels_of_isHeader h]
  cases hx : item.text with
  | none => rfl
  | some text =>
    rw [hx] at ht
    obtain rfl : text = "" := by simpa using ht
    rfl

theorem isHeading_of_element? (h : item.opensSection = false) {e : Element} (he : item.element? = some e) :
    e.isHeading = false := by
  by_cases hh : item.isHeader = true
  · rw [element?_of_isHeader hh (by simpa [opensSection, hh] using h)] at he; cases he
  · unfold element? at he
    unfold isHeader at hh
    simp only [hh] at he
    split at he
    · cases he; rfl
    · split at he
      · cases he
      · cases he
      · split at he
        · rename_i hc; cases hc
        · split at he
          · cases he; rfl
          · cases he

end Item

/-! ## Cutting items -/

theorem elementsOf_append (items items' : List Item) :
    elementsOf (items ++ items') = elementsOf items ++ elementsOf items' :=
  List.filterMap_append

theorem elementsOf_cons_opens {item : Item} (h : item.opensSection = true) (items : List Item) :
    elementsOf (item :: items) = .heading item.title item.headingLevel :: elementsOf items :=
  List.filterMap_cons_some (Item.element?_of_opensSection h)

theorem isHeading_of_mem_elementsOf {items : List Item} (h : ∀ item ∈ items, item.opensSection = false) :
    ∀ e ∈ elementsOf items, e.isHeading = false := by
  intro e he
  obtain ⟨item, hi, he⟩ := List.mem_filterMap.mp he
  exact Item.isHeading_of_element? (h item hi) he

theorem title_trim (item : Item) : trim item.title = item.title := trim_trim _

/-- The sections before an item that opens one are cut as if the page ended there. -/
theorem sectionsOf_opens {header : Item} (h : header.opensSection = true) (before tail : List Item) :
    sectionsOf (elementsOf (before ++ header :: tail)) = sectionsOf (elementsOf before) ++
      ⟨header.title, (cutSections (elementsOf tail)).1⟩ :: sectionsOf (elementsOf tail) := by
  rw [elementsOf_append, elementsOf_cons_opens h, (sectionsOf_append_heading _ _ _ _).1, title_trim]

theorem sectionsOf_cons_of_not_opens {item : Item} (h : item.opensSection = false) (items : List Item) :
    sectionsOf (elementsOf (item :: items)) = sectionsOf (elementsOf items) := by
  have hb : ∀ e ∈ elementsOf [item], e.isHeading = false :=
    isHeading_of_mem_elementsOf fun i hi => by rwa [List.mem_singleton.mp hi]
  rw [← List.singleton_append, elementsOf_append, sectionsOf, cutSections_append hb]

def opened (items : List Item) : Nat := items.countP Item.opensSection

theorem opened_cons_of_opens {item : Item} (h : item.opensSection = true) (items : List Item) :
    opened (item :: items) = opened items + 1 :=
  List.countP_cons_of_pos h

theorem opened_cons_of_not_opens {item : Item} (h : item.opensSection = false) (items : List Item) :
    opened (item :: items) = opened items :=
  List.countP_cons_of_neg (by simp [h])

theorem length_sectionsOf_elementsOf (items : List Item) : (sectionsOf (elementsOf items)).length = opened items := by
  induction items with
  | nil => rfl
  | cons item items ih =>
    cases h : item.opensSection with
    | true =>
      have := sectionsOf_opens h [] items
      rw [List.nil_append] at this
      rw [this, opened_cons_of_opens h, ← ih]; rfl
    | false => rw [sectionsOf_cons_of_not_opens h, opened_cons_of_not_opens h, ih]

theorem cutSections_elementsOf {body rest : List Item} (hb : ∀ item ∈ body, item.opensSection = false)
    (hr : ∀ item ∈ rest.head?, item.opensSection = true) :
    (cutSections (elementsOf (body ++ rest))).1 = elementsOf body := by
  rw [elementsOf_append, cutSections_append (isHeading_of_mem_elementsOf hb)]
  cases rest with
  | nil => exact List.append_nil _
  | cons item rest =>
    rw [elementsOf_cons_opens (hr item rfl)]
    exact List.append_nil _

theorem exists_opens {items : List Item} {index : Nat} {s : Section}
    (h : (sectionsOf (elementsOf items))[index]? = some s) :
    ∃ before header tail, items = before ++ header :: tail ∧ header.opensSection = true ∧
      opened before = index ∧ s = ⟨header.title, (cutSections (elementsOf tail)).1⟩ := by
  induction items generalizing index with
  | nil => cases h
  | cons item items ih =>
    cases ho : item.opensSection with
    | true =>
      have hc := sectionsOf_opens ho [] items
      rw [List.nil_append] at hc
      rw [hc] at h
      cases index with
      | zero => exact ⟨[], item, items, rfl, ho, rfl, (Option.some.inj h).symm⟩
      | succ index =>
        obtain ⟨before, header, tail, rfl, hh, hn, hs⟩ := ih h
        exact ⟨item :: before, header, tail, rfl, hh, by rw [opened_cons_of_opens ho, hn], hs⟩
    | false =>
      rw [sectionsOf_cons_of_not_opens ho] at h
      obtain ⟨before, header, tail, rfl, hh, hn, hs⟩ := ih h
      exact ⟨item :: before, header, tail, rfl, hh, by rw [opened_cons_of_not_opens ho, hn], hs⟩

/-! ## Around one section -/

def Item.sectionOf (header : Item) (items : List Item) : Section := ⟨header.title, elementsOf items⟩

/-- A page around one of its sections. The items up to the next header item are its own; those from
there up to the next item that opens a section come late. -/
structure Around (items before : List Item) (header : Item) (own late rest : List Item) : Prop where
  items_eq : items = before ++ header :: (own ++ (late ++ rest))
  opens : header.opensSection = true
  own_items : ∀ item ∈ own, item.isHeader = false
  late_items : ∀ item ∈ late, item.opensSection = false
  late_head : ∀ item ∈ late.head?, item.isHeader = true
  rest_head : ∀ item ∈ rest.head?, item.opensSection = true

theorem opensSection_of_not_isHeader {item : Item} (h : item.isHeader = false) : item.opensSection = false := by
  rw [Item.opensSection, h]; rfl

theorem exists_until (p : Item → Bool) (items : List Item) : ∃ front rest, items = front ++ rest ∧
    (∀ item ∈ front, p item = false) ∧ ∀ item ∈ rest.head?, p item = true := by
  induction items with
  | nil => exact ⟨[], [], rfl, by simp, by simp⟩
  | cons item items ih =>
    cases hp : p item with
    | true => exact ⟨[], item :: items, rfl, by simp, by simpa using hp⟩
    | false =>
      obtain ⟨front, rest, rfl, hf, hr⟩ := ih
      exact ⟨item :: front, rest, rfl, by simpa [hp] using hf, hr⟩

theorem exists_around {header : Item} (h : header.opensSection = true) (before tail : List Item) :
    ∃ own late rest, Around (before ++ header :: tail) before header own late rest := by
  obtain ⟨own, tail, rfl, ho, ht⟩ := exists_until Item.isHeader tail
  obtain ⟨late, rest, rfl, hl, hr⟩ := exists_until Item.opensSection tail
  refine ⟨own, late, rest, rfl, h, ho, hl, fun item hi => ht item ?_, hr⟩
  rw [List.head?_append, Option.mem_def.mp hi]; rfl

theorem accepted_around {items : List Item} {r : Record} (h : r ∈ (collect (elementsOf items)).accepted) :
    ∃ before header own late rest, Around items before header own late rest ∧
      (header.sectionOf (own ++ late)).outcome (opened before) = .ok r := by
  obtain ⟨index, s, hs, ho⟩ := mem_accepted.mp h
  obtain ⟨before, header, tail, rfl, hh, rfl, rfl⟩ := exists_opens hs
  obtain ⟨own, late, rest, hc⟩ := exists_around hh before tail
  refine ⟨before, header, own, late, rest, hc, ?_⟩
  obtain rfl : tail = own ++ (late ++ rest) := (List.cons.inj (List.append_cancel_left hc.items_eq)).2
  have hb : ∀ item ∈ own ++ late, item.opensSection = false := fun item hi =>
    (List.mem_append.mp hi).elim (fun hi => opensSection_of_not_isHeader (hc.own_items item hi)) (hc.late_items item)
  rwa [← List.append_assoc, cutSections_elementsOf hb hc.rest_head] at ho

theorem outcomeAt_opens {header : Item} (h : header.opensSection = true) (before tail : List Item) :
    (collect (elementsOf (before ++ header :: tail))).outcomeAt (opened before) =
      some ((Section.mk header.title (cutSections (elementsOf tail)).1).outcome (opened before)) := by
  rw [outcomeAt_collect, sectionsOf_opens h,
    List.getElem?_append_right (Nat.le_of_eq (length_sectionsOf_elementsOf before)),
    length_sectionsOf_elementsOf, Nat.sub_self]
  rfl

section Next

variable {before own : List Item} {header next : Item}

/-- A header item with a text ends the section before it. -/
theorem outcomeAt_of_hasText (hh : header.opensSection = true) (ho : ∀ item ∈ own, item.isHeader = false)
    (hn : next.isHeader = true) (ht : next.hasText = true) (after : List Item) :
    (collect (elementsOf (before ++ header :: (own ++ next :: after)))).outcomeAt (opened before) =
      some ((header.sectionOf own).outcome (opened before)) := by
  have hnext : next.opensSection = true := by rw [Item.opensSection, hn, ht]; rfl
  rw [outcomeAt_opens hh, cutSections_elementsOf (fun i hi => opensSection_of_not_isHeader (ho i hi))
    (by simpa using hnext)]
  rfl

/-- A header item without a text does not: what follows is read in the section before it. -/
theorem outcomeAt_of_not_hasText (hh : header.opensSection = true) (ho : ∀ item ∈ own, item.isHeader = false)
    (hn : next.isHeader = true) (ht : next.hasText = false) (after : List Item) :
    (collect (elementsOf (before ++ header :: (own ++ next :: after)))).outcomeAt (opened before) =
      some ((Section.mk header.title (elementsOf own ++ (cutSections (elementsOf after)).1)).outcome
        (opened before)) := by
  have hnext : elementsOf (next :: after) = elementsOf after :=
    List.filterMap_cons_none (Item.element?_of_isHeader hn ht)
  have hb := isHeading_of_mem_elementsOf fun i hi => opensSection_of_not_isHeader (ho i hi)
  rw [outcomeAt_opens hh, elementsOf_append, hnext, cutSections_append hb]

theorem outcomeAt_forall_iff (hh : header.opensSection = true) (ho : ∀ item ∈ own, item.isHeader = false)
    (hn : next.isHeader = true) :
    (∀ after, (collect (elementsOf (before ++ header :: (own ++ next :: after)))).outcomeAt (opened before) =
      some ((header.sectionOf own).outcome (opened before))) ↔
    next.hasText = true ∨
      ∃ r, (header.sectionOf own).outcome (opened before) = .error r ∧ r.reason = .malformedTable := by
  cases ht : next.hasText with
  | true => exact ⟨fun _ => .inl rfl, fun _ => outcomeAt_of_hasText hh ho hn ht⟩
  | false =>
    refine ⟨fun h => .inr ?_, ?_⟩
    · -- A table without headers, standing after the header item, makes the section malformed.
      have h := h [⟨"TABLE", none, none, []⟩]
      rw [outcomeAt_of_not_hasText hh ho hn ht] at h
      obtain ⟨r, hr, hm⟩ := Section.exists_malformed_append header.title (elementsOf own) (opened before)
      exact ⟨r, (Option.some.inj h).symm.trans hr, hm⟩
    · rintro (h | ⟨r, hr, hm⟩) after
      · cases h
      · rw [outcomeAt_of_not_hasText hh ho hn ht, hr, ((Section.yields_iff.mpr hr).append hm _).outcome_eq]

end Next

def pointHeader : Item := ⟨"SECTION_HEADER", some "Point", none, []⟩

def pointItems : List Item :=
  [⟨"TEXT", some "A point.", none, []⟩,
   ⟨"TABLE", none, none, [[some "Field", some "Type", some "Description"], [some "x", some "Integer", some "The x."]]⟩]

def blankHeader : Item := ⟨"SECTION_HEADER", some "", none, []⟩

/-- A record is read from its section's own items, and from those that come late if they say anything.
What stands after the next header item says nothing to the section, whatever it is, exactly if that
item has a text or the section is malformed before it. -/
theorem record_from_own_items (items : List Item) :
    (∀ r ∈ (collect (elementsOf items)).accepted, ∃ before header own late rest,
      Around items before header own late rest ∧
      (header.sectionOf (own ++ late)).outcome (opened before) = .ok r ∧
      ((header.sectionOf own).outcome (opened before) = .ok r ↔
        (header.sectionOf late).tables = [] ∧ (header.sectionOf late).documentation = [])) ∧
    ∀ before header own next rest, items = before ++ header :: (own ++ next :: rest) →
      header.opensSection = true → (∀ item ∈ own, item.isHeader = false) → next.isHeader = true →
      ((∀ after, (collect (elementsOf (before ++ header :: (own ++ next :: after)))).outcomeAt (opened before) =
        some ((header.sectionOf own).outcome (opened before))) ↔
      next.hasText = true ∨
        ∃ r, (header.sectionOf own).outcome (opened before) = .error r ∧ r.reason = .malformedTable) := by
  refine ⟨fun r h => ?_, fun before header own next rest _ hh ho hn => outcomeAt_forall_iff hh ho hn⟩
  obtain ⟨before, header, own, late, rest, hc, hr⟩ := accepted_around h
  refine ⟨before, header, own, late, rest, hc, hr, ?_⟩
  rw [Item.sectionOf, elementsOf_append] at hr
  exact Section.outcome_append_iff hr

theorem not_forall_outcomeAt_point :
    ¬ ∀ after, (collect (elementsOf (pointHeader :: (pointItems ++ blankHeader :: after)))).outcomeAt 0 =
      some ((pointHeader.sectionOf pointItems).outcome 0) := by
  intro h
  have hiff := (record_from_own_items (pointHeader :: (pointItems ++ [blankHeader]))).2 [] pointHeader pointItems
    blankHeader [] rfl (by decide +kernel) (by decide +kernel) (by decide +kernel)
  rcases hiff.mp h with ht | ⟨r, hr, -⟩
  · exact absurd ht (by decide)
  · have hr : (pointHeader.sectionOf pointItems).outcome 0 = .error r := hr
    have hok : ((pointHeader.sectionOf pointItems).outcome 0).toBool = true := by decide +kernel
    rw [hr] at hok; cases hok

/-- A paragraph after a header item without a text is read into the record before it. -/
theorem accepted_reads_after_header :
    pointHeader.isHeader = true ∧ (∀ item ∈ pointItems, item.isHeader = false) ∧ blankHeader.isHeader = true ∧
    (collect (elementsOf (pointHeader :: pointItems))).accepted =
      [⟨"Point", "A point.", [⟨"x", "Integer", "The x."⟩], 0⟩] ∧
    (collect (elementsOf (pointHeader :: (pointItems ++ [blankHeader, ⟨"TEXT", some "Leaked.", none, []⟩])))).accepted =
      [⟨"Point", "A point.\nLeaked.", [⟨"x", "Integer", "The x."⟩], 0⟩] := by
  decide +kernel

end ZigDecls
