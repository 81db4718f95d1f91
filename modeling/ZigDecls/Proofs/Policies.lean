import ZigDecls.Proofs.Emission

/-!
# The two policies

A field whose type has no rendering either gets a placeholder and an entry in the ledger, or ends
the work under the strict setting. Both policies find the same fields: the ledger has one entry for
each, and the strict setting reports the first one, or writes the same code if there is none.
-/

namespace ZigDecls

def membersOf (records : List Record) : List (Record × Field) := records.flatMap fun r => r.fields.map (r, ·)

section
variable (settings : Settings)

def Field.failure? (field : Field) : Option UnmappedType :=
  match typeFor settings field.typeName with
  | .ok _ => none
  | .error e => some e

theorem Field.failure?_eq_some_iff {field : Field} {e : UnmappedType} :
    field.failure? settings = some e ↔ typeFor settings field.typeName = .error e := by
  unfold Field.failure?
  cases typeFor settings field.typeName <;> simp

def Field.entry (owner : Record) (field : Field) (e : UnmappedType) : Unmapped :=
  ⟨owner.typeName, field.name, field.typeName, e.reason⟩

theorem Field.unmapped?_eq (owner : Record) (field : Field) :
    field.unmapped? settings owner.typeName = (field.failure? settings).map (field.entry owner) := by
  unfold Field.unmapped? Field.failure?
  cases typeFor settings field.typeName <;> rfl

theorem unmapped_members : ∀ records : List Record,
    records.flatMap (·.unmapped settings) =
      (membersOf records).filterMap fun m => (m.2.failure? settings).map (m.2.entry m.1)
  | [] => rfl
  | record :: records => by
    have ih := unmapped_members records
    unfold membersOf at ih ⊢
    rw [List.flatMap_cons, List.flatMap_cons, List.filterMap_append, ← ih, Record.unmapped, List.filterMap_map]
    simp only [Field.unmapped?_eq, Function.comp_def]

/-! ## The strict setting -/

def orFirstFailure {α} (fields : List Field) (a : α) : Except UnmappedType α :=
  match fields.findSome? (·.failure? settings) with
  | some e => .error e
  | none => .ok a

variable {settings}

theorem orFirstFailure_append {α β} (fields fields' : List Field) (a : α) (g : α → Except UnmappedType β) (b : β)
    (hg : g a = orFirstFailure settings fields' b) :
    (orFirstFailure settings fields a >>= g) = orFirstFailure settings (fields ++ fields') b := by
  unfold orFirstFailure at hg ⊢
  rw [List.findSome?_append]
  cases fields.findSome? (·.failure? settings) with
  | some e => rfl
  | none => exact hg

theorem orFirstFailure_bind_pure {α β} (fields : List Field) (a : α) (f : α → β) :
    (orFirstFailure settings fields a >>= fun a => pure (f a)) = orFirstFailure settings fields (f a) := by
  unfold orFirstFailure
  cases fields.findSome? (·.failure? settings) <;> rfl

theorem eq_of_orFirstFailure {α} {fields : List Field} {a b : α}
    (h : orFirstFailure settings fields a = .ok b) : b = a := by
  unfold orFirstFailure at h
  split at h
  · cases h
  · exact (Except.ok.inj h).symm

variable (hs : settings.strict = true)
include hs

theorem Field.declare_strict (owner : String) (ledger : List Unmapped) (field : Field) :
    field.declare settings owner ledger =
      orFirstFailure settings [field] (field.lines (field.typeText settings), ledger) := by
  unfold Field.declare Field.typeText orFirstFailure Field.failure?
  rw [List.findSome?_singleton]
  cases typeFor settings field.typeName with
  | ok type => rfl
  | error e => simp [hs]

theorem declareFields_strict (owner : String) (ledger : List Unmapped) : ∀ fields : List Field,
    declareFields settings owner ledger fields = orFirstFailure settings fields (membersText settings fields, ledger)
  | [] => rfl
  | field :: fields => by
    rw [declareFields, field.declare_strict hs]
    refine orFirstFailure_append [field] fields _ _ _ ?_
    dsimp only
    rw [declareFields_strict owner ledger fields]
    exact orFirstFailure_bind_pure ..

theorem Record.declare_strict (record : Record) (ledger : List Unmapped) :
    record.declare settings ledger = orFirstFailure settings record.fields (record.text settings, ledger) := by
  rw [Record.declare, declareFields_strict hs]
  exact orFirstFailure_bind_pure ..

theorem declareAll_strict (ledger : List Unmapped) : ∀ records : List Record,
    declareAll settings ledger records =
      orFirstFailure settings (records.flatMap (·.fields)) (records.map (·.text settings), ledger)
  | [] => rfl
  | record :: records => by
    rw [declareAll, record.declare_strict hs, List.flatMap_cons]
    refine orFirstFailure_append record.fields _ _ _ _ ?_
    dsimp only
    rw [declareAll_strict ledger records]
    exact orFirstFailure_bind_pure ..

theorem ofRecords_strict (records : List Record) : Code.ofRecords settings records =
    orFirstFailure settings (records.flatMap (·.fields)) ⟨joinBlocks (records.map (·.text settings)), []⟩ := by
  rw [Code.ofRecords, declareAll_strict hs]
  exact orFirstFailure_bind_pure ..

end

/-! ## Agreement -/

theorem findSome?_membersOf {α} (f : Field → Option α) : ∀ records : List Record,
    (records.flatMap (·.fields)).findSome? f = (membersOf records).findSome? fun m => f m.2
  | [] => rfl
  | record :: records => by
    have ih := findSome?_membersOf f records
    unfold membersOf at ih ⊢
    rw [List.flatMap_cons, List.flatMap_cons, List.findSome?_append, List.findSome?_append, ih, List.findSome?_map]
    rfl

theorem membersText_eq_join (settings : Settings) : ∀ fields : List Field,
    membersText settings fields = String.join (fields.map fun f => f.lines (f.typeText settings))
  | [] => rfl
  | field :: fields => by rw [membersText, membersText_eq_join settings fields, List.map_cons, String.join_cons]

theorem typeFor_setStrict (settings : Settings) (b : Bool) :
    typeFor { settings with strict := b } = typeFor settings := rfl

theorem membersText_setStrict (settings : Settings) (b : Bool) : ∀ fields : List Field,
    membersText { settings with strict := b } fields = membersText settings fields
  | [] => rfl
  | field :: fields => by
    simp only [membersText, Field.typeText, typeFor_setStrict, membersText_setStrict settings b fields]

theorem Record.text_setStrict (settings : Settings) (b : Bool) :
    Record.text { settings with strict := b } = Record.text settings := by
  funext record
  rw [Record.text, membersText_setStrict, Record.text]

theorem Field.failure?_setStrict (settings : Settings) (b : Bool) (field : Field) :
    field.failure? { settings with strict := b } = field.failure? settings := by
  rw [Field.failure?, typeFor_setStrict, Field.failure?]

/-- Without the strict setting the ledger has one entry for each field whose type has no rendering, in
the order of the fields, and just these fields have placeholders. Under it the first of them is
reported; if there is none, the code is the same and its ledger is empty. -/
theorem ofRecords_policies (settings : Settings) (records : List Record) :
    let members := membersOf records
    let lines (f : Field) : String :=
      let type := f.typeText settings
      commentText "    " f.description ++ "\n" ++ "    " ++ f.name ++ ": " ++
        (if "Optional.".toList.isPrefixOf f.description.toList then "?" ++ type ++ " = null" else type) ++ ",\n"
    let text := joinBlocks (records.map fun r =>
      commentText "" r.documentation ++ "\npub const " ++ r.typeName ++ " = struct \x7b\n" ++
        String.join (r.fields.map lines) ++ "\x7d;")
    Code.ofRecords { settings with strict := false } records = .ok ⟨text, members.filterMap fun m =>
      (m.2.failure? settings).map fun e => ⟨m.1.typeName, m.2.name, m.2.typeName, e.reason⟩⟩ ∧
    (∀ m ∈ members,
      match typeFor settings m.2.typeName with
      | .ok type => m.2.failure? settings = none ∧ m.2.typeText settings = type
      | .error e => m.2.failure? settings = some e ∧ m.2.typeText settings = placeholder e.reason ∧
        e.documented = m.2.typeName) ∧
    Code.ofRecords { settings with strict := true } records =
      match members.findSome? fun m => m.2.failure? settings with
      | some e => .error e
      | none => .ok ⟨text, []⟩ := by
  intro members lines text
  have ht : joinBlocks (records.map (·.text settings)) = text := by
    refine congrArg (fun f => joinBlocks (records.map f)) (funext fun r => ?_)
    rw [Record.text, membersText_eq_join]
    rfl
  refine ⟨?_, fun m _ => ?_, ?_⟩
  · rw [ofRecords_lenient rfl, unmapped_members, Record.text_setStrict, ht]
    simp only [Field.failure?_setStrict, members]
    rfl
  · unfold Field.failure? Field.typeText
    cases h : typeFor settings m.2.typeName with
    | ok type => exact ⟨rfl, rfl⟩
    | error e => exact ⟨rfl, rfl, documented_of_typeFor h⟩
  · rw [ofRecords_strict rfl, Record.text_setStrict, orFirstFailure, findSome?_membersOf, ht]
    simp only [Field.failure?_setStrict, members]

end ZigDecls
