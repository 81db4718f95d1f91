import ZigDecls.Zig.Inventory

/-!
# Writing without the strict setting

When the strict setting is off, writing never fails. The text of a field, of a record and of all
records is then a function of that alone, and the ledger grows by the entries of what was written.
-/

namespace ZigDecls

theorem documented_of_typeFor {settings : Settings} {documented : String} {e : UnmappedType}
    (h : typeFor settings documented = .error e) :
    e.documented = documented := by
  unfold typeFor at h
  split at h
  · cases h
  · cases h; rfl

section
variable (settings : Settings)

def membersText : List Field → String
  | [] => ""
  | field :: fields => field.lines (field.typeText settings) ++ membersText fields

def Record.text (record : Record) : String :=
  declaration record.typeName record.documentation (membersText settings record.fields)

end

section
variable {settings : Settings} (hs : settings.strict = false)
include hs

theorem Field.declare_lenient (owner : String) (ledger : List Unmapped) (field : Field) :
    field.declare settings owner ledger =
      .ok (field.lines (field.typeText settings), ledger ++ (field.unmapped? settings owner).toList) := by
  unfold Field.declare Field.typeText Field.unmapped?
  cases ht : typeFor settings field.typeName with
  | ok type => simp
  | error e =>
    simp [hs, documented_of_typeFor ht]

theorem declareFields_lenient (owner : String) : ∀ (fields : List Field) (ledger : List Unmapped),
    declareFields settings owner ledger fields =
      .ok (membersText settings fields, ledger ++ fields.filterMap (·.unmapped? settings owner))
  | [], ledger => by rw [List.filterMap_nil, List.append_nil]; rfl
  | field :: fields, ledger => by
    rw [declareFields, field.declare_lenient hs]
    simp only [bind, Except.bind]
    rw [declareFields_lenient owner fields]
    cases h : field.unmapped? settings owner <;> simp [membersText, h, pure, Except.pure]

theorem Record.declare_lenient (record : Record) (ledger : List Unmapped) :
    record.declare settings ledger = .ok (record.text settings, ledger ++ record.unmapped settings) := by
  rw [Record.declare, declareFields_lenient hs]; rfl

theorem declareAll_lenient : ∀ (records : List Record) (ledger : List Unmapped),
    declareAll settings ledger records =
      .ok (records.map (·.text settings), ledger ++ records.flatMap (·.unmapped settings))
  | [], ledger => by rw [List.flatMap_nil, List.append_nil]; rfl
  | record :: records, ledger => by
    rw [declareAll, record.declare_lenient hs]
    simp only [bind, Except.bind]
    rw [declareAll_lenient records]
    simp [pure, Except.pure]

theorem ofRecords_lenient (records : List Record) : Code.ofRecords settings records =
    .ok ⟨joinBlocks (records.map (·.text settings)), records.flatMap (·.unmapped settings)⟩ := by
  rw [Code.ofRecords, declareAll_lenient hs]; rfl

end

end ZigDecls
