import ZigDecls.Zig.Declaration

/-!
# Blocks, each by itself

The ledger is threaded through all records and fields, but nothing reads it. So a field, a record and
a list of records come to the same under every ledger, with their entries behind those that it holds
already, and two lists of records written one after the other come to what each of them comes to.
-/

namespace ZigDecls

def onLedger {α} (ledger : List Unmapped) : α × List Unmapped → α × List Unmapped := Prod.map id (ledger ++ ·)

section
variable (settings : Settings)

/-! ## Under another ledger -/

theorem Field.declare_onLedger (owner : String) (earlier ledger : List Unmapped) (field : Field) :
    field.declare settings owner (earlier ++ ledger) = onLedger earlier <$> field.declare settings owner ledger := by
  unfold Field.declare
  cases typeFor settings field.typeName with
  | ok type => rfl
  | error e =>
    cases settings.strict with
    | true => rfl
    | false =>
      simp only [Bool.false_eq_true, if_false, Functor.map, Except.map, onLedger, Prod.map, id_eq, List.append_assoc]

theorem declareFields_onLedger (owner : String) (earlier : List Unmapped) :
    ∀ (fields : List Field) (ledger : List Unmapped), declareFields settings owner (earlier ++ ledger) fields =
      onLedger earlier <$> declareFields settings owner ledger fields
  | [], _ => rfl
  | field :: fields, ledger => by
    rw [declareFields, declareFields, field.declare_onLedger]
    cases field.declare settings owner ledger with
    | error e => rfl
    | ok p =>
      have ih := declareFields_onLedger owner earlier fields p.2
      simp only [bind, Except.bind, Functor.map, Except.map, onLedger, Prod.map] at ih ⊢
      rw [ih]
      cases declareFields settings owner p.2 fields <;> rfl

theorem Record.declare_onLedger (earlier ledger : List Unmapped) (record : Record) :
    record.declare settings (earlier ++ ledger) = onLedger earlier <$> record.declare settings ledger := by
  rw [Record.declare, Record.declare, declareFields_onLedger]
  cases declareFields settings record.typeName ledger record.fields <;> rfl

theorem declareAll_onLedger (earlier : List Unmapped) : ∀ (records : List Record) (ledger : List Unmapped),
    declareAll settings (earlier ++ ledger) records = onLedger earlier <$> declareAll settings ledger records
  | [], _ => rfl
  | record :: records, ledger => by
    rw [declareAll, declareAll, record.declare_onLedger]
    cases record.declare settings ledger with
    | error e => rfl
    | ok p =>
      have ih := declareAll_onLedger earlier records p.2
      simp only [bind, Except.bind, Functor.map, Except.map, onLedger, Prod.map] at ih ⊢
      rw [ih]
      cases declareAll settings p.2 records <;> rfl

/-! ## Two lists of records -/

theorem declareAll_append (later : List Record) : ∀ (records : List Record) (ledger : List Unmapped),
    declareAll settings ledger (records ++ later) = do
      let (blocks, ledger) ← declareAll settings ledger records
      let (blocks', ledger) ← declareAll settings ledger later
      return (blocks ++ blocks', ledger)
  | [], ledger => by
    cases h : declareAll settings ledger later <;> simp [declareAll, bind, Except.bind, h, pure, Except.pure]
  | record :: records, ledger => by
    rw [List.cons_append, declareAll, declareAll]
    cases record.declare settings ledger with
    | error e => rfl
    | ok p =>
      have ih := declareAll_append later records p.2
      simp only [bind, Except.bind, pure, Except.pure] at ih ⊢
      rw [ih]
      cases declareAll settings p.2 records with
      | error e => rfl
      | ok q =>
        dsimp only
        cases declareAll settings q.2 later <;> rfl

theorem declareAll_length : ∀ {records : List Record} {ledger : List Unmapped} {p : List String × List Unmapped},
    declareAll settings ledger records = .ok p → p.1.length = records.length
  | [], _, _, h => by cases h; rfl
  | record :: records, ledger, p, h => by
    rw [declareAll] at h
    cases hr : record.declare settings ledger with
    | error e => rw [hr] at h; cases h
    | ok q =>
      cases hrs : declareAll settings q.2 records with
      | error e => simp only [hr, hrs, bind, Except.bind] at h; cases h
      | ok q' =>
        simp only [hr, hrs, bind, Except.bind] at h
        cases h
        exact congrArg (· + 1) (declareAll_length hrs)

theorem declareAll_blocks_eq_nil_iff {records : List Record} {ledger : List Unmapped}
    {p : List String × List Unmapped} (h : declareAll settings ledger records = .ok p) : p.1 = [] ↔ records = [] := by
  rw [← List.length_eq_zero_iff, declareAll_length settings h, List.length_eq_zero_iff]

theorem joinBlocks_append (a b : List String) : joinBlocks (a ++ b) =
    if a = [] then joinBlocks b else if b = [] then joinBlocks a else joinBlocks a ++ "\n" ++ joinBlocks b := by
  by_cases ha : a = []
  · rw [ha, if_pos rfl, List.nil_append]
  by_cases hb : b = []
  · rw [hb, if_neg ha, if_pos rfl, List.append_nil]
  · rw [if_neg ha, if_neg hb, ← String.toList_inj]
    simp [joinBlocks, ha, hb, String.intercalate_append_of_ne_nil ha hb, String.toList_append]

/-- Two lists of records have code together exactly if each has, and then it is the code of the one, an
empty line, and the code of the other, with the two ledgers one behind the other. A record is written
alike under every ledger, and only adds to it. -/
theorem ofRecords_append :
    (∀ (a b : List Record) (code : Code), Code.ofRecords settings (a ++ b) = .ok code ↔
      ∃ codeA codeB, Code.ofRecords settings a = .ok codeA ∧ Code.ofRecords settings b = .ok codeB ∧
        code.text = (if a = [] then codeB.text else if b = [] then codeA.text else
          codeA.text ++ "\n" ++ codeB.text) ∧
        code.unmapped = codeA.unmapped ++ codeB.unmapped) ∧
    ∀ (record : Record) (ledger : List Unmapped), record.declare settings ledger =
      (fun p => (p.1, ledger ++ p.2)) <$> record.declare settings [] := by
  refine ⟨fun a b code => ?_, fun record ledger => ?_⟩
  · unfold Code.ofRecords
    rw [declareAll_append]
    cases ha : declareAll settings [] a with
    | error e => simp [bind, Except.bind]
    | ok p =>
      -- The second list is written under the ledger of the first.
      have hb := declareAll_onLedger settings p.2 b []
      rw [List.append_nil] at hb
      simp only [bind, Except.bind, hb]
      cases hb' : declareAll settings [] b with
      | error e => simp [Functor.map, Except.map]
      | ok q =>
        simp only [Functor.map, Except.map, onLedger, Prod.map, id_eq, pure, Except.pure, joinBlocks_append,
          declareAll_blocks_eq_nil_iff settings ha, declareAll_blocks_eq_nil_iff settings hb', Except.ok.injEq]
        constructor
        · rintro rfl
          exact ⟨_, _, rfl, rfl, rfl, rfl⟩
        · rintro ⟨_, _, rfl, rfl, ht, hu⟩
          cases code
          exact congr (congrArg Code.mk ht.symm) hu.symm
  · have h := record.declare_onLedger settings ledger []
    rwa [List.append_nil] at h

end

end ZigDecls
