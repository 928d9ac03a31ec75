import Mathlib.Data.List.Nodup
import MappedSql.Proofs.Storage.Transacting
import MappedSql.Storage.Effect
import MappedSql.Storage.Source

namespace MappedSql.Storage

def Distinct (tables : List Table) : Prop :=
  ((tables.map Table.name).map Text.lowered).Nodup

theorem Table.isNamed_iff {table : Table} {name : String} :
    table.isNamed name = true ↔ Text.lowered table.name = Text.lowered name :=
  beq_iff_eq

theorem Distinct.eq {tables : List Table} {table other : Table} (distinct : Distinct tables)
    (mem : table ∈ tables) (mem' : other ∈ tables) (named : other.isNamed table.name = true) :
    other = table := by
  rw [Distinct, List.map_map] at distinct
  exact List.inj_on_of_nodup_map distinct mem' mem (Table.isNamed_iff.1 named)

namespace Sql

variable {tables : List Table} {table after : Table} {name : String}

theorem mem_of_tableNamed? (found : tableNamed? tables name = some table) : table ∈ tables :=
  List.mem_of_find?_eq_some found

theorem replaceTable_names (distinct : Distinct tables) (mem : table ∈ tables)
    (same : after.name = table.name) :
    (replaceTable tables after).map Table.name = tables.map Table.name := by
  rw [replaceTable, List.map_map]
  refine List.map_congr_left fun other mem' => ?_
  dsimp only [Function.comp]
  split
  · next named =>
      rw [distinct.eq mem mem' (same ▸ named), same]
  · rfl

theorem replaceTable_self (distinct : Distinct tables) (mem : table ∈ tables) :
    replaceTable tables table = tables := by
  rw [replaceTable]
  refine (List.map_congr_left fun other mem' => ?_).trans (List.map_id tables)
  split
  · next named => exact (distinct.eq mem mem' named).symm
  · rfl

theorem distinct_replaceTable (distinct : Distinct tables) (mem : table ∈ tables)
    (same : after.name = table.name) : Distinct (replaceTable tables after) := by
  rw [Distinct, replaceTable_names distinct mem same]
  exact distinct

end Sql

namespace Table

variable {table after : Table}

theorem name_of_insert? {given : List (String × StoredValue)}
    (inserted : table.insert? given = some after) : after.name = table.name := by
  obtain ⟨cells, -, made⟩ := Option.bind_eq_some_iff.1 inserted
  cases made
  rfl

variable {name : String} {value : StoredValue} {chosen : Nat × List StoredValue → Bool}

theorem name_of_update? (updated : table.update? name value chosen = some after) :
    after.name = table.name := by
  obtain ⟨rows, -, made⟩ := Option.bind_eq_some_iff.1 updated
  cases made
  rfl

theorem mapM_eq_self {α : Type} {items : List α} {f : α → Option α}
    (same : ∀ item ∈ items, f item = some item) : items.mapM f = some items := by
  induction items with
  | nil => rfl
  | cons item rest ih =>
      rw [List.mapM_cons, same item (by simp), ih fun other mem => same other (by simp [mem])]
      rfl

theorem eq_of_update? (updated : table.update? name value chosen = some after)
    (none : table.rows.countP chosen = 0) : after = table := by
  obtain ⟨rows, changed, made⟩ := Option.bind_eq_some_iff.1 updated
  rw [mapM_eq_self] at changed
  · cases changed
    cases made
    rfl
  · intro row mem
    exact if_neg (List.countP_eq_zero.1 none row mem)

theorem delete_eq_self (none : table.rows.countP chosen = 0) : table.delete chosen = table := by
  rw [delete, List.filter_eq_self.2]
  intro row mem
  simpa using List.countP_eq_zero.1 none row mem

end Table

namespace Sql.Statement

variable {statement : Statement} {parameters : List StoredValue} {tables : List Table}
  {effect : Effect}

theorem effect_cases (defines : statement.isDefinition = false)
    (made : statement.effect? parameters tables = some effect) :
    effect.tables = tables ∨
      ∃ table after, table ∈ tables ∧ after.name = table.name ∧ statement.isQuery = false ∧
        effect.tables = replaceTable tables after ∧
        (effect.changed.any (0 < ·) = false → after = table) := by
  cases statement with
  | empty => cases made
  | values items =>
      cases made
      exact .inl rfl
  | createTable name columns => cases defines
  | dropTable name => cases defines
  | insert name columns operands =>
      obtain ⟨table, found, rest⟩ := Option.bind_eq_some_iff.1 made
      obtain ⟨after, inserted, made⟩ := Option.bind_eq_some_iff.1 rest
      cases made
      exact .inr ⟨table, after, mem_of_tableNamed? found, Table.name_of_insert? inserted, rfl, rfl,
        fun no => by cases no⟩
  | select selection name conditions order =>
      obtain ⟨table, found, made⟩ := Option.bind_eq_some_iff.1 made
      cases made
      exact .inl rfl
  | update name column operand conditions =>
      obtain ⟨table, found, rest⟩ := Option.bind_eq_some_iff.1 made
      obtain ⟨after, updated, made⟩ := Option.bind_eq_some_iff.1 rest
      cases made
      refine .inr ⟨table, after, mem_of_tableNamed? found, Table.name_of_update? updated, rfl, rfl,
        fun unchanged => Table.eq_of_update? updated ?_⟩
      simpa using unchanged
  | delete name conditions =>
      obtain ⟨table, found, made⟩ := Option.bind_eq_some_iff.1 made
      cases made
      refine .inr ⟨table, table.delete _, mem_of_tableNamed? found, rfl, rfl, rfl,
        fun unchanged => Table.delete_eq_self ?_⟩
      simpa using unchanged

theorem distinct_effect (distinct : Distinct tables) (fits : statement.fits tables = true)
    (made : statement.effect? parameters tables = some effect) : Distinct effect.tables := by
  cases defines : statement.isDefinition with
  | false =>
      obtain same | ⟨table, after, mem, named, -, same, -⟩ := effect_cases defines made
      · exact same ▸ distinct
      · exact same ▸ distinct_replaceTable distinct mem named
  | true =>
      cases statement with
      | createTable name columns =>
          cases made
          have new : Text.lowered name ∉ (tables.map Table.name).map Text.lowered := by
            rw [List.map_map, List.mem_map]
            rintro ⟨table, mem, same⟩
            have absent := List.find?_eq_none.1 (Option.isNone_iff_eq_none.1 fits) table mem
            exact absent (Table.isNamed_iff.2 same)
          rw [Distinct, List.map_append, List.map_append, List.nodup_append_comm]
          exact List.nodup_cons.2 ⟨new, distinct⟩
      | dropTable name =>
          cases made
          exact distinct.sublist ((List.filter_sublist.map _).map _)
      | _ => cases defines

theorem tables_effect (distinct : Distinct tables) (defines : statement.isDefinition = false)
    (unchanged : effect.changed.any (0 < ·) = false)
    (made : statement.effect? parameters tables = some effect) : effect.tables = tables := by
  obtain same | ⟨table, after, mem, -, -, same, kept⟩ := effect_cases defines made
  · exact same
  · rw [same, kept unchanged, replaceTable_self distinct mem]

theorem tables_effect_of_isQuery (query : statement.isQuery = true)
    (made : statement.effect? parameters tables = some effect) : effect.tables = tables := by
  have defines : statement.isDefinition = false := by
    cases statement <;> first | rfl | cases query
  obtain same | ⟨table, after, -, -, changes, -, -⟩ := effect_cases defines made
  · exact same
  · cases changes.symm.trans query

end Sql.Statement

namespace Access

variable {access after : Access}

/-- A client outside a transaction sees what is committed. One that has changed nothing does too, and
what it holds ready it has read. -/
structure Valid (access : Access) : Prop where
  idle : access.client.inTransaction = false → access.client.view = none
  unchanged : access.client.changed = false → access.view.tables = access.database.committed.tables
  distinct : Distinct access.view.tables
  final : Distinct access.database.committed.tables
  ready : ∀ entry ∈ access.client.prepared, ∃ sql, Text.trimmed sql = entry.1 ∧
    Sql.readSingle? sql = some (entry.2.statement, entry.2.parameterCount)

def contents : Contents Access (List Table) where
  Valid := Valid
  committed access := access.database.committed.tables
  working access := access.view.tables
  Effect task before after := ∃ sql statement count effect,
    Text.trimmed sql = Text.trimmed task.1 ∧ Sql.readSingle? sql = some (statement, count) ∧
      statement.fits before = true ∧
      statement.effect? (task.2.map StoredValue.kept) before = some effect ∧ effect.tables = after

structure Turns (tables : List Table) (before after : Access) : Prop where
  valid : after.Valid
  committed : after.database.committed = before.database.committed
  view : after.view.tables = tables
  inTransaction : after.client.inTransaction = before.client.inTransaction

abbrev Unmoved (before after : Access) : Prop :=
  Turns before.view.tables before after

theorem Unmoved.refl (valid : access.Valid) : Unmoved access access :=
  ⟨valid, rfl, rfl, rfl⟩

theorem Turns.after_unmoved {middle : Access} {tables : List Table} (first : Unmoved access middle)
    (second : Turns tables middle after) : Turns tables access after :=
  ⟨second.valid, second.committed.trans first.committed, second.view,
    second.inTransaction.trans first.inTransaction⟩

theorem Unmoved.trans {middle : Access} (first : Unmoved access middle)
    (second : Unmoved middle after) : Unmoved access after :=
  .after_unmoved first (first.view ▸ second)

theorem Unmoved.same (unmoved : Unmoved access after) : contents.Same access after :=
  ⟨unmoved.valid, congrArg View.tables unmoved.committed, unmoved.view⟩

def noted (statement : Sql.Statement) (access : Access) : Access :=
  (noteNoChange statement access).2

theorem unmoved_noted (valid : access.Valid) (statement : Sql.Statement) :
    Unmoved access (access.noted statement) := by
  change Unmoved access (access.setClient _)
  dsimp only [setClient]
  split
  all_goals
    exact ⟨⟨valid.idle, valid.unchanged, valid.distinct, valid.final, valid.ready⟩, rfl, rfl, rfl⟩

theorem view_look (toWrite : Bool) (access : Access) : (access.look toWrite).view = access.view :=
  rfl

theorem unmoved_look (valid : access.Valid) (inside : access.client.inTransaction = true)
    (toWrite : Bool) : Unmoved access (access.look toWrite) :=
  ⟨⟨fun outside => (by cases inside.symm.trans outside), valid.unchanged, valid.distinct,
    valid.final, valid.ready⟩, rfl, rfl, rfl⟩

theorem unmoved_known (valid : access.Valid) (tables : Option (List Table)) :
    Unmoved access (access.setClient ({ · with known := tables })) :=
  ⟨⟨valid.idle, valid.unchanged, valid.distinct, valid.final, valid.ready⟩, rfl, rfl, rfl⟩

theorem unmoved_ready (valid : access.Valid) {sql : String} {statement : Sql.Statement} {count : Nat}
    (reads : Sql.readSingle? sql = some (statement, count)) (columns : Columns) :
    Unmoved access (access.setClient fun client =>
      { client with
        prepared := (Text.trimmed sql, ⟨statement, columns, count⟩) :: client.prepared }) := by
  refine ⟨⟨valid.idle, valid.unchanged, valid.distinct, valid.final, fun entry mem => ?_⟩, rfl, rfl, rfl⟩
  obtain rfl | mem := List.mem_cons.1 mem
  · exact ⟨sql, rfl, reads⟩
  · exact valid.ready entry mem

def Unmoving {α : Type} (act : Action Access α) : Prop :=
  ∀ access, access.Valid → Unmoved access (act access).2

theorem Unmoving.bind {α β : Type} {act : Action Access α} {next : α → Action Access β}
    (first : Unmoving act) (second : ∀ a, Unmoving (next a)) : Unmoving (act >>= next) := by
  intro access valid
  have moved := first access valid
  rw [Action.bind_apply]
  rcases ran : act access with ⟨e | a, middle⟩ <;> rw [ran] at moved
  · exact moved
  · exact moved.trans (second a middle moved.valid)

theorem unmoving_fail {α : Type} : Unmoving (fail : Action Access α) :=
  fun _ valid => .refl valid

theorem unmoving_pure {α : Type} (a : α) : Unmoving (pure a : Action Access α) :=
  fun _ valid => .refl valid

theorem unmoving_prepare (sql : String) : Unmoving (prepare sql) := by
  refine .bind (fun _ valid => .refl valid) fun access => ?_
  split
  · exact unmoving_pure _
  · split
    · next statement count reads =>
        have added : Unmoving (do
            modify (setClient fun client =>
              { client with
                prepared := (Text.trimmed sql,
                  ⟨statement, statement.headings (access.tablesFor statement), count⟩) ::
                    client.prepared })
            return statement.headings (access.tablesFor statement)) :=
          .bind (fun _ valid => unmoved_ready valid reads _) fun _ => unmoving_pure _
        have checked : Unmoving (do
            if !statement.fits (access.tablesFor statement) then fail
            let columns := statement.headings (access.tablesFor statement)
            modify (setClient fun client =>
              { client with
                prepared := (Text.trimmed sql, ⟨statement, columns, count⟩) :: client.prepared })
            return columns) := by
          dsimp only
          split
          · exact .bind unmoving_fail fun _ => added
          · exact added
        dsimp only
        split
        · exact .bind (fun _ valid => unmoved_known valid _) fun _ => checked
        · exact checked
    · exact unmoving_fail

theorem unmoving_bind (sql : String) (parameters : List StoredValue) :
    Unmoving (bind sql parameters) := by
  refine .bind (fun _ valid => .refl valid) fun access => ?_
  split
  · dsimp only
    split
    · exact .bind unmoving_fail fun _ => unmoving_pure _
    · exact unmoving_pure _
  · exact unmoving_fail

theorem bind_eq_ok (valid : access.Valid) {sql : String} {parameters : List StoredValue}
    {prepared : Prepared} (bound : bind sql parameters access = (.ok prepared, after)) :
    after = access ∧ ∃ text, Text.trimmed text = Text.trimmed sql ∧
      Sql.readSingle? text = some (prepared.statement, prepared.parameterCount) := by
  obtain ⟨access', middle, got, rest⟩ := Action.bind_eq_ok.1 bound
  cases got
  cases found : access.prepared? sql with
  | none =>
      rw [found] at rest
      cases rest
  | some ready =>
      simp only [found] at rest
      have mem : (Text.trimmed sql, ready) ∈ access.client.prepared := by
        obtain ⟨before, later, same, -⟩ := List.lookup_eq_some_iff.1 found
        simp [same]
      split at rest
      · cases rest
      · cases rest
        exact ⟨rfl, valid.ready _ mem⟩

variable {statement : Sql.Statement} {parameters : List StoredValue}

theorem perform_apply (statement : Sql.Statement) (parameters : List StoredValue) (access : Access) :
    perform statement parameters access =
      if statement.writes && !access.mayWrite then (.error (.of .storage), access.noted statement)
      else if !statement.fits access.view.tables then
        (.error (.of .storage), access.look statement.writes)
      else
        match statement.effect? parameters access.view.tables with
        | none => (.error (.of .storage), (access.look statement.writes).noted statement)
        | some effect => (.ok effect.rows, (access.look statement.writes).apply statement effect) := by
  rw [perform, Action.bind_apply, Action.get_apply]
  dsimp only
  split
  · rfl
  · rw [Action.bind_apply, Action.modify_apply]
    dsimp only
    rw [Action.bind_apply, Action.get_apply]
    dsimp only
    rw [view_look]
    cases statement.fits access.view.tables
    · rfl
    · cases statement.effect? parameters access.view.tables <;> rfl

structure Makes (statement : Sql.Statement) (parameters : List StoredValue)
    (before after : Access) (effect : Sql.Effect) : Prop where
  fits : statement.fits before.view.tables = true
  made : statement.effect? parameters before.view.tables = some effect
  turns : Turns effect.tables before after

theorem turns_apply (valid : access.Valid) (inside : access.client.inTransaction = true)
    (fits : statement.fits access.view.tables = true) {effect : Sql.Effect}
    (made : statement.effect? parameters access.view.tables = some effect) :
    Turns effect.tables access ((access.look statement.writes).apply statement effect) := by
  refine ⟨⟨fun outside => ?_, fun unchanged => ?_, ?_, valid.final, valid.ready⟩, rfl, rfl, rfl⟩
  · cases inside.symm.trans outside
  · obtain ⟨earlier, rows⟩ := Bool.or_eq_false_iff.1 unchanged
    obtain ⟨earlier, defines⟩ := Bool.or_eq_false_iff.1 earlier
    exact (Sql.Statement.tables_effect valid.distinct defines rows made).trans
      (valid.unchanged earlier)
  · exact Sql.Statement.distinct_effect valid.distinct fits made

theorem perform_cases (valid : access.Valid) (inside : access.client.inTransaction = true)
    {result : Except Error (List (List StoredValue))}
    (ran : perform statement parameters access = (result, after)) :
    (∃ e, result = .error e ∧ Unmoved access after) ∨
      ∃ effect, result = .ok effect.rows ∧ Makes statement parameters access after effect := by
  rw [perform_apply] at ran
  have seen := unmoved_look valid inside statement.writes
  split at ran
  · cases ran
    exact .inl ⟨_, rfl, unmoved_noted valid statement⟩
  · split at ran
    · cases ran
      exact .inl ⟨_, rfl, seen⟩
    · next fits =>
        split at ran
        · cases ran
          exact .inl ⟨_, rfl, seen.trans (unmoved_noted seen.valid statement)⟩
        · next effect made =>
            cases ran
            have fits' : statement.fits access.view.tables = true := by simpa using fits
            exact .inr ⟨effect, rfl, fits', made, turns_apply valid inside fits' made⟩

theorem run_cases (valid : access.Valid) (inside : access.client.inTransaction = true)
    {result : Except Error (List (List StoredValue))}
    (ran : run statement parameters access = (result, after)) :
    (∃ e, result = .error e ∧ Unmoved access after) ∨
      ∃ effect, result = .ok effect.rows ∧ Makes statement parameters access after effect := by
  cases uses : statement.usesTables with
  | false =>
      cases statement with
      | empty =>
          cases ran
          exact .inl ⟨_, rfl, .refl valid⟩
      | values items =>
          cases ran
          exact .inr ⟨{ tables := access.view.tables, rows := _ }, rfl, rfl, rfl,
            Unmoved.refl valid⟩
      | _ => cases uses
  | true =>
      rcases performed : perform statement parameters access with ⟨result', middle⟩
      have cases' := perform_cases valid inside performed
      have still : middle.client.inTransaction = true := by
        obtain ⟨e, -, unmoved⟩ | ⟨effect, -, makes⟩ := cases'
        · exact unmoved.inTransaction.trans inside
        · exact makes.turns.inTransaction.trans inside
      have same : run statement parameters access = (result', middle) := by
        rw [run, uses]
        change ((perform statement parameters).attempt >>= _) access = _
        rw [Action.bind_apply, Action.attempt, performed]
        dsimp only
        rw [Action.bind_apply, Action.get_apply]
        dsimp only
        rw [still]
        rfl
      cases same.symm.trans ran
      exact cases'

theorem Unmoved.performs {α : Type} {result : Except Error α} (unmoved : Unmoved access after)
    (failed : result.isOk = false) (tasks : List Task) :
    contents.Advances engine (seenThrough result tasks) access after ∧
      (result.isOk = true → engine.inTransaction after = true) := by
  rw [seenThrough, failed]
  exact ⟨unmoved.same.advances, fun no => by cases no⟩

theorem Makes.performs {sql text : String} {count : Nat} {effect : Sql.Effect}
    (makes : Makes statement (parameters.map StoredValue.kept) access after effect)
    (same : Text.trimmed text = Text.trimmed sql)
    (reads : Sql.readSingle? text = some (statement, count))
    (inside : access.client.inTransaction = true) :
    contents.Advances engine [(sql, parameters)] access after ∧ engine.inTransaction after = true := by
  refine ⟨⟨makes.turns.valid, congrArg View.tables makes.turns.committed, fun _ => .single ?_⟩,
    makes.turns.inTransaction.trans inside⟩
  exact ⟨text, statement, count, effect, same, reads, makes.fits, makes.made, makes.turns.view.symm⟩

theorem query_performs (sql : String) (parameters : List StoredValue) :
    engine.Performs contents [(sql, parameters)] (query sql parameters) := by
  intro store after result valid inside ran
  obtain ⟨e, failed, rfl⟩ | ⟨prepared, middle, bound, rest⟩ := Action.bind_cases ran
  · have unmoved := unmoving_bind sql parameters store valid
    rw [failed] at unmoved
    exact unmoved.performs rfl _
  · obtain ⟨rfl, text, same, reads⟩ := bind_eq_ok valid bound
    obtain ⟨e, rfl, unmoved⟩ | ⟨effect, rfl, makes⟩ := run_cases valid inside rest
    · exact unmoved.performs rfl _
    · obtain ⟨advances, inside'⟩ := makes.performs same reads inside
      exact ⟨advances, fun _ => inside'⟩

theorem execute_performs (sql : String) (parameters : List StoredValue) :
    engine.Performs contents [(sql, parameters)] (execute sql parameters) := by
  intro store after result valid inside ran
  obtain ⟨e, failed, rfl⟩ | ⟨prepared, middle, bound, rest⟩ := Action.bind_cases ran
  · have unmoved := unmoving_bind sql parameters store valid
    rw [failed] at unmoved
    exact unmoved.performs rfl _
  · obtain ⟨rfl, text, same, reads⟩ := bind_eq_ok valid bound
    obtain ⟨e, failed, rfl⟩ | ⟨rows, last, went, counted⟩ := Action.bind_cases rest
    · obtain ⟨e', -, unmoved⟩ | ⟨effect, no, -⟩ := run_cases valid inside failed
      · exact unmoved.performs rfl _
      · cases no
    · obtain ⟨e', no, -⟩ | ⟨effect, -, makes⟩ := run_cases valid inside went
      · cases no
      · cases query : prepared.statement.isQuery with
        | true =>
            -- What only asks for rows is not executed; it has changed nothing.
            rw [query] at counted
            cases counted
            have turns := makes.turns
            rw [Sql.Statement.tables_effect_of_isQuery query makes.made] at turns
            exact Unmoved.performs turns rfl _
        | false =>
            rw [query] at counted
            cases counted
            obtain ⟨advances, inside'⟩ := makes.performs same reads inside
            exact ⟨advances, fun _ => inside'⟩

theorem view_of_idle (valid : access.Valid) (outside : access.client.inTransaction = false) :
    access.view = access.database.committed := by
  rw [view, valid.idle outside]
  rfl

theorem committed_keep (valid : access.Valid) :
    (keep access).database.committed.tables = access.view.tables := by
  cases changed : access.client.changed with
  | true => simp [keep, changed]
  | false =>
      rw [valid.unchanged changed, keep, changed]
      rfl

theorem valid_keep (valid : access.Valid) : (keep access).Valid := by
  have distinct : Distinct (keep access).database.committed.tables := by
    rw [committed_keep valid]
    exact valid.distinct
  exact ⟨fun _ => rfl, fun _ => rfl, distinct, distinct, valid.ready⟩

theorem valid_discard (valid : access.Valid) : (discard access).Valid := by
  refine ⟨fun _ => rfl, fun _ => rfl, valid.final, valid.final, ?_⟩
  dsimp only [discard]
  split <;> exact valid.ready

theorem engine_transacts : engine.Transacts contents where
  settled := fun valid outside => congrArg View.tables (view_of_idle valid outside)
  begins := by
    intro store after result valid outside ran
    cases ran
    have entered : (store.setClient ({ · with inTransaction := true })).Valid :=
      ⟨fun no => (by cases no), valid.unchanged, valid.distinct, valid.final, valid.ready⟩
    exact ⟨⟨entered, rfl, rfl⟩, fun _ => rfl⟩
  commits := by
    intro store after done valid inside ran
    cases ran
    exact ⟨valid_keep valid, rfl, committed_keep valid⟩
  failsToCommit := by
    intro store after e valid inside ran
    cases ran
  rollsBack := by
    intro store after result valid inside ran
    cases ran
    exact ⟨⟨valid_discard valid, rfl, fun no => by cases no⟩, fun _ => rfl⟩
  prepares := by
    intro sql store after result valid ran
    have unmoved : Unmoved store (engine.prepare sql store).2 := unmoving_prepare sql store valid
    rw [ran] at unmoved
    exact ⟨unmoved.same, unmoved.inTransaction⟩
  binds := by
    intro sql parameters store after result valid ran
    have unmoved : Unmoved store (engine.bind sql parameters store).2 :=
      (unmoving_bind sql parameters).bind (fun _ => unmoving_pure ()) store valid
    rw [ran] at unmoved
    exact ⟨unmoved.same, unmoved.inTransaction⟩
  executes := execute_performs
  queries := query_performs

end Access

end MappedSql.Storage
