import Mathlib.Data.List.Pairwise
import MappedSql.Proofs.Database.Register
import MappedSql.Proofs.Execution.Reused
import MappedSql.Proofs.Session.Lockstep

namespace MappedSql

variable {pipeline : Pipeline Recording} {admits : Handler → Prop}

instance : Std.Symm Handler.Agrees where
  symm := by
    intro handler other agrees same
    obtain ⟨positions, keys, callable⟩ := agrees same.symm
    exact ⟨positions.symm, keys.symm, callable.symm⟩

namespace Visit

def Move.invocation? (pipeline : Pipeline Recording) : Move → Option Handler
  | calls parameter call => do
      let statement ← (pipeline.configuration.statement (← call.statement?)).toOption
      let bound ← (statement.boundSql parameter pipeline.setting).toOption
      return ⟨statement, bound, .unbounded⟩
  | _ => none

def invocations (pipeline : Pipeline Recording) (moves : List Move) : List Handler :=
  moves.filterMap (Move.invocation? pipeline)

def Invoked (pipeline : Pipeline Recording) (moves : List Move) (handler : Handler) : Prop :=
  { handler with bounds := .unbounded } ∈ invocations pipeline moves

theorem steady_invoked {moves : List Move}
    (agree : (invocations pipeline moves).Pairwise Handler.Agrees) :
    Steady (Invoked pipeline moves) := by
  intro handler other invoked invoked'
  have all := List.Pairwise.forall_of_forall (fun _ _ _ => ⟨rfl, rfl, rfl⟩) agree
  have agrees : Handler.Agrees { handler with bounds := .unbounded }
      { other with bounds := .unbounded } := all invoked invoked'
  exact agrees

theorem asked_of_mem {moves : List Move} {move : Move} (mem : move ∈ moves) :
    move.Asked pipeline (Invoked pipeline moves) := by
  cases move with
  | calls parameter call =>
      intro name named statement found bound bounds built
      refine List.mem_filterMap.2 ⟨_, mem, ?_⟩
      simp [Move.invocation?, named, found, built, Except.toOption]
  | next place => trivial
  | closes place => trivial
  | drops place => trivial

theorem twins_opened (admits : Handler → Prop) (source : Recording) (shared : SharedCaches)
    (autocommit : Bool) (timeout : Option Nat) {drains drains' : Drains}
    (orders : drains = drains' ∨ shared.Perpetual) :
    Twins (Kin.reuse pipeline admits) [] [] (opened source shared .reuse autocommit timeout drains)
      (opened source shared .simple autocommit timeout drains') := by
  have abreast : Abreast pipeline admits [] [] { autocommit := autocommit, timeout := timeout } source
      source := .refl source _
  exact ⟨fun parameter => ⟨⟨.opened orders, fun _ => rfl, rfl, [], rfl, abreast⟩, rfl, rfl⟩, .nil⟩

theorem replies_of_twins {kin : Kin} (lockstep : Lockstep pipeline True admits kin)
    (plain : pipeline.Plain) (recorded : pipeline.source = Recording.source) {moves : List Move}
    (asked : ∀ move ∈ moves, move.Asked pipeline admits) {apart : List StatementId}
    {due : List (Value × Nat)} {s t : Visit Recording} (twins : Twins kin apart due s t) :
    s.replies pipeline moves = t.replies pipeline moves ∧
      ∃ apart' due', Twins kin apart' due' (s.after pipeline moves) (t.after pipeline moves) := by
  induction moves generalizing apart due s t with
  | nil => exact ⟨rfl, apart, due, twins⟩
  | cons move rest ih =>
      rw [List.forall_mem_cons] at asked
      obtain ⟨⟨apart', due', after, -, -⟩, same, -⟩ :=
        matched_step lockstep plain recorded twins move asked.1 (.inl trivial) (.inl trivial)
      obtain ⟨replies, ends⟩ := ih asked.2 after
      refine ⟨?_, ends⟩
      unfold Visit.replies
      rw [same trivial, replies]

/-- A reusing session answers as a simple one, leaves the same parameters and executes the same, if
invocations of the same SQL agree. What the two publish reaches the shared caches in the same orders,
or in any two where the caches are perpetual. -/
theorem replies_reuse (plain : pipeline.Plain) (recorded : pipeline.source = Recording.source)
    (source : Recording) (shared : SharedCaches) (autocommit : Bool) (timeout : Option Nat)
    (drains drains' : Drains) (orders : drains = drains' ∨ shared.Perpetual) (moves : List Move)
    (agree : (invocations pipeline moves).Pairwise Handler.Agrees) :
    (opened source shared .reuse autocommit timeout drains).replies pipeline moves =
        (opened source shared .simple autocommit timeout drains').replies pipeline moves ∧
      ((opened source shared .reuse autocommit timeout drains).after pipeline moves).source.log =
        ((opened source shared .simple autocommit timeout drains').after pipeline moves).source.log := by
  have steady := steady_invoked agree
  obtain ⟨replies, apart, due, twins⟩ := replies_of_twins (lockstep_reuse plain recorded steady) plain
    recorded (fun move mem => asked_of_mem mem) (twins_opened _ source shared autocommit timeout orders)
  obtain ⟨held, -, abreast⟩ := (twins.scene .null).1.kin
  exact ⟨replies, abreast.even.log⟩

def inserting (id : String) (kind : StatementKind) (direction : Direction) (keys : KeyGenerator) :
    MappedStatement :=
  let mapping : ParameterMapping :=
    { property := "v"
      type := .text
      dbType := some .varchar
      dbTypeName := none
      direction := direction
      numericScale := none
      resultMap := none
      handler := .builtin .text }
  { Register.statementOf id .insert (.static ⟨"insert ?", [mapping]⟩) none with
    kind := kind
    keys := keys }

def keyed (id : String) : MappedStatement :=
  inserting id .prepared .input { property := some "id" }

def insert (id v : String) : Move :=
  .calls (.map [("v", .text v)]) (.update id)

def beginning (kind : ExecutorKind) : Visit Recording :=
  opened {} [] kind false none .asStaged

def agreeing : List Move :=
  [insert "a" "x", insert "b" "y", .calls .null (.cursor "q" .unbounded), .next 0,
    .calls .null (.rollback true), .calls .null (.list "q" .unbounded), insert "a" "z"]

def agreeingPipeline : Pipeline Recording :=
  .over Recording.source
    [keyed "a", keyed "b", Register.statementOf "q" .select (.static ⟨"select n", []⟩) none]

theorem replies_reuse_agreeing :
    (invocations agreeingPipeline agreeing).Pairwise Handler.Agrees ∧
      ((beginning .reuse).replies agreeingPipeline agreeing =
          (beginning .simple).replies agreeingPipeline agreeing ∧
        ((beginning .reuse).after agreeingPipeline agreeing).source.log =
          ((beginning .simple).after agreeingPipeline agreeing).source.log) ∧
      ((beginning .reuse).after agreeingPipeline agreeing).source.log.length = 5 ∧
      ((beginning .reuse).after agreeingPipeline agreeing).source.counters.prepared = 4 := by
  have agree : (invocations agreeingPipeline agreeing).Pairwise Handler.Agrees := by decide +kernel
  have plain : agreeingPipeline.Plain := ⟨rfl, rfl⟩
  have same := replies_reuse plain rfl {} [] false none .asStaged .asStaged (.inl rfl) agreeing agree
  exact ⟨agree, same, by decide +kernel, by decide +kernel⟩

def both : List Move :=
  [insert "a" "x", insert "b" "y"]

def Differs (first second : MappedStatement) : Prop :=
  let pipeline := Pipeline.over Recording.source [first, second]
  ¬((beginning .reuse).replies pipeline both = (beginning .simple).replies pipeline both ∧
    ((beginning .reuse).after pipeline both).source.log =
      ((beginning .simple).after pipeline both).source.log)

def told : (Σ move : Move, move.Reply) → Option (Bool × String)
  | ⟨.calls _ _, reply⟩ => some (reply.1.isOk, reply.2.toJson.compact)
  | _ => none

def sent (log : List Execution) : List (List (Option String)) :=
  log.map fun execution => execution.parameters.map Value.text?

theorem differs_of_told {first second : MappedStatement}
    (apart : ((beginning .reuse).replies (.over Recording.source [first, second]) both).map told ≠
      ((beginning .simple).replies (.over Recording.source [first, second]) both).map told) :
    Differs first second :=
  fun same => apart (congrArg (List.map told) same.1)

theorem differs_of_sent {first second : MappedStatement}
    (apart : sent ((beginning .reuse).after (.over Recording.source [first, second]) both).source.log ≠
      sent ((beginning .simple).after (.over Recording.source [first, second]) both).source.log) :
    Differs first second :=
  fun same => apart (congrArg sent same.2)

def commit : Move :=
  .calls .null (.commit false)

def crowding : List Move :=
  [.calls .null (.list "q" .unbounded), .calls .null (.list "r" .unbounded), commit,
    .calls .null (.list "q" .unbounded)]

def crowdedPipeline : Pipeline Recording :=
  .over Recording.source [Register.reading, Register.plainly "r" .select "select m"]

def crowded (kind : ExecutorKind) (drains : Drains) : Visit Recording :=
  opened {} [("c", .boundedBy 1 .empty)] kind false none drains

def backwards : Drains :=
  fun _ => ⟨fun _ entries => entries.reverse, fun _ entries => entries.reverse_perm⟩

/-- A statement that was prepared without keys generates none; one that was not prepared as callable
has no outputs; where nothing is placed, the value of an earlier insert is sent again; and where there
is no room for all that is published, the order decides what is found later. -/
theorem exists_differs :
    Differs (inserting "a" .prepared .input {}) (keyed "b") ∧
      Differs (inserting "a" .prepared .input {}) (inserting "b" .callable .inOut {}) ∧
      Differs (inserting "a" .prepared .input {}) (inserting "b" .plain .input {}) ∧
      (invocations crowdedPipeline crowding).Pairwise Handler.Agrees ∧
      ((crowded .reuse .asStaged).after crowdedPipeline crowding).source.log.length = 3 ∧
      ((crowded .simple backwards).after crowdedPipeline crowding).source.log.length = 2 :=
  ⟨differs_of_told (by decide +kernel), differs_of_told (by decide +kernel),
    differs_of_sent (by decide +kernel), by decide +kernel, by decide +kernel, by decide +kernel⟩

end Visit

end MappedSql
