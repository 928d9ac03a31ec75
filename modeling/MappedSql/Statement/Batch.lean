import MappedSql.Database.Basic
import MappedSql.Statement.Keys

namespace MappedSql

structure BatchResult where
  statementId : String
  sql : String
  parameters : List Value
  counts : List Nat := []

structure PendingBatch where
  statement : StatementId
  keys : KeyGenerator
  result : BatchResult

namespace PendingBatch

def addParameter (batch : PendingBatch) (parameter : Value) : PendingBatch :=
  { batch with
    result := { batch.result with parameters := batch.result.parameters ++ [parameter] } }

def assignKeys (generator : KeyGenerator) : List Value → List Value → Except Error (List Value)
  | parameter :: parameters, key :: keys => do
      let (assigned, result) := generator.assignKeys parameter [key]
      result
      return assigned :: (← assignKeys generator parameters keys)
  | parameters, _ => .ok parameters

variable {σ : Type} (source : DataSource σ)

def execute (batch : PendingBatch) : Action σ BatchResult := do
  let counts ← source.executeBatch batch.statement
  if batch.keys.isEnabled then
    let keys ← source.generatedKeys batch.statement
    let parameters ← assignKeys batch.keys batch.result.parameters keys
    return { batch.result with parameters := parameters, counts := counts }
  else return { batch.result with counts := counts }

def failureContext (number done : Nat) (id : String) : String :=
  s!"Error executing batch #{number} of statement `{id}` after {done} successful batches"

def discardAll : List PendingBatch → Action σ Unit
  | [] => return ()
  | batch :: rest => do
      (source.finishStatement batch.statement).quietly
      discardAll rest

/-- Runs batches in order and closes their statements. After a failure the others are given up. -/
def executeAll (done : Nat) : List PendingBatch → Action σ (List BatchResult)
  | [] => return []
  | batch :: rest => do
      let executed ← (execute source batch).attempt
      (source.finishStatement batch.statement).quietly
      match executed with
      | .ok result => return result :: (← executeAll (done + 1) rest)
      | .error e => do
          discardAll source rest
          throw (e.inContext (failureContext (done + 1) done batch.result.statementId))

end PendingBatch

end MappedSql
