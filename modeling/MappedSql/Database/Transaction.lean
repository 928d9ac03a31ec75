import MappedSql.Database.Basic

namespace MappedSql

structure Transaction where
  autocommit : Bool
  timeout : Option Nat := none
  connection : Option ConnectionId := none
  closed : Bool := false

namespace Transaction

variable {σ : Type} (source : DataSource σ)

def obtain : Action (σ × Transaction) ConnectionId := do
  let (_, transaction) ← get
  if transaction.closed then failWith (.closed "transaction already closed")
  match transaction.connection with
  | some connection => return connection
  | none =>
      let connection ← (source.connect transaction.autocommit).onFirst
      modify fun (state, transaction) =>
        (state, { transaction with connection := some connection })
      return connection

def manual? (state : σ) (transaction : Transaction) : Option ConnectionId :=
  transaction.connection.filter fun connection => !source.isAutocommit state connection

def commit : Action (σ × Transaction) Unit := do
  let (state, transaction) ← get
  match transaction.manual? source state with
  | some connection => (source.commit connection).onFirst
  | none => return ()

def rollback : Action (σ × Transaction) Unit := do
  let (state, transaction) ← get
  match transaction.manual? source state with
  | some connection => (source.rollback connection).onFirst
  | none => return ()

def close : Action (σ × Transaction) Unit := do
  let (state, transaction) ← get
  set (state, { transaction with closed := true, connection := none })
  match transaction.connection with
  | none => return ()
  | some connection =>
      if !source.isAutocommit state connection then
        (source.rollback connection).quietly.onFirst
      let closed ← (source.closeConnection connection).attempt.onFirst
      modify fun (state, transaction) => (source.dropConnection connection state, transaction)
      closed

def drop (transaction : Transaction) (state : σ) : σ :=
  match transaction.connection with
  | some connection => source.dropConnection connection state
  | none => state

end Transaction

end MappedSql
