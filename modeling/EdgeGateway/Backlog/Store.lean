import EdgeGateway.Text.Bytes

/-!
# Backlog stores

A backlog store keeps values waiting under keys until they are removed. Under `fifo` retention
the values of a key queue up; under `lastValue` retention a new value replaces them. Across keys
there is no order.

`Store` lists what a representation offers. Looking at the front of a key may discard entries
that cannot be decoded, so `peek` gives the store back. Values are put with a sequence number,
which a representation may use to keep them in order.
-/

namespace EdgeGateway

/-- What a put does to the values already waiting under its key. -/
inductive Retention where
  /-- The new value queues up behind them. -/
  | fifo
  /-- The new value replaces them. -/
  | lastValue
  deriving DecidableEq, Repr

/-- The name of a retention. -/
def Retention.name : Retention → String
  | fifo => "Fifo"
  | lastValue => "LastValue"

/-- How values are kept as bytes. -/
class Entry (Value : Type) where
  encode : Value → Bytes
  decode? : Bytes → Option Value

/-- The operations of a backlog store. -/
class Store (Backlog : Type → Type) where
  /-- A store without values. -/
  fresh {Value : Type} (retention : Retention) : Backlog Value
  /-- The retention that the store was made with. -/
  retention {Value : Type} (store : Backlog Value) : Retention
  /-- Puts a value behind, or in place of, the values of a key. -/
  put {Value : Type} [Entry Value] (store : Backlog Value) (sequence : Nat) (key : String)
    (value : Value) : Backlog Value
  /-- The first values of a key, at most so many. -/
  peek {Value : Type} [Entry Value] (store : Backlog Value) (key : String) (limit : Nat) :
    List Value × Backlog Value
  /-- Removes the first values of a key, at most so many. -/
  remove {Value : Type} [Entry Value] (store : Backlog Value) (key : String) (limit : Nat) :
    Backlog Value
  /-- The keys under which something waits, ascending. -/
  keys {Value : Type} (store : Backlog Value) : List String
  /-- Whether nothing waits. -/
  isEmpty {Value : Type} (store : Backlog Value) : Bool
  /-- How many entries wait under a key. -/
  count {Value : Type} (store : Backlog Value) (key : String) : Nat
  /-- How many entries wait in all. -/
  size {Value : Type} (store : Backlog Value) : Nat
  /-- What is found after the process has ended and the store is opened again. -/
  reopen {Value : Type} (store : Backlog Value) : Backlog Value

/-- The first value of a key. -/
def Store.get? {Backlog : Type → Type} [Store Backlog] {Value : Type} [Entry Value]
    (store : Backlog Value) (key : String) : Option Value × Backlog Value :=
  let (values, store) := Store.peek store key 1
  (values.head?, store)

end EdgeGateway
