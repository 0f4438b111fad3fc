/-
Identities.

Factories, contexts, handles and shared handles are told apart by identities that
are minted once and never reused.  An identity has no text of its own: who
writes a message supplies a `Naming`.
-/

namespace Demarcation

/-- The identity of a configured persistence unit.  Bindings are keyed by it. -/
structure FactoryId where
  index : Nat
deriving DecidableEq

/-- The identity of an execution context. -/
structure ContextId where
  index : Nat
deriving DecidableEq

/-- The identity of a shared handle. -/
structure SharedId where
  index : Nat
deriving DecidableEq, Hashable

/-- A resource handle, and the factory that it reports as its own. -/
structure Handle where
  index : Nat
  factory : FactoryId
deriving DecidableEq

/-- The texts that stand for identities in messages. -/
structure Naming where
  factory : FactoryId → String
  context : ContextId → String

end Demarcation
