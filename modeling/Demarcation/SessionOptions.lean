/-
The policy of a session: what a fresh handle is told before any work starts.
-/

namespace Demarcation

/-- How a handle uses a second-level cache. -/
inductive CacheMode where
  | normal | ignore | get | put | refresh
deriving DecidableEq

/-- When pending changes reach the store. -/
inductive FlushMode where
  | auto | always | commit | manual
deriving DecidableEq

/-- The cache modes under their names. -/
def CacheMode.names : List (String × CacheMode) :=
  [("normal", .normal), ("ignore", .ignore), ("get", .get), ("put", .put), ("refresh", .refresh)]

def CacheMode.name : CacheMode → String
  | .normal => "normal"
  | .ignore => "ignore"
  | .get => "get"
  | .put => "put"
  | .refresh => "refresh"

/-- The flush modes under their names. -/
def FlushMode.names : List (String × FlushMode) :=
  [("auto", .auto), ("always", .always), ("commit", .commit), ("manual", .manual)]

def FlushMode.name : FlushMode → String
  | .auto => "auto"
  | .always => "always"
  | .commit => "commit"
  | .manual => "manual"

theorem CacheMode.lookup_name (m : CacheMode) : names.lookup m.name = some m := by
  cases m <;> rfl

theorem FlushMode.lookup_name (m : FlushMode) : names.lookup m.name = some m := by
  cases m <;> rfl

/-- The policy of a session. -/
structure SessionOptions where
  readOnly : Bool := false
  cacheMode : CacheMode := .normal
  flushMode : FlushMode := .auto
deriving DecidableEq

end Demarcation
