import LiveLog.Decimal.Count

namespace LiveLog

/-!
# Limits of what is kept

How much of the logs is kept in memory. The limits come from environment
variables; what is not a count falls back to the default, and a limit of zero
counts as one.
-/

/-- The limits of what is kept. -/
structure Settings where
  /-- Most entries of the merged log. -/
  mergedEntries : Nat
  /-- Most lines kept for one process. -/
  rawEntries : Nat
  /-- Most bytes kept for one process. -/
  rawBytes : Nat
deriving DecidableEq

namespace Settings

/-- The limits when nothing is said. -/
def default : Settings := ⟨5000, 5000, 8388608⟩

/-- The limit that a variable sets. -/
def limit (fallback : Nat) (value : Option String) : Nat :=
  max ((value.bind Count.ofText?).getD fallback) 1

/-- The limits that an environment sets. -/
def ofEnvironment (environment : String → Option String) : Settings where
  mergedEntries := limit default.mergedEntries (environment "VK_UNIFIED_LOG_MAX_ENTRIES")
  rawEntries := limit default.rawEntries (environment "VK_LOG_HISTORY_MAX_ENTRIES")
  rawBytes := limit default.rawBytes (environment "VK_LOG_HISTORY_MAX_BYTES")

/-- No variable makes a limit of zero. -/
theorem one_le_limit (fallback : Nat) (value : Option String) : 1 ≤ limit fallback value :=
  Nat.le_max_right _ _

end Settings

end LiveLog
