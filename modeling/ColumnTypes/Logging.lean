import ColumnTypes.Resolution

/-!
# Logging

The program's logger: the level from which it lets records through, and the handlers that they go
to.  Configuring it sets the level and leaves exactly one console handler; handlers of other kinds
stay.
-/

namespace ColumnTypes

/-- The weight of a level. -/
def Level.weight : Level → Nat
  | debug => 10
  | warning => 30

/-- Where log records go. -/
inductive Handler where
  | console
  | other (name : String)
  deriving DecidableEq, Repr

/-- The state of the logger; its level is unset until it is configured. -/
structure Logging where
  level : Option Level
  handlers : List Handler
  deriving DecidableEq, Repr

namespace Logging

/-- The name of the logger. -/
def name : String := "pgcodegen"

/-- The state before anything is configured. -/
def unconfigured : Logging := ⟨none, []⟩

/-- The level for a debug flag. -/
def levelFor (debug : Bool) : Level :=
  if debug then .debug else .warning

/-- Sets the level and replaces the console handler. -/
def configure (debug : Bool) (l : Logging) : Logging :=
  ⟨some (levelFor debug), l.handlers.filter (· != .console) ++ [.console]⟩

/-- The level from which records are let through.  While it is unset, warnings are. -/
def threshold (l : Logging) : Level :=
  l.level.getD .warning

/-- Whether a record is let through. -/
def letsThrough (l : Logging) (r : LogRecord) : Bool :=
  l.threshold.weight ≤ r.level.weight

/-- The number of console handlers. -/
def consoleHandlers (l : Logging) : Nat :=
  l.handlers.count .console

/-- After configuring there is one console handler. -/
theorem consoleHandlers_configure (debug : Bool) (l : Logging) :
    (l.configure debug).consoleHandlers = 1 := by
  simp [configure, consoleHandlers, List.count_append, List.count_eq_zero]

/-- Configuring keeps the handlers of other kinds, in order. -/
theorem other_handlers_configure (debug : Bool) (l : Logging) :
    (l.configure debug).handlers.filter (· != .console) =
      l.handlers.filter (· != .console) := by
  simp [configure, List.filter_filter]

/-- Only the last configuration counts. -/
theorem configure_configure (debug earlier : Bool) (l : Logging) :
    (l.configure earlier).configure debug = l.configure debug := by
  simp [configure, List.filter_filter]

/-- Warnings are let through at every level. -/
theorem letsThrough_of_warning (l : Logging) {r : LogRecord} (h : r.level = .warning) :
    l.letsThrough r = true := by
  unfold letsThrough
  rw [h]
  cases l.threshold <;> rfl

end Logging

end ColumnTypes
