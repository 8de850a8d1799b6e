import Warrant.Fault
import Warrant.Text.Capital

/-!
# Levels of the log

How much is logged is set by the name of a level, in whatever case, and a name
that is no level means the usual one. Debugging overrides the name. Two names
belong to the log itself without being levels; using one of them is a fault.
-/

namespace Warrant.LogLevel

/-- The usual level. -/
def usual : Nat := 20

/-- The level while debugging. -/
def debugging : Nat := 10

/-- The levels by name. -/
def named : List (String × Nat) :=
  [("CRITICAL", 50), ("FATAL", 50), ("ERROR", 40), ("WARN", 30), ("WARNING", 30), ("INFO", usual),
   ("DEBUG", debugging), ("NOTSET", 0)]

/-- How a line of the log is laid out. -/
def lineFormat : String :=
  "%(asctime)s | %(levelname)-8s | %(name)s | %(message)s"

/-- The level to log at. -/
def ofName (name : String) (debug : Bool) : Except Fault Nat :=
  if debug then .ok debugging
  else
    let capitals := Text.upper name
    if capitals = "BASIC_FORMAT" then .error .unknownValue
    else if capitals = "_STYLES" then .error .wrongKind
    else .ok ((named.lookup capitals).getD usual)

end Warrant.LogLevel
