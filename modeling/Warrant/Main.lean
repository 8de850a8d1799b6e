import Warrant.CommandLine.Program

/-!
# The command itself

Prints what the service is.
-/

/-- Tells the version. -/
def main : IO Unit := IO.print Warrant.CommandLine.version.output
