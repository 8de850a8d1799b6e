import Warrant.Audit.Query
import Warrant.CommandLine.Arguments
import Warrant.CommandLine.Help
import Warrant.LogLevel
import Warrant.Seed
import Warrant.Settings
import Warrant.Text.Numeral

/-!
# Commands

Besides the service there are three commands: one tells the version, one seeds
the first roles, and one deletes old entries of the audit log. The last two read
the settings, open a small pool of connections, do one thing and say what they
did. A command that is called wrongly opens nothing.
-/

namespace Warrant.CommandLine

/-- A pool of connections to the database. -/
structure Pool where
  address : String
  minSize : Nat
  maxSize : Nat
  deriving Inhabited

/-- How a command ends. -/
inductive Exit where
  /-- It has done what there was to do, and gives no code. -/
  | finished
  | code (n : Nat)
  /-- The settings could not be read. -/
  | settingsRejected
  | failed (why : Failure)

/-- What a command leaves behind: how it ended, what it printed, and the pools that it made. -/
structure Run where
  exit : Exit
  output : String
  pools : List Pool

/-- A command that ends before it has opened anything. -/
def ended (exit : Exit) (output : String) : Run := ⟨exit, output, []⟩

/-- The code of a command that is called wrongly. -/
def misuseCode : Nat := 2

/-- What the service says it is. -/
def banner : String := "RuleGate v0.1.0\n"

/-- Tells the version, whatever the arguments. -/
def version : Run := ended .finished banner

/-- The pool of a command: it does one thing at a time. -/
def pool (settings : Settings) : Pool := ⟨settings.databaseUrl, 1, 2⟩

/-- Reads the settings and sets up the log. -/
def configure (environment : List (String × String)) : Except Exit Settings :=
  match Settings.read environment with
  | .error _ => .error .settingsRejected
  | .ok settings =>
      match LogLevel.ofName settings.logLevel settings.debug with
      | .error why => .error (.failed (.broke why))
      | .ok _ => .ok settings

/-- Does the work of a command, and says what was done. -/
def execute (environment : List (String × String)) (body : Settings → Work String) (w : World) :
    Run × World :=
  match configure environment with
  | .error exit => (ended exit "", w)
  | .ok settings =>
      match body settings w with
      | (.ok output, after) => (⟨.code 0, output, [pool settings]⟩, after)
      | (.error why, after) => (⟨.failed why, "", [pool settings]⟩, after)

/-- The call for help among the options. -/
def helpOption : OptionHelp := ⟨"-h, --help", "[-h]", "show this help message and exit"⟩

/-! ## Seeding -/

/-- The option that only tells what would be done. -/
def dryRun : OptionSpec := ⟨"--dry-run", none⟩

/-- How seeding is called. -/
def seedHelp : CommandHelp :=
  ⟨"seed_roles.py", "Seed default roles and permissions",
   [helpOption, ⟨"--dry-run", "[--dry-run]", "Report what would be created"⟩]⟩

/-- What seeding has done, in words. -/
def seedReport (created : List Value) : String :=
  let names := Value.joined ", " (created.map Value.display)
  "Seeded " ++ toString created.length ++ " role(s): " ++ (if names = "" then "-" else names) ++
    "\n"

/-- Seeds the first roles. -/
def seedRoles (args : List String) (environment : List (String × String)) (w : World) :
    Run × World :=
  match call [dryRun] args with
  | .help => (ended (.code 0) (Help.text environment seedHelp), w)
  | .misuse => (ended (.code misuseCode) "", w)
  | .given options =>
      let isDry := (lastValue? options dryRun.name).isSome
      execute environment (fun _ => do return seedReport (← Seed.seed Seed.standard isDry)) w

/-! ## Cleaning up -/

/-- The option that says how many days entries are kept for. -/
def days : OptionSpec := ⟨"--days", some fun s => (Text.Numeral.readDecimal? s).isSome⟩

/-- How cleaning up is called. -/
def cleanupHelp : CommandHelp :=
  ⟨"cleanup_audit_logs.py", "Delete old audit log entries",
   [helpOption, ⟨"--days DAYS", "[--days DAYS]", "Retention in days"⟩]⟩

/-- What cleaning up has done, in words. -/
def cleanupReport (deleted : Nat) : String :=
  "Deleted " ++ toString deleted ++ " audit log entries\n"

/-- Deletes the entries of the audit log that are too old. -/
def cleanUp (args : List String) (environment : List (String × String)) (w : World) :
    Run × World :=
  match call [days] args with
  | .help => (ended (.code 0) (Help.text environment cleanupHelp), w)
  | .misuse => (ended (.code misuseCode) "", w)
  | .given options =>
      let asked := (lastValue? options days.name).bind Text.Numeral.readDecimal?
      if asked.any (· < 0) then (ended (.code misuseCode) "", w)
      else
        execute environment (fun settings => do
          return cleanupReport (← Audit.deleteOlderThan (asked.getD settings.auditRetentionDays))) w

end Warrant.CommandLine
