import SessionMonitor.Backend.Client
import SessionMonitor.CommandLine.Help
import SessionMonitor.Settings.Credentials

/-!
# The program

What happens between the command line and the end of the program: the log is opened, settings and
credentials are found, a login is made, and a subcommand is carried out. All that lies outside is a
value of `Surroundings`, so that a run is a function of what it meets.
-/

namespace SessionMonitor

inductive LogFault where
  | noDirectory (path words : String)
  | noFile (path words : String)
deriving DecidableEq, Repr

namespace LogFault

def warning : LogFault → String
  | noDirectory path words =>
    "Warning: Failed to create log directory " ++ Text.quote path ++ ": " ++ words
  | noFile path words => "Warning: Failed to open log file " ++ Text.quote path ++ ": " ++ words

end LogFault

structure Surroundings (m : Type → Type) where
  lookUp : String → m (Option String)
  openLog : (directory file : String) → m (Option LogFault)
  contents : String → m Settings.Source
  /-- Sends a request and waits for the reply, at most so many seconds. -/
  send : (timeout : UInt64) → HttpRequest → m (Except String HttpReply)
  now : m Timestamp
  /-- Shows the sessions on a terminal until the operator leaves. -/
  watch : Client → Settings → (paused : Bool) → m (Except Failure Unit)

structure Report where
  headline : String
  cause : Option String
deriving DecidableEq, Repr

namespace Report

def ofFailure (f : Failure) : Report :=
  ⟨f.message, f.cause?⟩

def within (task : String) (f : Failure) : Report :=
  ⟨task, some f.message⟩

def text (r : Report) : String :=
  "Error: " ++ r.headline ++ (match r.cause with
    | some cause => "\n\nCaused by:\n    " ++ cause
    | none => "") ++ "\n"

end Report

inductive Ending where
  | done (output : String)
  | misused
  | failed (report : Report)
deriving DecidableEq, Repr

namespace Ending

def code : Ending → Nat
  | done _ => 0
  | failed _ => 1
  | misused => 2

def output : Ending → String
  | done text => text
  | _ => ""

def complaint : Ending → String
  | done _ => ""
  | failed report => report.text
  | misused => CommandLine.misuseText

end Ending

structure Outcome where
  ending : Ending
  warning : Option LogFault := none
deriving DecidableEq, Repr

namespace Program

/-! ### Places -/

def below (directory path : String) : String :=
  if directory = "" then path
  else if directory.toList.getLast? = some '/' then directory ++ path
  else directory ++ "/" ++ path

def home? (value : Option String) : Option String :=
  value.filter (· ≠ "")

/-- Where the log goes, by the directory for states and the home directory. -/
def logDirectory? (states home : Option String) : Option String :=
  match states with
  | some directory => some (below directory "mpm")
  | none => (home? home).map (below · ".local/state/mpm")

/-- Where settings may stand, by the directory for settings, which must start at the root to count,
and the home directory. -/
def settingsPath? (directory home : Option String) : Option String :=
  let directory := match directory.filter (Text.beginsWith · "/") with
    | some directory => some directory
    | none => (home? home).map (below · ".config")
  directory.map (below · "mpm/config.toml")

/-! ### Tasks -/

section
variable {m : Type → Type} [Monad m] (world : Surroundings m)

/-- Opens the log. A program without a log goes on. -/
def openLog : m (Option LogFault) := do
  let states ← world.lookUp "XDG_STATE_HOME"
  let home ← world.lookUp "HOME"
  match logDirectory? states home with
  | some directory => world.openLog directory "tui.log"
  | none => return none

/-- The settings from the file that was asked for, or else from the usual one, with what the
command line replaces. -/
def settings (values : CommandLine.Values) : m (Except Report Settings) := do
  let found ← match values.config with
    | some path => pure (Settings.load path true (← world.contents path))
    | none =>
      let directory ← world.lookUp "XDG_CONFIG_HOME"
      let home ← world.lookUp "HOME"
      match settingsPath? directory home with
      | some path => pure (Settings.load path false (← world.contents path))
      | none => pure (.ok {})
  return (found.bind fun s =>
    (s.replaced values.replacements).mapError Failure.settings).mapError .ofFailure

/-- Carries out an operation. A request that cannot be put in words is not sent. -/
def perform (client : Client) (operation : Operation) : m (Except Failure operation.Result) := do
  match client.request? operation with
  | none => return .error (.unreachable "the request cannot be sent")
  | some request =>
    match ← world.send client.timeout request with
    | .error words => return .error (.unreachable words)
    | .ok reply => return Client.outcome (← world.now) operation reply

/-- A client that may ask: with a token, after a login, or as nobody. -/
def connect (s : Settings) : m (Except Report Client) := do
  let client := Client.ofSettings s
  let token ← world.lookUp Credentials.tokenVariable
  let password ← world.lookUp Credentials.passwordVariable
  match Credentials.ofVariables s.username token password with
  | .none => return .ok client
  | .token token => return .ok (client.withToken token)
  | .login username password =>
    let operation := Operation.login username password
    let result ← perform world client operation
    return match result with
      | .ok _ => .ok (client.after operation result)
      | .error f => .error (.within ("Login as " ++ username ++ " failed") f)

def carryOut (client : Client) : Subcommand → m (Except Report String)
  | .ping => do
    return match ← perform world client .ping with
      | .ok answer =>
        .ok ("backend: ok (" ++ client.baseUrl ++ ")\ndatabase: " ++ answer.db ++ "\n")
      | .error f => .error (.within ("Backend at " ++ client.baseUrl ++ " did not answer") f)
  | .databases => do
    return match ← perform world client .databases with
      | .ok names => .ok (String.join (names.map (· ++ "\n")))
      | .error f => .error (.ofFailure f)

/-- Does what the command line asks for, after the log has been opened. Gives what is to be
printed. -/
def work (subcommand : Option Subcommand) (values : CommandLine.Values) :
    ExceptT Report m String := do
  let s ← ExceptT.mk (settings world values)
  let client ← ExceptT.mk (connect world s)
  match subcommand with
  | some subcommand => ExceptT.mk (carryOut world client subcommand)
  | none =>
    ExceptT.mk ((·.mapError Report.ofFailure) <$> world.watch client s values.paused)
    return ""

def run (words : List String) : m Outcome := do
  match CommandLine.ofWords? words with
  | none => return ⟨.misused, none⟩
  | some (.help level) => return ⟨.done (CommandLine.helpText level), none⟩
  | some .version => return ⟨.done CommandLine.versionText, none⟩
  | some (.run subcommand values) =>
    let warning ← openLog world
    let ending := match ← (work world subcommand values).run with
      | .ok output => .done output
      | .error report => .failed report
    return ⟨ending, warning⟩

end

end Program

end SessionMonitor
