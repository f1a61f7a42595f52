import SessionMonitor.Refusal
import SessionMonitor.Settings.Fault

/-!
# Failures

What can go wrong while the monitor runs, and how it is told to the operator.
-/

namespace SessionMonitor

inductive Failure where
  | terminalStart (words : String)
  | terminalEnd (words : String)
  | unreachable (words : String)
  /-- The server answered with another status than success. -/
  | rejected (status : Nat) (detail : String)
  /-- The server answered with something that is no process list. -/
  | malformedSnapshot (words : String)
  | refused (refusal : Refusal)
  | settings (fault : SettingsFault)
  | files (words : String)
  /-- The server answered with something that has not the right form. -/
  | unreadable
deriving DecidableEq, Repr

namespace Failure

def message : Failure → String
  | terminalStart words => "Failed to initialize terminal: " ++ words
  | terminalEnd words => "Failed to restore terminal: " ++ words
  | unreachable words => "Backend unreachable: " ++ words
  | rejected status detail =>
    "Backend rejected request (" ++ toString status ++ "): " ++ detail
  | malformedSnapshot words => "Malformed process list: " ++ words
  | refused refusal => refusal.message
  | settings fault => SettingsFault.heading ++ fault.reason
  | files words => "IO error: " ++ words
  | unreadable => "Failed to parse response: unexpected content"

def cause? : Failure → Option String
  | files words => some words
  | _ => none

def isUnreachable : Failure → Bool
  | unreachable _ => true
  | _ => false

def ofSnapshotFault (fault : SnapshotFault) : Failure :=
  malformedSnapshot (Refusal.malformedSnapshot fault).message

end Failure

end SessionMonitor
