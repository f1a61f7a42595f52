import SessionMonitor.Network
import SessionMonitor.Program

/-!
# The command

The program in its real surroundings.
-/

namespace SessionMonitor.Program

def readContents (path : String) : IO Settings.Source := do
  try return .contents (← IO.FS.readBinFile path)
  catch
    | .noFileOrDirectory _ _ _ => return .missing
    | error => return .unreadable (toString error)

def openLogIn (directory file : String) : IO (Option LogFault) := do
  let path := below directory file
  try IO.FS.createDirAll directory
  catch error => return some (.noDirectory directory (toString error))
  try
    discard (IO.FS.Handle.mk path .append)
    return none
  catch error => return some (.noFile path (toString error))

/-- The real surroundings. No terminal is driven from here. -/
def surroundings : Surroundings IO where
  lookUp name := IO.getEnv name
  openLog := openLogIn
  contents := readContents
  send := Network.send
  now := do return (← Std.Time.Timestamp.now).toMillisecondsSinceUnixEpoch.toInt
  watch _ _ _ := return .error (.terminalStart "there is no terminal")

end SessionMonitor.Program

open SessionMonitor in
def main (words : List String) : IO UInt32 := do
  let outcome ← Program.run Program.surroundings words
  match outcome.warning with
  | some fault => IO.eprintln fault.warning
  | none => pure ()
  IO.print outcome.ending.output
  IO.eprint outcome.ending.complaint
  return UInt32.ofNat outcome.ending.code
