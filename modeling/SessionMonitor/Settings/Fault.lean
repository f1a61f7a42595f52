import SessionMonitor.Text.Quoted

/-!
# Faults of settings
-/

namespace SessionMonitor

inductive SettingsFault where
  | notPositive (key : String)
  /-- The address of the server has no scheme that is known. -/
  | unknownScheme (address : String)
  | missingFile (path : String)
  /-- The text is not TOML, or a value in it is not of its kind. -/
  | unreadable
  | inFile (path : String) (fault : SettingsFault)
  | other (words : String)
deriving DecidableEq, Repr

namespace SettingsFault

def heading : String := "Configuration error: "

def reason : SettingsFault → String
  | notPositive key => key ++ " must be at least 1"
  | unknownScheme address =>
    "backend_url must start with http:// or https:// (got " ++ Text.quote address ++ ")"
  | missingFile path => "config file " ++ path ++ " does not exist"
  | unreadable => "the settings cannot be read"
  | inFile path fault => path ++ ": " ++ heading ++ fault.reason
  | other words => words

end SettingsFault

end SessionMonitor
