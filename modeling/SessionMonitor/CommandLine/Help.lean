import SessionMonitor.CommandLine
import SessionMonitor.Text.Layout

/-!
# Help

The texts that explain the command line.
-/

namespace SessionMonitor.CommandLine

def versionText : String := "mpm 0.1.0\n"

/-- Two columns, the first one as wide as its widest text. -/
def columns (rows : List (String × String)) : List String :=
  let width := (rows.map (·.1.length)).foldl max 0
  rows.map fun (left, right) => "  " ++ Text.padRight left width ++ "  " ++ right

def settingText (s : Setting) : String :=
  let short := match s.letter? with
    | some c => "-" ++ String.singleton c ++ ", "
    | none => "    "
  short ++ "--" ++ s.name ++ " <" ++ s.name.toUpper ++ ">"

def optionRows (level : Option Subcommand) : List (String × String) :=
  Setting.all.map (fun s => (settingText s, s.about))
    ++ (if level.isNone then [("    --paused", "Start with polling paused")] else [])
    ++ [("-h, --help", "Print help")]
    ++ if level.isNone then [("-V, --version", "Print version")] else []

def usage : Option Subcommand → String
  | none => "Usage: mpm [OPTIONS] [COMMAND]"
  | some subcommand => "Usage: mpm " ++ subcommand.name ++ " [OPTIONS]"

def helpText (level : Option Subcommand) : String :=
  let about := match level with
    | none => "Watch and manage live MySQL sessions"
    | some subcommand => subcommand.about
  let subcommands := if level.isNone then
      ["Commands:"] ++ columns (Subcommand.all.map (fun s => (s.name, s.about))
        ++ [("help", "Print this message or the help of the given subcommand(s)")]) ++ [""]
    else []
  String.join (([about, "", usage level, ""] ++ subcommands ++ ["Options:"]
    ++ columns (optionRows level)).map (· ++ "\n"))

def misuseText : String :=
  "error: the arguments cannot be understood\n\n" ++ usage none
    ++ "\n\nFor more information, try '--help'.\n"

end SessionMonitor.CommandLine
