import SessionMonitor.Decimal.Reading
import SessionMonitor.Settings

/-!
# The command line

What the words on the command line ask for. Four options with values may stand before and after a
subcommand. An option that waits for its value is settled when the next one begins or the words
end; only then is its value looked at. Asking for help or for the version ends the reading at once.
-/

namespace SessionMonitor

/-- What can be done besides watching. -/
inductive Subcommand where
  | ping
  | databases
deriving DecidableEq, Repr

namespace Subcommand

def name : Subcommand → String
  | ping => "ping"
  | databases => "databases"

def about : Subcommand → String
  | ping => "Check that the backend and its database respond"
  | databases => "List the databases visible to the backend"

def all : List Subcommand := [ping, databases]

def ofName? (word : String) : Option Subcommand :=
  all.find? (·.name = word)

end Subcommand

namespace CommandLine

inductive Setting where
  | url
  | interval
  | config
  | username
deriving DecidableEq, Repr

namespace Setting

def name : Setting → String
  | url => "url"
  | interval => "interval"
  | config => "config"
  | username => "username"

def letter? : Setting → Option Char
  | url => none
  | interval => some 'i'
  | config => some 'c'
  | username => some 'u'

def about : Setting → String
  | url => "Backend base URL (overrides the config file)"
  | interval => "Seconds between polls"
  | config => "Config file (default: $XDG_CONFIG_HOME/mpm/config.toml)"
  | username => "Backend user; the password is read from MPM_PASSWORD"

def all : List Setting := [url, interval, config, username]

end Setting

structure Values where
  url : Option String := none
  interval : Option UInt64 := none
  config : Option String := none
  username : Option String := none
  paused : Bool := false
deriving DecidableEq, Repr

namespace Values

/-- The values of `inner`, and of `outer` where `inner` has none. -/
def orElse (inner outer : Values) : Values where
  url := inner.url <|> outer.url
  interval := inner.interval <|> outer.interval
  config := inner.config <|> outer.config
  username := inner.username <|> outer.username
  paused := inner.paused || outer.paused

def has (v : Values) : Setting → Bool
  | .url => v.url.isSome
  | .interval => v.interval.isSome
  | .config => v.config.isSome
  | .username => v.username.isSome

/-- Gives an option its value: a number for the interval, and something for the file. -/
def set (v : Values) : Setting → String → Option Values
  | .url, value => some { v with url := some value }
  | .interval, value =>
    (Decimal.word? value.toList).map fun n => { v with interval := some n }
  | .config, value => if value = "" then none else some { v with config := some value }
  | .username, value => some { v with username := some value }

def replacements (v : Values) : Settings.Replacements where
  backendUrl := v.url
  pollInterval := v.interval
  username := v.username

end Values

inductive Request where
  | help (about : Option Subcommand)
  | version
  | run (subcommand : Option Subcommand) (values : Values)
deriving DecidableEq, Repr

/-- What has been read so far at one level: before or after a subcommand. -/
structure Reading where
  values : Values := {}
  /-- An option that is not settled yet, and its value if that has been read. -/
  pending : Option (Setting × Option String) := none

namespace Reading

def waits (r : Reading) : Bool :=
  match r.pending with
  | some (_, none) => true
  | _ => false

/-- Gives an option its value, which it must not have yet. -/
def give (r : Reading) (setting : Setting) (value : String) : Option Reading :=
  if r.values.has setting then none
  else (r.values.set setting value).map fun values => { r with values := values }

def settle (r : Reading) : Option Reading :=
  match r.pending with
  | none => some r
  | some (_, none) => none
  | some (setting, some value) => ({ r with pending := none } : Reading).give setting value

/-- Begins an option, with the value that is attached to it if there is one. -/
def begin? (r : Reading) (setting : Setting) (attached : Option String) : Option Reading := do
  let r ← r.settle
  match attached with
  | some value => r.give setting value
  | none => return { r with pending := some (setting, none) }

def pause (r : Reading) : Option Reading := do
  let r ← r.settle
  if r.values.paused then none
  else return { r with values := { r.values with paused := true } }

/-- Takes a word as the value of the option that waits for one. -/
def take? (r : Reading) (word : String) : Option Reading :=
  match r.pending with
  | some (setting, none) => some { r with pending := some (setting, some word) }
  | _ => none

end Reading

inductive Step where
  | more (reading : Reading)
  | done (request : Request)

/-- Asks for something that ends the reading, once the open option is settled. -/
def ending (r : Reading) (request : Request) : Option Step :=
  r.settle.map fun _ => .done request

/-- Reads a word of the form `name` or `name=value` after two dashes. -/
def longOption (level : Option Subcommand) (r : Reading) (word : List Char) : Option Step :=
  let (name, rest) := word.span (· ≠ '=')
  let name := String.ofList name
  let attached := if rest.isEmpty then none else some (String.ofList (rest.drop 1))
  match Setting.all.find? (·.name = name) with
  | some setting => (r.begin? setting attached).map .more
  | none =>
    if attached.isSome then none
    else if name = "help" then ending r (.help level)
    else if name = "version" ∧ level = none then ending r .version
    else if name = "paused" ∧ level = none then r.pause.map .more
    else none

/-- Reads a letter and what follows it after one dash. -/
def shortOption (level : Option Subcommand) (r : Reading) (letter : Char) (rest : List Char) :
    Option Step :=
  match Setting.all.find? (·.letter? = some letter) with
  | some setting =>
    let attached := match rest with
      | [] => none
      | '=' :: value => some (String.ofList value)
      | value => some (String.ofList value)
    (r.begin? setting attached).map .more
  | none =>
    if letter = 'h' then ending r (.help level)
    else if letter = 'V' ∧ level = none then ending r .version
    else none

/-- Reads a word that is neither a subcommand nor the end of the options. -/
def word (level : Option Subcommand) (r : Reading) (text : String) : Option Step :=
  match text.toList with
  | '-' :: '-' :: rest => longOption level r rest
  | '-' :: letter :: rest => shortOption level r letter rest
  | _ => (r.take? text).map .more

/-- The words after `help`: at most one, which is a subcommand or `help` itself. -/
def helpOn : List String → Option Request
  | [] => some (.help none)
  | [name] =>
    if name = "help" then some (.help none)
    else (Subcommand.ofName? name).map fun subcommand => .help (some subcommand)
  | _ => none

/-- Reads the words after a subcommand; `outer` is what stood before it. -/
def inside (outer : Reading) (subcommand : Subcommand) (r : Reading) :
    List String → Option Request
  | [] => finish r
  | "--" :: rest => if rest.isEmpty then finish r else none
  | text :: rest => do
    match ← word (some subcommand) r text with
    | .more r => inside outer subcommand r rest
    | .done request => return request
where
  finish (r : Reading) : Option Request := do
    let inner ← r.settle
    let outer ← outer.settle
    return .run (some subcommand) (inner.values.orElse outer.values)

def outside (r : Reading) : List String → Option Request
  | [] => finish r
  | "--" :: rest => if rest.isEmpty then finish r else none
  | text :: rest =>
    if !r.waits ∧ text = "help" then helpOn rest
    else match if r.waits then none else Subcommand.ofName? text with
      | some subcommand => inside r subcommand {} rest
      | none => do
        match ← word none r text with
        | .more r => outside r rest
        | .done request => return request
where
  finish (r : Reading) : Option Request :=
    r.settle.map fun r => .run none r.values

def ofWords? (words : List String) : Option Request :=
  outside {} words

end CommandLine

end SessionMonitor
