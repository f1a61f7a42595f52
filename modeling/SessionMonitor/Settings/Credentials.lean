import SessionMonitor.Text.Quoted

/-!
# Credentials

Secrets come from the environment and from nowhere else, and `description` shows none of them.
-/

namespace SessionMonitor

inductive Credentials where
  | none
  | token (secret : String)
  | login (username password : String)
deriving DecidableEq, Repr

namespace Credentials

def tokenVariable : String := "MPM_TOKEN"

def passwordVariable : String := "MPM_PASSWORD"

/-- The credentials of a user. A token goes before a login, and a login needs a name and a
password. -/
def ofVariables (username secret? password? : Option String) : Credentials :=
  match secret?.filter (· ≠ ""), username.filter (· ≠ ""), password? with
  | some secret, _, _ => .token secret
  | Option.none, some name, some password => .login name password
  | _, _, _ => .none

def description : Credentials → String
  | none => "None"
  | token _ => "Token(..)"
  | login username _ => "Login \x7b username: " ++ Text.quote username ++ " \x7d"

end Credentials

end SessionMonitor
