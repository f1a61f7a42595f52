import SessionMonitor.Session

/-!
# Filter

A text that some column of a session must contain for the session to be shown, whatever the case
of its letters.
-/

namespace SessionMonitor

/-- The text asked for and the small letters that are searched. -/
structure Filter where
  query : String
  needle : String
deriving DecidableEq, Repr

namespace Filter

def ofQuery (query : String) : Filter :=
  ⟨query, Text.lowercase query⟩

def all : Filter := ⟨"", ""⟩

def push (f : Filter) (c : Char) : Filter :=
  ofQuery (f.query.push c)

def pop (f : Filter) : Filter :=
  ofQuery (String.ofList f.query.toList.dropLast)

def isEmpty (f : Filter) : Bool :=
  f.query.isEmpty

/-- The columns that are searched; a missing text counts as an empty one. -/
def fields (p : Session) : List String :=
  [p.user, p.db.getD "", p.command, p.state.getD "", p.info.getD ""]

def passes (f : Filter) (p : Session) : Bool :=
  f.needle.isEmpty || (fields p).any fun field => Text.contains (Text.lowercase field) f.needle

end Filter

end SessionMonitor
