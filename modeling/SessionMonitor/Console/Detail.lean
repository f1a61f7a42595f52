import SessionMonitor.Failure
import SessionMonitor.Wire.Advice

/-!
# The detail popup

A popup about one session, with advice on its statement. It keeps its own copy of the session, so
that it stays when the session ends, and the number of the request that it waits for.
-/

namespace SessionMonitor

inductive DetailKind where
  | recommendations
  | explain
deriving DecidableEq, Repr

inductive Advice where
  | recommendations (answer : RecommendResponse)
  | explain (answer : ExplainResponse)

inductive DetailContent where
  | noStatement
  | loading
  | recommendations (items : List String)
  | plan (answer : ExplainResponse)
  | failed (failure : Failure)

structure Detail where
  session : Session
  kind : DetailKind
  /-- The request that the popup waits for, or waited for. -/
  requestId : Option UInt64
  content : DetailContent

namespace Detail

def statement? (d : Detail) : Option String :=
  d.session.statement?

def opening (session : Session) : DetailContent :=
  if session.statement?.isSome then .loading else .noStatement

/-- The popup for a session, before its request is sent. -/
def ofSession (session : Session) (kind : DetailKind) : Detail :=
  ⟨session, kind, none, opening session⟩

def contentOf : Except Failure Advice → DetailContent
  | .ok (.recommendations answer) => .recommendations answer.recommendations
  | .ok (.explain answer) => .plan answer
  | .error failure => .failed failure

end Detail

end SessionMonitor
