import SessionMonitor.Json.Reader

/-!
# Advice messages

The request for advice on a statement: how the server would run it, and what might be better.
-/

namespace SessionMonitor

open Json (Draft)

structure QueryRequest where
  query : String
deriving DecidableEq, Repr

/-- How the server would run a statement: the rows of its plan, and what they mean. -/
structure ExplainResponse where
  plan : List Json.Fields
  interpretation : List String

structure RecommendResponse where
  recommendations : List String
deriving DecidableEq, Repr

namespace QueryRequest

def json (r : QueryRequest) : Json :=
  .object [("query", .string r.query)]

def ofDraft? (d : Draft) : Option QueryRequest := do
  let [query] ← d.slots? ["query"] | none
  return ⟨← Draft.required Draft.text? query⟩

end QueryRequest

namespace ExplainResponse

def json (r : ExplainResponse) : Json :=
  .object [("plan", .array (r.plan.map .object)),
    ("interpretation", .array (r.interpretation.map .string))]

def ofDraft? (d : Draft) : Option ExplainResponse := do
  let [plan, interpretation] ← d.slots? ["plan", "interpretation"] | none
  return {
    plan := ← Draft.defaulted [] (Draft.list? Draft.anyFields?) plan
    interpretation := ← Draft.defaulted [] (Draft.list? Draft.text?) interpretation }

end ExplainResponse

namespace RecommendResponse

def json (r : RecommendResponse) : Json :=
  .object [("recommendations", .array (r.recommendations.map .string))]

def ofDraft? (d : Draft) : Option RecommendResponse := do
  let [recommendations] ← d.slots? ["recommendations"] | none
  return ⟨← Draft.defaulted [] (Draft.list? Draft.text?) recommendations⟩

end RecommendResponse

end SessionMonitor
