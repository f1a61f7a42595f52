import SessionMonitor.Decimal.Layout
import SessionMonitor.Screen.Grid
import SessionMonitor.Screen.PlanTable

/-!
# The detail popup on the screen
-/

namespace SessionMonitor.Screen.DetailPopup

def field (label value : String) : Line :=
  [⟨"  " ++ Text.padRight label 9, .label⟩, ⟨value, .colored .white⟩]

/-- The load that a session causes, if it causes any. -/
def usageLines (session : Session) : List Line :=
  if 0.0 < session.cpu || 0.0 < session.memory then
    [field "Usage:" ("cpu " ++ Decimal.onePlace session.cpu ++ "  memory "
      ++ Decimal.onePlace session.memory)]
  else []

def statementLines : Option String → List Line
  | some statement =>
    (Text.lines statement).map fun line => .styled ("    " ++ line) (.colored .cyan)
  | none => [.styled "    NULL" (.colored .darkGray)]

def sessionLines (session : Session) : List Line :=
  [.empty,
    field "User:" session.user,
    field "Host:" session.host,
    field "Db:" (session.db.getD "NULL"),
    field "Command:" session.command,
    field "Time:" session.time.display,
    field "State:" (session.state.getD "")]
    ++ usageLines session
    ++ (if session.isWaiting then [.styled "  ! Session is waiting" (.bold .yellow)] else [])
    ++ [.empty, .styled "  Statement:" .label]
    ++ statementLines session.statement?

def item (text : String) : Line :=
  [⟨"    * ", .colored .yellow⟩, .plain text]

def planLines (answer : ExplainResponse) : List Line :=
  answer.interpretation.map item ++
    if answer.plan.isEmpty then [.styled "    (empty plan)" (.colored .darkGray)]
    else
      let (heading, rows) := PlanTable.table answer.plan
      [.empty, .styled ("    " ++ heading)
        { foreground := some .white, emphasis := { bold := true, underlined := true } }]
        ++ rows.map fun row => .plain ("    " ++ row)

def contentLines : DetailContent → List Line
  | .noStatement => [.styled "    No statement to analyze" .remark]
  | .loading => [.styled "    Loading..." .remark]
  | .recommendations [] => [.styled "    Nothing to recommend" .remark]
  | .recommendations items => items.map item
  | .plan answer => planLines answer
  | .failed failure => [.styled ("    " ++ failure.message) (.colored .red)]

def heading : DetailKind → String
  | .recommendations => "  Recommendations:"
  | .explain => "  Execution plan:"

def lines (d : Detail) : List Line :=
  sessionLines d.session ++ [.empty, .styled (heading d.kind) .label] ++ contentLines d.content

def title (d : Detail) : String :=
  " Process " ++ d.session.id.text ++ match d.kind with
    | .recommendations => " - Recommendations "
    | .explain => " - Explain "

def borderColor : DetailContent → Color
  | .failed _ => .red
  | _ => .cyan

def draw (g : Grid) (a : Area) (d : Detail) : Grid :=
  let popup := a.centered 80 80
  (g.clear popup).putText popup { title := title d, style := .colored (borderColor d.content) }
    (lines d)

end SessionMonitor.Screen.DetailPopup
