import SessionMonitor.Screen.Grid

/-!
# The status bars

The header with the state of polling and the last notice, and the footer with the keys.
-/

namespace SessionMonitor.Screen

def twoDigits (n : Nat) : String :=
  if n < 10 then "0" ++ toString n else toString n

def timeOfDay (t : Timestamp) : String :=
  let seconds := (t.fdiv 1000 % 86400).toNat
  twoDigits (seconds / 3600) ++ ":" ++ twoDigits (seconds / 60 % 60) ++ ":"
    ++ twoDigits (seconds % 60)

namespace StatusBar

/-- The state of polling: whether it is live and whether the last request failed. -/
def pollStatus (live failing : Bool) : Span :=
  match live, failing with
  | true, false => ⟨"Live", .bold .green⟩
  | true, true => ⟨"Live (refresh failing)", .bold .red⟩
  | false, _ => ⟨"Paused", .bold .yellow⟩

def statistics (c : Console) : String :=
  let summary := c.engine.summary
  let selected := c.engine.selection.size
  " | " ++ toString summary.sessionCount ++ " process"
    ++ (if summary.sessionCount = 1 then "" else "es")
    ++ (match summary.blocked with
      | some id => " | blocking: " ++ id.text
      | none => "")
    ++ (if 0 < selected then " | " ++ toString selected ++ " selected" else "")
    ++ (match c.updatedAt with
      | some time => " | " ++ timeOfDay time
      | none => "")

def noticeSpans : Option Notice → List Span
  | some notice => [.plain "  ", ⟨notice.words, .colored (noticeColor notice.level)⟩]
  | none => []

def headerLine (c : Console) : Line :=
  [⟨"MPM", .key⟩, .plain (" - " ++ c.page.title ++ " | "),
    pollStatus c.isLive c.pollFailure.isSome, ⟨statistics c, .colored .darkGray⟩]
    ++ noticeSpans c.notice

def headerColor (c : Console) : Color :=
  if c.pollFailure.isSome then .red else if c.isLive then .green else .yellow

def hints (c : Console) : List (String × String) :=
  if c.detail.isSome then [("Esc", "close"), ("r", "recommend"), ("e", "explain")]
  else match c.page with
    | .executor => [("Enter", "run"), ("^D", "database"), ("^L", "clear"), ("Tab", "view"),
        ("Esc", "back")]
    | .sessions | .dashboard => [("j/k", "move"), ("space", "select"), ("a", "all"), ("x", "kill"),
        ("/", "filter"), ("1-8", "sort"), ("Enter", "detail"), ("p", "pause"), ("r", "refresh"),
        ("Tab", "view"), ("q", "quit")]

/-- The footer with the keys, and with the filter where it counts. -/
def hintLine (c : Console) : Line :=
  let spans := (hints c).zipIdx.flatMap fun hint =>
    [⟨if hint.2 = 0 then " " else "  ", .colored .darkGray⟩, ⟨hint.1.1, .key⟩,
      .plain (" " ++ hint.1.2)]
  if c.engine.filter.isEmpty || c.page = .executor then spans
  else spans ++ [⟨"  |  filter: ", .colored .darkGray⟩,
    ⟨c.engine.filter.query, .colored .yellow⟩]

def confirmLine (plan : KillPlan) : Line :=
  [⟨" Kill " ++ toString plan.live.length ++ " process(es)?", .bold .red⟩]
    ++ (if plan.gone.isEmpty then []
      else [⟨" (" ++ toString plan.gone.length ++ " already ended, skipped)", .colored .darkGray⟩])
    ++ [.plain "  ", ⟨"y", .key⟩, .plain " confirm  ", ⟨"any key", .key⟩, .plain " cancel"]

def filterLine (query : String) : Line :=
  [⟨" /", .key⟩, .plain query, ⟨"_", .caret⟩, ⟨"   Enter", .key⟩, .plain " keep  ", ⟨"Esc", .key⟩,
    .plain " clear"]

def footerLine (c : Console) : Line :=
  match c.mode with
  | .confirm plan => confirmLine plan
  | .filter => filterLine c.engine.filter.query
  | .normal => hintLine c

def drawHeader (g : Grid) (a : Area) (c : Console) : Grid :=
  g.putParagraph a { style := .colored (headerColor c) } [headerLine c]

def drawFooter (g : Grid) (a : Area) (c : Console) : Grid :=
  g.putParagraph a {} [footerLine c]

end StatusBar

end SessionMonitor.Screen
