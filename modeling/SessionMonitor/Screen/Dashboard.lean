import SessionMonitor.Decimal.Layout
import SessionMonitor.Screen.Grid
import SessionMonitor.Text.Layout
import SessionMonitor.Text.Truncate

/-!
# The dashboard

Cards with what the last snapshot comes to, bars for the users and the commands, and the load over
the last snapshots.
-/

namespace SessionMonitor.Screen.Dashboard

/-! ### Cards -/

def countLines (summary : Summary) : List Line :=
  [.empty, .styled ("  " ++ toString summary.sessionCount) (.bold .cyan),
    .styled "  sessions" .label]

def blockedLines : Option Session → List Line
  | none => [.empty, .styled "  No waiting sessions" (.colored .green)]
  | some session => [
      [⟨"  Id: ", .label⟩, ⟨session.id.text, .bold .red⟩, ⟨"  User: ", .label⟩,
        ⟨session.user, .colored .white⟩, ⟨"  Time: ", .label⟩,
        ⟨session.time.display, .colored .white⟩],
      [⟨"  State: ", .label⟩, ⟨session.state.getD "", .colored .yellow⟩],
      [⟨"  Info: ", .label⟩,
        ⟨Text.truncate (session.statement?.getD "NULL") 60, .colored .white⟩]]

def totalLines (summary : Summary) : List Line :=
  [.empty, [⟨"  CPU:    ", .label⟩, .plain (Decimal.onePlace summary.totalCpu)],
    [⟨"  Memory: ", .label⟩, .plain (Decimal.onePlace summary.totalMemory)]]

/-! ### Bars -/

def greatest (ns : List Nat) : Nat :=
  ns.foldl max 0

def labelWidth (groups : Groups) : Nat :=
  min 16 (greatest (groups.entries.map fun entry => entry.1.toList.length))

/-- The label of a group; one without a name says so. -/
def groupLabel (key : String) (width : Nat) : String :=
  let label := if key.isEmpty then "(none)" else key
  " " ++ Text.padRight (Text.truncate label width) width ++ " "

def nearest (x : Float) : Nat :=
  match Decimal.Dyadic.ofFloat? x with
  | some d => Decimal.roundDiv d.ratio.1 d.ratio.2 .up
  | none => 0

/-- How many cells of `width` a bar for `count` out of `most` fills, at least one if any. -/
def barLength (count most width : Nat) : Nat :=
  if most = 0 ∨ count = 0 ∨ width = 0 then 0
  else min width (max 1 (nearest (Float.ofNat count / Float.ofNat most * Float.ofNat width)))

def groupLines (groups : Groups) (room : Nat) (color : Color) : List Line :=
  let width := labelWidth groups
  let most := greatest (groups.entries.map (·.2))
  let barWidth := max 1 (room - (width + 8))
  groups.entries.map fun entry => [
    ⟨groupLabel entry.1 width, .colored .white⟩,
    ⟨String.ofList (List.replicate (barLength entry.2 most barWidth) '█'), .colored color⟩,
    ⟨" " ++ toString entry.2, .colored .darkGray⟩]

/-! ### Trends -/

def blocks : List Char := ['▁', '▂', '▃', '▄', '▅', '▆', '▇', '█']

def lesser (x y : Float) : Float := if y < x then y else x

def greater (x y : Float) : Float := if x < y then y else x

def position (least range x : Float) : Float :=
  if !x.isFinite then 0.0
  else if 0.0 < range then
    let ratio := (x - least) / range
    if ratio < 0.0 then 0.0 else if 1.0 < ratio then 1.0 else ratio
  else 0.5

def block (position : Float) : Char :=
  (blocks[min 7 (position * 7.0).toUInt64.toNat]?).getD ' '

/-- The last values that fit a width, as blocks between the least and the greatest of them. -/
def trend (values : List Float) (width : Nat) : String :=
  let window := values.drop (values.length - width)
  let finite := window.filter Float.isFinite
  let least := finite.foldl lesser (1.0 / 0.0)
  let range := finite.foldl greater (-(1.0 / 0.0)) - least
  String.ofList (window.map fun x => block (position least range x))

def trendLine (label : String) (values : List Float) (width : Nat) (color : Color) : Line :=
  [⟨label, .label⟩, ⟨trend values width, .colored color⟩,
    .plain (match values.getLast? with
      | some x => " " ++ Decimal.onePlace x
      | none => "")]

def trendLines (history : History) (room : Nat) : List Line :=
  [trendLine "  CPU    " history.cpuSeries room .green,
    trendLine "  Memory " history.memorySeries room .blue]

def historyTitle (history : History) : String :=
  " History (last " ++ toString history.samples.length ++ " of " ++ toString history.capacity
    ++ ") "

/-! ### Drawing -/

def draw (g : Grid) (a : Area) (c : Console) : Grid :=
  let summary := c.engine.summary
  let (cards, bars, trends) := a.stack 6 4 4
  let blocked := c.engine.blocked?
  let g := g.putParagraph (cards.share 0 20) { title := " Active " } (countLines summary)
  let g := g.putParagraph (cards.share 20 75)
    { title := " Blocking ", style := .colored (if blocked.isSome then .red else .darkGray) }
    (blockedLines blocked)
  let g := g.putParagraph (cards.share 75 100) { title := " Totals " } (totalLines summary)
  let groups (g : Grid) (a : Area) (title : String) (groups : Groups) (color : Color) : Grid :=
    g.putParagraph a { title := title } (groupLines groups (a.width - 2) color)
  let g := groups g (bars.share 0 50) " By User " summary.byUser .cyan
  let g := groups g (bars.share 50 100) " By Command " summary.byCommand .magenta
  g.putParagraph trends { title := historyTitle c.engine.history }
    (trendLines c.engine.history (trends.width - 14))

end SessionMonitor.Screen.Dashboard
