import SessionMonitor.Console

/-!
# Styles

Colours and emphasis of cells, and which of them mean what.
-/

namespace SessionMonitor.Screen

inductive Color where
  | blue
  | cyan
  | darkGray
  | green
  | magenta
  | red
  | white
  | yellow
  | rgb (red green blue : UInt8)
deriving DecidableEq, Repr

structure Emphasis where
  bold : Bool := false
  dim : Bool := false
  italic : Bool := false
  underlined : Bool := false
  slowBlink : Bool := false
deriving DecidableEq, Repr

def Emphasis.union (a b : Emphasis) : Emphasis where
  bold := a.bold || b.bold
  dim := a.dim || b.dim
  italic := a.italic || b.italic
  underlined := a.underlined || b.underlined
  slowBlink := a.slowBlink || b.slowBlink

/-- Colours, where they are not those of the terminal, and emphasis. -/
structure Style where
  foreground : Option Color := none
  background : Option Color := none
  emphasis : Emphasis := {}
deriving DecidableEq, Repr

namespace Style

def plain : Style := {}

def colored (color : Color) : Style := { foreground := some color }

def bold (color : Color) : Style := { foreground := some color, emphasis := { bold := true } }

/-- Lays a style over another: what it sets replaces, and emphasis adds up. -/
def patch (under above : Style) : Style where
  foreground := above.foreground <|> under.foreground
  background := above.background <|> under.background
  emphasis := under.emphasis.union above.emphasis

/-! ### What styles mean -/

def key : Style := bold .cyan

def label : Style := bold .darkGray

def remark : Style := { foreground := some .darkGray, emphasis := { italic := true } }

def caret : Style := { emphasis := { slowBlink := true } }

end Style

def noticeColor : NoticeLevel → Color
  | .info => .green
  | .error => .red

def commandColor (command : String) : Color :=
  if command = "Query" ∨ command = "Execute" then .blue
  else if command = "Sleep" then .darkGray
  else if command = "Killed" then .red
  else .magenta

/-- The background of a row. That a session waits outranks the cursor. -/
def rowBackground (waiting underCursor : Bool) : Option Color :=
  if waiting then some (.rgb 50 40 0)
  else if underCursor then some (.rgb 30 30 40)
  else none

end SessionMonitor.Screen
