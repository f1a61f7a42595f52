import SessionMonitor.Screen.Style
import SessionMonitor.Text.Blank
import SessionMonitor.Text.Width

/-!
# Lines

Text with styles, cut into what fits a cell, and broken into lines of a given width.
-/

namespace SessionMonitor.Screen

structure Span where
  text : String
  style : Style
deriving DecidableEq, Repr

abbrev Line := List Span

/-- What a cell shows: a character with the marks upon it. -/
structure Glyph where
  base : Char
  marks : List Char
  style : Style
deriving DecidableEq, Repr

namespace Glyph

def symbol (g : Glyph) : String :=
  String.ofList (g.base :: g.marks)

def width (g : Glyph) : Nat :=
  Text.charWidth g.base

def isBlank (g : Glyph) : Bool :=
  g.base ≠ '\u00a0' && Text.isBlank g.base

end Glyph

namespace Span

def plain (text : String) : Span := ⟨text, .plain⟩

def isControl (c : Char) : Bool :=
  c.toNat < 0x20 || (0x7F ≤ c.toNat && c.toNat < 0xA0)

/-- Whether `c` belongs to the glyph of `base`: marks do, and a line feed after a carriage
return. -/
def joins (base c : Char) : Bool :=
  if c = '\n' then base = '\r' else Text.charWidth c = 0 && !isControl base

/-- The glyphs of characters in one style. A line feed and a mark by itself show nothing. -/
def glyphsOf (style : Style) (s : List Char) : List Glyph :=
  (s.foldl (fun done c =>
    let fresh : List Glyph :=
      if c = '\n' || Text.charWidth c = 0 then done else ⟨c, [], style⟩ :: done
    match done with
    | last :: rest =>
      if joins last.base c then { last with marks := last.marks ++ [c] } :: rest else fresh
    | [] => fresh) []).reverse

def glyphs (s : Span) : List Glyph :=
  glyphsOf s.style s.text.toList

end Span

def glyphsWidth (glyphs : List Glyph) : Nat :=
  glyphs.foldr (fun glyph n => glyph.width + n) 0

def clip : Nat → List Glyph → List Glyph
  | _, [] => []
  | width, g :: rest => if g.width ≤ width then g :: clip (width - g.width) rest else []

namespace Line

def styled (text : String) (style : Style) : Line := [⟨text, style⟩]

def plain (text : String) : Line := [.plain text]

def empty : Line := []

def glyphs (line : Line) : List Glyph :=
  line.flatMap Span.glyphs

end Line

/-! ### Breaking lines -/

/-- The finished lines in reverse, the line that is being filled, and behind it blanks and a word
that may still go to the next one. -/
structure Breaking where
  done : List (List Glyph)
  line : List Glyph
  blanks : List Glyph
  word : List Glyph
  inWord : Bool

namespace Breaking

def dropFitting : Nat → List Glyph → List Glyph
  | _, [] => []
  | width, g :: rest => if g.width ≤ width then dropFitting (width - g.width) rest else g :: rest

def commit (b : Breaking) : Breaking :=
  { b with line := b.line ++ b.blanks ++ b.word, blanks := [], word := [] }

/-- Ends the line. Of the blanks behind it, those that would still fit are dropped. -/
def endLine (b : Breaking) (width : Nat) : Breaking :=
  { b with
    done := b.line :: b.done
    line := []
    blanks := dropFitting (width - glyphsWidth b.line) b.blanks }

def append (b : Breaking) (g : Glyph) : Breaking :=
  if g.isBlank then { b with blanks := b.blanks ++ [g], inWord := false }
  else { b with word := b.word ++ [g], inWord := true }

/-- Takes one glyph. A word goes to the line when a blank follows it, or when it fits no line of its
own. -/
def step (width : Nat) (b : Breaking) (g : Glyph) : Breaking :=
  if width < g.width then b
  else
    let tooLong := b.line.isEmpty
      && width < glyphsWidth b.word + glyphsWidth b.blanks + g.width
    let b := if (b.inWord && g.isBlank) || tooLong then b.commit else b
    if width ≤ glyphsWidth b.line + glyphsWidth b.blanks + glyphsWidth b.word then
      let b := b.endLine width
      if g.isBlank && b.blanks.isEmpty then b else b.append g
    else b.append g

def finish (b : Breaking) : List (List Glyph) :=
  let b := if b.line.isEmpty && b.word.isEmpty && !b.blanks.isEmpty then
    { b with done := [] :: b.done } else b
  let rest := b.line ++ b.blanks ++ b.word
  let lines := if rest.isEmpty then b.done else rest :: b.done
  if lines.isEmpty then [[]] else lines.reverse

end Breaking

/-- The glyphs of a line, broken into lines of at most `width` cells between words. -/
def breakGlyphs (width : Nat) (glyphs : List Glyph) : List (List Glyph) :=
  (glyphs.foldl (Breaking.step width) ⟨[], [], [], [], false⟩).finish

end SessionMonitor.Screen
