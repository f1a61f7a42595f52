import SessionMonitor.Decimal.Reading
import SessionMonitor.Toml.Value

/-!
# Scalars of TOML

Strings, numbers, truth values and times. Each reader takes the characters from where it stands and
gives back what it has read and what is left.
-/

namespace SessionMonitor.Toml

/-- A reader: what it reads and the characters left, if it can read. -/
abbrev Reader (α : Type) := List Char → Option (α × List Char)

/-! ### Characters -/

def isSpace (c : Char) : Bool :=
  c = ' ' || c = '\t'

def skipSpace (s : List Char) : List Char :=
  s.dropWhile isSpace

def isCommentChar (c : Char) : Bool :=
  c = '\t' || (0x20 ≤ c.toNat && c.toNat ≠ 0x7F)

def newline? : List Char → Option (List Char)
  | '\n' :: rest => some rest
  | '\r' :: '\n' :: rest => some rest
  | _ => none

def skipComment : List Char → List Char
  | '#' :: rest => rest.dropWhile isCommentChar
  | s => s

def isKeyChar (c : Char) : Bool :=
  c.isAlphanum || c = '_' || c = '-'

def strip? (front s : List Char) : Option (List Char) :=
  if front.isPrefixOf s then some (s.drop front.length) else none

/-! ### Strings -/

def hexValue? (s : List Char) : Option Nat :=
  s.foldlM (fun n c =>
    if Decimal.isDigit c then some (16 * n + (c.toNat - '0'.toNat))
    else if 'a' ≤ c ∧ c ≤ 'f' then some (16 * n + (c.toNat - 'a'.toNat + 10))
    else if 'A' ≤ c ∧ c ≤ 'F' then some (16 * n + (c.toNat - 'A'.toNat + 10))
    else none) 0

def scalar? (digits : List Char) : Option Char := do
  let n ← hexValue? digits
  if n.isValidChar then some (Char.ofNat n) else none

def escape : Reader Char
  | 'b' :: rest => some ('\x08', rest)
  | 't' :: rest => some ('\t', rest)
  | 'n' :: rest => some ('\n', rest)
  | 'f' :: rest => some ('\x0c', rest)
  | 'r' :: rest => some ('\r', rest)
  | '"' :: rest => some ('"', rest)
  | '\\' :: rest => some ('\\', rest)
  | 'u' :: rest => if 4 ≤ rest.length then
      (scalar? (rest.take 4)).map fun c => (c, rest.drop 4) else none
  | 'U' :: rest => if 8 ≤ rest.length then
      (scalar? (rest.take 8)).map fun c => (c, rest.drop 8) else none
  | _ => none

/-- Reads a basic string after its quote; `fuel` bounds the characters. -/
def basicRest : Nat → Reader (List Char)
  | 0, _ => none
  | fuel + 1, s => match s with
    | '"' :: rest => some ([], rest)
    | '\\' :: rest => do
      let (c, rest) ← escape rest
      let (cs, rest) ← basicRest fuel rest
      return (c :: cs, rest)
    | c :: rest =>
      if isCommentChar c then do
        let (cs, rest) ← basicRest fuel rest
        return (c :: cs, rest)
      else none
    | [] => none

def literalRest : Reader (List Char)
  | '\'' :: rest => some ([], rest)
  | c :: rest =>
    if isCommentChar c then (literalRest rest).map fun (cs, rest) => (c :: cs, rest) else none
  | [] => none

def lineString : Reader String
  | '"' :: rest =>
    (basicRest (rest.length + 1) rest).map fun (cs, rest) => (String.ofList cs, rest)
  | '\'' :: rest => (literalRest rest).map fun (cs, rest) => (String.ofList cs, rest)
  | _ => none

def skipBlankLines : List Char → List Char
  | ' ' :: rest => skipBlankLines rest
  | '\t' :: rest => skipBlankLines rest
  | '\n' :: rest => skipBlankLines rest
  | '\r' :: '\n' :: rest => skipBlankLines rest
  | s => s

def runLength (c : Char) (s : List Char) : Nat :=
  (s.takeWhile (· = c)).length

/-- Ends a string over several lines at a run of at least three quotes: the last three end it, and
up to two before them belong to it. -/
def closeQuotes (quote : Char) (s : List Char) : Option (List Char × List Char) :=
  let run := runLength quote s
  if run < 3 then none
  else
    let inside := min (run - 3) 2
    some (List.replicate inside quote, s.drop (inside + 3))

/-- Reads a basic string over several lines after its quotes; `fuel` bounds the characters. -/
def basicLines : Nat → Reader (List Char)
  | 0, _ => none
  | fuel + 1, s =>
    let more (c : List Char) (rest : List Char) : Option (List Char × List Char) :=
      (basicLines fuel rest).map fun (cs, rest) => (c ++ cs, rest)
    match s with
    | '"' :: rest => closeQuotes '"' s <|> more ['"'] rest
    | '\\' :: rest =>
      match newline? (skipSpace rest) with
      | some rest => more [] (skipBlankLines rest)
      | none => (escape rest).bind fun (c, rest) => more [c] rest
    | c :: rest =>
      if isCommentChar c then more [c] rest
      else (newline? s).bind (more ['\n'])
    | [] => none

/-- Reads a literal string over several lines after its quotes; `fuel` bounds the characters. -/
def literalLines : Nat → Reader (List Char)
  | 0, _ => none
  | fuel + 1, s =>
    let more (c : List Char) (rest : List Char) : Option (List Char × List Char) :=
      (literalLines fuel rest).map fun (cs, rest) => (c ++ cs, rest)
    match s with
    | '\'' :: rest => closeQuotes '\'' s <|> more ['\''] rest
    | c :: rest =>
      if isCommentChar c then more [c] rest
      else (newline? s).bind (more ['\n'])
    | [] => none

def skipNewline (s : List Char) : List Char :=
  (newline? s).getD s

def string : Reader String
  | '"' :: '"' :: '"' :: rest =>
    let rest := skipNewline rest
    (basicLines (rest.length + 1) rest).map fun (cs, rest) => (String.ofList cs, rest)
  | '\'' :: '\'' :: '\'' :: rest =>
    let rest := skipNewline rest
    (literalLines (rest.length + 1) rest).map fun (cs, rest) => (String.ofList cs, rest)
  | s => lineString s

/-! ### Numbers -/

/-- Reads one or more characters that satisfy `p`, with single underscores between. -/
def grouped (p : Char → Bool) : Reader (List Char)
  | c :: '_' :: rest =>
    if p c then (grouped p rest).map fun (cs, rest) => (c :: cs, rest) else none
  | c :: rest =>
    if p c then
      match grouped p rest with
      | some (cs, rest) => some (c :: cs, rest)
      | none => some ([c], rest)
    else none
  | [] => none

def danglesUnderscore : List Char → Bool
  | '_' :: _ => true
  | _ => false

def digits (p : Char → Bool) : Reader (List Char) := fun s => do
  let (cs, rest) ← grouped p s
  if danglesUnderscore rest then none else some (cs, rest)

/-- Reads a sign and digits that do not begin with a zero, or a lone zero. -/
def signedDigits : Reader (Bool × List Char) := fun s => do
  let (negative, s) := Decimal.splitSign s
  match s with
  | '0' :: rest => some ((negative, ['0']), rest)
  | _ => do
    let (cs, rest) ← digits Decimal.isDigit s
    return ((negative, cs), rest)

def fits (n : Int) : Option Int :=
  if Int64.minValue.toInt ≤ n ∧ n ≤ Int64.maxValue.toInt then some n else none

def digitValue (c : Char) : Nat :=
  (hexValue? [c]).getD 16

def based (base : Nat) : Reader Int := fun s => do
  let (cs, rest) ← digits (fun c => digitValue c < base) s
  let n ← fits (cs.foldl (fun n c => base * n + digitValue c) 0 : Nat)
  return (n, rest)

def integer : Reader Int
  | '0' :: 'x' :: rest => based 16 rest
  | '0' :: 'o' :: rest => based 8 rest
  | '0' :: 'b' :: rest => based 2 rest
  | s => do
    let ((negative, cs), rest) ← signedDigits s
    let magnitude : Int := Decimal.valueFrom 0 cs
    let n ← fits (if negative then -magnitude else magnitude)
    return (n, rest)

def exponent : Reader Int := fun s => do
  let (negative, s) := Decimal.splitSign s
  let (cs, rest) ← digits Decimal.isDigit s
  let magnitude : Int := Decimal.valueFrom 0 cs
  return (if negative then -magnitude else magnitude, rest)

def exponentPart : Reader (Option Int)
  | 'e' :: rest => (exponent rest).map fun (e, rest) => (some e, rest)
  | 'E' :: rest => (exponent rest).map fun (e, rest) => (some e, rest)
  | s => some (none, s)

def decimal : Reader Float := fun s => do
  let ((negative, whole), rest) ← signedDigits s
  let (places, rest) ← match rest with
    | '.' :: rest => digits Decimal.isDigit rest
    | rest => some ([], rest)
  let (e, rest) ← exponentPart rest
  if places.isEmpty && e.isNone then none
  else
    let l : Decimal.Literal :=
      ⟨negative, Decimal.valueFrom (Decimal.valueFrom 0 whole) places,
        e.getD 0 - places.length⟩
    let x := l.toFloat
    if x.isInf && 0.0 < x then none else some (x, rest)

def namedFloat : Reader Float := fun s =>
  let (negative, s) := Decimal.splitSign s
  match s with
  | 'i' :: 'n' :: 'f' :: rest => some (if negative then -(1.0 / 0.0) else 1.0 / 0.0, rest)
  | 'n' :: 'a' :: 'n' :: rest => some (0.0 / 0.0, rest)
  | _ => none

/-! ### Times -/

def fixedNumber (count least most : Nat) : Reader Nat := fun s => do
  let cs := s.take count
  if cs.length < count then none
  else
    let n ← Decimal.natural? cs
    if least ≤ n ∧ n ≤ most then some (n, s.drop count) else none

def exactly (c : Char) : List Char → Option (List Char)
  | d :: rest => if d = c then some rest else none
  | [] => none

def daysIn (year month : Nat) : Nat :=
  if month = 2 then
    if year % 4 = 0 ∧ (year % 100 ≠ 0 ∨ year % 400 = 0) then 29 else 28
  else if month = 4 ∨ month = 6 ∨ month = 9 ∨ month = 11 then 30
  else 31

def date? (s : List Char) : Option (List Char) := do
  let (year, s) ← fixedNumber 4 0 9999 s
  let s ← exactly '-' s
  let (month, s) ← fixedNumber 2 1 12 s
  let s ← exactly '-' s
  return (← fixedNumber 2 1 (daysIn year month) s).2

def time? (s : List Char) : Option (List Char) := do
  let s ← exactly ':' (← fixedNumber 2 0 23 s).2
  let s ← exactly ':' (← fixedNumber 2 0 59 s).2
  let s := (← fixedNumber 2 0 60 s).2
  match s with
  | '.' :: rest =>
    let (places, rest) := Decimal.spanDigits rest
    if places.isEmpty then none else some rest
  | _ => some s

def offset? (s : List Char) : Option (List Char) :=
  match s with
  | 'Z' :: rest => some rest
  | 'z' :: rest => some rest
  | c :: rest =>
    if c = '+' ∨ c = '-' then do
      let s ← exactly ':' (← fixedNumber 2 0 23 rest).2
      return (← fixedNumber 2 0 59 s).2
    else some s
  | [] => some s

def timePart? (s : List Char) : Option (List Char) :=
  match s with
  | c :: rest => if c = 'T' ∨ c = 't' ∨ c = ' ' then (time? rest).bind offset? else none
  | [] => none

def moment : Reader String := fun s =>
  let rest? := match date? s with
    | some rest => some ((timePart? rest).getD rest)
    | none => time? s
  rest?.map fun rest => (String.ofList (s.take (s.length - rest.length)), rest)

/-! ### All scalars -/

def scalar : Reader Value
  | [] => none
  | c :: rest =>
    let s := c :: rest
    if c = '"' ∨ c = '\'' then (string s).map fun (v, rest) => (.string v, rest)
    else if c = 't' then (strip? "true".toList s).map fun rest => (.bool true, rest)
    else if c = 'f' then (strip? "false".toList s).map fun rest => (.bool false, rest)
    else
      ((moment s).map fun (v, rest) => (.moment v, rest))
        <|> ((decimal s <|> namedFloat s).map fun (v, rest) => (.float v, rest))
        <|> (integer s).map fun (v, rest) => (.integer v, rest)

end SessionMonitor.Toml
