import SessionMonitor.Toml.Scalar

/-!
# TOML documents

Documents of TOML 1.0: keys, arrays, inline tables, headings and lines.
-/

namespace SessionMonitor.Toml

/-! ### Keys -/

def simpleKey : Reader String := fun s =>
  match s with
  | '"' :: _ => lineString s
  | '\'' :: _ => lineString s
  | _ =>
    let (name, rest) := s.span isKeyChar
    if name.isEmpty then none else some (String.ofList name, rest)

/-- Reads the parts of a key, with points between; `fuel` bounds their number. -/
def keyParts : Nat → Reader (List String)
  | 0, _ => none
  | fuel + 1, s => do
    let (part, rest) ← simpleKey (skipSpace s)
    match skipSpace rest with
    | '.' :: rest => do
      let (parts, rest) ← keyParts fuel rest
      return (part :: parts, rest)
    | rest => some ([part], rest)

def depthLimit : Nat := 79

def key : Reader (List String × String) := fun s => do
  let (parts, rest) ← keyParts depthLimit s
  let last ← parts.getLast?
  return ((parts.dropLast, last), rest)

/-! ### Arrays and inline tables -/

/-- Skips blanks, comments and ends of lines; `fuel` bounds their number. -/
def skipFiller : Nat → List Char → List Char
  | 0, s => s
  | fuel + 1, s =>
    let rest := skipComment (skipSpace s)
    match newline? rest with
    | some rest => skipFiller fuel rest
    | none => rest

def skipBetween (s : List Char) : List Char :=
  skipFiller (s.length + 1) s

/-- Reads the items of an array and its end; `fuel` bounds their number. -/
def arrayItems (item : Reader Value) : Nat → Reader (List Value)
  | 0, _ => none
  | fuel + 1, s =>
    match skipBetween s with
    | ']' :: rest => some ([], rest)
    | s => do
      let (v, rest) ← item s
      match skipBetween rest with
      | ',' :: rest => do
        let (vs, rest) ← arrayItems item fuel rest
        return (v :: vs, rest)
      | ']' :: rest => some ([v], rest)
      | _ => none

def inlineFields (item : Reader Value) : Nat → Nodes → Reader Nodes
  | 0, _, _ => none
  | fuel + 1, done, s => do
    let ((path, name), rest) ← key s
    let rest ← exactly '=' rest
    let (v, rest) ← item (skipSpace rest)
    let done ← Nodes.setKey path name v .heading done
    match skipSpace rest with
    | ',' :: rest => inlineFields item fuel done rest
    | '}' :: rest => some (done, rest)
    | _ => none

def inlineTable (item : Reader Value) : Reader Value := fun s =>
  match skipSpace s with
  | '}' :: rest => some (.table [], rest)
  | s => (inlineFields item (s.length + 1) [] s).map fun (fields, rest) =>
    (.table (Node.fieldValues fields), rest)

/-- Reads a value with at most `depth` containers one in the other. -/
def valueWithin : Nat → Reader Value
  | depth, s => match s with
    | '[' :: rest => match depth with
      | 0 => none
      | depth + 1 => (arrayItems (valueWithin depth) (rest.length + 1) rest).map
          fun (items, rest) => (.array items, rest)
    | '{' :: rest => match depth with
      | 0 => none
      | depth + 1 => inlineTable (valueWithin depth) rest
    | s => scalar s

def value : Reader Value :=
  valueWithin depthLimit

/-! ### Lines -/

/-- A document that is being read: all tables, and the way to the one that is being filled. -/
structure Building where
  root : Nodes
  current : List String

/-- The rest after a line of which nothing may follow but a comment. -/
def lineEnd? (s : List Char) : Option (List Char) :=
  match skipComment (skipSpace s) with
  | [] => some []
  | s => newline? s

def arrayHeading (b : Building) : Reader Building := fun s => do
  let ((path, name), rest) ← key s
  let rest ← strip? [']', ']'] rest
  let root ← Nodes.pushTable path name b.root
  return (⟨root, path ++ [name]⟩, ← lineEnd? rest)

def tableHeading (b : Building) : Reader Building := fun s => do
  let ((path, name), rest) ← key s
  let rest ← exactly ']' rest
  let root ← Nodes.openTable path name b.root
  return (⟨root, path ++ [name]⟩, ← lineEnd? rest)

def assignment (b : Building) : Reader Building := fun s => do
  let ((path, name), rest) ← key s
  let rest ← exactly '=' rest
  let (v, rest) ← value (skipSpace rest)
  let root ← Nodes.alterAt false (Nodes.setKey path name v) .heading b.current b.root
  return ({ b with root := root }, ← lineEnd? rest)

def line (b : Building) : Reader Building
  | '[' :: '[' :: rest => arrayHeading b rest
  | '[' :: rest => tableHeading b rest
  | s => assignment b s

def lines : Nat → Building → List Char → Option Building
  | 0, _, _ => none
  | fuel + 1, b, s =>
    match lineEnd? s with
    | some [] => some b
    | some rest => lines fuel b rest
    | none => do
      let (b, rest) ← line b (skipSpace s)
      lines fuel b rest

/-- The fields of a document, without the mark that may stand before it. -/
def ofText? (text : String) : Option (List (String × Value)) := do
  let s := match text.toList with
    | '\ufeff' :: rest => rest
    | s => s
  let b ← lines (s.length + 2) ⟨[], []⟩ s
  return Node.fieldValues b.root

end SessionMonitor.Toml
