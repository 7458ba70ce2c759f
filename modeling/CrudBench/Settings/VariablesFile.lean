import CrudBench.Text.Blank

/-!
# Variables files

A variables file holds assignments, one after the other. Names and values may be quoted, a quoted
value may go over several lines, and comments start with a number sign. A statement that is no
assignment is skipped to the end of its line; where such statements start is kept.
-/

namespace CrudBench

/-- A statement that names a variable. Without an equals sign there is no value. -/
structure Assignment where
  name : String
  value : Option (List Char)
  deriving DecidableEq

/-- A statement: an assignment, a comment or nothing, or none that can be read. -/
inductive Statement where
  | assignment (a : Assignment)
  | comment
  | unreadable
  deriving DecidableEq

/-- What a variables file holds: its assignments from top to bottom, and the lines in which the
statements start that are none. -/
structure VariablesFile where
  assignments : List Assignment
  unreadable : List Nat
  deriving DecidableEq

namespace VariablesFile

/-- The character ends a line. -/
def isLineEnd (c : Char) : Bool := c == '\n' || c == '\r'

/-- The character is a blank inside a line. -/
def isInline (c : Char) : Bool := Text.isBlankChar c && !isLineEnd c

/-- Skips blanks inside a line. -/
def skipInline (cs : List Char) : List Char := cs.dropWhile isInline

/-- Skips what is left of a line. -/
def skipLine (cs : List Char) : List Char := cs.dropWhile (!isLineEnd ·)

/-- Skips the word that may stand before a name. -/
def skipExport (cs : List Char) : List Char :=
  match "export".toList.isPrefixOf? cs with
  | some (c :: rest) => if isInline c then skipInline rest else cs
  | _ => cs

/-- Skips a comment, if there is one. -/
def skipComment (cs : List Char) : List Char :=
  if (skipInline cs).head? = some '#' then skipLine cs else cs

/-- The characters before the closing quote, and those behind it. A backslash and the character
behind it belong together, so that this one closes nothing. -/
def untilQuote (quote : Char) : List Char → Option (List Char × List Char)
  | [] => none
  | '\\' :: c :: cs => (untilQuote quote cs).map fun r => ('\\' :: c :: r.1, r.2)
  | c :: cs =>
    if c = quote then some ([], cs) else (untilQuote quote cs).map fun r => (c :: r.1, r.2)

/-- What backslashes stand for between single quotes. -/
def singleEscapes : List (Char × Char) := [('\\', '\\'), ('\'', '\'')]

/-- What backslashes stand for between double quotes. -/
def doubleEscapes : List (Char × Char) :=
  [('\\', '\\'), ('\'', '\''), ('"', '"'), ('a', '\x07'), ('b', '\x08'), ('f', '\x0c'),
    ('n', '\n'), ('r', '\r'), ('t', '\t'), ('v', '\x0b')]

/-- Replaces escapes by what they stand for. A backslash before any other character stays. -/
def unescape (escapes : List (Char × Char)) : List Char → List Char
  | c :: d :: cs =>
    if c = '\\' then
      match escapes.lookup d with
      | some x => x :: unescape escapes cs
      | none => c :: unescape escapes (d :: cs)
    else c :: unescape escapes (d :: cs)
  | cs => cs

/-- The characters before a comment, which is set off by a blank. -/
def beforeComment : List Char → List Char
  | c :: d :: cs => if Text.isBlankChar c ∧ d = '#' then [] else c :: beforeComment (d :: cs)
  | cs => cs

/-- Removes blanks at the end. -/
def trimEnd (cs : List Char) : List Char := (cs.reverse.dropWhile Text.isBlankChar).reverse

/-- Reads from a file; where that fails the place is kept. -/
abbrev Reader := EStateM Unit (List Char)

/-- Reads a quoted text behind its opening quote. -/
def readQuoted (quote : Char) : Reader (List Char) := do
  match untilQuote quote (← get).tail with
  | some (body, rest) =>
    set rest
    return body
  | none => throw ()

/-- Reads a name, if no comment stands in its place. -/
def readName : Reader (Option String) := do
  match (← get).head? with
  | some '#' => return none
  | some '\'' =>
    let body := (← get).tail.takeWhile (· != '\'')
    match (← get).drop (body.length + 1) with
    | _ :: rest =>
      if body.isEmpty then throw ()
      set rest
      return some (String.ofList body)
    | [] => throw ()
  | _ =>
    let name := (← get).takeWhile fun c => !(Text.isBlankChar c || c == '=' || c == '#')
    if name.isEmpty then throw ()
    modify (·.drop name.length)
    return some (String.ofList name)

/-- Reads a value. -/
def readValue : Reader (List Char) := do
  match (← get).head? with
  | some '\'' => return unescape singleEscapes (← readQuoted '\'')
  | some '"' => return unescape doubleEscapes (← readQuoted '"')
  | _ =>
    let line := (← get).takeWhile (!isLineEnd ·)
    modify skipLine
    return trimEnd (beforeComment line)

/-- Reads the value of an assignment, if there is an equals sign. A number sign at once behind it is
part of a value, one behind blanks starts a comment in place of a value. -/
def readAssigned : Reader (Option (List Char)) := do
  match ← get with
  | '=' :: rest =>
    set (skipInline rest)
    if rest.head?.any isInline && (← get).head? == some '#' then return some []
    return some (← readValue)
  | _ => return none

/-- Reads the blanks at the end of a line and the end itself. Nothing else may stand there. -/
def readLineEnd : Reader Unit := do
  match skipInline (← get) with
  | [] => set ([] : List Char)
  | '\r' :: '\n' :: rest => set rest
  | c :: rest => if isLineEnd c then set rest else throw ()

/-- Reads an assignment, or a comment in its place. -/
def readAssignment : Reader (Option Assignment) := do
  modify skipExport
  let name ← readName
  modify skipInline
  let value ← readAssigned
  modify skipComment
  readLineEnd
  return name.map fun n => ⟨n, value⟩

/-- The number of line ends. A carriage return and a line feed behind it are one. -/
def lineEnds : List Char → Nat
  | '\r' :: '\n' :: cs => lineEnds cs + 1
  | c :: cs => lineEnds cs + if isLineEnd c then 1 else 0
  | [] => 0

/-- Reads a statement. Blank lines count to the one behind them, and what cannot be read is skipped
to the end of its line. -/
def readStatement (text : List Char) : Statement × List Char :=
  match text.dropWhile Text.isBlankChar with
  | [] => (.comment, [])
  | c :: cs =>
    match readAssignment (c :: cs) with
    | .ok a rest => (a.elim .comment .assignment, rest)
    | .error _ place => (.unreadable, (skipLine place).drop 1)

/-- The statements of a text whose first line has the given number, each with the line in which it
starts. -/
def statements (line : Nat) (text : List Char) : List (Nat × Statement) :=
  let (s, rest) := readStatement text
  if _h : rest.length < text.length then
    (line, s) ::
      statements (line + lineEnds (text.take (text.length - rest.length))) rest
  else []
termination_by text.length

/-- What these statements say. -/
def ofStatements (ss : List (Nat × Statement)) : VariablesFile where
  assignments := ss.filterMap fun s => match s.2 with
    | .assignment a => some a
    | _ => none
  unreadable := (ss.filter fun s => decide (s.2 = .unreadable)).map (·.1)

/-- What a text holds. A byte order mark at its start does not count. -/
def ofText (text : String) : VariablesFile :=
  match text.toList with
  | '\ufeff' :: cs => ofStatements (statements 1 cs)
  | cs => ofStatements (statements 1 cs)

end VariablesFile

end CrudBench
