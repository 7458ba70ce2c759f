import CrudBench.CommandLine.Option

/-!
# The words of a command line

Each word is an option, an argument, or the separator after which all words are arguments. A long
option may be abbreviated as long as only one option starts like that, and a value may be attached
to it with an equals sign. Short options may stand together in one word.
-/

namespace CrudBench.CommandLine

/-- A word of a command line. -/
inductive Token where
  /-- A word that can be the value of an option. -/
  | argument (s : String)
  /-- The separator. -/
  | separator
  /-- An option, with the value that is attached to it. -/
  | long (f : Flag) (attached : Option String)
  /-- A short option with what stands behind it in the same word. -/
  | short (f : Flag) (behind : String)
  /-- A word that looks like an option and is none. -/
  | unknown (s : String)
  deriving DecidableEq, Repr

namespace Token

/-- One or more digits. -/
def isNumeral (cs : List Char) : Bool := !cs.isEmpty && cs.all fun c => (Text.digitValue? c).isSome

/-- A minus sign and a number, with or without a point. A final line break does not matter. -/
def isNegativeNumber : List Char → Bool
  | '-' :: cs =>
    let cs := if cs.getLast? = some '\n' then cs.dropLast else cs
    let whole := cs.takeWhile fun c => (Text.digitValue? c).isSome
    isNumeral cs ||
      match cs.drop whole.length with
      | '.' :: fraction => isNumeral fraction
      | _ => false
  | _ => false

/-- What stands before the first equals sign, and what stands behind it. -/
def splitValue (cs : List Char) : List Char × Option (List Char) :=
  (cs.takeWhile (· != '='), match cs.dropWhile (· != '=') with
    | [] => none
    | _ :: value => some value)

/-- A word that starts like an option but is none: a negative number or a word with a blank in it is
an argument. -/
def unmatched (cs : List Char) : Token :=
  if isNegativeNumber cs || cs.contains ' ' then argument (String.ofList cs)
  else unknown (String.ofList cs)

/-- A word that starts with two dashes and may abbreviate an option. -/
def abbreviation (cs : List Char) : Except UsageError Token :=
  let (name, value) := splitValue cs
  match Flag.spelled.filter fun e => name.isPrefixOf e.1.toList with
  | [] => .ok (unmatched cs)
  | [e] => .ok (long e.2 (value.map String.ofList))
  | es => .error (.ambiguous (String.ofList cs) (es.map (·.1)))

/-- A word with one dash: a short option with something behind it, or none. -/
def cluster (cs : List Char) : Token :=
  match Flag.ofSpelling? (String.ofList (cs.take 2)) with
  | some f => short f (String.ofList (cs.drop 2))
  | none => unmatched cs

/-- An option with a value attached by an equals sign. -/
def joined? (cs : List Char) : Option Token :=
  match splitValue cs with
  | (name, some value) =>
    (Flag.ofSpelling? (String.ofList name)).map fun f =>
      if name.take 2 = ['-', '-'] then long f (some (String.ofList value))
      else short f (String.ofList value)
  | _ => none

/-- A word that stands before any separator. -/
def ofWord (s : String) : Except UsageError Token :=
  match s.toList with
  | '-' :: c :: cs =>
    match Flag.ofSpelling? s, joined? ('-' :: c :: cs) with
    | some f, _ => .ok (long f none)
    | none, some t => .ok t
    | none, none =>
      if c = '-' then abbreviation ('-' :: c :: cs) else .ok (cluster ('-' :: c :: cs))
  | _ => .ok (argument s)

/-- All words of a command line. -/
def ofWords : List String → Except UsageError (List Token)
  | [] => .ok []
  | w :: ws =>
    if w = CommandLine.separator then .ok (separator :: ws.map argument)
    else do return (← ofWord w) :: (← ofWords ws)

end Token

end CrudBench.CommandLine
