import CrudBench.Data.OrderedMap
import CrudBench.Data.SortedMap
import CrudBench.Settings.VariablesFile
import CrudBench.Text.Case

/-!
# Environment variables

Variables files are loaded into an environment. The variables that are set already win over those
that a file assigns, and a value may refer to other variables. Not every text can be the name or the
value of a variable.
-/

namespace CrudBench

/-- Environment variables. -/
abbrev Environment := SortedMap String

namespace Environment

/-! ## References between variables -/

/-- A reference to a variable, and how many characters it takes up. -/
structure Reference where
  name : String
  /-- What stands for a variable that is not there. -/
  fallback : String
  length : Nat

/-- The reference that a text starts with: a name in braces behind a dollar sign, and behind the
name, if a colon and a dash follow it, what stands for it otherwise. -/
def reference? : List Char → Option Reference
  | '$' :: '\x7b' :: cs =>
    let name := cs.takeWhile fun c => !(c == '\x7d' || c == ':')
    match cs.drop name.length with
    | '\x7d' :: _ => some ⟨String.ofList name, "", name.length + 3⟩
    | ':' :: '-' :: rest =>
      let fallback := rest.takeWhile (· != '\x7d')
      if fallback.length < rest.length then
        some ⟨String.ofList name, String.ofList fallback, name.length + fallback.length + 5⟩
      else none
    | _ => none
  | _ => none

/-- Replaces references by values; so many characters are part of a reference still. -/
def expand (value : Reference → String) : (skip : Nat) → List Char → List Char
  | _, [] => []
  | skip + 1, _ :: cs => expand value skip cs
  | 0, c :: cs =>
    match reference? (c :: cs) with
    | some r => (value r).toList ++ expand value (r.length - 1) cs
    | none => c :: expand value 0 cs

/-- The value of a reference: the variable that is set, or else the one that was assigned. One that
was assigned without a value is empty. -/
def valueOf (env : Environment) (assigned : OrderedMap (Option String)) (r : Reference) : String :=
  match env.get? r.name, assigned.get? r.name with
  | some s, _ => s
  | none, some s => s.getD ""
  | none, none => r.fallback

/-- What variables are assigned, one after the other. The last assignment to a variable counts, and
the first one gives its place. -/
def resolve (env : Environment) (as : List Assignment) : OrderedMap (Option String) :=
  as.foldl
    (fun assigned a =>
      assigned.insert a.name
        (a.value.map fun cs => String.ofList (expand (env.valueOf assigned) 0 cs)))
    .empty

/-! ## Loading files -/

/-- Why a variable cannot be set. -/
inductive Refusal where
  /-- Its name or its value holds the character that would end it. -/
  | nulCharacter
  /-- Its name holds the character that would end it. -/
  | equalsSign
  deriving DecidableEq, Repr

/-- The wording of a refusal. -/
def Refusal.message : Refusal → String
  | nulCharacter => "embedded null byte"
  | equalsSign => "illegal environment variable name"

/-- A change of an environment. If it is refused, what was changed before stays. -/
abbrev Change := EStateM Refusal Environment

/-- Sets a variable. -/
def set (name value : String) : Change Unit := do
  if name.toList.contains '\x00' || value.toList.contains '\x00' then throw .nulCharacter
  if name.toList.contains '=' then throw .equalsSign
  modify (·.insert name value)

/-- The variable that keeps files from being loaded. -/
def fileSwitch : String := "PYTHON_DOTENV_DISABLED"

/-- No file is to be loaded. -/
def ignoresFiles (env : Environment) : Bool :=
  (env.get? fileSwitch).any fun s => ["1", "true", "t", "yes", "y"].contains (Text.lower s)

/-- Sets the variables that are assigned a value and not set yet, unless no file is to be loaded. -/
def load (file : VariablesFile) : Change Unit := do
  let env ← get
  unless env.ignoresFiles do
    (env.resolve file.assignments).entries.forM fun e =>
      match e.2 with
      | some value => unless env.contains e.1 do set e.1 value
      | none => return

end Environment

end CrudBench
