/-!
# Clocks and timers

A clock moves on by a tick whenever it is read; its ticks recur. A timer reads a clock when it is
started and when it is stopped, and tells the time between the two in milliseconds.
-/

namespace CrudBench

/-- A clock: its recurring ticks in seconds, the time it shows, and how often it was read. -/
structure Clock where
  ticks : List Float
  now : Float
  taken : Nat

namespace Clock

/-- A clock that shows zero. -/
def new (ticks : List Float) : Clock := ⟨ticks, 0.0, 0⟩

/-- The tick that is due at the next reading. -/
def tick (c : Clock) : Float := (c.ticks[c.taken % c.ticks.length]?).getD 0.0

/-- The clock after one more reading. -/
def advance (c : Clock) : Clock := { c with now := c.now + c.tick, taken := c.taken + 1 }

/-- Reads the clock, which moves on before it answers. -/
def read (c : Clock) : Float × Clock := (c.advance.now, c.advance)

end Clock

/-- The milliseconds between two readings. -/
def elapsedMs (start stop : Float) : Float := (stop - start) * 1000

/-- A timer: when it was started last, and what it measured last. -/
structure Timer where
  started : Option Float
  elapsed : Float

namespace Timer

/-- A timer that has measured nothing. -/
def new : Timer := ⟨none, 0.0⟩

/-- Starts the timer at a reading. -/
def start (t : Timer) (now : Float) : Timer := { t with started := some now }

/-- Why a timer cannot be stopped. -/
inductive Misuse where
  | notStarted
  deriving DecidableEq, Repr

/-- The wording of the misuse: there is no reading to subtract. -/
def Misuse.message : Misuse → String
  | notStarted => "unsupported operand type(s) for -: 'float' and 'NoneType'"

/-- Stops the timer at a reading. It stays at its last start, so it can be stopped again. -/
def stop (t : Timer) (now : Float) : Except Misuse Timer :=
  match t.started with
  | some start => .ok { t with elapsed := elapsedMs start now }
  | none => .error .notStarted

end Timer

end CrudBench
