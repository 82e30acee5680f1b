import SourceOutline.Failure.Basic

/-!
# Cancellation — stopping a call from outside

A token can be cancelled, and it can have a deadline.  A call that was given a token asks it at the
start and now and then later; what it asks is a `Poll`, the sequence of the answers.
-/

namespace SourceOutline

/-- A request to stop and a deadline.  The time limit is kept for the message when the deadline was
computed from it. -/
structure Token where
  cancelled : Bool := false
  timeout : Option Number := none
  deadline : Option Number := none
  deriving DecidableEq

namespace Token

/-- A token that begins at a clock reading.  A time limit sets the deadline, and then another
deadline is ignored.  A time limit beyond all doubles cannot be added to the clock. -/
def starting (clock : Double) (timeout deadline : Option Number) : Except Fault Token :=
  match timeout with
  | none => .ok { deadline }
  | some limit =>
    match limit.toDouble? with
    | none => .error .tooLarge
    | some x => .ok { timeout, deadline := some (.float (clock.add x)) }

def cancel (t : Token) : Token :=
  { t with cancelled := true }

def expired (t : Token) (clock : Double) : Bool :=
  match t.deadline with
  | some d => d.le (.float clock)
  | none => false

/-- The time left before the deadline, at least nought.  It cannot be told for a deadline beyond all
doubles. -/
def remaining (t : Token) (clock : Double) : Except Fault (Option Double) :=
  match t.deadline with
  | none => .ok none
  | some d =>
    match d.toDouble? with
    | none => .error .tooLarge
    | some x =>
      let left := x.sub clock
      .ok (some (if Number.lt (.int 0) (.float left) then left else Double.zero false))

def check (t : Token) (clock : Double) : Option Interruption :=
  if t.cancelled then some .cancelled
  else if t.expired clock then some (.deadlineExceeded t.timeout)
  else none

def render (t : Token) (remaining : Option Double) : String :=
  let left := match remaining with
    | some x => x.render
    | none => "None"
  "CancellationToken(cancelled=" ++ (if t.cancelled then "True" else "False") ++ ", remaining=" ++
    left ++ ")"

end Token

/-- What the checks of a call find: the reason to stop at the check of each number, if there is one.
The first check has number one. -/
abbrev Poll := Nat → Option Interruption

/-- The checks of a token, each with its own reading of the clock, cancelled at the check of a given
number if there is one. -/
def Token.poll (t : Token) (clock : Nat → Double) (cancelAt : Option Nat) : Poll := fun n =>
  match cancelAt with
  | some k => if 0 < k && k ≤ n then t.cancel.check (clock n) else t.check (clock n)
  | none => t.check (clock n)

end SourceOutline
