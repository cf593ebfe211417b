/-!
# Generations and their tokens

Every run gets a *token* with a *generation*: the clock that issues it counts 1, 2, 3, … in words of
64 bits. Clocks and tokens are handles: a clone of a clock counts on with it, and cancelling one
clone of a token cancels them all.

* `Clocks`               the handles given out so far, and what they share;
* `Clocks.issue`         a new token of the next generation;
* `Clocks.cloneClock`, `Clocks.newClock`, `Clocks.cloneToken`
* `Clocks.cancel`        cancels a token and all its clones;
* `Clocks.current`       the last generation that a clock issued, zero before the first;
* `Clocks.isCancelled`   whether a token is cancelled.
-/

namespace Regen

/-- a handle on a token: its generation, and the flag it shares with its clones. -/
structure Token where
  generation : UInt64
  flag : Nat
  deriving DecidableEq, Repr

/-- clocks and tokens given out so far. A *family* is a clock together with its clones. -/
structure Clocks where
  /-- the last generation of each family; after the greatest one comes zero. -/
  families : List UInt64
  /-- the family of each clock handle. -/
  clocks : List Nat
  /-- for each issued token, whether it is cancelled. -/
  flags : List Bool
  tokens : List Token
  deriving DecidableEq, Repr

namespace Clocks

def none : Clocks := ⟨[], [], [], []⟩

def newClock (s : Clocks) : Clocks :=
  { s with families := s.families ++ [0], clocks := s.clocks ++ [s.families.length] }

def cloneClock (s : Clocks) (clock : Nat) : Clocks :=
  match s.clocks[clock]? with
  | some family => { s with clocks := s.clocks ++ [family] }
  | .none => s

def issue (s : Clocks) (clock : Nat) : Clocks :=
  match s.clocks[clock]? with
  | some family =>
    let g := s.families.getD family 0 + 1
    { s with families := s.families.set family g, flags := s.flags ++ [false],
             tokens := s.tokens ++ [⟨g, s.flags.length⟩] }
  | .none => s

def cloneToken (s : Clocks) (token : Nat) : Clocks :=
  match s.tokens[token]? with
  | some t => { s with tokens := s.tokens ++ [t] }
  | .none => s

def cancel (s : Clocks) (token : Nat) : Clocks :=
  match s.tokens[token]? with
  | some t => { s with flags := s.flags.set t.flag true }
  | .none => s

def current (s : Clocks) (clock : Nat) : UInt64 :=
  match s.clocks[clock]? with
  | some family => s.families.getD family 0
  | .none => 0

def isCancelled (s : Clocks) (token : Nat) : Bool :=
  match s.tokens[token]? with
  | some t => s.flags.getD t.flag false
  | .none => false

def generation (s : Clocks) (token : Nat) : UInt64 :=
  match s.tokens[token]? with
  | some t => t.generation
  | .none => 0

end Clocks
end Regen
