/-!
# The quiet period after an edit

Edits are gathered until none has come for a while. Each edit starts the quiet period anew.

* `Instant`              a moment of the clock that never goes back, in milliseconds;
* `Debounce`             idle, or waiting for a deadline;
* `Debounce.restart`     an edit: the quiet period starts now;
* `Debounce.due`         whether the quiet period is over;
* `Debounce.fire`        ends a quiet period that is over.
-/

namespace Regen

/-- a moment, in milliseconds from a fixed origin. -/
abbrev Instant := Int

inductive Debounce where
  | idle
  | pending (deadline : Instant)
  deriving DecidableEq, Repr

namespace Debounce

/-- the end of the quiet period, if one is running. -/
def deadline? : Debounce → Option Instant
  | .idle => none
  | .pending d => some d

/-- starts a quiet period of `quantum` milliseconds. -/
def restart (_ : Debounce) (now : Instant) (quantum : Nat) : Debounce := .pending (now + quantum)

def cancel (_ : Debounce) : Debounce := .idle

def due (d : Debounce) (now : Instant) : Bool :=
  match d with
  | .idle => false
  | .pending deadline => deadline ≤ now

def fire (d : Debounce) (now : Instant) : Debounce := if d.due now then .idle else d

theorem due_iff (d : Debounce) (now : Instant) :
    d.due now ↔ ∃ deadline, d.deadline? = some deadline ∧ deadline ≤ now := by
  cases d <;> simp [due, deadline?]

/-- after firing, a deadline still waited for is in the future. -/
theorem lt_of_deadline?_fire (d : Debounce) (now deadline : Instant)
    (h : (d.fire now).deadline? = some deadline) : now < deadline := by
  cases d with
  | idle => simp [fire, due, deadline?] at h
  | pending e =>
    by_cases he : e ≤ now
    · simp [fire, due, he, deadline?] at h
    · simp only [fire, due, he, decide_false, Bool.false_eq_true, if_false, deadline?,
        Option.some.injEq] at h
      exact h ▸ Int.lt_of_not_ge he

end Debounce
end Regen
