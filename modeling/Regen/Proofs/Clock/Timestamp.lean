import Regen.Debounce

/-!
# Instants as the machine keeps them

An instant is kept in seconds, a word of 64 bits with a sign, and in nanoseconds below a second. A
span of time is kept likewise, and its seconds have no sign. If an instant is so much later that its
seconds are no such word any more, there is none, and the addition breaks off.

* `Timestamp.add?`     the instant that is later by a span;
* `Timestamp.total`    the nanoseconds of an instant, in all;
* `Timestamp.instant`  its whole milliseconds.

Main statements: `total_of_add?` and `add?_eq_none_iff` (what the addition gives, and when it does
not), and `exists_add?_ofMillis` (no span of milliseconds is too long for a clock that has not run
for half of its range).
-/

namespace Regen

structure Timestamp where
  seconds : Int64
  nanos : Nat
  nanos_lt : nanos < 1000000000
  deriving DecidableEq

namespace Timestamp

structure Span where
  seconds : UInt64
  nanos : Nat
  nanos_lt : nanos < 1000000000

def Span.ofMillis (ms : UInt64) : Span where
  seconds := ms / 1000
  nanos := ms.toNat % 1000 * 1000000
  nanos_lt := by omega

/-- the least number of seconds that is too large for a word: half the number of words. -/
def limit : Int := 9223372036854775808

/-- the seconds that are later by so many, if a word can hold them. -/
def later? (s : Int64) (n : Nat) : Option Int64 :=
  if s.toInt + n < limit then some (.ofInt (s.toInt + n)) else none

/-- the instant that is later by a span: the seconds first, then one more if the nanoseconds make it
full. -/
def add? (t : Timestamp) (d : Span) : Option Timestamp :=
  match later? t.seconds d.seconds.toNat with
  | none => none
  | some s =>
    if h : t.nanos + d.nanos < 1000000000 then some ⟨s, t.nanos + d.nanos, h⟩
    else (later? s 1).map fun s =>
      ⟨s, t.nanos + d.nanos - 1000000000, by have := t.nanos_lt; have := d.nanos_lt; omega⟩

def total (t : Timestamp) : Int := t.seconds.toInt * 1000000000 + t.nanos

def Span.total (d : Span) : Nat := d.seconds.toNat * 1000000000 + d.nanos

def instant (t : Timestamp) : Instant := t.total / 1000000

theorem Span.total_ofMillis (ms : UInt64) : (ofMillis ms).total = ms.toNat * 1000000 := by
  show (ms / 1000).toNat * 1000000000 + ms.toNat % 1000 * 1000000 = ms.toNat * 1000000
  have hseconds : (ms / 1000).toNat = ms.toNat / 1000 := UInt64.toNat_div ms 1000
  omega

/-! ## the addition -/

theorem toInt_lt_limit (s : Int64) : s.toInt < limit := s.toInt_lt

theorem later?_eq_some_iff {s u : Int64} {n : Nat} :
    later? s n = some u ↔ u.toInt = s.toInt + n := by
  have hs := s.le_toInt
  have hu := toInt_lt_limit u
  unfold later?
  by_cases h : s.toInt + n < limit
  · have hsum : (Int64.ofInt (s.toInt + n)).toInt = s.toInt + n :=
      Int64.toInt_ofInt_of_le (by omega) h
    rw [if_pos h, Option.some.injEq, ← Int64.toInt_inj, hsum, eq_comm]
  · rw [if_neg h]
    exact ⟨nofun, fun he => absurd hu (by omega)⟩

theorem later?_eq_none_iff {s : Int64} {n : Nat} : later? s n = none ↔ limit ≤ s.toInt + n := by
  unfold later?
  by_cases h : s.toInt + n < limit
  · rw [if_pos h]
    exact ⟨nofun, fun he => absurd h (by omega)⟩
  · rw [if_neg h]
    exact ⟨fun _ => by omega, fun _ => rfl⟩

theorem total_of_add? {t u : Timestamp} {d : Span} (h : t.add? d = some u) :
    u.total = t.total + d.total := by
  unfold add? at h
  unfold total Span.total
  cases hs : later? t.seconds d.seconds.toNat with
  | none =>
    rw [hs] at h
    exact nomatch h
  | some s =>
    have hseconds := later?_eq_some_iff.1 hs
    rw [hs] at h
    dsimp only at h
    split at h
    · obtain rfl := Option.some.inj h
      dsimp only
      omega
    · obtain ⟨v, hv, rfl⟩ := Option.map_eq_some_iff.1 h
      have hcarry := later?_eq_some_iff.1 hv
      dsimp only
      omega

/-- **An addition breaks off** exactly if the sum is beyond the last instant. -/
theorem add?_eq_none_iff {t : Timestamp} {d : Span} :
    t.add? d = none ↔ limit * 1000000000 ≤ t.total + d.total := by
  have ht := t.nanos_lt
  have hd := d.nanos_lt
  unfold add? total Span.total
  cases hs : later? t.seconds d.seconds.toNat with
  | none =>
    have hseconds := later?_eq_none_iff.1 hs
    exact ⟨fun _ => by omega, fun _ => rfl⟩
  | some s =>
    have hseconds := later?_eq_some_iff.1 hs
    have hlt := toInt_lt_limit s
    dsimp only
    split
    · exact ⟨nofun, fun he => by omega⟩
    · rw [Option.map_eq_none_iff, later?_eq_none_iff]
      omega

/-- in milliseconds the sum is what it should be, and until the clock has run for half of its range
there is always one. -/
theorem exists_add?_ofMillis {t : Timestamp} (ht : t.seconds.toInt < limit / 2) (ms : UInt64) :
    ∃ u, t.add? (.ofMillis ms) = some u ∧ u.instant = t.instant + ms.toNat := by
  have hms := ms.toNat_lt
  have hspan := Span.total_ofMillis ms
  cases hu : t.add? (.ofMillis ms) with
  | none =>
    have hbeyond := add?_eq_none_iff.1 hu
    have hnanos := t.nanos_lt
    rw [total, hspan] at hbeyond
    unfold limit at *
    omega
  | some u =>
    have htotal := total_of_add? hu
    refine ⟨u, rfl, ?_⟩
    show u.total / 1000000 = t.total / 1000000 + ms.toNat
    omega

end Timestamp
end Regen
