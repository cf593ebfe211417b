import Regen.Session
import Regen.Proofs.Clock.Timestamp
import Regen.Proofs.Compiler.Editor
import Regen.Proofs.Compiler.Teardown
import Regen.Proofs.Config.Schema

/-!
# What a configuration can ask of the machine

The four numbers of a configuration may be any words. Two of them are spans of time, and are added
to an instant of the clock: none is too long. One is a number of slots, and those that one semaphore
can count are an eighth of the words. Nothing looks at it before the pool is made, so with a larger
one there is no pool, and no session.

Main statement: `Config.created_iff_slots_counted`.
-/

namespace Regen
namespace Pool

theorem create?_eq_some {n : Nat} (h : n ≤ maxCapacity) :
    create? n = some ⟨max 1 n, 0, [], 0, []⟩ :=
  if_pos (Nat.max_le.2 ⟨by decide, h⟩)

theorem create?_eq_none {n : Nat} (h : maxCapacity < n) : create? n = none :=
  if_neg fun hmax => Nat.not_le.2 h (Nat.max_le.1 hmax).2

end Pool

theorem Session.create?_of_pool {c : Config} {pool : Option Pool}
    (h : Pool.create? c.maxConcurrentRuns.toNat = pool) (registry : Registry) :
    create? registry c = pool.map fun pool => (start registry c, pool) :=
  congrArg (Option.map _) h

theorem Setup.deadline_after (s : Setup) (es : List Event) (now : Instant) :
    (s.after es).deadline now = now + s.config.teardownTimeout :=
  congrArg (fun b : Compiler.Badge => now + (b.teardownTimeout : Int)) (s.compiler.badge_after es)

namespace Config

/-- **A configuration fails only by its number of slots.** Every configuration is accepted in some
table. A pool and a session are made of it if it asks for no more slots than can be counted, and the
pool has as many, and at least one; if it asks for more, there is neither.

Until the clock has run for half of its range, the ends of a quiet period and of a teardown that
begin now are instants that the machine can keep, and those that a compiler of this configuration
waits for, whatever it has lived through. -/
theorem created_iff_slots_counted (c : Config) :
    (∃ entries s, Settings.ofTable entries = .ok s ∧
      ∀ parallelism, Config.ofSettings s parallelism = c) ∧
    (c.maxConcurrentRuns.toNat ≤ 2305843009213693951 → ∃ pool,
      Pool.create? c.maxConcurrentRuns.toNat = some pool ∧
      (∀ registry, Session.create? registry c = some (.start registry c, pool)) ∧
      pool.capacity = max 1 c.maxConcurrentRuns.toNat ∧ pool.available = pool.capacity) ∧
    (2305843009213693951 < c.maxConcurrentRuns.toNat →
      Pool.create? c.maxConcurrentRuns.toNat = none ∧
      ∀ registry, Session.create? registry c = none) ∧
    ∀ now : Timestamp, now.seconds.toInt < Timestamp.limit / 2 →
      (∃ deadline, now.add? (.ofMillis c.debounceMs) = some deadline ∧
        (∀ d : Debounce, d.restart now.instant c.debounce = .pending deadline.instant) ∧
        ∀ (s : Setup) (es : List Event) (id : Nat), s.config = c →
          (s.after es).binding.isBoundTo id = true →
          ((s.after es).edited id now.instant).binding.deadline? = some deadline.instant) ∧
      ∃ deadline, now.add? (.ofMillis c.teardownTimeoutMs) = some deadline ∧
        ∀ (s : Setup) (es : List Event), s.config = c →
          (s.after es).deadline now.instant = deadline.instant := by
  refine ⟨c.exists_ofTable, fun h => ?_, fun h => ?_, fun now hnow => ⟨?_, ?_⟩⟩
  · have hpool := Pool.create?_eq_some h
    exact ⟨_, hpool, Session.create?_of_pool hpool, rfl, rfl⟩
  · have hnone := Pool.create?_eq_none h
    exact ⟨hnone, Session.create?_of_pool hnone⟩
  · obtain ⟨deadline, hadd, hdeadline⟩ := Timestamp.exists_add?_ofMillis hnow c.debounceMs
    refine ⟨deadline, hadd, fun d => ?_, fun s es id hs hid => ?_⟩
    · exact congrArg Debounce.pending hdeadline.symm
    · have hquantum : (s.after es).binding.quantum = c.debounce := by rw [s.quantum_after, hs]
      show ((s.after es).binding.edited id now.instant).deadline? = _
      rw [Binding.edited, if_pos hid, hquantum]
      exact congrArg some hdeadline.symm
  · obtain ⟨deadline, hadd, hdeadline⟩ := Timestamp.exists_add?_ofMillis hnow c.teardownTimeoutMs
    refine ⟨deadline, hadd, fun s es hs => ?_⟩
    rw [s.deadline_after, hs]
    exact hdeadline.symm

/-- four slots, and an edit and a teardown after five seconds; and one slot too many. -/
theorem four_slots_counted :
    let c : Config := ⟨1000, 200, 4, 30000⟩
    let blank : Disk := ⟨fun _ => none, fun _ => .error (.code 2)⟩
    let host : Host := ⟨blank, fun _ => ⟨0, false, .unconfigured⟩, fun _ => [], .empty, 7⟩
    let s : Setup := ⟨0, ⟨0, 0⟩, c, ⟨[115]⟩, [], .manual, blank⟩
    let es : List Event := [.call host (.editorChanged (some ⟨0, 7, ⟨[115]⟩⟩))]
    let now : Timestamp := ⟨5, 250000000, by decide⟩
    (∃ pool, Pool.create? 4 = some pool ∧ Session.create? .empty c = some (.start .empty c, pool) ∧
      pool.capacity = 4) ∧
    Session.create? .empty { c with maxConcurrentRuns := 2305843009213693952 } = none ∧
    (∃ t, now.add? (.ofMillis 1000) = some t ∧
      ((s.after es).edited 7 now.instant).binding.deadline? = some t.instant) ∧
    ∃ t, now.add? (.ofMillis 30000) = some t ∧ (s.after es).deadline now.instant = t.instant := by
  intro c blank host s es now
  obtain ⟨-, hfew, -, htimes⟩ := created_iff_slots_counted c
  obtain ⟨-, -, hmany, -⟩ :=
    created_iff_slots_counted { c with maxConcurrentRuns := 2305843009213693952 }
  obtain ⟨pool, hpool, hsession, hcapacity, -⟩ := hfew (by decide)
  obtain ⟨⟨t, ht, -, hedit⟩, u, hu, hteardown⟩ := htimes now (by decide)
  refine ⟨⟨pool, hpool, hsession .empty, hcapacity⟩, (hmany (by decide)).2 .empty, ?_, ?_⟩
  · exact ⟨t, ht, hedit s es 7 rfl (by decide)⟩
  · exact ⟨u, hu, hteardown s es rfl⟩

theorem too_many_slots_accepted :
    ∃ s, Settings.ofToml "max-concurrent-runs = 2305843009213693952".toList = .ok s ∧
      ∀ parallelism, Pool.create? (Config.ofSettings s parallelism).maxConcurrentRuns.toNat = none ∧
        ∀ registry, Session.create? registry (Config.ofSettings s parallelism) = none := by
  let asked : Settings := ⟨none, none, some 2305843009213693952, none⟩
  have hread : (Settings.ofToml "max-concurrent-runs = 2305843009213693952".toList).toOption =
      some asked := by decide +kernel
  have hnone : ∀ parallelism,
      Pool.create? (Config.ofSettings asked parallelism).maxConcurrentRuns.toNat = none :=
    fun _ => Pool.create?_eq_none (show Pool.maxCapacity < 2305843009213693952 by decide)
  refine ⟨asked, ?_, fun parallelism => ⟨hnone parallelism, ?_⟩⟩
  · cases hs : Settings.ofToml "max-concurrent-runs = 2305843009213693952".toList with
    | error e =>
      rw [hs] at hread
      exact nomatch hread
    | ok s =>
      rw [hs] at hread
      exact congrArg Except.ok (Option.some.inj hread)
  · exact Session.create?_of_pool (hnone parallelism)

end Config
end Regen
