import Regen.Proofs.Compiler.Tick
import Regen.Proofs.Session.Product

/-!
# When a host may sleep

A session names the next moment at which time alone has an effect. Up to this moment a host may
sleep, unless a run is out or due. When it wakes up, every edit whose quiet period is over is
compiled, and what is left to wait for lies in the future.

Main statements: `exists_setup` (each compiler of a session is one that lives alone) and
`sleeps_until_wakeup`.
-/

namespace Regen.Session

theorem exists_setup {registry : Registry} {config : Config} {es : List Event} {c : Compiler}
    (hc : c ∈ ((start registry config).after es).compilers) :
    ∃ (u : Setup) (met : List Regen.Event), c = u.after met := by
  rw [compilers_start_after] at hc
  obtain ⟨m, -, rfl⟩ := List.mem_map.1 hc
  exact ⟨m.setup, m.met, rfl⟩

theorem lt_of_lt_nextWakeup? {s : Session} {now : Instant}
    (hlater : ∀ t, s.nextWakeup? = some t → now < t) {c : Compiler} (hc : c ∈ s.compilers)
    {t : Instant} (ht : c.nextWakeup? = some t) : now < t := by
  have hmem : t ∈ s.compilers.filterMap Compiler.nextWakeup? := List.mem_filterMap.2 ⟨c, hc, ht⟩
  cases hm : s.nextWakeup? with
  | none =>
    rw [List.min?_eq_none_iff.1 hm] at hmem
    exact absurd hmem List.not_mem_nil
  | some first =>
    have hle : first ≤ t := (List.min?_eq_some_iff.1 hm).2 t hmem
    exact Int.lt_of_lt_of_le (hlater first hm) hle

theorem exists_of_nextWakeup? {s : Session} {t : Instant} (ht : s.nextWakeup? = some t) :
    ∃ c ∈ s.compilers, c.nextWakeup? = some t :=
  List.mem_filterMap.1 (List.min?_mem ht)

/-- **A host may sleep until the next wakeup.** In any state of a session:

* if no run is out or due and the next wakeup, if there is one, is still to come, then a tick is not
  seen, and no run is started or cancelled, whatever answers of superseded runs may wait;
* a tick asks the runner of each compiler for its first run, if that is due, and then for a run of
  the live text of its editor, if its deadline has come, and for nothing else;
* all deadlines that are left lie in the future, and so does the next wakeup. -/
theorem sleeps_until_wakeup (registry : Registry) (config : Config) (es : List Event) (h : Host)
    (now : Instant) :
    let s := (start registry config).after es
    (s.isBusy = false → (∀ t, s.nextWakeup? = some t → now < t) →
      (s.tick h now).compilers.map Compiler.visible = s.compilers.map Compiler.visible ∧
      (s.tick h now).compilers.map Compiler.runs = s.compilers.map Compiler.runs) ∧
    List.Forall₂ (fun c d => ∃ live, d.asked = c.asked ++ c.requests h (c.firstDue ++ live) ∧
        (∀ t, c.nextWakeup? = some t → t ≤ now → ∃ ed, c.binding.bound = some ed ∧
          Path.Same ed.path c.source ∧ live = [.bytes (h.buffers ed.slot)]) ∧
        ((∀ t, c.nextWakeup? = some t → now < t) → live = []))
      s.compilers (s.tick h now).compilers ∧
    (∀ c ∈ (s.tick h now).compilers, ∀ t, c.nextWakeup? = some t → now < t) ∧
    ∀ t, (s.tick h now).nextWakeup? = some t → now < t := by
  intro s
  have hleft : ∀ c ∈ (s.tick h now).compilers, ∀ t, c.nextWakeup? = some t → now < t := by
    intro d hd t ht
    obtain ⟨c, -, rfl⟩ := List.mem_map.1 hd
    exact Compiler.lt_of_nextWakeup?_tick ht
  refine ⟨fun hbusy hlater => ?_, ?_, hleft, fun t ht => ?_⟩
  · have hall : ∀ c ∈ s.compilers,
        (c.tick h now).visible = c.visible ∧ (c.tick h now).runs = c.runs := by
      intro c hc
      obtain ⟨u, met, rfl⟩ := exists_setup hc
      have hcalm : (u.after met).isBusy = false :=
        Bool.eq_false_iff.2 (List.any_eq_false.1 hbusy _ hc)
      exact Compiler.visible_tick_of_asleep (u.soundWith_after met).1 hcalm
        fun t ht => lt_of_lt_nextWakeup? hlater hc ht
    refine ⟨?_, ?_⟩
    · rw [tick, each, List.map_map]
      exact List.map_congr_left fun c hc => (hall c hc).1
    · rw [tick, each, List.map_map]
      exact List.map_congr_left fun c hc => (hall c hc).2
  · refine List.forall₂_map_right_iff.2 (List.forall₂_same.2 fun c hc => ?_)
    obtain ⟨u, met, rfl⟩ := exists_setup hc
    refine ⟨_, Compiler.asked_tick (u.soundWith_after met).1 h now, fun t ht hle => ?_,
      fun hlater => ?_⟩
    · have hstep := u.inStep_after met
      have hdue := ((u.after met).binding.debounce.due_iff now).2 ⟨t, ht, hle⟩
      obtain ⟨ed, hed, htick⟩ := hstep.tick_of_due hdue
      have hsame := hstep.shows_source ed hed
      rw [u.binding_source_after, ← u.source_after met] at hsame
      refine ⟨ed, hed, hsame, ?_⟩
      rw [htick]
      rfl
    · rw [Binding.tick_of_lt hlater]
      rfl
  · obtain ⟨c, hc, hct⟩ := exists_of_nextWakeup? ht
    exact hleft c hc t hct

/-- after the second of two runs was handled, the answer of the first one arrives, and an edit is
made: up to the end of its quiet period nothing happens. -/
theorem sleeps_until_wakeup_stale :
    let blank : Disk := ⟨fun _ => none, fun _ => .error (.code 2)⟩
    let host : Host := ⟨blank, fun _ => ⟨0, false, .unconfigured⟩, fun _ => [1], .empty, 7⟩
    let factory : Factory := ⟨"text", Factory.bySuffix [".t"], fun _ => [], fun _ => .manual⟩
    let registry := Registry.empty.registerFactory factory
    let config : Config := ⟨200, 50, 1, 100⟩
    let file : Path := ⟨[97, 46, 116]⟩
    let es : List Event := [.call host (.projectAdded ⟨0, 7⟩ [file]),
      .call host (.editorChanged (some ⟨0, 1, file⟩)),
      .call host (.edited 1 0), .call host (.tick 200),
      .call host (.edited 1 300), .call host (.tick 500),
      .answer 0 2 (.error .cancelled), .call host (.tick 501), .answer 0 1 (.error .cancelled),
      .call host (.edited 1 600)]
    let s := (start registry config).after es
    s.compilers.map (fun c => (c.inbox.length, c.nextWakeup?)) = [(1, some 800)] ∧
      (s.tick host 799).compilers.map Compiler.visible = s.compilers.map Compiler.visible := by
  intro blank host factory registry config file es s
  have hw : s.nextWakeup? = some 800 := by decide
  obtain ⟨hsleep, -⟩ := sleeps_until_wakeup registry config es host 799
  refine ⟨by decide, (hsleep (by decide) fun t ht => ?_).1⟩
  have he : t = 800 := Option.some.inj (ht.symm.trans hw)
  rw [he]
  decide

end Regen.Session
