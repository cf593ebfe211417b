import Regen.Proofs.Compiler.Editor
import Regen.Proofs.Compiler.Visible

/-!
# What a tick starts

When time passes, a compiler asks for its first run, if that is still due, and then for a run of the
live buffer, if the deadline of an edit has come. It asks for nothing else, and no deadline that has
come is left. As long as neither of the two is due, a tick is a poll.

* `Compiler.firstDue`   what the first run is made of, if it is due;
* `Compiler.requests`   the next runs, by what they are made of.

Main statements: `asked_tick`, `lt_of_nextWakeup?_tick` and `visible_tick_of_asleep`.
-/

namespace Regen

/-- a deadline that is waited for after time passed is still to come. -/
theorem Binding.lt_of_deadline?_tick {b : Binding} {bufs : Buffers} {now t : Instant}
    (ht : (b.tick bufs now).binding.deadline? = some t) : now < t := by
  have hd : (b.tick bufs now).binding.debounce = b.debounce.fire now := by
    unfold tick Debounce.fire
    dsimp only
    split
    · split <;> rfl
    · rfl
  refine b.debounce.lt_of_deadline?_fire now t ?_
  rw [← hd]
  exact ht

/-- a binding lets time pass as long as its deadline has not come. -/
theorem Binding.tick_of_lt {b : Binding} {now : Instant}
    (hlater : ∀ t, b.deadline? = some t → now < t) (bufs : Buffers) :
    b.tick bufs now = ⟨b, none, none⟩ := by
  have hdue : ¬ b.debounce.due now = true := fun hd => by
    obtain ⟨t, ht, hle⟩ := (Debounce.due_iff _ _).1 hd
    exact absurd hle (Int.not_le.2 (hlater t ht))
  exact if_neg hdue

namespace Compiler

def firstDue (c : Compiler) : List Provider := if c.initialPending then [.file c.source] else []

def requests (c : Compiler) (h : Host) (ps : List Provider) : List Request :=
  ps.mapIdx fun i p => ⟨c.clock + 1 + i, c.source, p, c.buildEnvironment h⟩

section
variable {c d : Compiler} {h : Host}

theorem requests_congr (hclock : d.clock = c.clock) (hb : d.badge = c.badge) (ps : List Provider) :
    d.requests h ps = c.requests h ps := by
  have hs : d.source = c.source := congrArg Badge.source hb
  have hp : d.project = c.project := congrArg Badge.project hb
  unfold requests buildEnvironment
  rw [hclock, hs, hp]

theorem requests_append {ps : List Provider} (hclock : d.clock = c.clock + ps.length)
    (hb : d.badge = c.badge) (qs : List Provider) :
    c.requests h (ps ++ qs) = c.requests h ps ++ d.requests h qs := by
  have hs : d.source = c.source := congrArg Badge.source hb
  have hp : d.project = c.project := congrArg Badge.project hb
  have hn : ∀ i, c.clock + 1 + (i + ps.length) = c.clock + ps.length + 1 + i := fun i => by omega
  unfold requests buildEnvironment
  rw [List.mapIdx_append, hclock, hs, hp]
  simp only [hn]

end

theorem asked_initialRun (c : Compiler) (h : Host) :
    (c.initialRun h).asked = c.asked ++ c.requests h c.firstDue ∧
      (c.initialRun h).clock = c.clock + c.firstDue.length := by
  unfold firstDue
  cases hi : c.initialPending with
  | true =>
    have hb := book_start { c with initialPending := false } h (.file c.source)
    rw [initialRun_of_due hi]
    exact ⟨congrArg Book.asked hb, congrArg Book.clock hb⟩
  | false =>
    rw [initialRun_of_not_due hi]
    exact ⟨(List.append_nil _).symm, rfl⟩

theorem asked_follow (c : Compiler) (h : Host) (r : Binding.Reaction) :
    (c.follow h r).asked = c.asked ++ c.requests h (r.snapshot.toList.map .bytes) := by
  have hp : ({ c with binding := r.binding }.tellPush r.push).book = c.book := book_tellPush _ _
  have ha : ({ c with binding := r.binding }.tellPush r.push).asked = c.asked := congrArg Book.asked hp
  unfold follow
  cases r.snapshot with
  | none => exact ha.trans (List.append_nil _).symm
  | some buffer =>
    have hb := book_start ({ c with binding := r.binding }.tellPush r.push) h (.bytes buffer)
    have hclock : ({ c with binding := r.binding }.tellPush r.push).clock = c.clock :=
      congrArg Book.clock hp
    have hbadge : ({ c with binding := r.binding }.tellPush r.push).badge = c.badge := by
      cases r.push <;> rfl
    have hr := requests_congr (h := h) hclock hbadge [.bytes buffer]
    replace hb : (start _ h (.bytes buffer)).asked = _ ++ _ := congrArg Book.asked hb
    rw [ha] at hb
    exact hb.trans (congrArg (c.asked ++ ·) hr)

/-- **What a tick starts**: the first run, if it is due, then the run of what the editor hands out. -/
theorem asked_tick {c : Compiler} (hc : c.Sound) (h : Host) (now : Instant) :
    (c.tick h now).asked = c.asked ++
      c.requests h (c.firstDue ++ (c.binding.tick h.buffers now).snapshot.toList.map .bytes) := by
  have hpolled := c.polled_poll h
  have hbook := book_poll hc.active_not_superseded h
  have hbadge : (c.poll h).1.badge = c.badge := hpolled.badge_eq
  have hclock : (c.poll h).1.clock = c.clock := congrArg Book.clock hbook
  have hasked : (c.poll h).1.asked = c.asked := congrArg Book.asked hbook
  have hdue : (c.poll h).1.firstDue = c.firstDue := by
    have hsource : (c.poll h).1.source = c.source := congrArg Badge.source hbadge
    unfold firstDue
    rw [hpolled.initialPending_eq, hsource]
  obtain ⟨hfirst, hfirstClock⟩ := asked_initialRun (c.poll h).1 h
  rw [hdue, requests_congr hclock hbadge, hasked] at hfirst
  rw [hdue, hclock] at hfirstClock
  have hbadge' : ((c.poll h).1.initialRun h).badge = c.badge :=
    ((c.poll h).1.started_initialRun h).badge_eq.trans hbadge
  calc (c.tick h now).asked
      = ((c.poll h).1.initialRun h).asked ++ ((c.poll h).1.initialRun h).requests h
          ((((c.poll h).1.initialRun h).binding.tick h.buffers now).snapshot.toList.map .bytes) :=
        asked_follow _ h _
    _ = _ := by
        rw [binding_initialRun_poll, hfirst, List.append_assoc, ← requests_append hfirstClock hbadge']

/-! ## the next moment at which time has an effect -/

theorem lt_of_nextWakeup?_tick {c : Compiler} {h : Host} {now t : Instant}
    (ht : (c.tick h now).nextWakeup? = some t) : now < t := by
  unfold nextWakeup? at ht
  rw [binding_tick] at ht
  exact Binding.lt_of_deadline?_tick ht

/-- as long as neither the first run nor a deadline is due, a tick is a poll. -/
theorem tick_of_asleep {c : Compiler} (hi : c.initialPending = false) {h : Host} {now : Instant}
    (hlater : ∀ t, c.nextWakeup? = some t → now < t) : c.tick h now = (c.poll h).1 := by
  have hpolled := c.polled_poll h
  have hfirst : (c.poll h).1.initialRun h = (c.poll h).1 :=
    initialRun_of_not_due (hpolled.initialPending_eq.trans hi) h
  have hquiet : (c.poll h).1.binding.tick h.buffers now = ⟨(c.poll h).1.binding, none, none⟩ := by
    rw [hpolled.binding_eq]
    exact Binding.tick_of_lt hlater h.buffers
  show ((c.poll h).1.initialRun h).follow h _ = _
  rw [hfirst, hquiet]
  rfl

/-- **Nothing happens while a compiler sleeps**: if no run is out or due and no deadline has come,
a tick is not seen, and the runs are as they were. -/
theorem visible_tick_of_asleep {c : Compiler} (hc : c.Sound) (hbusy : c.isBusy = false) {h : Host}
    {now : Instant} (hlater : ∀ t, c.nextWakeup? = some t → now < t) :
    (c.tick h now).visible = c.visible ∧ (c.tick h now).runs = c.runs := by
  obtain ⟨hrunning, hi⟩ := Bool.or_eq_false_iff.1 hbusy
  have hidle : c.active = none := Option.isSome_eq_false_iff.1 hrunning |> Option.isNone_iff_eq_none.1
  have hstale : ∀ m ∈ c.inbox, ¬ c.Takes m := fun m _ ht => by
    rw [Takes, hidle] at ht
    cases ht
  have hruns : (c.poll h).1.runs = c.runs :=
    congrArg Book.runs (book_poll hc.active_not_superseded h)
  rw [tick_of_asleep hi hlater]
  exact ⟨visible_poll_of_not_takes hstale h, hruns⟩

end Compiler
end Regen
