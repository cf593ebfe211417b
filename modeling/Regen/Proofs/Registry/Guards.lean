import Mathlib.Data.List.Basic
import Regen.Registry

/-!
# Guards of a registry

Whoever registers a factory or an observer gets a *guard*, and drops it when the entry is to be
taken out. Guards may be dropped in any order, and a guard whose entry is gone already takes
nothing out. Factories and observers share the counter of the tickets, and clearing a registry does
not turn it back; so no two guards have one ticket as long as the counter has not run through.

Which entries there are can be said without tickets: those registered since the registry was
cleared last, and not dropped since. Here the two are compared.

* `Item`, `Guard`        what can be registered, and what is given out for it;
* `Guarded`              a registry with all guards that it has given out;
* `Event`, `Guarded.step`, `Guarded.after`   what can happen to it;
* `inForce`              the registrations that are neither dropped nor cleared, by their guards;
* `Guarded.Holds`        a registry has exactly the entries of some registrations.

Main statements: `Guarded.Holds.step` (what an event does to the entries) and `Guarded.holds_after`
(what a history comes to).
-/

namespace Regen.Registry

/-! ## guards -/

inductive Item where
  | factory (f : Factory)
  | observer (o : Observer)

def Item.factory? : Item → Option Factory
  | .factory f => some f
  | .observer _ => none

def Item.observer? : Item → Option Observer
  | .factory _ => none
  | .observer o => some o

inductive Guard where
  | factory (ticket : UInt64)
  | observer (ticket : UInt64)
  deriving DecidableEq

def Guard.ticket : Guard → UInt64
  | .factory ticket => ticket
  | .observer ticket => ticket

def Item.guard (ticket : UInt64) : Item → Guard
  | .factory _ => .factory ticket
  | .observer _ => .observer ticket

theorem Item.observer?_of_guard {i : Item} {t u : UInt64} (h : i.guard t = .factory u) :
    i.observer? = none := by
  cases i with
  | factory f => rfl
  | observer o => exact nomatch h

theorem Item.factory?_of_guard {i : Item} {t u : UInt64} (h : i.guard t = .observer u) :
    i.factory? = none := by
  cases i with
  | factory f => exact nomatch h
  | observer o => rfl

def register (r : Registry) : Item → Registry
  | .factory f => r.registerFactory f
  | .observer o => r.registerObserver o

def release (r : Registry) : Guard → Registry
  | .factory ticket => r.dropFactory ticket
  | .observer ticket => r.dropObserver ticket

/-- what can happen to a registry. Guards are numbered in the order in which they are given out. -/
inductive Event where
  | register (item : Item)
  | drop (guard : Nat)
  | clear

structure Guarded where
  registry : Registry
  guards : List Guard

namespace Guarded

def start : Guarded := ⟨.empty, []⟩

def drop (g : Guarded) (k : Nat) : Guarded :=
  match g.guards[k]? with
  | some guard => { g with registry := g.registry.release guard }
  | none => g

def step (g : Guarded) : Event → Guarded
  | .register item =>
    ⟨g.registry.register item, g.guards ++ [item.guard g.registry.nextTicket]⟩
  | .drop k => g.drop k
  | .clear => { g with registry := g.registry.clear }

def after : Guarded → List Event → Guarded
  | g, [] => g
  | g, e :: es => (g.step e).after es

theorem after_append (g : Guarded) (es fs : List Event) :
    g.after (es ++ fs) = (g.after es).after fs := by
  induction es generalizing g with
  | nil => rfl
  | cons e es ih => exact ih (g.step e)

end Guarded

/-! ## what is in force -/

def Event.item? : Event → Option Item
  | .register item => some item
  | _ => none

def Event.spares (guard : Nat) : Event → Bool
  | .register _ => true
  | .drop k => k != guard
  | .clear => false

def registrations (es : List Event) : Nat := (es.filterMap Event.item?).length

/-- what some events register and none of them takes out again, each under the number of its guard;
the first guard has this number. -/
def inForceFrom : Nat → List Event → List (Nat × Item)
  | _, [] => []
  | n, .register item :: es =>
    (if es.all (Event.spares n) then [(n, item)] else []) ++ inForceFrom (n + 1) es
  | n, .drop _ :: es => inForceFrom n es
  | n, .clear :: es => inForceFrom n es

/-- the registrations made after the registry was cleared last, and not dropped. -/
def inForce (es : List Event) : List (Nat × Item) := inForceFrom 0 es

theorem registrations_cons (e : Event) (es : List Event) :
    registrations (e :: es) = e.item?.toList.length + registrations es := by
  unfold registrations
  cases e with
  | register item => exact Nat.add_comm _ 1
  | drop k => exact (Nat.zero_add _).symm
  | clear => exact (Nat.zero_add _).symm

theorem registrations_le_append (es fs : List Event) :
    registrations es ≤ registrations (es ++ fs) := by
  unfold registrations
  rw [List.filterMap_append, List.length_append]
  exact Nat.le_add_right _ _

theorem inForceFrom_cons (n : Nat) (e : Event) (es : List Event) : inForceFrom n (e :: es)
    = (e.item?.toList.map (Prod.mk n)).filter (fun p => es.all (Event.spares p.1))
      ++ inForceFrom (n + e.item?.toList.length) es := by
  cases e with
  | register item =>
    show (if es.all (Event.spares n) then _ else _) ++ _ = [(n, item)].filter _ ++ _
    rw [List.filter_singleton, Bool.cond_eq_ite]
    rfl
  | drop k => rfl
  | clear => rfl

theorem inForceFrom_append (n : Nat) (es fs : List Event) : inForceFrom n (es ++ fs)
    = (inForceFrom n es).filter (fun p => fs.all (Event.spares p.1))
      ++ inForceFrom (n + registrations es) fs := by
  induction es generalizing n with
  | nil => rfl
  | cons e es ih =>
    have hboth : (fun p : Nat × Item => (es ++ fs).all (Event.spares p.1))
        = fun p => fs.all (Event.spares p.1) && es.all (Event.spares p.1) := by
      funext p
      rw [List.all_append, Bool.and_comm]
    rw [List.cons_append, inForceFrom_cons, inForceFrom_cons, ih, List.filter_append,
      List.filter_filter, ← hboth, registrations_cons, Nat.add_assoc, List.append_assoc]

theorem inForceFrom_sorted (n : Nat) (es : List Event) :
    ((inForceFrom n es).map Prod.fst).Pairwise (· < ·) ∧ ∀ p ∈ inForceFrom n es, n ≤ p.1 := by
  induction es generalizing n with
  | nil => exact ⟨.nil, fun _ h => nomatch h⟩
  | cons e es ih =>
    cases e with
    | register item =>
      obtain ⟨hsorted, hle⟩ := ih (n + 1)
      unfold inForceFrom
      split
      · refine ⟨List.pairwise_cons.2 ⟨fun k hk => ?_, hsorted⟩, fun p hp => ?_⟩
        · obtain ⟨p, hp, rfl⟩ := List.mem_map.1 hk
          exact hle p hp
        · rcases List.mem_cons.1 hp with rfl | hp
          · exact Nat.le_refl n
          · exact Nat.le_of_succ_le (hle p hp)
      · exact ⟨hsorted, fun p hp => Nat.le_of_succ_le (hle p hp)⟩
    | drop k => exact ih n
    | clear => exact ih n

theorem le_of_inForce_clear {before later : List Event} {p : Nat × Item}
    (hp : p ∈ inForce (before ++ .clear :: later)) : registrations before ≤ p.1 := by
  have hnone : (inForceFrom 0 before).filter
      (fun p => (Event.clear :: later).all (Event.spares p.1)) = [] :=
    List.filter_eq_nil_iff.2 fun _ _ => Bool.false_ne_true
  unfold inForce at hp
  rw [inForceFrom_append, hnone, List.nil_append, Nat.zero_add] at hp
  exact (inForceFrom_sorted _ later).2 p hp

/-! ## entries by their guards -/

def ticketOf (guard : Nat) : UInt64 := UInt64.ofNat (guard + 1)

theorem ticketOf_inj {j k n : Nat} (hj : j < n) (hk : k < n) (hn : n < UInt64.size)
    (h : ticketOf j = ticketOf k) : j = k := by
  have ht : ∀ i, i < n → (ticketOf i).toNat = i + 1 := fun i hi => by
    have hlt : i + 1 < UInt64.size := Nat.lt_of_le_of_lt hi hn
    exact UInt64.toNat_ofNat_of_lt' hlt
  have he := congrArg UInt64.toNat h
  rw [ht j hj, ht k hk] at he
  exact Nat.succ.inj he

section
variable {α : Type} (pick : Item → Option α)

def entriesOf (l : List (Nat × Item)) : List (Entered α) :=
  l.filterMap fun p => (pick p.2).map (Entered.mk (ticketOf p.1))

theorem entriesOf_append (l m : List (Nat × Item)) :
    entriesOf pick (l ++ m) = entriesOf pick l ++ entriesOf pick m := List.filterMap_append

theorem items_entriesOf (l : List (Nat × Item)) :
    (entriesOf pick l).map Entered.item = l.filterMap fun p => pick p.2 := by
  unfold entriesOf
  rw [List.map_filterMap]
  refine congrArg (l.filterMap ·) (funext fun p => ?_)
  cases pick p.2 <;> rfl

variable {pick} {l : List (Nat × Item)} {k : Nat}

theorem filter_entriesOf (hinj : ∀ p ∈ l, ticketOf p.1 = ticketOf k → p.1 = k) :
    (entriesOf pick l).filter (fun e => e.ticket ≠ ticketOf k)
      = entriesOf pick (l.filter fun p => k != p.1) := by
  unfold entriesOf
  rw [List.filter_filterMap, List.filterMap_filter]
  refine List.filterMap_congr fun p hp => ?_
  by_cases hk : p.1 = k
  · cases pick p.2 <;> simp [hk]
  · have ht : ticketOf p.1 ≠ ticketOf k := fun h => hk (hinj p hp h)
    cases pick p.2 <;> simp [ht, Ne.symm hk]

theorem entriesOf_filter_other (h : ∀ p ∈ l, p.1 = k → pick p.2 = none) :
    entriesOf pick (l.filter fun p => k != p.1) = entriesOf pick l := by
  unfold entriesOf
  rw [List.filterMap_filter]
  refine List.filterMap_congr fun p hp => ?_
  by_cases hk : p.1 = k
  · simp [hk, h p hp hk]
  · rw [if_pos (bne_iff_ne.2 (Ne.symm hk))]

end

namespace Guarded

structure Holds (g : Guarded) (l : List (Nat × Item)) : Prop where
  last_ticket : g.registry.lastTicket = UInt64.ofNat g.guards.length
  tickets : g.guards.map Guard.ticket = (List.range g.guards.length).map ticketOf
  guarded : ∀ p ∈ l, g.guards[p.1]? = some (p.2.guard (ticketOf p.1))
  factories_eq : g.registry.factories = entriesOf Item.factory? l
  observers_eq : g.registry.observers = entriesOf Item.observer? l

theorem holds_start : start.Holds [] where
  last_ticket := rfl
  tickets := rfl
  guarded _ h := nomatch h
  factories_eq := rfl
  observers_eq := rfl

namespace Holds

variable {g : Guarded} {l : List (Nat × Item)}

theorem lt_guards (hg : g.Holds l) {p : Nat × Item} (hp : p ∈ l) : p.1 < g.guards.length :=
  (List.getElem?_eq_some_iff.1 (hg.guarded p hp)).1

theorem factoryList_eq (hg : g.Holds l) :
    g.registry.factoryList = l.filterMap fun p => p.2.factory? := by
  unfold factoryList
  rw [hg.factories_eq, items_entriesOf]

theorem observerList_eq (hg : g.Holds l) :
    g.registry.observerList = l.filterMap fun p => p.2.observer? := by
  unfold observerList
  rw [hg.observers_eq, items_entriesOf]

theorem ticket_eq (hg : g.Holds l) {k : Nat} {guard : Guard} (hk : g.guards[k]? = some guard) :
    guard.ticket = ticketOf k := by
  have hlt : k < g.guards.length := (List.getElem?_eq_some_iff.1 hk).1
  have h : (g.guards.map Guard.ticket)[k]? = ((List.range g.guards.length).map ticketOf)[k]? :=
    congrArg (·[k]?) hg.tickets
  rw [List.getElem?_map, hk, List.getElem?_map, List.getElem?_range hlt] at h
  exact Option.some.inj h

theorem nextTicket_eq (hg : g.Holds l) : g.registry.nextTicket = ticketOf g.guards.length := by
  unfold nextTicket ticketOf
  rw [hg.last_ticket, UInt64.ofNat_add]
  rfl

theorem register (hg : g.Holds l) (item : Item) :
    (g.step (.register item)).Holds (l ++ [(g.guards.length, item)]) := by
  have hnext := hg.nextTicket_eq
  have hlast : (g.registry.register item).lastTicket = g.registry.nextTicket := by
    cases item <;> rfl
  refine ⟨?_, ?_, fun p hp => ?_, ?_, ?_⟩
  · show (g.registry.register item).lastTicket = UInt64.ofNat (g.guards ++ [_]).length
    rw [hlast, hnext, List.length_append]
    rfl
  · show (g.guards ++ [_]).map Guard.ticket = (List.range (g.guards ++ [_]).length).map ticketOf
    rw [List.map_append, List.length_append, hg.tickets, List.length_singleton, List.range_succ,
      List.map_append, hnext]
    cases item <;> rfl
  · show (g.guards ++ [item.guard g.registry.nextTicket])[p.1]? = _
    rcases List.mem_append.1 hp with hp | hp
    · rw [List.getElem?_append_left (hg.lt_guards hp)]
      exact hg.guarded p hp
    · rw [List.mem_singleton.1 hp, List.getElem?_append_right (Nat.le_refl _), Nat.sub_self, hnext]
      rfl
  · rw [entriesOf_append, ← hg.factories_eq]
    cases item with
    | factory f => exact congrArg (fun t => g.registry.factories ++ [⟨t, f⟩]) hnext
    | observer o => exact (List.append_nil _).symm
  · rw [entriesOf_append, ← hg.observers_eq]
    cases item with
    | factory f => exact (List.append_nil _).symm
    | observer o => exact congrArg (fun t => g.registry.observers ++ [⟨t, o⟩]) hnext

theorem release (hg : g.Holds l) (hfew : g.guards.length < UInt64.size) {k : Nat} {guard : Guard}
    (hk : g.guards[k]? = some guard) :
    { g with registry := g.registry.release guard }.Holds (l.filter fun p => k != p.1) := by
  have hlt : k < g.guards.length := (List.getElem?_eq_some_iff.1 hk).1
  have hinj : ∀ p ∈ l, ticketOf p.1 = ticketOf k → p.1 = k := fun p hp =>
    ticketOf_inj (hg.lt_guards hp) hlt hfew
  have hkind : ∀ p ∈ l, p.1 = k → p.2.guard (ticketOf k) = guard := fun p hp he => by
    have hguard := hg.guarded p hp
    rw [he, hk] at hguard
    exact (Option.some.inj hguard).symm
  have hleft : ∀ p ∈ l.filter (fun p => k != p.1), g.guards[p.1]? = some (p.2.guard (ticketOf p.1)) :=
    fun p hp => hg.guarded p (List.mem_filter.1 hp).1
  cases guard with
  | factory ticket =>
    have ht : ticket = ticketOf k := hg.ticket_eq hk
    refine ⟨hg.last_ticket, hg.tickets, hleft, ?_, ?_⟩
    · show g.registry.factories.filter (fun e => e.ticket ≠ ticket) = _
      rw [hg.factories_eq, ht, filter_entriesOf hinj]
    · rw [entriesOf_filter_other fun p hp he => Item.observer?_of_guard (hkind p hp he)]
      exact hg.observers_eq
  | observer ticket =>
    have ht : ticket = ticketOf k := hg.ticket_eq hk
    refine ⟨hg.last_ticket, hg.tickets, hleft, ?_, ?_⟩
    · rw [entriesOf_filter_other fun p hp he => Item.factory?_of_guard (hkind p hp he)]
      exact hg.factories_eq
    · show g.registry.observers.filter (fun e => e.ticket ≠ ticket) = _
      rw [hg.observers_eq, ht, filter_entriesOf hinj]

theorem drop (hg : g.Holds l) (hfew : g.guards.length < UInt64.size) (k : Nat) :
    (g.drop k).Holds (l.filter fun p => k != p.1) := by
  unfold Guarded.drop
  cases hk : g.guards[k]? with
  | none =>
    have hall : l.filter (fun p => k != p.1) = l := by
      refine List.filter_eq_self.2 fun p hp => bne_iff_ne.2 fun he => ?_
      have hguard := hg.guarded p hp
      rw [← he, hk] at hguard
      exact nomatch hguard
    rw [hall]
    exact hg
  | some guard => exact hg.release hfew hk

theorem ext {g' : Guarded} (hg : g.Holds l) (hg' : g'.Holds l) (h : g'.guards = g.guards) :
    g' = g := by
  have hlast : g'.registry.lastTicket = g.registry.lastTicket := by
    rw [hg'.last_ticket, hg.last_ticket, h]
  have hfactories : g'.registry.factories = g.registry.factories :=
    hg'.factories_eq.trans hg.factories_eq.symm
  have hobservers : g'.registry.observers = g.registry.observers :=
    hg'.observers_eq.trans hg.observers_eq.symm
  obtain ⟨⟨_, _, _⟩, _⟩ := g
  obtain ⟨⟨_, _, _⟩, _⟩ := g'
  subst hlast hfactories hobservers h
  rfl

theorem drop_of_gone (hg : g.Holds l) (hfew : g.guards.length < UInt64.size) {k : Nat}
    (hgone : ∀ p ∈ l, p.1 ≠ k) : g.drop k = g := by
  have hall : l.filter (fun p => k != p.1) = l :=
    List.filter_eq_self.2 fun p hp => bne_iff_ne.2 (hgone p hp).symm
  have hd := hg.drop hfew k
  rw [hall] at hd
  refine hg.ext hd ?_
  unfold Guarded.drop
  cases g.guards[k]? <;> rfl

theorem clear (hg : g.Holds l) : (g.step .clear).Holds [] :=
  ⟨hg.last_ticket, hg.tickets, fun _ hp => absurd hp List.not_mem_nil, rfl, rfl⟩

/-- **What an event does to the entries**: it takes out those that it does not spare, and a new one
comes behind them. -/
theorem step (hg : g.Holds l) (hfew : g.guards.length < UInt64.size) (e : Event) :
    (g.step e).Holds (l.filter (fun p => e.spares p.1)
      ++ e.item?.toList.map (Prod.mk g.guards.length)) := by
  cases e with
  | register item =>
    have hall : l.filter (fun p => (Event.register item).spares p.1) = l :=
      List.filter_eq_self.2 fun _ _ => rfl
    rw [hall]
    exact hg.register item
  | drop k =>
    show (g.step (.drop k)).Holds (_ ++ [])
    rw [List.append_nil]
    exact hg.drop hfew k
  | clear =>
    have hnone : l.filter (fun p => Event.clear.spares p.1) = [] :=
      List.filter_eq_nil_iff.2 fun _ _ => Bool.false_ne_true
    show (g.step .clear).Holds (_ ++ [])
    rw [hnone]
    exact hg.clear

end Holds

theorem length_guards_step (g : Guarded) (e : Event) :
    (g.step e).guards.length = g.guards.length + e.item?.toList.length := by
  cases e with
  | register item => exact List.length_append
  | drop k =>
    show (g.drop k).guards.length = _
    unfold drop
    cases g.guards[k]? <;> rfl
  | clear => rfl

theorem length_guards_after (g : Guarded) (es : List Event) :
    (g.after es).guards.length = g.guards.length + registrations es := by
  induction es generalizing g with
  | nil => rfl
  | cons e es ih => rw [after, ih, length_guards_step, registrations_cons, Nat.add_assoc]

theorem Holds.after {g : Guarded} {l : List (Nat × Item)} (hg : g.Holds l) (es : List Event)
    (hfew : g.guards.length + registrations es < UInt64.size) :
    (g.after es).Holds (l.filter (fun p => es.all (Event.spares p.1))
      ++ inForceFrom g.guards.length es) := by
  induction es generalizing g l with
  | nil =>
    have hall : l.filter (fun p => ([] : List Event).all (Event.spares p.1)) = l :=
      List.filter_eq_self.2 fun _ _ => rfl
    rw [hall]
    exact (List.append_nil l).symm ▸ hg
  | cons e es ih =>
    rw [registrations_cons, ← Nat.add_assoc, ← length_guards_step] at hfew
    have hlen : g.guards.length < UInt64.size := by
      rw [length_guards_step] at hfew
      omega
    have hi := ih (hg.step hlen e) hfew
    have hboth : (fun p : Nat × Item => es.all (Event.spares p.1) && e.spares p.1)
        = fun p => (e :: es).all (Event.spares p.1) := funext fun p => Bool.and_comm ..
    rw [List.filter_append, List.filter_filter, hboth, List.append_assoc, length_guards_step,
      ← inForceFrom_cons] at hi
    exact hi

/-- **A registry holds what is in force.** -/
theorem holds_after (es : List Event) (hfew : registrations es < UInt64.size) :
    (start.after es).Holds (inForce es) :=
  holds_start.after es ((Nat.zero_add _).symm ▸ hfew)

end Guarded
end Regen.Registry
