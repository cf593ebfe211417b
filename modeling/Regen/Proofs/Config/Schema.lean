import Regen.Proofs.Environment.Order
import Regen.Proofs.Text.Encoding
import Regen.Proofs.Toml.Keys
import Regen.Config

/-!
# The schema of a configuration

A table is a configuration if each of its entries is allowed, and then each field has the value of
its own entry, or its default. Otherwise one entry is to blame: of those that are not allowed, the
one whose key comes first in the order of bytes. Neither depends on the order of the entries. And
every configuration is that of some table, whatever the machine.

* `Settings.Allowed`          an entry with one of the four keys and a number that a word can hold;
* `Settings.LeastOffender`    the entry that is to blame;
* `Settings.Judged`           what has to come of entries;
* `Config.get`, `Field.default`

Main statements: `Settings.ofTable_cases` (all that can come of a table), `Settings.judged_ofTable`,
`Settings.least_offender_reported` and `Config.exists_ofTable`.
-/

namespace Regen

/-! ## keys and values -/

namespace Field

theorem ofKey?_key (f : Field) : ofKey? f.key = some f := by cases f <;> decide

theorem key_of_ofKey? {k : String} {f : Field} (h : ofKey? k = some f) : f.key = k := by
  simpa using List.find?_some h

theorem key_inj {f g : Field} (h : f.key = g.key) : f = g := by
  have hf := ofKey?_key f
  rw [h, ofKey?_key] at hf
  exact (Option.some.inj hf).symm

theorem mem_keys_iff {k : String} : k ∈ ["debounce-ms", "poll-interval-ms", "max-concurrent-runs",
    "teardown-timeout-ms"] ↔ ∃ f : Field, f.key = k := by
  constructor
  · intro h
    obtain ⟨f, -, hf⟩ := List.mem_map.1 (show k ∈ all.map key from h)
    exact ⟨f, hf⟩
  · rintro ⟨f, rfl⟩
    cases f <;> decide

def default (parallelism : UInt64) : Field → UInt64
  | debounce => 1000
  | pollInterval => 200
  | maxConcurrentRuns => parallelism
  | teardownTimeout => 30000

end Field

def Config.get (c : Config) : Field → UInt64
  | .debounce => c.debounceMs
  | .pollInterval => c.pollIntervalMs
  | .maxConcurrentRuns => c.maxConcurrentRuns
  | .teardownTimeout => c.teardownTimeoutMs

theorem Config.get_ofSettings (s : Settings) (parallelism : UInt64) (f : Field) :
    (ofSettings s parallelism).get f = (s.get? f).getD (f.default parallelism) := by
  cases f <;> rfl

def SchemaError.key : SchemaError → String
  | unknownField key => key
  | negative _ f => f.key
  | wrongType _ f => f.key

namespace Settings

def InRange : Toml.Value → Prop
  | .integer n => 0 ≤ n ∧ n ≤ 18446744073709551615
  | _ => False

instance : DecidablePred InRange
  | .integer n => inferInstanceAs (Decidable (0 ≤ n ∧ n ≤ 18446744073709551615))
  | .float _ | .boolean _ | .text _ | .moment | .array _ | .table _ => .isFalse id

/-- an entry with one of the four keys, and an integer that a word can hold. -/
def Allowed (e : String × Toml.Value) : Prop :=
  e.1 ∈ ["debounce-ms", "poll-interval-ms", "max-concurrent-runs", "teardown-timeout-ms"] ∧
    InRange e.2

instance : DecidablePred Allowed := fun _ => inferInstanceAs (Decidable (_ ∧ _))

/-- the entry that is to blame: none of the others that are not allowed has a lesser key. -/
def LeastOffender (entries : List (String × Toml.Value)) (e : String × Toml.Value) : Prop :=
  e ∈ entries ∧ ¬ Allowed e ∧
    ∀ x ∈ entries, ¬ Allowed x → x ≠ e → Bytes.before (Bytes.ofText e.1) (Bytes.ofText x.1) = true

theorem LeastOffender.unique {entries : List (String × Toml.Value)} {e x : String × Toml.Value}
    (he : LeastOffender entries e) (hx : LeastOffender entries x) : e = x := by
  refine Classical.byContradiction fun hne => ?_
  have h := Bytes.before_trans (he.2.2 x hx.1 hx.2.1 (Ne.symm hne)) (hx.2.2 e he.1 he.2.1 hne)
  rw [Bytes.before_irrefl] at h
  cases h

/-! ## one entry -/

def entry (x : Field × UInt64) : String × Toml.Value := (x.1.key, .integer x.2.toNat)

theorem word_toNat (f : Field) (v : UInt64) : word f (.integer v.toNat) = .ok v := by
  have hv : (0 : Int) ≤ v.toNat ∧ (v.toNat : Int) < UInt64.size :=
    ⟨Int.natCast_nonneg _, Int.ofNat_lt.2 v.toNat_lt_size⟩
  simp only [word]
  rw [if_pos hv, Int.toNat_natCast, UInt64.ofNat_toNat]

theorem take_of_word {s : Settings} {e : String × Toml.Value} {f : Field} {v : UInt64}
    (hkey : Field.ofKey? e.1 = some f) (hword : word f e.2 = .ok v) :
    s.take e = .ok (s.set f v) := by
  unfold take
  rw [hkey]
  dsimp only
  rw [hword]

theorem word_cases (f : Field) (v : Toml.Value) :
    (∃ w : UInt64, v = .integer w.toNat) ∨
    (¬ InRange v ∧ ∃ err : SchemaError, word f v = .error err ∧ err.key = f.key) := by
  cases v with
  | integer n =>
    by_cases hn : 0 ≤ n ∧ n < UInt64.size
    · refine .inl ⟨UInt64.ofNat n.toNat, ?_⟩
      have hlt : n.toNat < UInt64.size := by omega
      rw [UInt64.toNat_ofNat_of_lt' hlt, Int.toNat_of_nonneg hn.1]
    · have hrange : ¬ InRange (.integer n) := by
        rintro ⟨hlow, hhigh⟩
        exact hn ⟨hlow, by simp only [UInt64.size]; omega⟩
      refine .inr ⟨hrange, ?_⟩
      rw [word, if_neg hn]
      split
      · exact ⟨_, rfl, rfl⟩
      · exact ⟨_, rfl, rfl⟩
  | float | boolean | text | moment | array | table => exact .inr ⟨id, _, rfl, rfl⟩

theorem allowed_entry (x : Field × UInt64) : Allowed (entry x) := by
  refine ⟨Field.mem_keys_iff.2 ⟨x.1, rfl⟩, Int.natCast_nonneg _, ?_⟩
  have h := x.2.toNat_lt_size
  simp only [UInt64.size] at h
  omega

theorem exists_word {f : Field} {n : Int} (h : Allowed (f.key, .integer n)) :
    ∃ w : UInt64, n = w.toNat := by
  rcases word_cases f (.integer n) with ⟨w, hw⟩ | ⟨hnot, -⟩
  · exact ⟨w, Toml.Value.integer.inj hw⟩
  · exact absurd h.2 hnot

/-- an entry sets a field, or it is refused, by itself and wherever it stands. -/
theorem take_cases (e : String × Toml.Value) :
    (∃ x, e = entry x) ∨
    (¬ Allowed e ∧ ∃ err : SchemaError, (∀ s : Settings, s.take e = .error err) ∧
      err.key = e.1) := by
  cases hkey : Field.ofKey? e.1 with
  | none =>
    refine .inr ⟨fun h => ?_, .unknownField e.1, fun s => ?_, rfl⟩
    · obtain ⟨f, hf⟩ := Field.mem_keys_iff.1 h.1
      rw [← hf, Field.ofKey?_key] at hkey
      cases hkey
    · rw [take, hkey]
  | some f =>
    have hf := Field.key_of_ofKey? hkey
    rcases word_cases f e.2 with ⟨w, hw⟩ | ⟨hrange, err, hword, herr⟩
    · exact .inl ⟨(f, w), Prod.ext hf.symm hw⟩
    · refine .inr ⟨fun h => hrange h.2, err, fun s => ?_, herr.trans hf⟩
      rw [take, hkey]
      dsimp only
      rw [hword]

/-! ## entries in their order -/

theorem takeAll_append (s : Settings) (xs : List (Field × UInt64))
    (l : List (String × Toml.Value)) :
    takeAll s (xs.map entry ++ l) = takeAll (xs.foldl (fun s x => s.set x.1 x.2) s) l := by
  induction xs generalizing s with
  | nil => rfl
  | cons x xs ih =>
    have hx : s.take (entry x) = .ok (s.set x.1 x.2) :=
      take_of_word (Field.ofKey?_key x.1) (word_toNat x.1 x.2)
    rw [List.map_cons, List.cons_append, takeAll, hx]
    exact ih (s.set x.1 x.2)

theorem takeAll_entries (s : Settings) (xs : List (Field × UInt64)) :
    takeAll s (xs.map entry) = .ok (xs.foldl (fun s x => s.set x.1 x.2) s) := by
  have h := takeAll_append s xs []
  rwa [List.append_nil] at h

theorem exists_map_entry {l : List (String × Toml.Value)} (h : ∀ e ∈ l, Allowed e) :
    ∃ xs : List (Field × UInt64), l = xs.map entry := by
  induction l with
  | nil => exact ⟨[], rfl⟩
  | cons e l ih =>
    obtain ⟨xs, hxs⟩ := ih fun y hy => h y (List.mem_cons_of_mem _ hy)
    rcases take_cases e with ⟨x, hx⟩ | ⟨hnot, -⟩
    · exact ⟨x :: xs, by rw [List.map_cons, hx, hxs]⟩
    · exact absurd (h e List.mem_cons_self) hnot

theorem takeAll_refused {before after : List (String × Toml.Value)} {e : String × Toml.Value}
    {err : SchemaError} (hbefore : ∀ x ∈ before, Allowed x)
    (he : ∀ s : Settings, s.take e = .error err) (s : Settings) :
    takeAll s (before ++ e :: after) = .error err := by
  obtain ⟨xs, rfl⟩ := exists_map_entry hbefore
  rw [takeAll_append, takeAll, he]

theorem get?_set (s : Settings) (f g : Field) (w : UInt64) :
    (s.set f w).get? g = if g = f then some w else s.get? g := by
  cases f <;> cases g <;> rfl

theorem get?_foldl_set {xs : List (Field × UInt64)} (hxs : (xs.map Prod.fst).Nodup) (s : Settings)
    (f : Field) (w : UInt64) : (xs.foldl (fun s x => s.set x.1 x.2) s).get? f = some w ↔
      (f, w) ∈ xs ∨ f ∉ xs.map Prod.fst ∧ s.get? f = some w := by
  induction xs generalizing s with
  | nil => simp
  | cons x xs ih =>
    obtain ⟨hx, hxs⟩ := List.nodup_cons.1 hxs
    rw [List.foldl_cons, ih hxs, get?_set, List.map_cons, List.mem_cons, List.mem_cons]
    by_cases hf : f = x.1
    · have hnot : (f, w) ∉ xs := fun h => hx (hf ▸ List.mem_map_of_mem h)
      have hhead : (f, w) = x ↔ some x.2 = some w := by
        rw [Option.some_inj, Prod.ext_iff]
        exact ⟨fun h => h.2.symm, fun h => ⟨hf, h.symm⟩⟩
      rw [if_pos hf, hhead]
      simp [hf, hx, or_comm]
    · have hhead : (f, w) ≠ x := fun h => hf (congrArg Prod.fst h)
      simp [hf, hhead]

theorem entry_inj {x y : Field × UInt64} (h : entry x = entry y) : x = y := by
  obtain ⟨hkey, hvalue⟩ := Prod.mk.inj h
  refine Prod.ext (Field.key_inj hkey) (UInt64.toNat_inj.1 ?_)
  exact Int.ofNat.inj (Toml.Value.integer.inj hvalue)

theorem ext_get? {s t : Settings} (h : ∀ f w, s.get? f = some w ↔ t.get? f = some w) : s = t := by
  have hget : ∀ f, s.get? f = t.get? f := fun f => Option.ext (h f)
  obtain ⟨a, b, c, d⟩ := s
  obtain ⟨a', b', c', d'⟩ := t
  have ha : a = a' := hget .debounce
  have hb : b = b' := hget .pollInterval
  have hc : c = c' := hget .maxConcurrentRuns
  have hd : d = d' := hget .teardownTimeout
  rw [ha, hb, hc, hd]

theorem takeAll_allowed {l : List (String × Toml.Value)} (hkeys : (l.map Prod.fst).Nodup)
    (h : ∀ e ∈ l, Allowed e) : ∃ s, takeAll empty l = .ok s ∧
      ∀ f w, s.get? f = some w ↔ entry (f, w) ∈ l := by
  obtain ⟨xs, rfl⟩ := exists_map_entry h
  have hfields : (xs.map Prod.fst).Nodup := by
    rw [List.map_map] at hkeys
    refine List.pairwise_map.2 ((List.pairwise_map.1 hkeys).imp fun hne h => hne ?_)
    exact congrArg Field.key h
  refine ⟨_, takeAll_entries empty xs, fun f w => ?_⟩
  rw [get?_foldl_set hfields]
  constructor
  · rintro (hmem | ⟨-, hempty⟩)
    · exact List.mem_map_of_mem hmem
    · cases f <;> cases hempty
  · intro hmem
    obtain ⟨y, hy, heq⟩ := List.mem_map.1 hmem
    exact .inl (entry_inj heq ▸ hy)

theorem exists_first_offender {l : List (String × Toml.Value)} (h : ¬ ∀ e ∈ l, Allowed e) :
    ∃ before e after, l = before ++ e :: after ∧ (∀ x ∈ before, Allowed x) ∧ ¬ Allowed e := by
  induction l with
  | nil => exact absurd (fun _ hx => nomatch hx) h
  | cons x l ih =>
    by_cases hx : Allowed x
    · have hl : ¬ ∀ e ∈ l, Allowed e := fun hall => h (List.forall_mem_cons.2 ⟨hx, hall⟩)
      obtain ⟨before, e, after, rfl, hbefore, he⟩ := ih hl
      exact ⟨x :: before, e, after, rfl, List.forall_mem_cons.2 ⟨hx, hbefore⟩, he⟩
    · exact ⟨[], x, l, rfl, List.forall_mem_nil _, hx⟩

/-! ## a table -/

theorem inKeyOrder_iff (a b : String × Toml.Value) : inKeyOrder a b = true ↔
    a.1 = b.1 ∨ Bytes.before (Bytes.ofText a.1) (Bytes.ofText b.1) = true := by
  rw [inKeyOrder, Bool.not_eq_true']
  constructor
  · intro h
    rcases Bytes.before_or_eq_or_before (Bytes.ofText a.1) (Bytes.ofText b.1) with hab | heq | hba
    · exact .inr hab
    · exact .inl (Utf8.ofText_inj heq)
    · rw [h] at hba
      cases hba
  · rintro (heq | hab)
    · rw [heq, Bytes.before_irrefl]
    · rw [Bool.eq_false_iff]
      intro hba
      exact Bytes.ne_of_before (Bytes.before_trans hab hba) rfl

theorem pairwise_sorted (entries : List (String × Toml.Value)) :
    (entries.mergeSort inKeyOrder).Pairwise fun a b => inKeyOrder a b = true := by
  refine List.pairwise_mergeSort (fun a b c hab hbc => ?_) (fun a b => ?_) entries
  · rw [inKeyOrder_iff] at hab hbc ⊢
    rcases hab with hab | hab
    · rwa [hab]
    · rcases hbc with hbc | hbc
      · rw [← hbc]
        exact .inr hab
      · exact .inr (Bytes.before_trans hab hbc)
  · rw [Bool.or_eq_true, inKeyOrder_iff, inKeyOrder_iff]
    rcases Bytes.before_or_eq_or_before (Bytes.ofText a.1) (Bytes.ofText b.1) with hab | heq | hba
    · exact .inl (.inr hab)
    · exact .inl (.inl (Utf8.ofText_inj heq))
    · exact .inr (.inr hba)

theorem ofTable_refused {e : String × Toml.Value} {err : SchemaError}
    (he : ∀ s : Settings, s.take e = .error err) : ofTable [e] = .error err := by
  rw [ofTable, List.mergeSort_singleton]
  exact takeAll_refused (List.forall_mem_nil _) he empty

/-- **All that can come of a table**: settings, each of them that of its own entry, or the error
that the entry to blame gives by itself. -/
theorem ofTable_cases {entries : List (String × Toml.Value)}
    (hkeys : (entries.map Prod.fst).Nodup) :
    ((∀ e ∈ entries, Allowed e) ∧ ∃ s, ofTable entries = .ok s ∧
      ∀ f w, s.get? f = some w ↔ entry (f, w) ∈ entries) ∨
    ∃ e err, LeastOffender entries e ∧ ofTable [e] = .error err ∧ err.key = e.1 ∧
      ofTable entries = .error err := by
  have hperm := List.mergeSort_perm entries inKeyOrder
  have hsorted := pairwise_sorted entries
  have hkeys' := (hperm.map Prod.fst).nodup_iff.2 hkeys
  unfold ofTable
  -- the entries in the order of their keys, in which the first that is refused is the least
  generalize entries.mergeSort inKeyOrder = sorted at hperm hsorted hkeys'
  by_cases hall : ∀ e ∈ sorted, Allowed e
  · obtain ⟨s, hs, hget⟩ := takeAll_allowed hkeys' hall
    refine .inl ⟨fun e he => hall e (hperm.mem_iff.2 he), s, hs, fun f w => ?_⟩
    rw [hget, hperm.mem_iff]
  · obtain ⟨before, e, after, rfl, hbefore, he⟩ := exists_first_offender hall
    rcases take_cases e with ⟨x, rfl⟩ | ⟨-, err, htake, herr⟩
    · exact absurd (allowed_entry x) he
    · refine .inr ⟨e, err, ⟨hperm.mem_iff.1 (by simp), he, fun x hx hnot hne => ?_⟩,
        ofTable_refused htake, herr, takeAll_refused hbefore htake empty⟩
      have hafter : x ∈ after := by
        rcases List.mem_append.1 (hperm.mem_iff.2 hx) with hx | hx
        · exact absurd (hbefore x hx) hnot
        · exact (List.mem_cons.1 hx).resolve_left hne
      have horder : inKeyOrder e x = true :=
        List.rel_of_pairwise_cons (List.pairwise_append.1 hsorted).2.1 hafter
      refine ((inKeyOrder_iff e x).1 horder).resolve_left fun hkey => ?_
      rw [List.map_append, List.map_cons, List.nodup_append, List.nodup_cons] at hkeys'
      exact hkeys'.2.1.1 (hkey ▸ List.mem_map_of_mem hafter)

theorem ofTable_congr {entries others : List (String × Toml.Value)}
    (hkeys : (entries.map Prod.fst).Nodup) (hothers : (others.map Prod.fst).Nodup)
    (hsame : ∀ e, e ∈ others ↔ e ∈ entries) : ofTable others = ofTable entries := by
  rcases ofTable_cases hkeys with ⟨hall, s, hs, hget⟩ | ⟨e, err, he, halone, -, herr⟩
  · rcases ofTable_cases hothers with ⟨-, t, ht, hget'⟩ | ⟨x, -, hx, -⟩
    · rw [hs, ht, ext_get? fun f w => (hget' f w).trans ((hsame _).trans (hget f w).symm)]
    · exact absurd (hall x ((hsame x).1 hx.1)) hx.2.1
  · rcases ofTable_cases hothers with ⟨hall, -⟩ | ⟨x, cause, hx, hcause, -, hothers⟩
    · exact absurd (hall e ((hsame e).2 he.1)) he.2.1
    · have hx' : LeastOffender entries x :=
        ⟨(hsame x).1 hx.1, hx.2.1, fun y hy => hx.2.2 y ((hsame y).2 hy)⟩
      rw [hx'.unique he, halone] at hcause
      rw [hothers, herr, Except.error.inj hcause]

/-- what has to come of entries: settings if all are allowed, each field with the value of its entry
or else its default; and otherwise the error that the entry to blame gives by itself, as it is told. -/
structure Judged {ε : Type} (tell : SchemaError → ε) (entries : List (String × Toml.Value))
    (result : Except ε Settings) : Prop where
  accepted_iff : (∃ s, result = .ok s) ↔ ∀ e ∈ entries, Allowed e
  value : ∀ s parallelism f, result = .ok s →
    (∀ n : Int, (f.key, .integer n) ∈ entries →
      ((Config.ofSettings s parallelism).get f).toNat = n) ∧
    (f.key ∉ entries.map Prod.fst →
      (Config.ofSettings s parallelism).get f = f.default parallelism)
  error_iff : ∀ err, result = .error err ↔ ∃ e cause, LeastOffender entries e ∧
    ofTable [e] = .error cause ∧ cause.key = e.1 ∧ err = tell cause

theorem Judged.mapError {entries : List (String × Toml.Value)} {r : Except SchemaError Settings}
    (h : Judged id entries r) {ε : Type} (tell : SchemaError → ε) :
    Judged tell entries (r.mapError tell) := by
  cases r with
  | ok s =>
    refine ⟨⟨fun _ => h.accepted_iff.1 ⟨s, rfl⟩, fun _ => ⟨s, rfl⟩⟩, fun t parallelism f ht => ?_,
      fun err => ⟨fun herr => (nomatch herr), ?_⟩⟩
    · cases ht
      exact h.value s parallelism f rfl
    · rintro ⟨e, cause, he, halone, hkey, -⟩
      exact nomatch (h.error_iff cause).2 ⟨e, cause, he, halone, hkey, rfl⟩
  | error cause =>
    have hrefused : ¬ ∀ e ∈ entries, Allowed e := fun hall => by
      obtain ⟨s, hs⟩ := h.accepted_iff.2 hall
      cases hs
    refine ⟨⟨fun ⟨s, hs⟩ => (nomatch hs), fun hall => absurd hall hrefused⟩,
      fun t _ _ ht => (nomatch ht), fun err => ⟨fun herr => ?_, ?_⟩⟩
    · obtain ⟨e, c, he, halone, hkey, rfl⟩ := (h.error_iff cause).1 rfl
      exact ⟨e, _, he, halone, hkey, (Except.error.inj herr).symm⟩
    · rintro ⟨e, c, he, halone, hkey, rfl⟩
      rw [Except.error.inj ((h.error_iff c).2 ⟨e, c, he, halone, hkey, rfl⟩)]
      rfl

/-- **A table gives what its entries have to give.** -/
theorem judged_ofTable {entries : List (String × Toml.Value)}
    (hkeys : (entries.map Prod.fst).Nodup) : Judged id entries (ofTable entries) := by
  rcases ofTable_cases hkeys with ⟨hall, s, hs, hget⟩ | ⟨e, cause, he, halone, hkey, hcause⟩
  · rw [hs]
    refine ⟨⟨fun _ => hall, fun _ => ⟨s, rfl⟩⟩, fun t parallelism f ht => ?_,
      fun err => ⟨fun herr => (nomatch herr), ?_⟩⟩
    · cases ht
      rw [Config.get_ofSettings]
      refine ⟨fun n hn => ?_, fun hnot => ?_⟩
      · obtain ⟨w, rfl⟩ := exists_word (hall _ hn)
        rw [(hget f w).2 hn]
        rfl
      · have hnone : s.get? f = none := Option.eq_none_iff_forall_ne_some.2 fun w hw =>
          hnot (List.mem_map_of_mem ((hget f w).1 hw))
        rw [hnone]
        rfl
    · rintro ⟨e, -, he, -⟩
      exact absurd (hall e he.1) he.2.1
  · rw [hcause]
    refine ⟨⟨fun ⟨s, hs⟩ => (nomatch hs), fun hall => absurd (hall e he.1) he.2.1⟩,
      fun s _ _ hs => (nomatch hs), fun err => ⟨fun herr => ?_, ?_⟩⟩
    · exact ⟨e, cause, he, halone, hkey, (Except.error.inj herr).symm⟩
    · rintro ⟨x, cause', hx, hcause', -, rfl⟩
      rw [hx.unique he, halone] at hcause'
      rw [Except.error.inj hcause']

/-! ## a document -/

theorem ofToml_of_document? {text : List Char} {entries : List (String × Toml.Value)}
    (h : Toml.document? text = some entries) :
    ofToml text = (ofTable entries).mapError ConfigError.schema := by
  rw [ofToml, h]
  dsimp only
  cases ofTable entries <;> rfl

/-- **The least offender is reported.** Let a table have these entries, and none of its keys twice.

* It is accepted if and only if every entry has one of the four keys and an integer from 0 to
  2^64 - 1.
* If it is, then each field has exactly the value of its entry, or its default if there is none,
  whatever else is set.
* If it is not, the error is about the entry to blame, and is the one that this entry gives in a
  table by itself.
* Tables with the same entries, in whatever order, give the same.

A document that is TOML is such a table, and what is read of it is what comes of the table. -/
theorem least_offender_reported :
    (∀ entries : List (String × Toml.Value), (entries.map Prod.fst).Nodup →
      Judged id entries (ofTable entries) ∧
      ∀ others : List (String × Toml.Value), (others.map Prod.fst).Nodup →
        (∀ e, e ∈ others ↔ e ∈ entries) → ofTable others = ofTable entries) ∧
    ∀ text entries, Toml.document? text = some entries →
      (entries.map Prod.fst).Nodup ∧
      ofToml text = (ofTable entries).mapError ConfigError.schema ∧
      Judged ConfigError.schema entries (ofToml text) ∧
      ∀ other others, Toml.document? other = some others → (∀ e, e ∈ others ↔ e ∈ entries) →
        ofToml other = ofToml text := by
  refine ⟨fun entries hkeys => ⟨judged_ofTable hkeys, fun others hothers hsame =>
    ofTable_congr hkeys hothers hsame⟩, fun text entries h => ?_⟩
  have hkeys := Toml.nodup_document? h
  have hread := ofToml_of_document? h
  refine ⟨hkeys, hread, hread ▸ (judged_ofTable hkeys).mapError ConfigError.schema, ?_⟩
  intro other others hother hsame
  rw [ofToml_of_document? hother, hread, ofTable_congr hkeys (Toml.nodup_document? hother) hsame]

/-- three entries, two of them not allowed: the one that is reported is not the first. -/
theorem least_offender_reported_second :
    let text := "zz = true\nmax-concurrent-runs = -1\ndebounce-ms = 250".toList
    (∃ entries, Toml.document? text = some entries) ∧
    ∃ cause, ofToml text = .error (.schema cause) ∧ cause.key = "max-concurrent-runs" := by
  intro text
  have hread : (Toml.document? text).map (List.map fun e => (e.1, decide (Allowed e))) =
      some [("zz", false), ("max-concurrent-runs", false), ("debounce-ms", true)] := by
    decide +kernel
  obtain ⟨entries, h, hentries⟩ := Option.map_eq_some_iff.1 hread
  obtain ⟨-, -, hjudged, -⟩ := least_offender_reported.2 _ _ h
  obtain ⟨x, _, rfl, hx, hentries⟩ := List.map_eq_cons_iff.1 hentries
  obtain ⟨y, _, rfl, hy, hentries⟩ := List.map_eq_cons_iff.1 hentries
  obtain ⟨z, _, rfl, hz, hentries⟩ := List.map_eq_cons_iff.1 hentries
  obtain rfl := List.map_eq_nil_iff.1 hentries
  obtain ⟨hxkey, -⟩ := Prod.mk.inj hx
  obtain ⟨hykey, hy⟩ := Prod.mk.inj hy
  obtain ⟨-, hz⟩ := Prod.mk.inj hz
  have hleast : LeastOffender [x, y, z] y := by
    refine ⟨by simp, of_decide_eq_false hy, ?_⟩
    simp only [List.forall_mem_cons]
    refine ⟨fun _ _ => ?_, fun _ hne => absurd rfl hne,
      fun hnot => absurd (of_decide_eq_true hz) hnot, List.forall_mem_nil _⟩
    rw [hykey, hxkey]
    decide
  rcases take_cases y with ⟨w, rfl⟩ | ⟨-, cause, htake, hkey⟩
  · exact absurd (allowed_entry w) hleast.2.1
  · have hcause := (hjudged.error_iff _).2 ⟨y, cause, hleast, ofTable_refused htake, hkey, rfl⟩
    exact ⟨⟨_, h⟩, cause, hcause, hkey.trans hykey⟩

end Settings

/-- **Every configuration** is that of a table. -/
theorem Config.exists_ofTable (c : Config) : ∃ entries s,
    Settings.ofTable entries = .ok s ∧ ∀ parallelism, Config.ofSettings s parallelism = c := by
  let xs : List (Field × UInt64) := [(.debounce, c.debounceMs),
    (.maxConcurrentRuns, c.maxConcurrentRuns), (.pollInterval, c.pollIntervalMs),
    (.teardownTimeout, c.teardownTimeoutMs)]
  have hkeys : (xs.map fun x => x.1.key).Pairwise fun k l =>
      (!Bytes.before (Bytes.ofText l) (Bytes.ofText k)) = true := by
    show ["debounce-ms", "max-concurrent-runs", "poll-interval-ms",
      "teardown-timeout-ms"].Pairwise _
    decide
  have hsorted : (xs.map Settings.entry).Pairwise fun e f => Settings.inKeyOrder e f = true :=
    List.pairwise_map.2 (List.pairwise_map.1 hkeys)
  refine ⟨xs.map Settings.entry, xs.foldl (fun s x => s.set x.1 x.2) .empty, ?_, fun _ => rfl⟩
  rw [Settings.ofTable, List.mergeSort_of_pairwise hsorted]
  exact Settings.takeAll_entries _ xs

end Regen
