import Mathlib.Data.List.DropRight
import Regen.Proofs.Environment.Order

/-!
# What a list of changes makes of a variable

Only the changes of a variable itself reach it. Of these the last set or unset says what the variable
holds before the values put at its ends after that: its *base*. Values put at the ends of a list that is
absent or empty say nothing as long as they are empty, and the first one that is not becomes the base.
From there on every value becomes a part of the list, the empty ones too.

* `Change.base`       what a variable holds after the last set or unset of it;
* `Change.ends`       the values put at its ends after that;
* `Change.pathList`   a path list with values put at its ends;
* `Change.extend`     what becomes of a base;
* `Change.outcome`    what becomes of a variable.

Main statements: `get?_modify` (only the changes of the variable count), `foldl_value` (they come to
its base and ends), `foldl_value_ends` (and these to one path list), and
`Environment.value_after_changes`.
-/

namespace Regen

/-! ## pieces -/

namespace Bytes

theorem join_cons_of_ne_nil (sep : UInt8) (p : Bytes) {ps : List Bytes} (h : ps ≠ []) :
    join sep (p :: ps) = p ++ sep :: join sep ps := by
  cases ps with
  | nil => exact absurd rfl h
  | cons q ps => rfl

/-- a piece that holds the separator counts as two. -/
theorem join_append_cons (sep : UInt8) (ps : List Bytes) (p q : Bytes) (qs : List Bytes) :
    join sep (ps ++ (p ++ sep :: q) :: qs) = join sep (ps ++ p :: q :: qs) := by
  induction ps with
  | nil => cases qs <;> simp [join]
  | cons r ps ih =>
    rw [List.cons_append, List.cons_append, join_cons_of_ne_nil sep r (by simp),
      join_cons_of_ne_nil sep r (by simp), ih]

end Bytes

namespace Change

/-- whether a change says what a variable holds, whatever it held. -/
def isFresh : Change → Bool
  | .set _ _ => true
  | .unset _ => true
  | .append _ _ => false
  | .prepend _ _ => false

def brings? : Change → Option Bytes
  | .set _ v => some v
  | .unset _ => none
  | .append _ v => some v
  | .prepend _ v => some v

/-- the value that a change puts at the end. -/
def appends? : Change → Option Bytes
  | .append _ v => some v
  | _ => none

/-- the value that a change puts at the front. -/
def prepends? : Change → Option Bytes
  | .prepend _ v => some v
  | _ => none

def base (prior : Option Bytes) (cs : List Change) : Option Bytes :=
  match (cs.filter isFresh).getLast? with
  | some c => c.brings?
  | none => prior

def ends (cs : List Change) : List Change := cs.rtakeWhile fun c => !c.isFresh

/-- a path list with values put at its ends: those in front, the last one first, the list itself,
and those behind it. -/
def pathList (list : Bytes) (cs : List Change) : Bytes :=
  Bytes.join pathListSeparator
    ((cs.filterMap prepends?).reverse ++ list :: cs.filterMap appends?)

def extend (base : Option Bytes) (cs : List Change) : Option Bytes :=
  if base = none ∨ base = some [] then
    match cs.dropWhile fun c => c.brings? = some [] with
    | c :: later => c.brings?.map fun first => pathList first later
    | [] => if base = none ∧ cs = [] then none else some []
  else base.map fun list => pathList list cs

def outcome (prior : Option Bytes) (cs : List Change) : Option Bytes := extend (base prior cs) (ends cs)

/-! ## the base and what comes after it -/

theorem value_of_isFresh {c : Change} (hc : c.isFresh = true) (v : Option Bytes) :
    c.value v = c.brings? := by
  cases c with
  | set n w => rfl
  | unset n => rfl
  | append n w => exact Bool.noConfusion hc
  | prepend n w => exact Bool.noConfusion hc

theorem isFresh_of_mem_ends {cs : List Change} {c : Change} (hc : c ∈ ends cs) :
    c.isFresh = false := by simpa using List.mem_rtakeWhile_imp hc

theorem base_append_singleton (prior : Option Bytes) (cs : List Change) (c : Change) :
    base prior (cs ++ [c]) = if c.isFresh then c.brings? else base prior cs := by
  unfold base
  rw [List.filter_append, List.filter_singleton]
  cases c.isFresh <;> simp

theorem ends_append_singleton (cs : List Change) (c : Change) :
    ends (cs ++ [c]) = if c.isFresh then [] else ends cs ++ [c] := by
  unfold ends
  rw [List.rtakeWhile_concat]
  cases c.isFresh <;> simp

/-- **The changes of a variable** come to those after the last set or unset, made to its base. -/
theorem foldl_value (prior : Option Bytes) (cs : List Change) :
    cs.foldl (fun v c => c.value v) prior = (ends cs).foldl (fun v c => c.value v) (base prior cs) := by
  induction cs using List.reverseRecOn with
  | nil => rfl
  | append_singleton cs c ih =>
    rw [List.foldl_append, ih, base_append_singleton, ends_append_singleton]
    cases hc : c.isFresh with
    | true => exact value_of_isFresh hc _
    | false => exact List.foldl_append.symm

/-! ## the path list -/

/-- a value put at an end of a list that is not empty becomes a part of it. -/
theorem value_some {c : Change} (hc : c.isFresh = false) {list : Bytes} (hl : list ≠ []) :
    ∃ longer, c.value (some list) = some longer ∧ longer ≠ [] ∧
      ∀ cs, pathList longer cs = pathList list (c :: cs) := by
  cases c with
  | set n v => exact Bool.noConfusion hc
  | unset n => exact Bool.noConfusion hc
  | append n v =>
    refine ⟨joinPathList list v, congrArg some (if_neg hl), by simp [joinPathList], fun cs => ?_⟩
    exact Bytes.join_append_cons ..
  | prepend n v =>
    refine ⟨joinPathList v list, congrArg some (if_neg hl), by simp [joinPathList], fun cs => ?_⟩
    have hp : (prepend n v :: cs).filterMap prepends? = v :: cs.filterMap prepends? := rfl
    unfold pathList
    rw [hp, List.reverse_cons, List.append_assoc]
    exact Bytes.join_append_cons ..

/-- a value put at an end of a list that is absent or empty stands alone. -/
theorem value_of_none_or_nil {c : Change} (hc : c.isFresh = false) {v : Option Bytes}
    (hv : v = none ∨ v = some []) : c.value v = c.brings? ∧ c.brings? ≠ none := by
  cases c with
  | set n w => exact Bool.noConfusion hc
  | unset n => exact Bool.noConfusion hc
  | append n w => rcases hv with rfl | rfl <;> exact ⟨rfl, Option.some_ne_none w⟩
  | prepend n w => rcases hv with rfl | rfl <;> exact ⟨rfl, Option.some_ne_none w⟩

theorem foldl_value_some {cs : List Change} (hcs : ∀ c ∈ cs, c.isFresh = false) {list : Bytes}
    (hl : list ≠ []) :
    cs.foldl (fun v c => c.value v) (some list) = some (pathList list cs) := by
  induction cs generalizing list with
  | nil => rfl
  | cons c cs ih =>
    obtain ⟨hc, hcs⟩ := List.forall_mem_cons.1 hcs
    obtain ⟨longer, hv, hne, hp⟩ := value_some hc hl
    rw [List.foldl_cons, hv, ih hcs hne, hp]

/-- **Values put at the ends** of a base come to one path list. -/
theorem foldl_value_ends {cs : List Change} (hcs : ∀ c ∈ cs, c.isFresh = false)
    (base : Option Bytes) : cs.foldl (fun v c => c.value v) base = extend base cs := by
  unfold extend
  by_cases hb : base = none ∨ base = some []
  · rw [if_pos hb]
    induction cs generalizing base with
    | nil => rcases hb with rfl | rfl <;> rfl
    | cons c cs ih =>
      obtain ⟨hc, hcs⟩ := List.forall_mem_cons.1 hcs
      obtain ⟨hv, hne⟩ := value_of_none_or_nil hc hb
      rw [List.foldl_cons, hv]
      by_cases he : c.brings? = some []
      · rw [List.dropWhile_cons_of_pos (by simpa using he), ih hcs _ (.inr he), he]
        simp
      · obtain ⟨first, hf⟩ := Option.ne_none_iff_exists'.1 hne
        have hfirst : first ≠ [] := fun h => he (h ▸ hf)
        rw [List.dropWhile_cons_of_neg (by simpa using he)]
        show cs.foldl _ c.brings? = c.brings?.map fun list => pathList list cs
        rw [hf]
        exact foldl_value_some hcs hfirst
  · rw [if_neg hb]
    rw [not_or] at hb
    obtain ⟨list, rfl⟩ := Option.ne_none_iff_exists'.1 hb.1
    exact foldl_value_some hcs fun h => hb.2 (h ▸ rfl)

end Change

namespace Environment

theorem get?_modify (e : Environment) (cs : List Change) (name : Bytes) :
    (e.modify cs).get? name =
      (cs.filter fun c => c.name = name).foldl (fun v c => c.value v) (e.get? name) := by
  induction cs generalizing e with
  | nil => rfl
  | cons c cs ih =>
    show ((e.apply c).modify cs).get? name = _
    rw [ih, get?_apply]
    by_cases hc : c.name = name
    · rw [if_pos hc, List.filter_cons_of_pos (by simpa using hc)]
      rfl
    · rw [if_neg hc, List.filter_cons_of_neg (by simpa using hc)]

theorem get?_modify_congr (e : Environment) {cs ds : List Change} {name : Bytes}
    (h : cs.filter (fun c => c.name = name) = ds.filter fun c => c.name = name) :
    (e.modify cs).get? name = (e.modify ds).get? name := by
  rw [get?_modify, get?_modify, h]

/-- two changes of different variables may change places, as far as one variable is concerned. -/
theorem filter_swap {c d : Change} (hcd : c.name ≠ d.name) (cs ds : List Change) (name : Bytes) :
    (cs ++ c :: d :: ds).filter (fun c => c.name = name)
      = (cs ++ d :: c :: ds).filter fun c => c.name = name := by
  rw [List.filter_append, List.filter_append]
  congr 1
  by_cases hc : c.name = name
  · have hd : ¬ d.name = name := fun h => hcd (hc.trans h.symm)
    simp [hc, hd]
  · simp [List.filter_cons, hc]

/-- **What a list of changes makes of a variable.** It depends on what the variable held before and
on the changes of it. Take the value of the last set among these, or nothing if an unset comes last, or
what was there before if there is neither: the base. Of the values put at the ends after that, the
leading empty ones do not count while the base is absent or empty, and the first other one takes its
place. Then the variable holds the path list of the values put in front, the last one first, the base,
and the values put behind, in order. If nothing takes the place of an absent or empty base, it holds
the empty value, or nothing where the base is absent and no value was put at its ends at all.

So two changes of different variables may change places: every variable holds the same, and an
environment that is in order, as every one is that was built up from the empty one, becomes the
same. -/
theorem value_after_changes (e : Environment) :
    (∀ cs name, (e.modify cs).get? name =
      Change.outcome (e.get? name) (cs.filter fun c => c.name = name)) ∧
    ∀ cs c d ds, c.name ≠ d.name →
      (∀ name, (e.modify (cs ++ c :: d :: ds)).get? name = (e.modify (cs ++ d :: c :: ds)).get? name) ∧
      (e.Ordered → e.modify (cs ++ c :: d :: ds) = e.modify (cs ++ d :: c :: ds)) := by
  refine ⟨fun cs name => ?_, fun cs c d ds hcd => ?_⟩
  · rw [get?_modify, Change.foldl_value]
    exact Change.foldl_value_ends (fun c => Change.isFresh_of_mem_ends) _
  · have hsame : ∀ name, (e.modify (cs ++ c :: d :: ds)).get? name
        = (e.modify (cs ++ d :: c :: ds)).get? name := fun name =>
      e.get?_modify_congr (filter_swap hcd cs ds name)
    exact ⟨hsame, fun he => (he.modify _).ext (he.modify _) hsame⟩

/-- leading empty values vanish, later ones leave separators. -/
example :
    let n : Bytes := [80]
    (ofList [(n, [1])]).modify [.unset n, .append n [], .prepend n [2], .append n [], .set [81] [9],
      .prepend n [3]] = ofList [(n, [3, 58, 2, 58]), ([81], [9])] := by decide

end Environment
end Regen
