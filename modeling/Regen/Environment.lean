import Regen.Bytes

/-!
# Environments

The variables a generator runs with, in the order of the bytes of their names, and the changes a
kit makes to them.

* `Environment.get?`     the value of a variable;
* `Environment.set`      gives a variable a value;
* `Environment.unset`    removes a variable;
* `Change`               one change: set, unset, or a value put at either end of a path list;
* `Environment.modify`   a list of changes, in order.

Main statements: `get?_set`, `get?_unset` and `get?_apply` (what a variable holds after a change
depends on its own value alone).
-/

namespace Regen

/-- the order of byte strings: the first differing byte decides, a shorter one comes first. -/
def Bytes.before : Bytes → Bytes → Bool
  | _, [] => false
  | [], _ :: _ => true
  | a :: as, b :: bs => a < b || (a == b && Bytes.before as bs)

theorem Bytes.before_irrefl (a : Bytes) : Bytes.before a a = false := by
  induction a with
  | nil => rfl
  | cons x a ih =>
    have : ¬ x < x := UInt8.lt_irrefl x
    simp [Bytes.before, ih, this]

/-- variables with their values, by name. -/
structure Environment where
  vars : List (Bytes × Bytes)
  deriving DecidableEq, Repr

/-- one change of an environment. A path list is a value whose parts are separated by colons. -/
inductive Change where
  | set (name value : Bytes)
  | unset (name : Bytes)
  /-- puts a value at the end of a path list. -/
  | append (name value : Bytes)
  /-- puts a value at the front of a path list. -/
  | prepend (name value : Bytes)
  deriving DecidableEq, Repr

def Change.name : Change → Bytes
  | .set n _ => n
  | .unset n => n
  | .append n _ => n
  | .prepend n _ => n

def pathListSeparator : UInt8 := 58

def joinPathList (head tail : Bytes) : Bytes := head ++ pathListSeparator :: tail

/-- a value put at one end of a path list: it stands alone if the list is absent or empty. -/
def joinedWith (join : Bytes → Bytes) (value : Bytes) : Option Bytes → Bytes
  | none => value
  | some current => if current = [] then value else join current

def Change.value (current : Option Bytes) : Change → Option Bytes
  | .set _ v => some v
  | .unset _ => none
  | .append _ v => some (joinedWith (fun c => joinPathList c v) v current)
  | .prepend _ v => some (joinedWith (fun c => joinPathList v c) v current)

namespace Environment

def empty : Environment := ⟨[]⟩

/-- the value of the first entry of a name. -/
def lookup (name : Bytes) : List (Bytes × Bytes) → Option Bytes
  | [] => none
  | (n, v) :: es => if n = name then some v else lookup name es

/-- the entries with a name given a value, at its place in the order of names. -/
def put (name value : Bytes) : List (Bytes × Bytes) → List (Bytes × Bytes)
  | [] => [(name, value)]
  | (n, v) :: es =>
    if n = name then (name, value) :: es
    else if Bytes.before name n then (name, value) :: (n, v) :: es
    else (n, v) :: put name value es

def get? (e : Environment) (name : Bytes) : Option Bytes := lookup name e.vars

def set (e : Environment) (name value : Bytes) : Environment := ⟨put name value e.vars⟩

def unset (e : Environment) (name : Bytes) : Environment := ⟨e.vars.filter fun v => v.1 ≠ name⟩

/-- the environment of a list of assignments; a later one of a name overrides an earlier one. -/
def ofList (vs : List (Bytes × Bytes)) : Environment := vs.foldl (fun e v => e.set v.1 v.2) empty

def size (e : Environment) : Nat := e.vars.length

def apply (e : Environment) (c : Change) : Environment :=
  match c.value (e.get? c.name) with
  | some v => e.set c.name v
  | none => e.unset c.name

def modify (e : Environment) (cs : List Change) : Environment := cs.foldl apply e

/-! ## what a variable holds -/

theorem lookup_put (name value other : Bytes) (es : List (Bytes × Bytes)) :
    lookup other (put name value es) = if name = other then some value else lookup other es := by
  induction es with
  | nil => simp [put, lookup]
  | cons e es ih =>
    obtain ⟨n, v⟩ := e
    simp only [put]
    by_cases hn : n = name
    · subst hn
      by_cases ho : n = other <;> simp [lookup, ho]
    · rw [if_neg hn]
      by_cases hb : Bytes.before name n = true
      · rw [if_pos hb]
        by_cases ho : name = other <;> simp [lookup, ho]
      · rw [if_neg hb]
        simp only [lookup, ih]
        by_cases ho : n = other
        · have : ¬ name = other := fun h => hn (ho.trans h.symm)
          simp [ho, this]
        · simp [ho]

theorem lookup_filter (name other : Bytes) (es : List (Bytes × Bytes)) :
    lookup other (es.filter fun v => v.1 ≠ name) =
      if name = other then none else lookup other es := by
  induction es with
  | nil => simp [lookup]
  | cons e es ih =>
    obtain ⟨n, v⟩ := e
    by_cases hn : n = name
    · subst hn
      simp only [List.filter_cons, ne_eq, not_true_eq_false, decide_false, Bool.false_eq_true,
        if_false, ih, lookup]
      by_cases ho : n = other <;> simp [ho]
    · simp only [List.filter_cons, ne_eq, hn, not_false_eq_true, decide_true, if_true, lookup, ih]
      by_cases ho : n = other
      · have : ¬ name = other := fun h => hn (ho.trans h.symm)
        simp [ho, this]
      · simp [ho]

@[simp] theorem get?_set (e : Environment) (name value other : Bytes) :
    (e.set name value).get? other = if name = other then some value else e.get? other :=
  lookup_put ..

@[simp] theorem get?_unset (e : Environment) (name other : Bytes) :
    (e.unset name).get? other = if name = other then none else e.get? other :=
  lookup_filter ..

theorem get?_apply (e : Environment) (c : Change) (name : Bytes) :
    (e.apply c).get? name = if c.name = name then c.value (e.get? name) else e.get? name := by
  unfold apply
  by_cases h : c.name = name
  · subst h
    rw [if_pos rfl]
    split
    next v hv => rw [get?_set, if_pos rfl, hv]
    next hv => rw [get?_unset, if_pos rfl, hv]
  · rw [if_neg h]
    split <;> simp [h]

end Environment
end Regen
