/-!
# Watermarks

The time as of which the targets of a source are known to be generated.

* `Time`                        of files and of the wall clock, of which only the order matters;
* `Watermark`                   such a time, or none yet;
* `Watermark.absorb`            lowers it to an earlier time;
* `Watermark.set`               replaces it;
* `Watermark.isCurrentFor`      whether it covers a source of a given time stamp;
* `Watermark.isSupersededBy`    whether a target of a given time stamp is newer.

Main statements: `absorb_absorb_comm` (the order of absorbing does not matter) and
`isSupersededBy_iff`.
-/

namespace Regen

/-- a time of a file or of the wall clock, counted in any unit: nothing but the order of times is
looked at. -/
abbrev Time := Int

structure Watermark where
  time? : Option Time
  deriving DecidableEq, Repr

namespace Watermark

def unset : Watermark := ⟨none⟩

/-- lowers the watermark to a time that is earlier, or sets it if it is unset. -/
def absorb (w : Watermark) (t : Time) : Watermark :=
  match w.time? with
  | none => ⟨some t⟩
  | some s => if t < s then ⟨some t⟩ else w

/-- replaces the watermark, also by an earlier time. -/
def set (_ : Watermark) (t : Time) : Watermark := ⟨some t⟩

/-- whether the watermark covers a source; one that is missing is covered by any set watermark. -/
def isCurrentFor (w : Watermark) (source : Option Time) : Bool :=
  match w.time?, source with
  | some t, some s => s ≤ t
  | some _, none => true
  | none, _ => false

def isSupersededBy (w : Watermark) (t : Time) : Bool :=
  match w.time? with
  | none => true
  | some s => s < t

/-- the order of watermarks: unset comes before every time. -/
def compare (w v : Watermark) : Ordering :=
  match w.time?, v.time? with
  | none, none => .eq
  | none, some _ => .lt
  | some _, none => .gt
  | some s, some t => Ord.compare s t

/-! ## laws -/

theorem isSupersededBy_iff (w : Watermark) (t : Time) :
    w.isSupersededBy t ↔ ∀ s, w.time? = some s → s < t := by
  unfold isSupersededBy
  cases h : w.time? <;> simp

theorem absorb_absorb_comm (w : Watermark) (s t : Time) :
    (w.absorb s).absorb t = (w.absorb t).absorb s := by
  obtain ⟨o⟩ := w
  cases o <;> grind [absorb]

end Watermark
end Regen
