import Regen.Disk

/-!
# Which targets are out of date

Time stamps on disk are the only record of staleness that outlives the program: a target older
than its source is stale, and one newer than both the source and the watermark was made by
somebody else, an external build, and can be taken as it is.

* `Scan`, `scan`      what the targets on disk say when a compiler is created;
* `reconcile`         the targets an external build made, taken one at a time: each raises the
                      watermark that the next one is judged by.
-/

namespace Regen

/-- what the targets on disk say. -/
structure Scan where
  /-- a target is missing or older than the source. -/
  dirty : Bool
  /-- the earliest modification time of the targets that have one. -/
  watermark : Watermark
  /-- the bytes of every target that can be read, in order. -/
  loaded : List (Path × Bytes)
  deriving Repr

namespace Scan

/-- nothing looked at yet. -/
def clean : Scan := ⟨false, .unset, []⟩

/-- whether a time stamp is earlier than the source's, where the source has one. -/
def olderThan (source : Option Time) (t : Time) : Bool :=
  match source with
  | some s => t < s
  | none => false

def see (disk : Disk) (source : Option Time) (s : Scan) (target : Path) : Scan :=
  match disk.modified target with
  | none => { s with dirty := true }
  | some t =>
    ⟨s.dirty || olderThan source t, s.watermark.absorb t,
      match disk.read? target with
      | some bytes => s.loaded ++ [(target, bytes)]
      | none => s.loaded⟩

end Scan

def scan (disk : Disk) (source : Path) (targets : List Path) : Scan :=
  targets.foldl (Scan.see disk (disk.modified source)) .clean

/-- the targets taken so far, and the watermark they raised. -/
structure Reconciled where
  watermark : Watermark
  adopted : List (Path × Bytes)
  deriving Repr

namespace Reconciled

/-- whether a time stamp is later than the source's, where the source has one. -/
def newerThan (source : Option Time) (t : Time) : Bool :=
  match source with
  | some s => s < t
  | none => true

def judge (disk : Disk) (source : Option Time) (r : Reconciled) (target : Path) : Reconciled :=
  match disk.modified target with
  | none => r
  | some t =>
    if newerThan source t && r.watermark.isSupersededBy t then
      match disk.read? target with
      | some bytes => ⟨r.watermark.set t, r.adopted ++ [(target, bytes)]⟩
      | none => r
    else r

end Reconciled

/-- takes the targets that an external build made after the watermark; nothing is taken while the
watermark covers the source. -/
def reconcile (disk : Disk) (source : Path) (w : Watermark) (targets : List Path) : Reconciled :=
  let s := disk.modified source
  if w.isCurrentFor s then ⟨w, []⟩ else targets.foldl (Reconciled.judge disk s) ⟨w, []⟩

end Regen
