import Regen.Bytes

/-!
# UTF-8, read without ever failing

The reader keeps a small state between bytes. A byte that cannot continue the character being
read ends it: the bytes read so far are replaced by one U+FFFD, and the byte is looked at again
as a first byte. So each maximal part that no character starts with costs one replacement, and
a line feed always stands for itself, whatever came before it.

* `Utf8.State`     what is owed of a character half read;
* `Utf8.step`      one byte: the characters it completes, and the state after it;
* `Utf8.lossy`     the text of any byte string;
* `Utf8.encode`    the bytes of a text;
* `Utf8.decode?`   the text of a byte string that is valid UTF-8.

Main statement: `lossy_append_newline` (a line feed cuts the reading in two).
-/

namespace Regen.Utf8

/-- a character half read: `more` bytes are owed after the next one, which must lie between
`low` and `high`; `bits` is what the bytes so far say. -/
inductive State where
  | start
  | owed (more : Nat) (low high : UInt8) (bits : Nat)
  deriving DecidableEq, Repr

/-- what stands for bytes that are no character. -/
def replacement : Char := Char.ofNat 0xFFFD

/-- a byte where a character may start. The bounds of a second byte keep out spellings longer
than needed, surrogates and values above U+10FFFF. -/
def first (b : UInt8) : List Char × State :=
  if b < 0x80 then ([Char.ofNat b.toNat], .start)
  else if b < 0xC2 then ([replacement], .start)
  else if b < 0xE0 then ([], .owed 0 0x80 0xBF (b.toNat - 0xC0))
  else if b = 0xE0 then ([], .owed 1 0xA0 0xBF 0)
  else if b = 0xED then ([], .owed 1 0x80 0x9F 0xD)
  else if b < 0xF0 then ([], .owed 1 0x80 0xBF (b.toNat - 0xE0))
  else if b = 0xF0 then ([], .owed 2 0x90 0xBF 0)
  else if b < 0xF4 then ([], .owed 2 0x80 0xBF (b.toNat - 0xF0))
  else if b = 0xF4 then ([], .owed 2 0x80 0x8F 4)
  else ([replacement], .start)

def step : State → UInt8 → List Char × State
  | .start, b => first b
  | .owed more low high bits, b =>
    if low ≤ b ∧ b ≤ high then
      let bits := bits * 64 + (b.toNat - 0x80)
      match more with
      | 0 => ([Char.ofNat bits], .start)
      | more + 1 => ([], .owed more 0x80 0xBF bits)
    else
      let (cs, st) := first b
      (replacement :: cs, st)

/-- the end of the bytes: a character still owed becomes one replacement. -/
def flush : State → List Char
  | .start => []
  | .owed .. => [replacement]

/-- reads on from a state, with the text so far in reverse. -/
def readInto (out : List Char) (st : State) : Bytes → List Char
  | [] => out.reverse ++ flush st
  | b :: bs =>
    let (cs, st) := step st b
    readInto (cs.reverse ++ out) st bs

def lossy (bs : Bytes) : List Char := readInto [] .start bs

def encode (cs : List Char) : Bytes := cs.flatMap String.utf8EncodeChar

/-- the text of a byte string that is valid UTF-8: the one whose bytes it is. -/
def decode? (bs : Bytes) : Option (List Char) :=
  let cs := lossy bs
  if encode cs == bs then some cs else none

def lossyText (bs : Bytes) : String := String.ofList (lossy bs)

/-! ## reading in parts -/

theorem readInto_eq (out : List Char) (st : State) (bs : Bytes) :
    readInto out st bs = out.reverse ++ readInto [] st bs := by
  induction bs generalizing out st with
  | nil => simp [readInto]
  | cons b bs ih =>
    simp only [readInto]
    rw [ih, ih ((step st b).1.reverse ++ [])]
    simp

theorem readInto_cons (st : State) (b : UInt8) (bs : Bytes) :
    readInto [] st (b :: bs) = (step st b).1 ++ readInto [] (step st b).2 bs := by
  simp only [readInto]
  rw [readInto_eq]
  simp

/-- after a line feed the reader is between characters, and what was owed is replaced. -/
theorem step_newline (st : State)
    (h : ∀ more low high bits, st = .owed more low high bits → (10 : UInt8) < low) :
    step st 10 = (flush st ++ ['\n'], .start) := by
  cases st with
  | start => rfl
  | owed more low high bits =>
    have hl := h _ _ _ _ rfl
    have : ¬ (low ≤ 10 ∧ 10 ≤ high) := by
      intro hc
      exact absurd hc.1 (UInt8.not_le.2 hl)
    simp only [step, this, if_false]
    rfl

/-- what is owed is never an ASCII byte. -/
def Sound : State → Prop
  | .start => True
  | .owed _ low _ _ => (10 : UInt8) < low

theorem first_sound (b : UInt8) : Sound (first b).2 := by
  unfold first
  repeat' split
  all_goals simp only [Sound]
  all_goals decide

theorem step_sound (st : State) (b : UInt8) : Sound (step st b).2 := by
  cases st with
  | start => exact first_sound b
  | owed more low high bits =>
    simp only [step]
    split
    · cases more with
      | zero => trivial
      | succ more => simp only [Sound]; decide
    · exact first_sound b

theorem readInto_append_newline (st : State) (hs : Sound st) (a b : Bytes) :
    readInto [] st (a ++ 10 :: b) = readInto [] st a ++ '\n' :: lossy b := by
  induction a generalizing st with
  | nil =>
    rw [List.nil_append, readInto_cons, step_newline]
    · simp [readInto, lossy]
    · rintro more low high bits rfl
      exact hs
  | cons x a ih =>
    rw [List.cons_append, readInto_cons, readInto_cons, ih _ (step_sound st x)]
    simp

/-- a line feed cuts the reading in two. -/
theorem lossy_append_newline (a b : Bytes) : lossy (a ++ 10 :: b) = lossy a ++ '\n' :: lossy b :=
  readInto_append_newline .start trivial a b

end Regen.Utf8
