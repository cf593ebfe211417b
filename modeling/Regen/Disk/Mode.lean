/-!
# Permissions of files

Who owns a file may read it, write it and run it, or not; so may its group, and all others. Three more
bits stand before those nine. Whoever asks here owns all files, and nothing lets an owner do what the mode
denies.

* `Mode`             the bits of all permissions;
* `Mode.letters`     the nine permissions as letters;
* `Mode.octal`       the bits as four digits.
-/

namespace Regen

/-- the permissions of a file as bits: from the lowest on those of others, of the group and of the owner, and
the three that stand before them. -/
structure Mode where
  bits : Nat
  deriving DecidableEq, Repr

namespace Mode

def allBits : Nat := 4095

def full : Mode := ⟨511⟩

def shared : Mode := ⟨438⟩

def own : Mode := ⟨384⟩

/-- everybody may read and run, and the owner may write. -/
def runnable : Mode := ⟨493⟩

def readable : Mode := ⟨420⟩

def reads (p : Mode) : Bool := p.bits / 256 % 2 == 1

def writes (p : Mode) : Bool := p.bits / 128 % 2 == 1

/-- whether the owner may run the file, or look up names in the directory. -/
def runs (p : Mode) : Bool := p.bits / 64 % 2 == 1

def runsForAny (p : Mode) : Bool := p.bits &&& 73 != 0

def without (p : Mode) (mask : Nat) : Mode := ⟨p.bits - (p.bits &&& mask)⟩

/-- a bit, and the letters that stand for the three permissions of one kind of user; `special` is the letter
of the bit in front that goes with them, small if the file can be run. -/
def three (n : Nat) (isSet : Bool) (special : Char) : List Char :=
  let last := match n % 2 == 1, isSet with
    | true, true => special
    | false, true => special.toUpper
    | true, false => 'x'
    | false, false => '-'
  [if n / 4 % 2 = 1 then 'r' else '-', if n / 2 % 2 = 1 then 'w' else '-', last]

def letters (p : Mode) : List Char :=
  three (p.bits / 64) (p.bits / 2048 % 2 == 1) 's' ++ three (p.bits / 8) (p.bits / 1024 % 2 == 1) 's' ++
    three p.bits (p.bits / 512 % 2 == 1) 't'

def octal (p : Mode) : List Char :=
  let ds := Nat.toDigits 8 p.bits
  List.replicate (4 - ds.length) '0' ++ ds

end Mode
end Regen
