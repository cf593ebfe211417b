import Regen.Path
import Regen.SystemError
import Regen.Watermark

/-!
# The disk as a compiler sees it

A compiler asks two things of the disk: when a path was last modified, and what bytes it holds.
A directory has a modification time and cannot be read.

* `Disk`         the answers to both questions at one moment;
* `Disk.read?`   the bytes of a path, if it can be read.
-/

namespace Regen

structure Disk where
  modified : Path → Option Time
  read : Path → Except SystemError Bytes

namespace Disk

def read? (d : Disk) (p : Path) : Option Bytes := (d.read p).toOption

end Disk
end Regen
