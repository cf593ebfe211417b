import Regen.Disk
import Regen.Environment
import Regen.Text.Quoted
import Regen.Text.Utf8
import Regen.Toml.Document

/-!
# The configuration

Four numbers, each a 64-bit word, that a TOML document may set. Its keys are looked at in the
order of their bytes, and the first that is unknown or holds anything but such a number is the
error, wherever it stands in the document.

* `Field`                the four keys;
* `Settings`             what a document sets;
* `Settings.ofTable`     the settings of a table;
* `Settings.ofToml`      the settings of a document;
* `Settings.load`        the settings of a file;
* `Config`               the settings with the defaults filled in.
-/

namespace Regen

inductive Field where
  | debounce
  | pollInterval
  | maxConcurrentRuns
  | teardownTimeout
  deriving DecidableEq, Repr

namespace Field

def all : List Field := [debounce, pollInterval, maxConcurrentRuns, teardownTimeout]

def key : Field → String
  | debounce => "debounce-ms"
  | pollInterval => "poll-interval-ms"
  | maxConcurrentRuns => "max-concurrent-runs"
  | teardownTimeout => "teardown-timeout-ms"

def typeName : Field → String
  | maxConcurrentRuns => "usize"
  | _ => "u64"

def ofKey? (key : String) : Option Field := all.find? fun f => f.key = key

end Field

structure Settings where
  debounce : Option UInt64
  pollInterval : Option UInt64
  maxConcurrentRuns : Option UInt64
  teardownTimeout : Option UInt64
  deriving DecidableEq, Repr

/-- why a table is no configuration. -/
inductive SchemaError where
  | unknownField (key : String)
  /-- a negative integer of 64 bits. -/
  | negative (value : Int) (field : Field)
  /-- anything else that is no word of 64 bits, as it is described. -/
  | wrongType (found : String) (field : Field)
  deriving DecidableEq, Repr

/-- why a document gives no configuration. -/
inductive ConfigError where
  | unreadable (path : Path) (error : SystemError)
  | notToml
  | schema (error : SchemaError)
  deriving DecidableEq, Repr

namespace SchemaError

/-- a key between the quotes that messages put around it. -/
def ticked (s : String) : String := "`" ++ s ++ "`"

def message : SchemaError → String
  | unknownField key =>
    "unknown field " ++ ticked key ++ ", expected one of " ++
      ", ".intercalate (Field.all.map fun f => ticked f.key)
  | negative value field =>
    "invalid value: integer " ++ ticked (toString value) ++ ", expected " ++ field.typeName
  | wrongType found field => "invalid type: " ++ found ++ ", expected " ++ field.typeName

end SchemaError

namespace Settings

def empty : Settings := ⟨none, none, none, none⟩

/-- the value of a field, if it is set. -/
def get? (s : Settings) : Field → Option UInt64
  | .debounce => s.debounce
  | .pollInterval => s.pollInterval
  | .maxConcurrentRuns => s.maxConcurrentRuns
  | .teardownTimeout => s.teardownTimeout

def set (s : Settings) (f : Field) (v : UInt64) : Settings :=
  match f with
  | .debounce => { s with debounce := some v }
  | .pollInterval => { s with pollInterval := some v }
  | .maxConcurrentRuns => { s with maxConcurrentRuns := some v }
  | .teardownTimeout => { s with teardownTimeout := some v }

/-! ## one value -/

/-- half the number of words of 64 bits. -/
def half64 : Int := 9223372036854775808

/-- an integer outside the words of 64 bits: messages name the word of 128 bits it would take,
one with a sign if there is one. -/
def wideInteger (n : Int) (f : Field) : SchemaError :=
  let width := if n < Toml.half128 then " as i128" else " as u128"
  .wrongType ("integer " ++ SchemaError.ticked (toString n) ++ width) f

def word (f : Field) : Toml.Value → Except SchemaError UInt64
  | .integer n =>
    if 0 ≤ n ∧ n < UInt64.size then .ok (UInt64.ofNat n.toNat)
    else if -half64 ≤ n ∧ n < 0 then .error (.negative n f)
    else .error (wideInteger n f)
  | .float x => .error (.wrongType ("floating point " ++ SchemaError.ticked x.text) f)
  | .boolean b => .error (.wrongType ("boolean " ++ SchemaError.ticked (toString b)) f)
  | .text s => .error (.wrongType ("string " ++ Text.quoted s) f)
  | .moment => .error (.wrongType "map" f)
  | .array _ => .error (.wrongType "sequence" f)
  | .table _ => .error (.wrongType "map" f)

def take (s : Settings) (entry : String × Toml.Value) : Except SchemaError Settings :=
  match Field.ofKey? entry.1 with
  | none => .error (.unknownField entry.1)
  | some f =>
    match word f entry.2 with
    | .error e => .error e
    | .ok v => .ok (s.set f v)

/-! ## a table -/

/-- the order of entries: by the bytes of their keys. -/
def inKeyOrder (a b : String × Toml.Value) : Bool :=
  !Bytes.before (Bytes.ofText b.1) (Bytes.ofText a.1)

def takeAll (s : Settings) : List (String × Toml.Value) → Except SchemaError Settings
  | [] => .ok s
  | e :: es =>
    match s.take e with
    | .error err => .error err
    | .ok s => takeAll s es

def ofTable (entries : List (String × Toml.Value)) : Except SchemaError Settings :=
  takeAll empty (entries.mergeSort inKeyOrder)

/-! ## a document -/

def ofToml (text : List Char) : Except ConfigError Settings :=
  match Toml.document? text with
  | none => .error .notToml
  | some entries =>
    match ofTable entries with
    | .error e => .error (.schema e)
    | .ok s => .ok s

/-- what a file that is not UTF-8 is said to be. -/
def notUtf8 : SystemError := .text "stream did not contain valid UTF-8"

def load (disk : Disk) (path : Path) : Except ConfigError Settings :=
  match disk.read path with
  | .error e => .error (.unreadable path e)
  | .ok bytes =>
    match Utf8.decode? bytes with
    | none => .error (.unreadable path notUtf8)
    | some text => ofToml text

end Settings

namespace ConfigError

/-- the text shown for an error, apart from the text of a syntax error. -/
def message? : ConfigError → Option String
  | unreadable path error =>
    some ("I/O error reading " ++ Utf8.lossyText path.raw ++ ": " ++ error.message)
  | notToml => none
  | schema error => some error.message

end ConfigError

structure Config where
  /-- the quiet period after the last edit, in milliseconds. -/
  debounceMs : UInt64
  pollIntervalMs : UInt64
  maxConcurrentRuns : UInt64
  /-- how long a teardown waits for the runs still out, in milliseconds. -/
  teardownTimeoutMs : UInt64
  deriving DecidableEq, Repr

namespace Config

/-- the settings with the defaults filled in; how many runs go on at once is up to the machine. -/
def ofSettings (s : Settings) (parallelism : UInt64) : Config :=
  ⟨s.debounce.getD 1000, s.pollInterval.getD 200, s.maxConcurrentRuns.getD parallelism,
    s.teardownTimeout.getD 30000⟩

/-- the quiet period in milliseconds. -/
def debounce (c : Config) : Nat := c.debounceMs.toNat

/-- the time between two looks at a child process, in milliseconds; never zero. -/
def pollInterval (c : Config) : Nat := max c.pollIntervalMs.toNat 1

/-- the longest wait of a teardown in milliseconds. -/
def teardownTimeout (c : Config) : Nat := c.teardownTimeoutMs.toNat

end Config
end Regen
