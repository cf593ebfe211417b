import Regen.Factory

/-!
# The registry

Factories and observers are registered here, each under a *ticket* of its own. Dropping a ticket
takes its entry out, and nothing else; clearing the registry takes all entries out, and their
tickets then stand for nothing.

* `Registry.registerFactory`, `Registry.dropFactory`     and the same for observers;
* `Registry.clear`
* `Registry.factoriesFor`     the factories that claim a file, in the order of registration;
* `Registry.announce`         what the observers are told about a new compiler;
* `Registry.instantiate`      the compilers of a file, one for each factory that claims it.
-/

namespace Regen

/-- somebody who is told about new compilers. -/
structure Observer where
  name : String
  deriving DecidableEq, Repr

/-- something registered under a ticket. -/
structure Entered (α : Type) where
  ticket : UInt64
  item : α

structure Announcement where
  observer : Observer
  project : Nat
  source : Path
  targets : List Path
  deriving DecidableEq, Repr

/-- the registered factories and observers. -/
structure Registry where
  /-- the last ticket given out; after the greatest one comes zero. -/
  lastTicket : UInt64
  factories : List (Entered Factory)
  observers : List (Entered Observer)

namespace Registry

/-- nothing registered yet. -/
def empty : Registry := ⟨0, [], []⟩

def nextTicket (r : Registry) : UInt64 := r.lastTicket + 1

def registerFactory (r : Registry) (f : Factory) : Registry :=
  { r with lastTicket := r.nextTicket, factories := r.factories ++ [⟨r.nextTicket, f⟩] }

def registerObserver (r : Registry) (o : Observer) : Registry :=
  { r with lastTicket := r.nextTicket, observers := r.observers ++ [⟨r.nextTicket, o⟩] }

def dropFactory (r : Registry) (ticket : UInt64) : Registry :=
  { r with factories := r.factories.filter fun e => e.ticket ≠ ticket }

def dropObserver (r : Registry) (ticket : UInt64) : Registry :=
  { r with observers := r.observers.filter fun e => e.ticket ≠ ticket }

def clear (r : Registry) : Registry := { r with factories := [], observers := [] }

/-- the registered factories, in order. -/
def factoryList (r : Registry) : List Factory := r.factories.map Entered.item

def observerList (r : Registry) : List Observer := r.observers.map Entered.item

def factoriesFor (r : Registry) (source : Path) : List Factory :=
  r.factoryList.filter fun f => f.claims source

/-- what the observers are told about a new compiler. -/
def announce (r : Registry) (project : Nat) (source : Path) (targets : List Path) :
    List Announcement :=
  r.observerList.map fun o => ⟨o, project, source, targets⟩

def instantiate (r : Registry) (number : Nat) (project : ProjectRef) (config : Config)
    (source : Path) (disk : Disk) : List Compiler :=
  (r.factoriesFor source).mapIdx fun i f => f.create (number + i) project config source disk

/-- what the observers are told about the compilers of a file. -/
def announceAll (r : Registry) (project : ProjectRef) (source : Path) : List Announcement :=
  (r.factoriesFor source).flatMap fun f => r.announce project.id source (f.targets source)

def describe (r : Registry) : String :=
  "ExtraCompilerRegistry \x7b factories: " ++
    Text.listOf (r.factoryList.map fun f => Text.quoted f.name) ++ ", observers: " ++
    toString r.observers.length ++ " \x7d"

end Registry
end Regen
