import Regen.Shell.Syntax

/-!
# Options of programs

An argument that starts with a dash gives options: one letter after the other, or after two dashes one
long name, of which the start is enough. An option may take a value, which follows it at once or is
the next argument. What is no option is left to the program; two dashes alone end the options.

The options in front of a mistake are read too, since a program looks at each as it comes.

* `Tools.Known`          an option that a program knows;
* `Tools.Reading`        the options among arguments, up to the first mistake;
* `Tools.readOptions`    reads them.
-/

namespace Regen.Shell.Tools

inductive Value where
  | never
  | always
  | possible
  deriving DecidableEq

structure Known where
  letter : Char
  name : String
  value : Value

/-- options that take no value, by letter and long name. -/
def switches (names : List (Char × String)) : List Known := names.map fun n => ⟨n.1, n.2, .never⟩

def valuedAll (names : List (Char × String)) : List Known := names.map fun n => ⟨n.1, n.2, .always⟩

def possibles (names : List (Char × String)) : List Known := names.map fun n => ⟨n.1, n.2, .possible⟩

/-- options in the order in which they were given, with their values, what is left, and the first
mistake. -/
structure Reading where
  given : List (Char × Chars)
  operands : List Chars
  mistake : Option String

def Reading.after (first : List (Char × Chars)) (r : Reading) : Reading := { r with given := first ++ r.given }

def Reading.wrong (e : String) : Reading := ⟨[], [], some e⟩

def letters (known : List Known) : Chars → List (Char × Chars) × Option Char × Option Char
  | [] => ([], none, none)
  | c :: cs =>
    match known.find? fun k => k.letter == c with
    | none => ([], none, some c)
    | some k =>
      match k.value with
      | .always => if cs = [] then ([], some c, none) else ([(c, cs)], none, none)
      | .possible => ([(c, cs)], none, none)
      | .never => let r := letters known cs; ((c, []) :: r.1, r.2)

/-- the option of a long name, if it is known and stands for only one; `text` is the argument. -/
def long (known : List Known) (name text : Chars) : Except String Known :=
  match known.find? fun k => k.name.toList == name with
  | some k => .ok k
  | none =>
    match known.filter fun k => name.isPrefixOf k.name.toList with
    | [] => .error ("unrecognized option '--" ++ String.ofList text ++ "'")
    | k :: ks =>
      if ks.all fun l => l.letter == k.letter then .ok k
      else .error ("option '--" ++ String.ofList text ++ "' is ambiguous; possibilities:" ++
        String.join ((k :: ks).map fun k => " '--" ++ k.name ++ "'"))

/-- the options among arguments; up to the first that is none, unless they may come later too. -/
def readOptions (known : List Known) (anywhere : Bool) : List Chars → Reading
  | [] => ⟨[], [], none⟩
  | a :: rest =>
    match a with
    | ['-', '-'] => ⟨[], rest, none⟩
    | '-' :: '-' :: text =>
      let name := text.takeWhile (· ≠ '=')
      match long known name text with
      | .error e => .wrong e
      | .ok k =>
        let hasValue := name.length < text.length
        if hasValue ∧ k.value = .never then .wrong ("option '--" ++ k.name ++ "' doesn't allow an argument")
        else if k.value = .always ∧ ¬ hasValue then
          match rest with
          | value :: rest => (readOptions known anywhere rest).after [(k.letter, value)]
          | [] => .wrong ("option '--" ++ k.name ++ "' requires an argument")
        else (readOptions known anywhere rest).after [(k.letter, text.drop (name.length + 1))]
    | '-' :: c :: cs =>
      match letters known (c :: cs) with
      | (first, _, some l) => (Reading.wrong ("invalid option -- '" ++ toString l ++ "'")).after first
      | (first, none, none) => (readOptions known anywhere rest).after first
      | (first, some l, none) =>
        match rest with
        | value :: rest => (readOptions known anywhere rest).after (first ++ [(l, value)])
        | [] => (Reading.wrong ("option requires an argument -- '" ++ toString l ++ "'")).after first
    | operand =>
      if anywhere then let r := readOptions known anywhere rest; { r with operands := operand :: r.operands }
      else ⟨[], operand :: rest, none⟩

end Regen.Shell.Tools
