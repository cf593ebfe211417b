/-!
# Commands of the shell

The command language in which small generators are written. Text is kept as characters that stand
for single bytes, so nothing depends on an encoding.

* `Part`, `Word`     what a word is made of before it is expanded;
* `Redirect`         where a descriptor of a command leads;
* `Command`          simple commands and all that is built from them.
-/

namespace Regen.Shell

/-- text, one character below 256 for each byte. -/
abbrev Chars := List Char

inductive Use where
  | value
  | length
  /-- a word in place of a value that is unset; of one that is empty too, if `orEmpty`. -/
  | otherwise (orEmpty : Bool)
  | assign (orEmpty : Bool)
  | demand (orEmpty : Bool)
  | instead (orEmpty : Bool)
  | trimStart (longest : Bool)
  | trimEnd (longest : Bool)
  | unknown
  deriving DecidableEq

def Use.takesPattern : Use → Bool
  | .trimStart _ => true
  | .trimEnd _ => true
  | _ => false

def Use.needsValue : Use → Bool
  | .value => true
  | .length => true
  | .trimStart _ => true
  | .trimEnd _ => true
  | _ => false

inductive Direction where
  | input
  | output
  | overwrite
  | append
  | both
  | duplicate
  | here
  deriving DecidableEq

mutual

inductive Part where
  | text (chars : Chars) (quoted : Bool)
  | parameter (name : Chars) (use : Use) (word : List Part) (quoted : Bool)
  | output (command : Command) (quoted : Bool)
  | arithmetic (expression : List Part) (quoted : Bool)

inductive Redirect where
  | mk (descriptor : Nat) (direction : Direction) (target : List Part)

inductive Command where
  | nothing
  | simple (line : Nat) (assignments : List (Chars × List Part)) (words : List (List Part))
      (redirects : List Redirect)
  | sequence (first second : Command)
  | background (command : Command)
  | pipe (left right : Command)
  | negate (command : Command)
  | both (first second : Command)
  | either (first second : Command)
  | subshell (command : Command)
  | redirected (line : Nat) (command : Command) (redirects : List Redirect)
  | conditional (test yes no : Command)
  | loop (whileTrue : Bool) (test body : Command)
  | each (line : Nat) (name : Chars) (words : Option (List (List Part))) (body : Command)
  | choose (line : Nat) (subject : List Part) (arms : List (List (List Part) × Command))
  | define (name : Chars) (body : Command)

end

abbrev Word := List Part

end Regen.Shell
