import BookingRetry.Text.Basic

/-!
What can be written in the command language of the shell, as far as it is known here: simple
commands with assignments and redirections, lists, pipelines, conditions, loops and choices, and
words with quotes, parameters, sums and the output of commands.
-/
namespace BookingRetry.Shell

inductive Modifier where
  | instead
  | assigned
  | other
  | demanded
  | withoutFront (longest : Bool)
  | withoutBack (longest : Bool)
  deriving DecidableEq, Repr

inductive Piece where
  | plain (t : Text)
  | quoted (t : Text)
  | value (name : Text) (inQuotes : Bool)
  | modified (name : Text) (how : Modifier) (emptyIsMissing : Bool) (word : Text) (inQuotes : Bool)
  | size (name : Text) (inQuotes : Bool)
  | sum (expression : Text) (inQuotes : Bool)
  | output (script : Text) (inQuotes : Bool)
  deriving DecidableEq, Repr

abbrev Word := List Piece

inductive Direction where
  | input
  | output
  | addition
  | same
  deriving DecidableEq, Repr

structure Redirection where
  stream : Nat
  direction : Direction
  target : Word
  deriving DecidableEq, Repr

inductive Command where
  | nothing
  | simple (line : Nat) (assignments : List (Text × Word)) (words : List Word)
    (redirections : List Redirection)
  | redirected (body : Command) (redirections : List Redirection)
  | sequence (first second : Command)
  | andThen (first second : Command)
  | orElse (first second : Command)
  | negated (body : Command)
  | pipe (first second : Command)
  | choice (condition yes no : Command)
  | loop (succeeds : Bool) (condition body : Command) (status : Nat)
  | each (name : Text) (words : Option (List Word)) (body : Command)
  | turns (name : Text) (values : List Text) (body : Command)
  | select (subject : Word) (arms : List (List Word × Command))
  | apart (body : Command)
  | background (body : Command)
  | define (name : Text) (body : Command)

end BookingRetry.Shell
