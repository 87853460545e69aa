import BookingRetry.Stamp
import BookingRetry.Text.Basic

/-!
One line of a progress log. A record is a stamp in brackets, a level and a message; any other
line stays as it is.
-/
namespace BookingRetry.Log

inductive Level where
  | info
  | warn
  | error
  | success
  | crit
  deriving DecidableEq, Repr

namespace Level

def all : List Level := [info, warn, error, success, crit]

def name : Level → Text
  | info => lit "INFO"
  | warn => lit "WARN"
  | error => lit "ERROR"
  | success => lit "SUCCESS"
  | crit => lit "CRIT"

def ofName? (t : Text) : Option Level := all.find? fun l => l.name = t

end Level

structure Record where
  stamp : Stamp
  level : Level
  message : Text
  deriving DecidableEq

def stampEnd : Text := lit "] "

def levelEnd : Text := lit ": "

def Record.written (r : Record) : Text :=
  '[' :: r.stamp.written ++ stampEnd ++ r.level.name ++ levelEnd ++ r.message

inductive Line where
  | record (r : Record)
  | raw (t : Text)
  deriving DecidableEq

namespace Line

def written : Line → Text
  | record r => r.written
  | raw t => t

/-- The record that a line is the written form of. -/
def record? (t : Text) : Option Record :=
  match Text.after? ['['] t with
  | none => none
  | some t =>
    match Text.cut? stampEnd t with
    | none => none
    | some (stamp, rest) =>
      match Stamp.read? stamp, Text.cut? levelEnd rest with
      | some stamp, some (level, message) =>
        (Level.ofName? level).map fun level => ⟨stamp, level, message⟩
      | _, _ => none

def ofText (t : Text) : Line :=
  match record? t with
  | some r => record r
  | none => raw t

end Line

def readLines (t : Text) : List Line := (Text.lines t).map Line.ofText

end BookingRetry.Log
