import Aviary.Text.Blank
import Aviary.Number.Literal
import Aviary.Fault

/-!
# Commands

A line of input is one of three commands: `p` or `pause` without arguments, `r` or `reset` with overrides, `t` or
`train` with at most one number of generations, one if it is left out.  Square brackets, which the help text uses for
optional parts, are refused wherever they stand.
-/

namespace Aviary

inductive Command where
  | pause
  | reset (overrides : List String)
  | train (generations : Int)
  deriving DecidableEq

namespace Command

/-- The command that the words of a line make. -/
def ofWords : List String → Except Fault Command
  | [] => .error .unknownCommand
  | name :: args =>
    if name = "p" ∨ name = "pause" then
      if args.isEmpty then .ok pause else .error .noParameters
    else if name = "r" ∨ name = "reset" then .ok (reset args)
    else if name = "t" ∨ name = "train" then
      match args with
      | [] => .ok (train 1)
      | [arg] =>
        match Literal.integer? arg.toList with
        | some n => .ok (train n)
        | none => .error (.badCount arg)
      | _ => .error .oneParameter
    else .error .unknownCommand

/-- Reads a line of input. -/
def ofLine (line : String) : Except Fault Command :=
  if line.toList.any fun c => c = '[' || c = ']' then .error .squareBracket
  else ofWords ((Text.words line.toList).map String.ofList)

end Command

end Aviary
