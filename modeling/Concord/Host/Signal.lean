import Concord.Text.Lines

/-!
# Signals

The signals that end a process, by number and name.
-/

namespace Concord
namespace Host
namespace Signal

def names : List String :=
  ["HUP", "INT", "QUIT", "ILL", "TRAP", "ABRT", "BUS", "FPE", "KILL", "USR1",
    "SEGV", "USR2", "PIPE", "ALRM", "TERM", "STKFLT", "CHLD", "CONT", "STOP",
    "TSTP", "TTIN", "TTOU", "URG", "XCPU", "XFSZ", "VTALRM", "PROF", "WINCH",
    "IO", "PWR", "SYS"]

/-- The signal that nothing can keep out. -/
def kill : Nat := 9

def name? (n : Nat) : Option String :=
  if n = 0 then none else names[n - 1]?

/-- The number of a signal that is given by number or name. -/
def ofText? (text : String) : Option Nat :=
  let cs := text.toList
  if !cs.isEmpty && cs.all Char.isDigit then
    some (cs.foldl (fun n d => 10 * n + (d.toNat - '0'.toNat)) 0)
  else
    let bare := (Text.after? "SIG".toList cs).getD cs
    let i := names.idxOf (String.ofList bare)
    if i < names.length then some (i + 1) else none

/-- The signal has no effect on a process that does not ask for it. -/
def isIgnored (n : Nat) : Bool :=
  n == 0 || n == 17 || n == 18 || n == 23 || n == 28

/-- The signal halts a process without ending it. -/
def isHalt (n : Nat) : Bool :=
  19 ≤ n && n ≤ 22

/-- What a shell says of a command that a signal ended. -/
def description (n : Nat) : String :=
  if n = 1 then "Hangup"
  else if n = 3 then "Quit"
  else if n = 4 then "Illegal instruction"
  else if n = 6 then "Aborted"
  else if n = 8 then "Floating point exception"
  else if n = 9 then "Killed"
  else if n = 11 then "Segmentation fault"
  else if n = 14 then "Alarm clock"
  else if n = 15 then "Terminated"
  else "Signal " ++ toString n

end Signal
end Host
end Concord
