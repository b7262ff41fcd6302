/-!
# Signals and endings

A process ends by itself with an exit code, or a signal ends it. Signals have numbers and names, and
the shell has words for those that end a process.

## Main definitions

* `signalNames`, `signal?`: signals by name.
* `signalDescription`: the words for a signal that has ended a process.
* `Ending`: how a process ended.
-/

namespace AstCompare.Shell

/-- The names of the signals that have a number of their own. -/
def signalNames : List (Nat × String) :=
  [(0, "EXIT"), (1, "HUP"), (2, "INT"), (3, "QUIT"), (4, "ILL"), (5, "TRAP"), (6, "ABRT"),
    (7, "BUS"), (8, "FPE"), (9, "KILL"), (10, "USR1"), (11, "SEGV"), (12, "USR2"), (13, "PIPE"),
    (14, "ALRM"), (15, "TERM"), (16, "STKFLT"), (17, "CHLD"), (18, "CONT"), (19, "STOP"),
    (20, "TSTP"), (21, "TTIN"), (22, "TTOU"), (23, "URG"), (24, "XCPU"), (25, "XFSZ"),
    (26, "VTALRM"), (27, "PROF"), (28, "WINCH"), (29, "IO"), (30, "PWR"), (31, "SYS")]

/-- The signal that a word names. -/
def signal? (s : String) : Option Nat :=
  if !s.isEmpty && s.toList.all Char.isDigit then s.toNat?.filter (· < 65)
  else
    let name := s.map Char.toUpper
    (signalNames.find? fun x => x.2 == name).map Prod.fst

/-- What is said about a program that a signal has ended. -/
def signalDescription : Nat → Option String
  | 1 => some "Hangup"
  | 3 => some "Quit"
  | 4 => some "Illegal instruction"
  | 5 => some "Trace/breakpoint trap"
  | 6 => some "Aborted"
  | 7 => some "Bus error"
  | 8 => some "Floating point exception"
  | 9 => some "Killed"
  | 10 => some "User defined signal 1"
  | 11 => some "Segmentation fault"
  | 12 => some "User defined signal 2"
  | 14 => some "Alarm clock"
  | 15 => some "Terminated"
  | 16 => some "Stack fault"
  | 24 => some "CPU time limit exceeded"
  | 25 => some "File size limit exceeded"
  | 26 => some "Virtual timer expired"
  | 27 => some "Profiling timer expired"
  | 29 => some "I/O possible"
  | 30 => some "Power failure"
  | 31 => some "Bad system call"
  | _ => none

/-- The signal is one of those that do nothing unless they are caught. -/
def isHarmless (n : Nat) : Bool :=
  n == 0 || n == 17 || n == 18 || n == 23 || n == 28

/-- The signal that comes to a process that has no room left. -/
def segmentSignal : Nat := 11

/-- The signal that comes to whoever writes what nobody reads. -/
def brokenPipeSignal : Nat := 13

/-- The signal that tells of the end of another process. -/
def childSignal : Nat := 17

/-- The signal that cannot be caught. -/
def killSignal : Nat := 9

/-- The signal that asks a process to end. -/
def endSignal : Nat := 15

/-- How a process ended. -/
inductive Ending where
  | exited (status : Nat)
  | killed (signal : Nat)
  deriving DecidableEq, Repr

/-- The exit code by which the ending is known. -/
def Ending.status : Ending → Nat
  | exited n => n
  | killed n => 128 + n

/-- The signals that only hold a process up. -/
def isPausing (n : Nat) : Bool :=
  n == 19 || n == 20 || n == 21 || n == 22

end AstCompare.Shell
