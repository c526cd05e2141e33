/-! Signals, by number. -/
namespace MutationTesting.Shell

def signalNames : List (Nat × String) := [
  (1, "HUP"), (2, "INT"), (3, "QUIT"), (4, "ILL"), (5, "TRAP"), (6, "ABRT"), (7, "BUS"), (8, "FPE"),
  (9, "KILL"), (10, "USR1"), (11, "SEGV"), (12, "USR2"), (13, "PIPE"), (14, "ALRM"), (15, "TERM"),
  (16, "STKFLT"), (17, "CHLD"), (18, "CONT"), (19, "STOP"), (20, "TSTP"), (21, "TTIN"),
  (22, "TTOU"), (23, "URG"), (24, "XCPU"), (25, "XFSZ"), (26, "VTALRM"), (27, "PROF"),
  (28, "WINCH"), (29, "IO"), (30, "PWR"), (31, "SYS")]

def maxSignal : Nat := 64

def signal? (text : String) : Option Nat :=
  match text.toNat? with
  | some n => if n ≤ maxSignal then some n else none
  | none =>
    let name := if text.startsWith "SIG" then String.ofList (text.toList.drop 3) else text
    (signalNames.find? fun s => s.2 == name).map Prod.fst

inductive SignalEffect where
  | ends
  | halts
  | nothing
deriving DecidableEq

def signalEffect (signal : Nat) : SignalEffect :=
  if [0, 17, 18, 23, 28].contains signal then .nothing
  else if [19, 20, 21, 22].contains signal then .halts
  else .ends

def canTrap (signal : Nat) : Bool := signal != 9 && signal != 19

/-- What a shell says about a command that a signal has ended; of some it says nothing. -/
def signalDescription? (signal : Nat) : Option String :=
  ([(1, "Hangup"), (3, "Quit"), (4, "Illegal instruction"), (5, "Trace/breakpoint trap"),
    (6, "Aborted"), (7, "Bus error"), (8, "Floating point exception"), (9, "Killed"),
    (10, "User defined signal 1"), (11, "Segmentation fault"), (12, "User defined signal 2"),
    (14, "Alarm clock"), (15, "Terminated"), (16, "Stack fault"),
    (24, "CPU time limit exceeded"), (25, "File size limit exceeded"),
    (26, "Virtual timer expired"), (27, "Profiling timer expired"), (29, "I/O possible"),
    (30, "Power failure"), (31, "Bad system call")] : List (Nat × String)).lookup signal

end MutationTesting.Shell
