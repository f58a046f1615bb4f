/-!
Signals: their numbers, the names by which a shell knows them, and the words for processes that they
end.
-/

namespace AppSupervisor.Rehearsal.Shell

def signalNames : List (String × Nat) :=
  [("EXIT", 0), ("HUP", 1), ("INT", 2), ("QUIT", 3), ("ILL", 4), ("TRAP", 5), ("ABRT", 6),
    ("BUS", 7), ("FPE", 8), ("KILL", 9), ("USR1", 10), ("SEGV", 11), ("USR2", 12), ("PIPE", 13),
    ("ALRM", 14), ("TERM", 15), ("CHLD", 17), ("CONT", 18), ("STOP", 19), ("TSTP", 20),
    ("TTIN", 21), ("TTOU", 22), ("URG", 23), ("XCPU", 24), ("XFSZ", 25), ("VTALRM", 26),
    ("PROF", 27), ("WINCH", 28), ("IO", 29), ("PWR", 30), ("SYS", 31), ("RTMIN", 34),
    ("RTMAX", 64)]

def signalText : Nat → String
  | 1 => "Hangup"
  | 2 | 13 => ""
  | 3 => "Quit"
  | 4 => "Illegal instruction"
  | 5 => "Trace/breakpoint trap"
  | 6 => "Aborted"
  | 7 => "Bus error"
  | 8 => "Floating point exception"
  | 9 => "Killed"
  | 10 => "User defined signal 1"
  | 11 => "Segmentation fault"
  | 12 => "User defined signal 2"
  | 14 => "Alarm clock"
  | 15 => "Terminated"
  | 24 => "CPU time limit exceeded"
  | 25 => "File size limit exceeded"
  | 26 => "Virtual timer expired"
  | 27 => "Profiling timer expired"
  | 29 => "I/O possible"
  | 30 => "Power failure"
  | 31 => "Bad system call"
  | n => s!"Real-time signal {n - 34}"

def signal? (least : Nat) (word : String) : Option Nat :=
  if word.toList.all Char.isDigit && !word.isEmpty then
    word.toNat?.filter (· < 65)
  else
    let upper := String.ofList (word.toList.map Char.toUpper)
    (signalNames.lookup upper).filter (least ≤ ·)

def signalName (signal : Nat) : String :=
  ((signalNames.find? (·.2 == signal)).map Prod.fst).getD (toString signal)

def harmlessSignals : List Nat := [0, 17, 18, 23, 28]

def untrappedSignals : List Nat := [9, 19]

end AppSupervisor.Rehearsal.Shell
