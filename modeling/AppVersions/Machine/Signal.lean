-- Signals that end or interrupt processes: their numbers, names and descriptions.
import AppVersions.Machine.Bytes

namespace AppVersions.Machine

/-- The number of a signal. -/
abbrev Signal := Nat

namespace Signal

/-- Every signal with its name and what is said of a process that it ended. -/
def table : List (Signal × String × String) :=
  [(1, "HUP", "Hangup"), (2, "INT", "Interrupt"), (3, "QUIT", "Quit"),
   (4, "ILL", "Illegal instruction"), (5, "TRAP", "Trace/breakpoint trap"),
   (6, "ABRT", "Aborted"), (7, "BUS", "Bus error"), (8, "FPE", "Floating point exception"),
   (9, "KILL", "Killed"), (10, "USR1", "User defined signal 1"),
   (11, "SEGV", "Segmentation fault"), (12, "USR2", "User defined signal 2"),
   (13, "PIPE", "Broken pipe"), (14, "ALRM", "Alarm clock"), (15, "TERM", "Terminated"),
   (16, "STKFLT", "Stack fault"), (17, "CHLD", "Child exited"), (18, "CONT", "Continued"),
   (19, "STOP", "Stopped (signal)"), (20, "TSTP", "Stopped"), (21, "TTIN", "Stopped (tty input)"),
   (22, "TTOU", "Stopped (tty output)"), (23, "URG", "Urgent I/O condition"),
   (24, "XCPU", "CPU time limit exceeded"), (25, "XFSZ", "File size limit exceeded"),
   (26, "VTALRM", "Virtual timer expired"), (27, "PROF", "Profiling timer expired"),
   (28, "WINCH", "Window changed"), (29, "IO", "I/O possible"), (30, "PWR", "Power failure"),
   (31, "SYS", "Bad system call")]

/-- The largest number of a signal. -/
def last : Signal := 64

def name (n : Signal) : String :=
  match table.lookup n with
  | some (name, _) => name
  | none => toString n

def description (n : Signal) : String :=
  match table.lookup n with
  | some (_, text) => text
  | none => "Unknown signal " ++ toString n

/-- A name in any case, with or without the usual three letters in front. -/
def ofName? (s : Bytes) : Option Signal :=
  let upper := s.map Char.toUpper
  let bare := match upper with
    | 'S' :: 'I' :: 'G' :: rest => rest
    | rest => rest
  (table.find? fun (_, name, _) => name.toList == bare).map (·.1)

/-- Whether a process goes on when the signal arrives, unless it asked for something else. -/
def isHarmless (n : Signal) : Bool := n == 17 || n == 18 || n == 23 || n == 28

/-- Whether a process cannot choose what the signal does to it. -/
def isUnstoppable (n : Signal) : Bool := n == 9 || n == 19

end Signal

end AppVersions.Machine
