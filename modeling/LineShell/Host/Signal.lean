import LineShell.Text.Numeral

/-!
Signals: their names, their numbers, what each does to a program that has made no arrangements,
and what is said of a program that one has ended.
-/
namespace LineShell.Host

/-- The names of the signals from 0 on. -/
def signalNames : List String :=
  ["EXIT", "HUP", "INT", "QUIT", "ILL", "TRAP", "ABRT", "BUS", "FPE", "KILL", "USR1", "SEGV",
    "USR2", "PIPE", "ALRM", "TERM", "16", "CHLD", "CONT", "STOP", "TSTP", "TTIN", "TTOU", "URG",
    "XCPU", "XFSZ", "VTALRM", "PROF", "WINCH", "IO", "PWR", "SYS", "32", "33", "RTMIN", "RTMIN+1",
    "RTMIN+2", "RTMIN+3", "RTMIN+4", "RTMIN+5", "RTMIN+6", "RTMIN+7", "RTMIN+8", "RTMIN+9",
    "RTMIN+10", "RTMIN+11", "RTMIN+12", "RTMIN+13", "RTMIN+14", "RTMIN+15", "RTMAX-14", "RTMAX-13",
    "RTMAX-12", "RTMAX-11", "RTMAX-10", "RTMAX-9", "RTMAX-8", "RTMAX-7", "RTMAX-6", "RTMAX-5",
    "RTMAX-4", "RTMAX-3", "RTMAX-2", "RTMAX-1", "RTMAX"]

/-- What is said of a program that a signal has ended, from signal 1 on. -/
def signalReports : List String :=
  ["Hangup", "Interrupt", "Quit", "Illegal instruction", "Trace/breakpoint trap", "Aborted",
    "Bus error", "Floating point exception", "Killed", "User defined signal 1",
    "Segmentation fault", "User defined signal 2", "Broken pipe", "Alarm clock", "Terminated",
    "Stack fault", "Child exited", "Continued", "Stopped (signal)", "Stopped",
    "Stopped (tty input)", "Stopped (tty output)", "Urgent I/O condition", "CPU time limit exceeded",
    "File size limit exceeded", "Virtual timer expired", "Profiling timer expired",
    "Window changed", "I/O possible", "Power failure", "Bad system call", "Unknown signal 32",
    "Unknown signal 33"]

/-- The report of a signal. None is made of an interruption or of a pipe without a reader. -/
def signalReport? (signal : Nat) : Option String :=
  if signal = 0 ∨ signal = 2 ∨ signal = 13 then none
  else if 34 ≤ signal then some ("Real-time signal " ++ (signal - 34).repr)
  else signalReports[signal - 1]?

/-- The number of a signal that is given by number or by name. -/
def signal? (name : Bytes) : Option Nat :=
  let text := Utf8.lossy name
  match Text.digits? text with
  | some number => if number < signalNames.length then some number else none
  | none => signalNames.findIdx? (· == String.ofList (text.map Char.toUpper))

/-- Signals that are passed over unless a program asks for them. -/
def isHarmless (signal : Nat) : Bool := [0, 17, 18, 23, 28].contains signal

end LineShell.Host
