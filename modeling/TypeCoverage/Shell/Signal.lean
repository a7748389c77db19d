import TypeCoverage.Shell.Numeral

/-!
# Signals

The signals by their numbers and names, what a process that one of them has ended is said
to have met, and the signals that end a process if it does nothing about them.
-/

namespace TypeCoverage.Shell.Signal

/-- The names of the signals with the numbers from one on. -/
def names : List String :=
  ["HUP", "INT", "QUIT", "ILL", "TRAP", "ABRT", "BUS", "FPE", "KILL", "USR1", "SEGV", "USR2",
   "PIPE", "ALRM", "TERM", "16", "CHLD", "CONT", "STOP", "TSTP", "TTIN", "TTOU", "URG", "XCPU",
   "XFSZ", "VTALRM", "PROF", "WINCH", "IO", "PWR", "SYS", "32", "33", "RTMIN", "RTMIN+1",
   "RTMIN+2", "RTMIN+3", "RTMIN+4", "RTMIN+5", "RTMIN+6", "RTMIN+7", "RTMIN+8", "RTMIN+9",
   "RTMIN+10", "RTMIN+11", "RTMIN+12", "RTMIN+13", "RTMIN+14", "RTMIN+15", "RTMAX-14",
   "RTMAX-13", "RTMAX-12", "RTMAX-11", "RTMAX-10", "RTMAX-9", "RTMAX-8", "RTMAX-7", "RTMAX-6",
   "RTMAX-5", "RTMAX-4", "RTMAX-3", "RTMAX-2", "RTMAX-1", "RTMAX"]

/-- How many numbers there are, with zero for the end of a shell. -/
def count : Nat := names.length + 1

/-- The signal that no process can do anything about. -/
def kill : Nat := 9

/-- The signal of a pipe that nothing reads from. -/
def pipe : Nat := 13

/-- The signal that asks a process to end. -/
def terminate : Nat := 15

/-- The signal that stops a process. -/
def stop : Nat := 19

/-- The name of a number. -/
def name (number : Nat) : String :=
  if number = 0 then "EXIT" else (names[number - 1]?).getD ""

/-- The number that a text names, in any letter case or by its digits; `least` is one if
the end of a shell has no name here. -/
def number? (least : Nat) (text : String) : Option Nat :=
  if !text.isEmpty && text.toList.all Char.isDigit then
    let n := Decimal.readDigits text.toList
    if n < count then some n else none
  else
    let capital := text.toList.map Char.toUpper
    ((List.range count).drop least).find? fun n => (name n).toList = capital

/-- The signals that let a process go on if it does nothing about them. -/
def isHarmless (number : Nat) : Bool :=
  number = 0 || number = 17 || number = 18 || number = 23 || number = 28

/-- The numbers of the signals that have words of their own. -/
def words : List (Nat × String) :=
  [(1, "Hangup"), (2, "Interrupt"), (3, "Quit"), (4, "Illegal instruction"),
   (5, "Trace/breakpoint trap"), (6, "Aborted"), (7, "Bus error"),
   (8, "Floating point exception"), (9, "Killed"), (10, "User defined signal 1"),
   (11, "Segmentation fault"), (12, "User defined signal 2"), (13, "Broken pipe"),
   (14, "Alarm clock"), (15, "Terminated"), (16, "Stack fault"), (17, "Child exited"),
   (18, "Continued"), (19, "Stopped (signal)"), (20, "Stopped"), (21, "Stopped (tty input)"),
   (22, "Stopped (tty output)"), (23, "Urgent I/O condition"), (24, "CPU time limit exceeded"),
   (25, "File size limit exceeded"), (26, "Virtual timer expired"),
   (27, "Profiling timer expired"), (28, "Window changed"), (29, "I/O possible"),
   (30, "Power failure"), (31, "Bad system call")]

/-- What a signal is said to be. -/
def text (number : Nat) : String :=
  match words.lookup number with
  | some s => s
  | none =>
    if 34 ≤ number && number < count then "Real-time signal " ++ toString (number - 34)
    else "Unknown signal " ++ toString number

/-- Whether a shell says nothing about a command that a signal has ended. -/
def isQuiet (number : Nat) : Bool := number = 2 || number = pipe

end TypeCoverage.Shell.Signal
