/-!
Signals that end processes or are caught by them.
-/

namespace Groundwork.Shell

/-- A signal by its number. Zero stands for the end of a shell. -/
abbrev Signal := Nat

namespace Signal

/-- The names of signals with what is said of a process that one ends, from the first one on. -/
def table : List (String × String) :=
  [("HUP", "Hangup"), ("INT", "Interrupt"), ("QUIT", "Quit"), ("ILL", "Illegal instruction"),
    ("TRAP", "Trace/breakpoint trap"), ("ABRT", "Aborted"), ("BUS", "Bus error"),
    ("FPE", "Floating point exception"), ("KILL", "Killed"), ("USR1", "User defined signal 1"),
    ("SEGV", "Segmentation fault"), ("USR2", "User defined signal 2"), ("PIPE", "Broken pipe"),
    ("ALRM", "Alarm clock"), ("TERM", "Terminated"), ("STKFLT", "Stack fault"),
    ("CHLD", "Child exited"), ("CONT", "Continued"), ("STOP", "Stopped (signal)"),
    ("TSTP", "Stopped"), ("TTIN", "Stopped (tty input)"), ("TTOU", "Stopped (tty output)"),
    ("URG", "Urgent I/O condition"), ("XCPU", "CPU time limit exceeded"),
    ("XFSZ", "File size limit exceeded"), ("VTALRM", "Virtual timer expired"),
    ("PROF", "Profiling timer expired"), ("WINCH", "Window changed"), ("IO", "I/O possible"),
    ("PWR", "Power failure"), ("SYS", "Bad system call")]

def interrupt : Signal := 2

def kill : Signal := 9

def pipe : Signal := 13

def terminate : Signal := 15

/-- The first signal that has no meaning of its own, and the number after the last one. -/
def firstFree : Signal := 34

def limit : Signal := 65

/-- The name of a signal. -/
def name (signal : Signal) : String :=
  if signal == 0 then "EXIT"
  else
    match table[signal - 1]? with
    | some (name, _) => name
    | none =>
        if signal == firstFree then "RTMIN"
        else if signal + 1 == limit then "RTMAX"
        else if firstFree < signal && signal ≤ 49 then s!"RTMIN+{signal - firstFree}"
        else if 49 < signal && signal < limit then s!"RTMAX-{limit - 1 - signal}"
        else toString signal

/-- The signal of a name, in capitals or not. -/
def ofName? (text : String) : Option Signal :=
  let text := text.map Char.toUpper
  (List.range limit).find? fun signal => name signal == text

/-- The signal of a name or a number. -/
def read? (text : String) : Option Signal :=
  let digits := text.toList
  if !digits.isEmpty && digits.all Char.isDigit then
    let number := digits.foldl (fun n c => 10 * n + (c.toNat - '0'.toNat)) 0
    if number < limit then some number else none
  else ofName? text

/-- Whether a signal ends no process. -/
def isHarmless (signal : Signal) : Bool :=
  signal == 0 || ["CHLD", "CONT", "URG", "WINCH"].contains (name signal)

/-- What a shell says of a process that a signal has ended. -/
def notice? (signal : Signal) : Option String :=
  if signal == interrupt || signal == pipe then none
  else
    match table[signal - 1]? with
    | some (_, text) => some text
    | none => some s!"Real-time signal {signal - firstFree}"

end Signal

end Groundwork.Shell
