import LineShell.Bytes
import LineShell.Script.Arithmetic

/-!
# Signals

The names and the numbers of the signals, and what each of them does to a process that has not
asked for anything else.
-/

namespace LineShell.Script.Signal

/-- The names of the signals, from number 1 on. -/
def names : List String :=
  ["HUP", "INT", "QUIT", "ILL", "TRAP", "ABRT", "BUS", "FPE", "KILL", "USR1", "SEGV", "USR2",
    "PIPE", "ALRM", "TERM", "STKFLT", "CHLD", "CONT", "STOP", "TSTP", "TTIN", "TTOU", "URG",
    "XCPU", "XFSZ", "VTALRM", "PROF", "WINCH", "IO", "PWR", "SYS", "32", "33", "RTMIN"] ++
  (List.range 15).map (fun n => s!"RTMIN+{n + 1}") ++
  (List.range 14).map (fun n => s!"RTMAX-{14 - n}") ++ ["RTMAX"]

/-- Numbers that signals have are smaller than this. -/
def count : Nat := 65

def name (number : Nat) : String :=
  if number = 0 then "EXIT" else names[number - 1]?.getD (toString number)

def interrupt : Nat := 2
def quit : Nat := 3
def pipe : Nat := 13
def terminate : Nat := 15
def segmentation : Nat := 11

def upper (b : UInt8) : UInt8 := if 0x61 ≤ b && b ≤ 0x7a then b - 0x20 else b

/-- The signal with a number or a name; names may be written in lower case, too. The exit of the
shell counts as a signal if it may be meant. -/
def ofText? (withExit : Bool) (text : Bytes) : Option Nat :=
  if !text.isEmpty && text.all isDigit then
    let number := Arithmetic.valueIn 10 text
    if number < count then some number else none
  else
    let first := if withExit then 0 else 1
    (List.range count).find? fun number =>
      first ≤ number && bytes (name number) = text.map upper

/-- Whether a process goes on after a signal that it does not handle. One that a terminal stops
processes with does nothing where there is no terminal. -/
def isHarmless (number : Nat) : Bool := [0, 17, 18, 20, 21, 22, 23, 28].contains number

/-- Whether no process can handle the signal. -/
def isFinal (number : Nat) : Bool := [9, 19].contains number

/-- What is said of a process that a signal has ended. -/
def description (number : Nat) : String :=
  let texts := ["Hangup", "Interrupt", "Quit", "Illegal instruction", "Trace/breakpoint trap",
    "Aborted", "Bus error", "Floating point exception", "Killed", "User defined signal 1",
    "Segmentation fault", "User defined signal 2", "Broken pipe", "Alarm clock", "Terminated",
    "Stack fault", "Child exited", "Continued", "Stopped (signal)", "Stopped",
    "Stopped (tty input)", "Stopped (tty output)", "Urgent I/O condition",
    "CPU time limit exceeded", "File size limit exceeded", "Virtual timer expired",
    "Profiling timer expired", "Window changed", "I/O possible", "Power failure",
    "Bad system call"]
  if number = 0 then "Unknown signal 0"
  else
    match texts[number - 1]? with
    | some text => text
    | none =>
      if 34 ≤ number && number < count then s!"Real-time signal {number - 34}"
      else s!"Unknown signal {number}"

end LineShell.Script.Signal
