import LineShell.Machine.Utility.Echo

/-!
# Dates

A time is counted in seconds from the beginning of 1970. `Date.ofStamp?` reads one as the digits of
a date, and `Date.ofText?` as the usual ways to write one.
-/

namespace LineShell.Utility

structure Date where
  year : Nat
  month : Nat
  day : Nat
  hour : Nat := 0
  minute : Nat := 0
  second : Nat := 0
  deriving DecidableEq, Repr

namespace Date

def isLeapYear (year : Nat) : Bool := year % 4 = 0 && (year % 100 ≠ 0 || year % 400 = 0)

/-- How many days there are in a month. -/
def daysIn (year month : Nat) : Nat :=
  if month = 2 then if isLeapYear year then 29 else 28
  else if [4, 6, 9, 11].contains month then 30
  else 31

def isValid (date : Date) : Bool :=
  1 ≤ date.month && date.month ≤ 12 && 1 ≤ date.day && date.day ≤ daysIn date.year date.month &&
    date.hour < 24 && date.minute < 60 && date.second ≤ 60

/-- How many days have passed since a year 0 at the beginning of a year. -/
def daysBefore (year : Nat) : Nat :=
  let before := year - 1
  if year = 0 then 0 else 366 + before * 365 + before / 4 - before / 100 + before / 400

/-- How many days of the year have passed at the beginning of a month. -/
def daysBeforeMonth (year month : Nat) : Nat :=
  (List.range (month - 1)).foldl (fun days n => days + daysIn year (n + 1)) 0

def seconds (date : Date) : Int :=
  let days : Int := daysBefore date.year + daysBeforeMonth date.year date.month + (date.day - 1)
  (days - daysBefore 1970) * 86400 + date.hour * 3600 + date.minute * 60 + date.second

/-- The year that is meant if none is given. -/
def thisYear : Nat := 2025

/-- The time that is taken for now. -/
def now : Int := seconds ⟨thisYear, 12, 1, 0, 0, 0⟩

/-- The time of the programs that every machine has. -/
def ofPrograms : Int := seconds ⟨2023, 3, 1, 0, 0, 0⟩

/-- A time as the digits of a month, a day, an hour and a minute, with a year before them if there
are more than eight digits, and seconds behind a dot. -/
def ofStamp? (text : Bytes) : Option Int :=
  let (digits, seconds) := match cutAt 0x2e text with
    | some (digits, seconds) => (digits, seconds)
    | none => (text, bytes "00")
  let isNumber (text : Bytes) : Bool := text.all (digitValue · < 10)
  let part (n : Nat) : Nat := ofDigits 10 ((digits.drop (digits.length - 8 + n)).take 2)
  let given := ofDigits 10 (digits.take (digits.length - 8))
  let year := if digits.length = 8 then thisYear else if digits.length = 12 then given
    else if given < 69 then 2000 + given else 1900 + given
  let date : Date := ⟨year, part 0, part 2, part 4, part 6, ofDigits 10 seconds⟩
  if [8, 10, 12].contains digits.length && isNumber digits && isNumber seconds &&
      seconds.length = 2 && date.isValid then some date.seconds
  else none

/-- The numbers in a text, if there is nothing but a separator between them. -/
def numbers? (separator : UInt8) (text : Bytes) : Option (List Nat) :=
  (split separator text).mapM fun part =>
    if !part.isEmpty && part.all (digitValue · < 10) then some (ofDigits 10 part) else none

/-- The seconds of a time of day. -/
def secondsOfDay? (text : Bytes) : Option Int :=
  match numbers? 0x3a text with
  | some [hour, minute] => some (hour * 3600 + minute * 60)
  | some [hour, minute, second] => some (hour * 3600 + minute * 60 + second)
  | _ => none

/-- The words that can be in a date; the beginnings of some are enough. -/
def fullWords : List Bytes :=
  ["am", "pm", "sept", "tues", "wednes", "thur", "thurs", "dst", "year", "month", "fortnight",
    "week", "day", "hour", "minute", "min", "second", "sec", "tomorrow", "yesterday", "today",
    "now", "last", "this", "next", "first", "third", "fourth", "fifth", "sixth", "seventh",
    "eighth", "ninth", "tenth", "eleventh", "twelfth", "ago", "gmt", "ut", "utc", "wet", "bst",
    "est", "edt", "cst", "cdt", "mst", "mdt", "pst", "pdt", "cet", "cest", "eet", "eest", "msk",
    "jst", "ist"].map bytes
def shortWords : List Bytes :=
  ["january", "february", "march", "april", "may", "june", "july", "august", "september",
    "october", "november", "december", "sunday", "monday", "tuesday", "wednesday", "thursday",
    "friday", "saturday"].map bytes

/-- Whether a word can be in a date. A single letter is a zone. -/
def isWord (word : Bytes) : Bool :=
  let single := if word.getLast? = some 0x73 then word.dropLast else word
  fullWords.contains word || fullWords.contains single || shortWords.contains word ||
    (word.length = 3 && shortWords.any word.isPrefixOf) || (word.length = 1 && word ≠ bytes "j")

def isLetter (b : UInt8) : Bool := 0x61 ≤ b && b ≤ 0x7a

def isDigit (b : UInt8) : Bool := digitValue b < 10

/-- Whether a colon or a slash is anywhere but between two digits. -/
def hasLooseMark : Bytes → Bool
  | a :: b :: c :: rest =>
    ((b = 0x3a || b = 0x2f) && !(isDigit a && isDigit c)) || hasLooseMark (b :: c :: rest)
  | [_, b] => b = 0x3a || b = 0x2f
  | _ => false

/-- Whether a text can be a time without being a date: it has nothing but numbers, signs and words
that can be in a date. -/
def isRelative (text : Bytes) : Bool :=
  let lower := text.map fun b => if 0x41 ≤ b && b ≤ 0x5a then b + 0x20 else b
  let isOther (b : UInt8) : Bool := isDigit b || (bytes " \t\n-+:/.,").contains b
  let words := split Bytes.space (lower.map fun b => if isLetter b then b else Bytes.space)
  lower.all (fun b => isLetter b || isOther b) && !hasLooseMark (Bytes.space :: lower) &&
    words.all fun word => word.isEmpty || isWord word

/-- A time written as a date with a time of day behind it, or as a number of seconds. What else can
be a time is taken for now. -/
def ofText? (text : Bytes) : Option Int :=
  let (date, time) := match cutAt Bytes.space text, cutAt 0x54 text with
    | some (date, time), _ => (date, time)
    | none, some (date, time) => (date, time)
    | none, none => (text, bytes "0:0")
  match text, numbers? 0x2d date, secondsOfDay? time with
  | 0x40 :: rest, _, _ => (numbers? 0x2e rest).bind fun parts => parts.head?.map Int.ofNat
  | _, some [year, month, day], some passed =>
    let date : Date := { year, month, day }
    if date.isValid then some (date.seconds + passed) else none
  | _, _, _ => if isRelative text then some now else none

end Date

end LineShell.Utility
