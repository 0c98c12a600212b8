import GrammarBrew.Text.Class

/-!
Dates and times. A date may be followed by a time and a time by its distance from universal time;
each is a moment by itself as well, but the distance needs both before it. A moment is kept as its
text in a normal form: `T` between date and time, fractions of a second without zeros at the end and
cut after nine digits. A moment that is written as a text in quotes is read more freely: the hour
may be 24, and any distance of up to a day counts.
-/

set_option autoImplicit false
set_option relaxedAutoImplicit false

namespace GrammarBrew.Toml

def ofDigits (digits : Text) : Nat :=
  digits.foldl (fun n c => 10 * n + (c.toNat - '0'.toNat)) 0

namespace Moment

/-- The number that the first `width` characters spell, if they are digits, and what follows. -/
def fixed? (width : Nat) (text : Text) : Option (Nat × Text) :=
  let digits := text.take width
  if digits.length = width ∧
    digits.all Text.isAsciiDigit then some (ofDigits digits, text.drop width)
  else none

def after? (mark : Char) : Text → Option Text
  | [] => none
  | c :: rest => if c = mark then some rest else none

def padded (width n : Nat) : Text :=
  let digits := Text.ofNat n
  List.replicate (width - digits.length) '0' ++ digits

def isLeapYear (year : Nat) : Bool := year % 4 == 0 && (year % 100 != 0 || year % 400 == 0)

def daysOf (year month : Nat) : Nat :=
  if month = 2 then if isLeapYear year then 29 else 28
  else if [4, 6, 9, 11].contains month then 30
  else 31

def date? (text : Text) : Option (Text × Text) := do
  let (year, text) ← fixed? 4 text
  let (month, text) ← fixed? 2 (← after? '-' text)
  let (day, text) ← fixed? 2 (← after? '-' text)
  if 1 ≤ month ∧ month ≤ 12 ∧ 1 ≤ day ∧ day ≤ daysOf year month then
    some (padded 4 year ++ '-' :: padded 2 month ++ '-' :: padded 2 day, text)
  else none

def clock? (text : Text) : Option (Nat × Nat × Text) := do
  let (hour, text) ← fixed? 2 text
  let (minute, text) ← fixed? 2 (← after? ':' text)
  return (hour, minute, text)

def fractionDigits : Nat := 9

/-- The digits of a fraction in normal form, with a point before them if there are any. -/
def fraction (digits : Text) : Text :=
  let significant := ((digits.take fractionDigits).reverse.dropWhile fun c => c == '0').reverse
  if significant.isEmpty then [] else '.' :: significant

def lastHour (quoted : Bool) : Nat := if quoted then 24 else 23

/-- The time that a text begins with; a minute may have a 61st second. -/
def time? (quoted : Bool) (text : Text) : Option (Text × Text) := do
  let (hour, minute, text) ← clock? text
  let (second, text) ← fixed? 2 (← after? ':' text)
  if lastHour quoted < hour ∨ 59 < minute ∨ 60 < second then none
  else
    let shown := padded 2 hour ++ ':' :: padded 2 minute ++ ':' :: padded 2 second
    match after? '.' text with
    | none => some (shown, text)
    | some text =>
      let digits := text.takeWhile Text.isAsciiDigit
      if digits.isEmpty then none else some (shown ++ fraction digits, text.drop digits.length)

/-- Whether hours and minutes make a distance from universal time. -/
def isDistance (quoted : Bool) (hour minute : Nat) : Bool :=
  if quoted then decide (60 * hour + minute ≤ 60 * 24) else decide (hour < 24)
    && decide (minute < 60)

/-- The distance from universal time that a text is, if there is any. -/
def distance? (quoted : Bool) (text : Text) : Option Text :=
  match text with
  | [] => some []
  | sign :: rest =>
    if (sign = 'Z' ∨ sign = 'z') ∧ rest.isEmpty then some ['Z']
    else if sign = '+' ∨ sign = '-' then
      match clock? rest with
      | some (hour, minute, []) =>
        let minutes := 60 * hour + minute
        let shown := if sign = '-' ∧ 0 < minutes then '-' else '+'
        if isDistance quoted hour minute then
          some (shown :: padded 2 (minutes / 60) ++ ':' :: padded 2 (minutes % 60))
        else none
      | _ => none
    else none

def timeAndDistance? (quoted : Bool) (text : Text) : Option Text := do
  let (time, text) ← time? quoted text
  return time ++ (← distance? quoted text)

/-- Whether a text is a date and no more, so that a time may follow after a blank. -/
def isDate (text : Text) : Bool :=
  match date? text with
  | some (_, rest) => rest.isEmpty
  | none => false

def beginsTime (text : Text) : Bool :=
  match fixed? 2 text with
  | some (_, rest) => rest.head? == some ':'
  | none => false

end Moment

def moment? (quoted : Bool) (text : Text) : Option Text :=
  match Moment.date? text with
  | some (date, []) => some date
  | some (date, mark :: rest) =>
    if mark = 'T' ∨ mark = 't' ∨ mark = ' ' then
      (Moment.timeAndDistance? quoted rest).map fun time => date ++ 'T' :: time
    else none
  | none =>
    match Moment.time? quoted text with
    | some (time, []) => some time
    | _ => none

example : moment? false "1979-05-27 07:32:00.500-00:00".toList
    = some "1979-05-27T07:32:00.5+00:00".toList := by decide +kernel
example : moment? false "1900-02-29".toList = none := by decide +kernel
example : moment? true "1979-05-27T24:00:00+23:60".toList
    = some "1979-05-27T24:00:00+24:00".toList := by decide +kernel

end GrammarBrew.Toml
