/-!
Dates and times of day in configuration documents, written in full and in the
common order. They are checked against the calendar and the clock.
-/

set_option autoImplicit false
set_option relaxedAutoImplicit false

namespace DigitTrail.Config

def fixedNumber? (length : Nat) (cs : List Char) : Option Nat :=
  if cs.length = length ∧ cs.all Char.isDigit then
    some (cs.foldl (fun n c => n * 10 + (c.toNat - 48)) 0)
  else none

def isLeapYear (year : Nat) : Bool := year % 4 = 0 && (year % 100 ≠ 0 || year % 400 = 0)

def daysIn (year month : Nat) : Nat :=
  if month = 2 then if isLeapYear year then 29 else 28
  else if month = 4 ∨ month = 6 ∨ month = 9 ∨ month = 11 then 30
  else 31

/-- A day of the calendar, written year, month and day. -/
def isDate (cs : List Char) : Bool :=
  match cs with
  | [y1, y2, y3, y4, '-', m1, m2, '-', d1, d2] =>
    match fixedNumber? 4 [y1, y2, y3, y4], fixedNumber? 2 [m1, m2], fixedNumber? 2 [d1, d2] with
    | some y, some m, some d => 1 ≤ m && m ≤ 12 && 1 ≤ d && d ≤ daysIn y m
    | _, _, _ => false
  | _ => false

def isHourMinute (cs : List Char) : Bool :=
  match cs with
  | [h1, h2, ':', m1, m2] =>
    match fixedNumber? 2 [h1, h2], fixedNumber? 2 [m1, m2] with
    | some h, some m => h ≤ 23 && m ≤ 59
    | _, _ => false
  | _ => false

/-- Seconds after a time of day, with any number of places; a leap second is one too many. -/
def isSeconds (cs : List Char) : Bool :=
  match cs with
  | ':' :: s1 :: s2 :: places =>
    ((fixedNumber? 2 [s1, s2]).any fun s => s ≤ 60) &&
      match places with
      | [] => true
      | '.' :: ds => !ds.isEmpty && ds.all Char.isDigit
      | _ => false
  | _ => false

/-- A time of day. The seconds may be left out. -/
def isTime (cs : List Char) : Bool :=
  isHourMinute (cs.take 5) && ((cs.drop 5).isEmpty || isSeconds (cs.drop 5))

def isTimeOffset (cs : List Char) : Bool :=
  match cs with
  | ['Z'] => true
  | ['z'] => true
  | '+' :: rest => isHourMinute rest
  | '-' :: rest => isHourMinute rest
  | _ => false

def isTimeChar (c : Char) : Bool := c.isDigit || c = ':' || c = '.'

/-- A time of day, or one at a distance from universal time. -/
def isOffsetTime (cs : List Char) : Bool :=
  let time := cs.takeWhile isTimeChar
  let offset := cs.drop time.length
  isTime time && (offset.isEmpty || isTimeOffset offset)

def isDateTimeMark (c : Char) : Bool := c = 'T' || c = 't' || c = ' '

def isMoment (cs : List Char) : Bool :=
  isTime cs || isDate cs ||
    (isDate (cs.take 10) &&
      match cs.drop 10 with
      | mark :: time => isDateTimeMark mark && isOffsetTime time
      | [] => false)

end DigitTrail.Config
