/-
Module: CodeSplit.Toml.Moment
Purpose: the notation of dates and times.
Main exports:
  Toml.isMoment
-/
import CodeSplit.Separated

namespace CodeSplit.Toml

/-!
A moment is a date, a time of day, or a date and a time with `T` or one blank
between them; only the last may end with its distance from universal time.
Seconds may be left out, and may have a fraction if they are there.
-/

/-- The number that `width` decimal digits stand for. -/
def fixed? (width : Nat) (cs : List Char) : Option Nat :=
  if cs.length = width ∧ cs.all Char.isDigit then
    some (cs.foldl (fun value c => value * 10 + (c.toNat - '0'.toNat)) 0)
  else
    none

/-- Whether the characters are a number of two digits up to `most`. -/
def isClock (most : Nat) (cs : List Char) : Bool :=
  match fixed? 2 cs with
  | some value => value ≤ most
  | none => false

/-- Whether a year has a leap day. -/
def isLeap (year : Nat) : Bool :=
  year % 4 = 0 && (year % 100 ≠ 0 || year % 400 = 0)

/-- The number of days in a month. -/
def daysIn (year month : Nat) : Nat :=
  if month = 2 then if isLeap year then 29 else 28
  else if month ∈ [4, 6, 9, 11] then 30
  else 31

/-- Whether the characters are a date. -/
def isDate (cs : List Char) : Bool :=
  match splitWhere (fun c => decide (c = '-')) cs with
  | [year, month, day] =>
      match fixed? 4 year, fixed? 2 month, fixed? 2 day with
      | some year, some month, some day =>
          1 ≤ month && month ≤ 12 && 1 ≤ day && day ≤ daysIn year month
      | _, _, _ => false
  | _ => false

/-- Whether the characters are seconds, with a fraction or without one.  A leap
second is the sixtieth. -/
def isSeconds (cs : List Char) : Bool :=
  match splitWhere (fun c => decide (c = '.')) cs with
  | [whole] => isClock 60 whole
  | [whole, fraction] =>
      isClock 60 whole && !fraction.isEmpty && fraction.all Char.isDigit
  | _ => false

/-- Whether the characters are a time of day. -/
def isTime (cs : List Char) : Bool :=
  match splitWhere (fun c => decide (c = ':')) cs with
  | [hours, minutes] => isClock 23 hours && isClock 59 minutes
  | [hours, minutes, seconds] =>
      isClock 23 hours && isClock 59 minutes && isSeconds seconds
  | _ => false

/-- Whether the characters are a distance from universal time without its
sign. -/
def isDistance (cs : List Char) : Bool :=
  match splitWhere (fun c => decide (c = ':')) cs with
  | [hours, minutes] => isClock 23 hours && isClock 59 minutes
  | _ => false

/-- Whether the characters are a time of day that may end with a distance from
universal time. -/
def isPlacedTime (cs : List Char) : Bool :=
  let time := cs.takeWhile fun c => c.isDigit || c = ':' || c = '.'
  match cs.drop time.length with
  | [] => isTime time
  | ['Z'] | ['z'] => isTime time
  | '+' :: distance | '-' :: distance => isTime time && isDistance distance
  | _ => false

/-- Whether the characters are a moment. -/
def isMoment (cs : List Char) : Bool :=
  isTime cs ||
    isDate (cs.take 10) &&
      match cs.drop 10 with
      | [] => true
      | between :: time =>
          (between = 'T' || between = 't' || between = ' ') &&
            isPlacedTime time

example : isMoment "1979-05-27T07:32:00.5-08:00".toList = true := by decide
example : isMoment "2023-02-29".toList = false := by decide
example : isMoment "07:32Z".toList = false := by decide

end CodeSplit.Toml
