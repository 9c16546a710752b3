import Killswitch.Text.Search

/-!
# Dates and moments

Days of the Gregorian calendar, and moments of a day with an optional offset from universal time.

**Contents.**
* `Date.of?` and `Moment.of?`: the fields of a day and a moment, checked in their order;
* `Offset.of?`: an offset of less than a day;
* `toString` and `shown`: the plain form, and the form that shows the fields.
-/

namespace Killswitch
namespace Calendar

/-- A field that lies outside its range. -/
inductive Fault where
  | year (given : Nat)
  | month
  | day
  | hour
  | minute
  | second
  | offset (minutes : Int)
  deriving DecidableEq, Repr

/-- Whether a year has a 29th of February. -/
def isLeap (year : Nat) : Bool :=
  year % 4 == 0 && (year % 100 != 0 || year % 400 == 0)

def monthLength (year month : Nat) : Nat :=
  if month = 2 then (if isLeap year then 29 else 28)
  else if month = 4 ∨ month = 6 ∨ month = 9 ∨ month = 11 then 30
  else 31

/-- A day of the calendar. -/
structure Date where
  year : Nat
  month : Nat
  day : Nat
  deriving DecidableEq, Repr

/-- The day with the given fields, or the first one outside its range. -/
def Date.of? (year month day : Nat) : Except Fault Date :=
  if year < 1 ∨ 9999 < year then .error (.year year)
  else if month < 1 ∨ 12 < month then .error .month
  else if day < 1 ∨ monthLength year month < day then .error .day
  else .ok ⟨year, month, day⟩

/-- A moment, exact to the microsecond, with its offset in minutes if one is known. -/
structure Moment where
  date : Date
  hour : Nat
  minute : Nat
  second : Nat
  micro : Nat
  offset : Option Int
  deriving DecidableEq, Repr

/-- An offset of less than a day in either direction. -/
def Offset.of? (minutes : Int) : Except Fault Int :=
  if -1440 < minutes ∧ minutes < 1440 then .ok minutes else .error (.offset minutes)

/-- The moment with the given fields, or the first one outside its range. -/
def Moment.of? (year month day hour minute second micro : Nat) (offset : Option Int) :
    Except Fault Moment := do
  let date ← Date.of? year month day
  if 23 < hour then .error .hour
  else if 59 < minute then .error .minute
  else if 59 < second then .error .second
  else .ok ⟨date, hour, minute, second, micro, offset⟩

/-- A number with zeros in front up to the given width. -/
def padded (width n : Nat) : String :=
  let digits := toString n
  String.ofList (List.replicate (width - digits.length) '0') ++ digits

/-- The plain form of a day. -/
def Date.toString (d : Date) : String :=
  padded 4 d.year ++ "-" ++ padded 2 d.month ++ "-" ++ padded 2 d.day

/-- The plain form of an offset: its sign, hours and minutes. -/
def offsetText (minutes : Int) : String :=
  (if minutes < 0 then "-" else "+") ++ padded 2 (minutes.natAbs / 60) ++ ":"
    ++ padded 2 (minutes.natAbs % 60)

/-- The plain form of a moment, with its fraction if there is one. -/
def Moment.toString (m : Moment) : String :=
  m.date.toString ++ " " ++ padded 2 m.hour ++ ":" ++ padded 2 m.minute ++ ":" ++ padded 2 m.second
    ++ (if m.micro = 0 then "" else "." ++ padded 6 m.micro)
    ++ (match m.offset with
      | none => ""
      | some minutes => offsetText minutes)

def call (name : String) (fields : List String) : String :=
  name ++ "(" ++ Text.joinWith ", " fields ++ ")"

def Date.shown (d : Date) : String :=
  call "datetime.date" [ToString.toString d.year, ToString.toString d.month, ToString.toString d.day]

/-- A span of minutes with its fields: days, which may be negative, and seconds. -/
def shownSpan (minutes : Int) : String :=
  let days := minutes.fdiv 1440
  let seconds := minutes.fmod 1440 * 60
  let fields := (if days = 0 then [] else ["days=" ++ ToString.toString days])
    ++ (if seconds = 0 then [] else ["seconds=" ++ ToString.toString seconds])
  call "datetime.timedelta" (if fields = [] then ["0"] else fields)

def shownOffset (minutes : Int) : String :=
  if minutes = 0 then "datetime.timezone.utc" else call "datetime.timezone" [shownSpan minutes]

/-- A moment with its fields; zeros at the end are left out. -/
def Moment.shown (m : Moment) : String :=
  let small :=
    if m.micro ≠ 0 then [m.second, m.micro] else if m.second ≠ 0 then [m.second] else []
  let fields := [m.date.year, m.date.month, m.date.day, m.hour, m.minute] ++ small
  call "datetime.datetime" (fields.map ToString.toString
    ++ (match m.offset with
      | none => []
      | some minutes => ["tzinfo=" ++ shownOffset minutes]))

/-- The number of days from the start of the calendar. -/
def Date.ordinal (d : Date) : Nat :=
  let before := d.year - 1
  let months := ((List.range d.month).drop 1).map (monthLength d.year)
  365 * before + before / 4 - before / 100 + before / 400 + months.foldl (· + ·) 0 + d.day

/-- The microseconds from the start of the calendar, in universal time. -/
def Moment.instant (m : Moment) (offset : Int) : Int :=
  let minutes := ((m.date.ordinal : Int) * 24 + m.hour) * 60 + m.minute - offset
  (minutes * 60 + m.second) * 1000000 + m.micro

/-- Whether two moments are the same, on one clock or at one instant. -/
def Moment.same (m n : Moment) : Bool :=
  match m.offset, n.offset with
  | none, none => m.instant 0 == n.instant 0
  | some a, some b => m.instant a == n.instant b
  | _, _ => false

def Fault.message : Fault → String
  | .year given => "year " ++ ToString.toString given ++ " is out of range"
  | .month => "month must be in 1..12"
  | .day => "day is out of range for month"
  | .hour => "hour must be in 0..23"
  | .minute => "minute must be in 0..59"
  | .second => "second must be in 0..59"
  | .offset minutes =>
      "offset must be a timedelta strictly between -timedelta(hours=24) and timedelta(hours=24), not "
        ++ shownSpan minutes ++ "."

end Calendar
end Killswitch
