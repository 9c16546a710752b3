import Killswitch.Yaml.Fault

/-!
# Timestamps

A day, or a day and a time, as documents write them: the time follows a T or blanks, may have a
fraction of a second and may end with an offset or a Z.
-/

namespace Killswitch
namespace Yaml

/-- The time of day of a timestamp, and its offset in minutes. -/
structure TimeText where
  hour : Nat
  minute : Nat
  second : Nat
  fraction : List Char
  offset : Option Int
  deriving DecidableEq, Repr

/-- A timestamp as it is written; `wide` says that month and day have two digits each. -/
structure Timestamp where
  year : Nat
  month : Nat
  day : Nat
  wide : Bool
  time : Option TimeText
  deriving DecidableEq, Repr

namespace Timestamp

/-- The number that the digits at its start spell, how many they are, and the rest. -/
def digits (least most : Nat) (s : List Char) : Option (Nat × Nat × List Char) :=
  let run := (s.take most).takeWhile Char.isDigit
  if run.length < least then none
  else some (run.foldl (fun n d => 10 * n + (d.toNat - 48)) 0, run.length, s.drop run.length)

def after (c : Char) : List Char → Option (List Char)
  | [] => none
  | x :: rest => if x = c then some rest else none

/-- Whether a character is a blank inside a line. -/
def isGap (c : Char) : Bool :=
  c == ' ' || c == '\t'

/-- An offset at the end of a timestamp: none, a Z, or a signed time. -/
def offset? (s : List Char) : Option (Option Int) :=
  if s = [] then some none
  else
    match s.dropWhile isGap with
    | ['Z'] => some (some 0)
    | sign :: rest =>
        if sign = '+' ∨ sign = '-' then do
          let (hours, _, rest) ← digits 1 2 rest
          let (minutes, rest) ←
            match after ':' rest with
            | some rest => (digits 2 2 rest).map (fun (n, _, rest) => (n, rest))
            | none => some (0, rest)
          let total : Int := hours * 60 + minutes
          if rest = [] then some (some (if sign = '-' then -total else total)) else none
        else none
    | [] => none

/-- The time of a timestamp, from after the day. -/
def time? (s : List Char) : Option TimeText := do
  let s ←
    match s with
    | 'T' :: rest => some rest
    | 't' :: rest => some rest
    | c :: rest => if isGap c then some (rest.dropWhile isGap) else none
    | [] => none
  let (hour, _, s) ← digits 1 2 s
  let (minute, _, s) ← digits 2 2 (← after ':' s)
  let (second, _, s) ← digits 2 2 (← after ':' s)
  let (fraction, s) :=
    match s with
    | '.' :: rest => (rest.takeWhile Char.isDigit, rest.dropWhile Char.isDigit)
    | s => ([], s)
  let offset ← offset? s
  return ⟨hour, minute, second, fraction, offset⟩

def ofText? (s : List Char) : Option Timestamp := do
  let (year, _, s) ← digits 4 4 s
  let (month, monthWidth, s) ← digits 1 2 (← after '-' s)
  let (day, dayWidth, s) ← digits 1 2 (← after '-' s)
  let wide := monthWidth == 2 && dayWidth == 2
  if s = [] then return ⟨year, month, day, wide, none⟩
  else return ⟨year, month, day, wide, some (← time? s)⟩

/-- Whether a text is taken for a timestamp without being declared one. -/
def isPlain (s : List Char) : Bool :=
  match ofText? s with
  | none => false
  | some t => t.wide || t.time.isSome

/-- The microseconds of a fraction, from its first six digits. -/
def microseconds (fraction : List Char) : Nat :=
  let six := fraction.take 6
  six.foldl (fun n d => 10 * n + (d.toNat - 48)) 0 * Nat.pow 10 (6 - six.length)

end Timestamp
end Yaml
end Killswitch
