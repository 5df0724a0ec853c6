import NetImport.Error
import NetImport.Number.Word

/-!
# Steps of time

Times and spans of time are counted in steps, each of them a number of units long; times are counted
from the start of the year 1970. Years and months have no fixed length: as times they start with a
day of the calendar, and as spans they have nothing in common with the shorter units. Counts are
signed words, of which the lowest one stands for no time at all.
-/

namespace NetImport

inductive TimeUnit where
  | year
  | month
  | week
  | day
  | hour
  | minute
  | second
  | milli
  | micro
  | nano
  | pico
  | femto
  | atto
  deriving DecidableEq, Repr

namespace TimeUnit

/-- All units, from the longest to the shortest. -/
def all : List TimeUnit :=
  [year, month, week, day, hour, minute, second, milli, micro, nano, pico, femto, atto]

def symbol : TimeUnit → String
  | year => "Y"
  | month => "M"
  | week => "W"
  | day => "D"
  | hour => "h"
  | minute => "m"
  | second => "s"
  | milli => "ms"
  | micro => "us"
  | nano => "ns"
  | pico => "ps"
  | femto => "fs"
  | atto => "as"

/-- The place of a unit among all units. -/
def rank (unit : TimeUnit) : Nat := all.idxOf unit

/-- Whether the length of a unit depends on the calendar. -/
def isCalendar (unit : TimeUnit) : Bool := unit = year || unit = month

/-- How many of the next shorter unit a unit counts for, as far as that is fixed. -/
def nextCount : TimeUnit → Nat
  | year | month => 1
  | week => 7
  | day => 24
  | hour | minute => 60
  | _ => 1000

/--
How many of a shorter unit a unit counts for. A year has twelve months; next to units of a fixed
length, years and months count like a single week.
-/
def count (unit shorter : TimeUnit) : Nat :=
  if unit = year ∧ shorter = month then 12
  else ((all.take shorter.rank).drop unit.rank).foldl (fun count unit => count * unit.nextCount) 1

/-- The units into which a unit can be divided, each with its number in the divided one. -/
def parts : TimeUnit → List (Nat × TimeUnit)
  | year => [(12, month), (52, week), (365, day)]
  | month => [(4, week), (30, day), (720, hour)]
  | week => [(7, day), (168, hour), (10080, minute), (0, year)]
  | day => [(24, hour), (1440, minute), (86400, second)]
  | hour => [(60, minute), (3600, second)]
  | minute => [(60, second), (60000, milli)]
  | unit => ((all.drop (unit.rank + 1)).take 2).map fun part => (unit.count part, part)

/-- The day on which a month starts, both counted from the start of the year 1970. -/
def firstDay (month : Int) : Int :=
  let sinceMarch := 12 * 1970 - 2 + month
  let year := sinceMarch.fdiv 12
  let daysBefore := (153 * sinceMarch.fmod 12 + 2).fdiv 5
  365 * year + year.fdiv 4 - year.fdiv 100 + year.fdiv 400 + daysBefore - 719468

/-- The day in which a number of units ends, counted from the same start. -/
def days (unit : TimeUnit) (number : Int) : Int :=
  match unit with
  | year => firstDay (12 * number)
  | month => firstDay number
  | week => 7 * number
  | unit => number.fdiv (day.count unit)

end TimeUnit

/-- A step of time: a number of units. -/
structure TimeStep where
  unit : TimeUnit
  factor : Int
  deriving DecidableEq, Repr

namespace TimeStep

/-- The count that stands for no time at all. -/
def noTime : Int := -(wordCount / 2 : Nat)

/-- A step between brackets, with its number of units unless that is one. -/
def text (step : TimeStep) : String :=
  if step.factor = 1 then s!"[{step.unit.symbol}]" else s!"[{step.factor}{step.unit.symbol}]"

/-- A part of a step, which must be a whole number of shorter units. -/
def divided (step : TimeStep) (divisor : Int) : Except Error TimeStep :=
  let isWhole (part : Nat × TimeUnit) : Bool := divisor ≠ 0 && (part.1 : Int).tmod divisor = 0
  match step.unit.parts.find? isWhole with
  | some (number, unit) =>
    .ok ⟨unit, (step.factor * (number : Int).tdiv divisor).bmod shortWordCount⟩
  | none => .error .rejectedValue

/-- The number of short units in a long one from which on the two are not counted together. -/
def countLimit : Nat := 0x100000000000000

/--
The longest step of which two steps are multiples, if words can count its units. As spans, a step
that is counted by the calendar has none with a step that is not.
-/
def common? (left right : TimeStep) (areSpans : Bool) : Option TimeStep :=
  let unit := if left.unit.rank < right.unit.rank then right.unit else left.unit
  let isMixed := left.unit.isCalendar != right.unit.isCalendar
  let factor (step : TimeStep) : Nat := (step.factor * step.unit.count unit % wordCount).toNat
  let isLost (step : TimeStep) : Bool :=
    step.unit ≠ unit && (factor step = 0 || countLimit ≤ step.unit.count unit)
  let shared := Nat.gcd (factor left) (factor right)
  if areSpans && isMixed || isLost left || isLost right then none
  else if shared = 0 ∨ shortWordCount ≤ 2 * shared then none
  else some ⟨unit, shared⟩

/-- The count of a time or span, given in some steps, in steps that are no longer. -/
def convert (source target : TimeStep) (count : Int) : Int :=
  if count = noTime then noTime
  else if source.unit.isCalendar && !target.unit.isCalendar then
    let days := source.unit.days (count * source.factor)
    let units :=
      if target.unit = .week then days.fdiv 7 else days * TimeUnit.day.count target.unit
    (units.bmod wordCount).fdiv target.factor
  else
    let ratio := (source.factor * source.unit.count target.unit).fdiv target.factor
    (count * ratio).bmod wordCount

/--
How many of the units of a step that is no longer go into the unit of a step. Years and months are
taken apart into days, unless the units of the other step are longer than a day.
-/
def unitCount (source target : TimeStep) : Nat :=
  let areDays := source.unit.isCalendar && TimeUnit.day.rank ≤ target.unit.rank
  (if areDays then TimeUnit.day else source.unit).count target.unit

/--
How counts in some steps are converted to a common step of them and others. Units of which too many
go into one are not counted, even if other steps lie between the two; a step of no length cannot be
converted, and a time that is counted in unknown steps has no place in the calendar.
-/
def converter (source target : Option TimeStep) (areSpans : Bool) :
    Except Error (Int → Except Error Int) :=
  if source = target then .ok .ok
  else
    match source, target with
    | some source, some target =>
      if countLimit ≤ source.unitCount target then .error .numberTooLarge
      else if source.factor = 0 then .error .unexplained
      else .ok fun count => .ok (source.convert target count)
    | none, some target =>
      .ok fun count =>
        if target.unit.isCalendar && !areSpans && count ≠ noTime then .error .rejectedValue
        else .ok count
    | _, none => .ok .ok

/-- Whether the time of a count lies in the years that have a date, from 1 to 9999. -/
def hasDate (step : TimeStep) (count : Int) : Bool :=
  let days := step.unit.days ((count * step.factor).bmod wordCount)
  (-719162 : Int) ≤ days && days ≤ 2932896

/-- Whether the span of a count has fewer days than a thousand millions, either way. -/
def hasDays (step : TimeStep) (count : Int) : Bool :=
  (step.unit.days ((count * step.factor).bmod wordCount)).natAbs ≤ 999999999

end TimeStep

end NetImport
