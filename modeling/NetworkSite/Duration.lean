/-
  Durations written for people, such as `1h 30m`.

  A duration is a sequence of amounts, each a decimal number with a unit; white
  space may stand around numbers and units and between digits.  A number may
  have a fraction where the product with the unit is a whole number: of
  nanoseconds for units up to the minute, of seconds for longer ones.  The text
  `0` is a duration too, and the only one without a unit.
-/
import NetworkSite.Text.Blank
import NetworkSite.Text.Numeral

namespace NetworkSite

/-- Whole seconds and the nanoseconds beyond them. -/
structure Duration where
  seconds : Nat
  nanos : Nat := 0
  deriving DecidableEq, Inhabited

namespace Duration

/-- What the fraction of an amount is counted in. -/
inductive Grain where
  | nanos
  | seconds
  /-- Amounts of the unit have no fraction. -/
  | none
  deriving DecidableEq

/-- A unit of time: its names and its length, either in seconds or in
    nanoseconds. -/
structure TimeUnit where
  names : List String
  seconds : Nat := 0
  nanos : Nat := 0
  grain : Grain := .nanos

/-- The units. -/
def units : List TimeUnit := [
  { names := ["nanos", "nsec", "ns"], nanos := 1, grain := .none },
  { names := ["usec", "us", "\u00b5s"], nanos := 1000 },
  { names := ["millis", "msec", "ms"], nanos := 1000000 },
  { names := ["seconds", "second", "secs", "sec", "s"], seconds := 1 },
  { names := ["minutes", "minute", "mins", "min", "m"], seconds := 60 },
  { names := ["hours", "hour", "hrs", "hr", "h"], seconds := 3600, grain := .seconds },
  { names := ["days", "day", "d"], seconds := 86400, grain := .seconds },
  { names := ["weeks", "week", "wks", "wk", "w"], seconds := 604800, grain := .seconds },
  { names := ["months", "month", "M"], seconds := 2630016, grain := .seconds },
  { names := ["years", "year", "yrs", "yr", "y"], seconds := 31557600, grain := .seconds }]

/-- The count of bits of the numbers in a duration. -/
def width : Nat := 64

/-- The number if it fits into the width. -/
def bounded (n : Nat) : Option Nat :=
  if n < 2 ^ width then some n else none

/-- The duration with seconds and nanoseconds added. -/
def add? (d : Duration) (seconds nanos : Nat) : Option Duration := do
  let nanos ← bounded (d.nanos + nanos)
  let seconds ← bounded (d.seconds + seconds + nanos / 1000000000)
  return { seconds, nanos := nanos % 1000000000 }

/-- The fraction with the given digits of `steps`, if it is a whole number. -/
def fractionOf? (steps : Nat) (digits : List Char) : Option Nat := do
  let numerator ← (Text.readDigits 10 digits).bind bounded
  let denominator ← bounded (10 ^ digits.length)
  let product ← bounded (numerator * steps)
  if product % denominator = 0 then some (product / denominator) else none

/-- The duration with an amount added: `n` of a unit and the fraction with the
    given digits of one more. -/
def addAmount? (d : Duration) (u : TimeUnit) (n : Nat) (fraction : Option (List Char)) :
    Option Duration := do
  let d ← d.add? (← bounded (n * u.seconds)) (← bounded (n * u.nanos))
  match fraction, u.grain with
  | none, _ => return d
  | some _, .none => none
  | some digits, .nanos => d.add? 0 (← fractionOf? (u.seconds * 1000000000 + u.nanos) digits)
  | some digits, .seconds => d.add? (← fractionOf? u.seconds digits) 0

/-- A letter of a unit. -/
def isUnitChar (c : Char) : Bool :=
  c.isAlpha || c == '\u00b5'

/-- The digits at the front, with white space among them, and what follows. -/
def digitRun : List Char → List Char × List Char
  | [] => ([], [])
  | c :: rest =>
    if c.isDigit then
      let (digits, after) := digitRun rest
      (c :: digits, after)
    else if Text.isBlank c then digitRun rest
    else ([], c :: rest)

/-- Adds the amounts of a text to a duration; `fuel` bounds their count. -/
def readAmounts (d : Duration) (cs : List Char) : Nat → Option Duration
  | 0 => none
  | fuel + 1 => do
    match cs with
    | [] => none
    | c :: _ => if !c.isDigit then none
    let (digits, rest) := digitRun cs
    let n ← (Text.readDigits 10 digits).bind bounded
    let (fraction, rest) ←
      match rest with
      | '.' :: rest =>
        let (digits, rest) := digitRun rest
        if digits.isEmpty then none else some (some digits, rest)
      | rest => some (none, rest)
    let name := String.ofList (rest.takeWhile isUnitChar)
    let rest := rest.dropWhile isUnitChar
    let u ← units.find? (·.names.contains name)
    let d ← d.addAmount? u n fraction
    match rest.dropWhile Text.isBlank with
    | [] => return d
    | rest => readAmounts d rest fuel

/-- The duration that a text writes. -/
def ofText? (s : String) : Option Duration :=
  if s == "0" then some { seconds := 0 }
  else readAmounts { seconds := 0 } (s.toList.dropWhile Text.isBlank) s.length

end Duration

end NetworkSite
