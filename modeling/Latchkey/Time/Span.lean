/-!
# Lengths of time

A `Span` counts nanoseconds. It is written as a sum of units, `1h 30m` for instance, and read back from
such sums. A month has 30.44 days and a year 365.25. Spans hold fewer than `2⁶⁴` seconds, and reading
refuses every number that does not fit 64 bits on the way and every fraction that leaves a remainder.

A clock that never goes back shows its seconds in a signed word of 64 bits, and the nanoseconds beyond the whole
second next to it. A moment for which the word is too small is one that it cannot show.
-/

namespace Latchkey

@[ext] structure Span where
  nanoseconds : Nat
deriving DecidableEq, Repr

namespace Span

def second : Nat := 1000000000

def of (seconds nanoseconds : Nat) : Span := ⟨seconds * second + nanoseconds⟩

def ofMillis (milliseconds : Nat) : Span := ⟨milliseconds * 1000000⟩

def seconds (s : Span) : Nat := s.nanoseconds / second

def subsecond (s : Span) : Nat := s.nanoseconds % second

def millis (s : Span) : Nat := s.nanoseconds / 1000000

def Fits (s : Span) : Prop := s.seconds < UInt64.size

instance (s : Span) : Decidable s.Fits := by unfold Fits; infer_instance

/-- The units of a written span with their counts, from years down to nanoseconds. -/
def parts (s : Span) : List (Nat × String) :=
  let plural (count : Nat) (unit : String) := (count, if count = 1 then unit else unit ++ "s")
  let secs := s.seconds
  let inYear := secs % 31557600
  let inMonth := inYear % 2630016
  let inDay := inMonth % 86400
  let nanos := s.subsecond
  [plural (secs / 31557600) "year", plural (inYear / 2630016) "month", plural (inMonth / 86400) "day",
    (inDay / 3600, "h"), (inDay % 3600 / 60, "m"), (inDay % 60, "s"),
    (nanos / 1000000, "ms"), (nanos / 1000 % 1000, "us"), (nanos % 1000, "ns")]

/-- The span as a sum of units, without those that occur zero times. -/
def text (s : Span) : String :=
  if s.nanoseconds = 0 then "0s"
  else " ".intercalate ((s.parts.filter (·.1 ≠ 0)).map fun (count, unit) => s!"{count}{unit}")

inductive TimeUnit where
  | nanosecond | microsecond | millisecond | second | minute | hour | day | week | month | year
deriving DecidableEq, Repr

namespace TimeUnit

def ofName? (name : String) : Option TimeUnit :=
  if name ∈ ["nanos", "nsec", "ns"] then some nanosecond
  else if name ∈ ["usec", "us", "µs"] then some microsecond
  else if name ∈ ["millis", "msec", "ms"] then some millisecond
  else if name ∈ ["seconds", "second", "secs", "sec", "s"] then some second
  else if name ∈ ["minutes", "minute", "min", "mins", "m"] then some minute
  else if name ∈ ["hours", "hour", "hrs", "hr", "h"] then some hour
  else if name ∈ ["days", "day", "d"] then some day
  else if name ∈ ["weeks", "week", "wks", "wk", "w"] then some week
  else if name ∈ ["months", "month", "M"] then some month
  else if name ∈ ["years", "year", "yrs", "yr", "y"] then some year
  else none

def fine? : TimeUnit → Option Nat
  | nanosecond => some 1
  | microsecond => some 1000
  | millisecond => some 1000000
  | _ => none

def coarse : TimeUnit → Nat
  | minute => 60
  | hour => 3600
  | day => 86400
  | week => 604800
  | month => 2630016
  | year => 31557600
  | _ => 1

end TimeUnit

def word64? (n : Nat) : Option Nat := if n < UInt64.size then some n else none

/-- Adds seconds and nanoseconds. The nanoseconds are added to those beyond the whole second first, and
that sum has to fit 64 bits as well. -/
def add? (s : Span) (secs nanos : Nat) : Option Span := do
  let _ ← word64? (s.subsecond + nanos)
  let total : Span := ⟨s.nanoseconds + secs * second + nanos⟩
  if total.Fits then some total else none

structure Fraction where
  numerator : Nat
  denominator : Nat

/-- The fraction of a whole number, if it is whole itself; the numerator has to fit 64 bits before it is
divided. -/
def Fraction.of? (f : Fraction) (n : Nat) : Option Nat := do
  let product ← word64? (f.numerator * n)
  if product % f.denominator = 0 then some (product / f.denominator) else none

def addUnits? (s : Span) (count : Nat) (unit : TimeUnit) : Option Span := do
  match unit.fine? with
  | some nanos => s.add? 0 (← word64? (count * nanos))
  | none => s.add? (← word64? (count * unit.coarse)) 0

/-- Adds a fraction of a unit, which has to be a whole number of nanoseconds, or of seconds for units from
the hour on. A nanosecond has no fractions. -/
def addFraction? (s : Span) (f : Fraction) (unit : TimeUnit) : Option Span := do
  match unit with
  | .nanosecond => none
  | .microsecond => s.add? 0 (← f.of? 1000)
  | .millisecond => s.add? 0 (← f.of? 1000000)
  | .second => s.add? 0 (← f.of? 1000000000)
  | .minute => s.add? 0 (← f.of? 60000000000)
  | _ => s.add? (← f.of? unit.coarse) 0

/-- White space between characters, in any script. -/
def isBlank (c : Char) : Bool :=
  (9 ≤ c.toNat && c.toNat ≤ 13) || (0x2000 ≤ c.toNat && c.toNat ≤ 0x200A) ||
    [0x20, 0x85, 0xA0, 0x1680, 0x2028, 0x2029, 0x202F, 0x205F, 0x3000].contains c.toNat

def isUnitLetter (c : Char) : Bool := c.isAlpha || c = 'µ'

def digitValue (c : Char) : Nat := c.toNat - 48

/-- Where the reader of a sum of units stands. -/
inductive Scan where
  | gap
  | whole (count : Nat)
  | fraction (count : Nat) (f : Fraction)
  /-- In the name of a unit; the letters read so far stand in reverse. -/
  | unit (count : Nat) (f : Option Fraction) (letters : List Char)

/-- Ends a unit and adds what stands in front of it. -/
def close? (s : Span) (count : Nat) (f : Option Fraction) (letters : List Char) : Option Span := do
  let unit ← TimeUnit.ofName? (String.ofList letters.reverse)
  let s ← s.addUnits? count unit
  match f with
  | some f => s.addFraction? f unit
  | none => some s

/-- Reads the rest of a sum of units. Blanks may stand around and inside numbers, but end a unit. -/
def scan (s : Span) : Scan → List Char → Option Span
  | .gap, [] => some s
  | .gap, c :: cs =>
    if c.isDigit then scan s (.whole (digitValue c)) cs
    else if isBlank c then scan s .gap cs
    else none
  | .whole _, [] => none
  | .whole count, c :: cs =>
    if c.isDigit then do
      scan s (.whole (← word64? (count * 10 + digitValue c))) cs
    else if isBlank c then scan s (.whole count) cs
    else if isUnitLetter c then scan s (.unit count none [c]) cs
    else if c = '.' then scan s (.fraction count ⟨0, 1⟩) cs
    else none
  | .fraction _ _, [] => none
  | .fraction count f, c :: cs =>
    if c.isDigit then do
      let denominator ← word64? (f.denominator * 10)
      scan s (.fraction count ⟨f.numerator * 10 + digitValue c, denominator⟩) cs
    else if isBlank c then scan s (.fraction count f) cs
    else if isUnitLetter c ∧ f.denominator ≠ 1 then scan s (.unit count (some f) [c]) cs
    else none
  | .unit count f letters, [] => close? s count f letters
  | .unit count f letters, c :: cs =>
    if c.isDigit then do
      scan (← close? s count f letters) (.whole (digitValue c)) cs
    else if isBlank c then do
      scan (← close? s count f letters) .gap cs
    else if isUnitLetter c then scan s (.unit count f (c :: letters)) cs
    else none

/-- Reads a sum of units. A single zero needs no unit; an empty sum is refused. -/
def ofText? (text : String) : Option Span :=
  if text = "0" then some ⟨0⟩
  else if text.toList.all isBlank then none
  else scan ⟨0⟩ .gap text.toList

end Span

@[ext] structure ClockReading where
  seconds : Int64
  nanoseconds : Nat
  nanoseconds_lt : nanoseconds < Span.second
deriving DecidableEq, Repr

namespace ClockReading

/-- What has passed since the clock would have shown zero, in nanoseconds. -/
def total (r : ClockReading) : Int := r.seconds.toInt * Span.second + r.nanoseconds

/-- The first moment that a clock cannot show, in nanoseconds. -/
def limit : Int := (Int64.maxValue.toInt + 1) * Span.second

/-- The reading with these seconds, if the word can hold them, and these nanoseconds beyond them. -/
def at? (seconds : Int) (nanoseconds : Nat) : Option ClockReading :=
  if h : (Int64.minValue.toInt ≤ seconds ∧ seconds ≤ Int64.maxValue.toInt) ∧ nanoseconds < Span.second then
    some ⟨.ofIntLE seconds h.1.1 h.1.2, nanoseconds, h.2⟩
  else none

/-- The reading after a length of time. The whole seconds are added first, and the nanoseconds may then make up one
more. -/
def add? (r : ClockReading) (span : Span) : Option ClockReading := do
  let later ← at? (r.seconds.toInt + span.seconds) r.nanoseconds
  let nanoseconds := later.nanoseconds + span.subsecond
  if nanoseconds < Span.second then at? later.seconds.toInt nanoseconds
  else at? (later.seconds.toInt + 1) (nanoseconds - Span.second)

/-- After how many milliseconds a clock that shows `r` will show `due`, a fraction counting as a whole one. -/
def millisUntil (r due : ClockReading) : Nat := ((due.total - r.total).toNat + 999999) / 1000000

end ClockReading

end Latchkey
