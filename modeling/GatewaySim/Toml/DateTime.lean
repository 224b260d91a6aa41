import GatewaySim.Toml.Space

/-! # Dates and times in TOML

A day, a time of day, or a day with a time of day and perhaps its offset from universal time. The
second may be left out, and its digits behind the point are kept up to the ninth. A configuration
holds these values as texts (`DateTime.text`), in one form whatever form they were read from.
-/

namespace GatewaySim.Toml

/-! ## The calendar -/

def isLeapYear (year : Nat) : Bool :=
  year % 4 = 0 && (year % 100 ≠ 0 || year % 400 = 0)

def daysIn (year month : Nat) : Nat :=
  if month = 2 then if isLeapYear year then 29 else 28
  else if month ∈ [4, 6, 9, 11] then 30
  else 31

structure Date where
  year : Nat
  month : Nat
  day : Nat
  year_lt : year < 10000
  month_range : 1 ≤ month ∧ month ≤ 12
  day_range : 1 ≤ day ∧ day ≤ daysIn year month

structure Fraction where
  digits : List Char
  ne_nil : digits ≠ []
  all_isDigit : digits.all Char.isDigit

/-- A second, which may be one that was inserted into a day. -/
structure Second where
  whole : Nat
  fraction : Option Fraction := none
  whole_le : whole ≤ 60

structure Time where
  hour : Nat
  minute : Nat
  second : Option Second := none
  hour_lt : hour < 24
  minute_lt : minute < 60

/-- How far the time of a place is ahead of universal time, or behind it. -/
inductive Offset where
  | universal
  | shifted (behind : Bool) (hours minutes : Nat) (valid : hours < 24 ∧ minutes < 60)

inductive DateTime where
  | day (date : Date)
  | clock (time : Time)
  | moment (date : Date) (time : Time) (offset : Option Offset)

/-! ## Written forms -/

def twoDigits (n : Nat) : List Char := [Nat.digitChar (n / 10 % 10), Nat.digitChar (n % 10)]

def Date.text (date : Date) : List Char :=
  twoDigits (date.year / 100) ++ twoDigits (date.year % 100) ++
    '-' :: twoDigits date.month ++ '-' :: twoDigits date.day

/-- The digits that a fraction is written with: nine at most, without the zeros at the end but for
the last zero. -/
def fractionDigits (digits : List Char) : List Char :=
  match ((digits.take 9).reverse.dropWhile (· = '0')).reverse with
  | [] => ['0']
  | kept => kept

def Second.text (second : Second) : List Char :=
  ':' :: twoDigits second.whole ++
    match second.fraction with
    | some fraction => '.' :: fractionDigits fraction.digits
    | none => []

def Time.text (time : Time) : List Char :=
  twoDigits time.hour ++ ':' :: twoDigits time.minute ++
    match time.second with
    | some second => second.text
    | none => []

def Offset.text : Offset → List Char
  | .universal => ['Z']
  | .shifted behind hours minutes _ =>
    (if behind ∧ (hours, minutes) ≠ (0, 0) then '-' else '+') :: twoDigits hours ++
      ':' :: twoDigits minutes

def DateTime.text : DateTime → String
  | .day date => String.ofList date.text
  | .clock time => String.ofList time.text
  | .moment date time offset =>
    String.ofList (date.text ++ 'T' :: time.text ++ (offset.map Offset.text).getD [])

/-! ## Reading -/

def readDigit (text : List Char) : Option (Nat × Rest text) :=
  match text with
  | [] => none
  | c :: rest => if c.isDigit then some (c.toNat - 48, .tail c rest) else none

def readTwoDigits : Reader Nat := fun text => do
  let (tens, rest) ← readDigit text
  let (ones, behind) ← readDigit rest.1
  some (10 * tens + ones, rest.within behind)

def readTwoBehind (mark : Char) : Reader Nat := fun text => do
  let start ← readMark mark text
  let (number, rest) ← readTwoDigits start.1
  some (number, start.within rest)

def readDate : Reader Date := fun text => do
  let (century, rest) ← readTwoDigits text
  let (year, behind) ← readTwoDigits rest.1
  let (month, onward) ← readTwoBehind '-' behind.1
  let (day, last) ← readTwoBehind '-' onward.1
  let year := 100 * century + year
  if valid : year < 10000 ∧ (1 ≤ month ∧ month ≤ 12) ∧ 1 ≤ day ∧ day ≤ daysIn year month then
    some (⟨year, month, day, valid.1, valid.2.1, valid.2.2⟩,
      rest.within (behind.within (onward.within last)))
  else none

theorem all_isDigit_cons {c : Char} (digit : c.isDigit) (rest : List Char) :
    (c :: rest.takeWhile Char.isDigit).all Char.isDigit := by
  rw [List.all_cons, digit, List.all_takeWhile]
  rfl

def readFraction (text : List Char) : Option (Fraction × Rest text) :=
  match text with
  | '.' :: c :: rest =>
    if digit : c.isDigit then
      some (⟨c :: rest.takeWhile Char.isDigit, List.cons_ne_nil _ _, all_isDigit_cons digit rest⟩,
        .push '.' ⟨rest.dropWhile Char.isDigit, Nat.lt_succ_of_le (length_dropWhile_le _ rest)⟩)
    else none
  | _ => none

def readSecond : Reader Second := fun text => do
  let (whole, rest) ← readTwoBehind ':' text
  if valid : whole ≤ 60 then
    match readFraction rest.1 with
    | some (fraction, behind) => some (⟨whole, some fraction, valid⟩, rest.within behind)
    | none => some (⟨whole, none, valid⟩, rest)
  else none

def readTime : Reader Time := fun text => do
  let (hour, rest) ← readTwoDigits text
  let (minute, behind) ← readTwoBehind ':' rest.1
  if valid : hour < 24 ∧ minute < 60 then
    match readSecond behind.1 with
    | some (second, last) =>
      some (⟨hour, minute, some second, valid.1, valid.2⟩, rest.within (behind.within last))
    | none => some (⟨hour, minute, none, valid.1, valid.2⟩, rest.within behind)
  else none

def readEither (first second : Char) (text : List Char) : Option (Rest text) :=
  (readMark first text).or (readMark second text)

def readShift (mark : Char) (behind : Bool) : Reader Offset := fun text => do
  let (hours, rest) ← readTwoBehind mark text
  let (minutes, last) ← readTwoBehind ':' rest.1
  if valid : hours < 24 ∧ minutes < 60 then
    some (.shifted behind hours minutes valid, rest.within last)
  else none

def readOffset : Reader Offset := fun text =>
  match readEither 'Z' 'z' text with
  | some rest => some (.universal, rest)
  | none => (readShift '+' false text).or (readShift '-' true text)

/-- Reads the time behind a day, which a `T` or a blank parts from it, and its offset. -/
def readTimeOfDay : Reader (Time × Option Offset) := fun text => do
  let start ← (readEither 'T' 't' text).or (readMark ' ' text)
  let (time, rest) ← readTime start.1
  match readOffset rest.1 with
  | some (offset, behind) => some ((time, some offset), start.within (rest.within behind))
  | none => some ((time, none), start.within rest)

def readDateTime : Reader DateTime := fun text =>
  match readDate text with
  | some (date, rest) =>
    match readTimeOfDay rest.1 with
    | some ((time, offset), behind) => some (.moment date time offset, rest.within behind)
    | none => some (.day date, rest)
  | none => (readTime text).map fun (time, rest) => (.clock time, rest)

end GatewaySim.Toml
