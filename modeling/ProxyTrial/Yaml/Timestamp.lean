import ProxyTrial.Text.Blank
import ProxyTrial.Value
import ProxyTrial.Yaml.Fault
/-!
# Dates and times

A date is written with hyphens; the time of day comes after the letter T or
blanks, with its fraction and its offset from universal time.
-/

namespace ProxyTrial.Yaml

/-- The time of day as it is written. -/
structure ClockText where
  hour : Nat
  minute : Nat
  second : Nat
  /-- The digits after the point. -/
  fraction : List Char
  /-- The offset in seconds, if one is given. -/
  offset : Option Int

/-- A date as it is written, with the time of day if there is one. -/
structure DateText where
  year : Nat
  month : Nat
  day : Nat
  clock : Option ClockText

/-- The number made by at least `least` and at most `most` digits, and the
characters after them. -/
def digitsBetween (least most : Nat) (cs : List Char) : Option (Nat × List Char) :=
  let ds := (cs.take most).takeWhile Char.isDigit
  if ds.length < least then none
  else some (Text.ofDigits 10 (ds.map fun c => c.toNat - 48), cs.drop ds.length)

/-- The characters after one that must come first. -/
def after? (x : Char) : List Char → Option (List Char)
  | [] => none
  | c :: cs => if c = x then some cs else none

/-- The offset at the end of a time. -/
def offset? (cs : List Char) : Option (Option Int) :=
  match cs with
  | [] => some none
  | _ =>
    match cs.dropWhile fun c => c == ' ' || c == '\t' with
    | ['Z'] => some (some 0)
    | sign :: rest =>
      if sign = '+' ∨ sign = '-' then do
        let (hours, rest) ← digitsBetween 1 2 rest
        let (minutes, rest) ← match rest with
          | ':' :: rest => digitsBetween 2 2 rest
          | _ => some (0, rest)
        if !rest.isEmpty then none
        let seconds : Int := hours * 3600 + minutes * 60
        return some (if sign = '-' then -seconds else seconds)
      else none
    | [] => none

/-- The time of day that a text holds. -/
def clock? (cs : List Char) : Option ClockText := do
  let (hour, cs) ← digitsBetween 1 2 cs
  let (minute, cs) ← digitsBetween 2 2 (← after? ':' cs)
  let (second, cs) ← digitsBetween 2 2 (← after? ':' cs)
  let (fraction, cs) := match cs with
    | '.' :: cs => (cs.takeWhile Char.isDigit, cs.dropWhile Char.isDigit)
    | cs => ([], cs)
  return { hour, minute, second, fraction, offset := ← offset? cs }

/-- The date that a text holds. -/
def date? (cs : List Char) : Option DateText := do
  let (year, cs) ← digitsBetween 4 4 cs
  let (month, cs) ← digitsBetween 1 2 (← after? '-' cs)
  let (day, cs) ← digitsBetween 1 2 (← after? '-' cs)
  match cs with
  | [] => return { year, month, day, clock := none }
  | c :: rest =>
    let cs ←
      if c = 'T' ∨ c = 't' then some rest
      else if c = ' ' ∨ c = '\t' then some (rest.dropWhile fun c => c == ' ' || c == '\t')
      else none
    return { year, month, day, clock := some (← clock? cs) }

/-- Whether a text without a tag is a date: without a time of day, the month
and the day have two digits. -/
def isDate (cs : List Char) : Bool :=
  match date? cs with
  | some d => d.clock.isSome || cs.length == 10
  | none => false

/-- The number of days of a month. -/
def daysIn (year month : Nat) : Nat :=
  if month = 2 then
    if year % 4 = 0 ∧ (year % 100 ≠ 0 ∨ year % 400 = 0) then 29 else 28
  else if month = 4 ∨ month = 6 ∨ month = 9 ∨ month = 11 then 30
  else 31

/-- What is wrong with a date without its time of day. -/
def DateText.dayFault? (d : DateText) : Option DateFault :=
  if d.year = 0 then some (.year d.year)
  else if d.month = 0 ∨ 12 < d.month then some .month
  else if d.day = 0 ∨ daysIn d.year d.month < d.day then some .day
  else none

/-- What is wrong with a time of day without its offset. -/
def ClockText.fault? (t : ClockText) : Option DateFault :=
  if 23 < t.hour then some .hour
  else if 59 < t.minute then some .minute
  else if 59 < t.second then some .second
  else none

/-- The value of a date. -/
def DateText.value (d : DateText) : Except DateFault Value :=
  match d.clock with
  | none =>
    match d.dayFault? with
    | some f => .error f
    | none => .ok (.date d.year d.month d.day)
  | some t =>
    let far := match t.offset with
      | some o => if o.natAbs < 86400 then none else some (.offset o)
      | none => none
    match far <|> d.dayFault? <|> t.fault? with
    | some f => .error f
    | none =>
      let digits := (t.fraction ++ List.replicate 6 '0').take 6
      .ok (.dateTime {
        year := d.year, month := d.month, day := d.day,
        hour := t.hour, minute := t.minute, second := t.second,
        microsecond := Text.ofDigits 10 (digits.map fun c => c.toNat - 48),
        offset := t.offset })

end ProxyTrial.Yaml
