/-
  MarkupJsx.Yaml.Time — dates and times of day.

  A time is written as a date, or as a date, a T or blanks, and the time of day with an
  optional fraction and an optional distance from universal time.
-/

import MarkupJsx.Yaml.Token

namespace MarkupJsx.Yaml

structure Date where
  year : Nat
  month : Nat
  day : Nat
  deriving DecidableEq, Repr

/-- A time of day on a date; the offset in minutes from universal time, where it is known. -/
structure Moment where
  date : Date
  hour : Nat
  minute : Nat
  second : Nat
  microsecond : Nat
  offset : Option Int
  deriving DecidableEq, Repr

/-- A time as written, its numbers unchecked. -/
structure WrittenTime where
  date : Date
  /-- Hour, minute, second and the digits of the fraction. -/
  clock : Option (Nat × Nat × Nat × Text)
  /-- Minutes; zero for the letter Z. -/
  offset : Option Int

namespace WrittenTime

/-- Between `least` and `most` digits, as many as there are. -/
def digits? (least most : Nat) (s : Text) : Option (Nat × Text) :=
  let d := (s.take most).takeWhile Text.isDigit
  if d.length < least then none else some (Text.readNat 10 d, s.drop d.length)

def char? (c : Char) : Text → Option Text
  | x :: rest => if x = c then some rest else none
  | [] => none

def date? (least : Nat) (s : Text) : Option (Date × Text) := do
  let (year, s) ← digits? 4 4 s
  let (month, s) ← digits? least 2 (← char? '-' s)
  let (day, s) ← digits? least 2 (← char? '-' s)
  return (⟨year, month, day⟩, s)

/-- The distance behind a sign. -/
def distance? (s : Text) : Option (Int × Text) := do
  let (hours, s) ← digits? 1 2 s
  match s with
  | ':' :: rest =>
    let (minutes, s) ← digits? 2 2 rest
    return (hours * 60 + minutes, s)
  | _ => return (hours * 60, s)

/-- The end of a time: nothing, or a distance from universal time with blanks before it. -/
def offset? (s : Text) : Option (Option Int) :=
  match s.dropWhile isSpaceOrTab with
  | ['Z'] => some (some 0)
  | '+' :: rest =>
    match distance? rest with
    | some (n, []) => some (some n)
    | _ => none
  | '-' :: rest =>
    match distance? rest with
    | some (n, []) => some (some (-n))
    | _ => none
  | _ => if s.isEmpty then some none else none

def afterDate? (s : Text) : Option Text :=
  match s with
  | 'T' :: rest | 't' :: rest => some rest
  | c :: _ => if isSpaceOrTab c then some (s.dropWhile isSpaceOrTab) else none
  | [] => none

def full? (s : Text) : Option WrittenTime := do
  let (date, s) ← date? 1 s
  let (hour, s) ← digits? 1 2 (← afterDate? s)
  let (minute, s) ← digits? 2 2 (← char? ':' s)
  let (second, s) ← digits? 2 2 (← char? ':' s)
  let (fraction, s) :=
    match s with
    | '.' :: rest => (rest.takeWhile Text.isDigit, rest.dropWhile Text.isDigit)
    | _ => ([], s)
  let offset ← offset? s
  return ⟨date, some (hour, minute, second, fraction), offset⟩

/-- A date alone needs at least so many digits for month and day. -/
def ofText? (least : Nat) (s : Text) : Option WrittenTime :=
  match date? least s with
  | some (date, []) => some ⟨date, none, none⟩
  | _ => full? s

end WrittenTime

def isLeapYear (y : Nat) : Bool := y % 4 == 0 && (y % 100 != 0 || y % 400 == 0)

def daysInMonth (year month : Nat) : Nat :=
  if month = 2 then (if isLeapYear year then 29 else 28)
  else if month = 4 || month = 6 || month = 9 || month = 11 then 30
  else 31

def Date.check (d : Date) : Except ScalarError Date :=
  if d.year = 0 then .error (.year d.year)
  else if d.month < 1 || d.month > 12 then .error .month
  else if d.day < 1 || d.day > daysInMonth d.year d.month then .error .day
  else .ok d

def checkOffset (o : Option Int) : Except ScalarError (Option Int) :=
  match o with
  | some n => if n ≤ -1440 || n ≥ 1440 then .error (.offset n) else .ok o
  | none => .ok none

/-- The first six digits of a fraction. -/
def microseconds (fraction : Text) : Nat := Text.readNat 10 ((fraction ++ List.replicate 6 '0').take 6)

/-- The time that is written, as a date or a moment. -/
def WrittenTime.check (w : WrittenTime) : Except ScalarError (Date ⊕ Moment) :=
  match w.clock with
  | none => w.date.check.map .inl
  | some (hour, minute, second, fraction) => do
    let offset ← checkOffset w.offset
    let date ← w.date.check
    if hour > 23 then throw .hour
    if minute > 59 then throw .minute
    if second > 59 then throw .second
    return .inr ⟨date, hour, minute, second, microseconds fraction, offset⟩

/-! ## As keys -/

/-- Days since the first of January of year one, which is day one. -/
def Date.ordinal (d : Date) : Nat :=
  let y := d.year - 1
  let before := (List.range (d.month - 1)).foldl (fun n m => n + daysInMonth d.year (m + 1)) 0
  y * 365 + y / 4 - y / 100 + y / 400 + before + d.day

/-- Seconds of universal time, when the offset is known. -/
def Moment.instant? (m : Moment) : Option Int :=
  m.offset.map fun o => (m.date.ordinal * 86400 + m.hour * 3600 + m.minute * 60 + m.second : Nat) - o * 60

def Moment.same (a b : Moment) : Bool :=
  match a.instant?, b.instant? with
  | some s, some t => s == t && a.microsecond == b.microsecond
  | none, none => a == b
  | _, _ => false

def commaList (ns : List Nat) : Text := Text.join [',', ' '] (ns.map Text.ofNat)

def Date.toText (d : Date) : Text :=
  "datetime.date(".toList ++ commaList [d.year, d.month, d.day] ++ [')']

def Moment.toText (m : Moment) : Text :=
  let last := if m.microsecond ≠ 0 then [m.second, m.microsecond] else if m.second ≠ 0 then [m.second] else []
  let zone :=
    match m.offset with
    | none => []
    | some 0 => ", tzinfo=datetime.timezone.utc".toList
    | some n => ", tzinfo=datetime.timezone(".toList ++ zoneText n ++ [')']
  "datetime.datetime(".toList ++ commaList ([m.date.year, m.date.month, m.date.day, m.hour, m.minute] ++ last) ++ zone ++ [')']
where
  zoneText (n : Int) : Text :=
    if 0 ≤ n then "datetime.timedelta(seconds=".toList ++ (toString (n * 60)).toList ++ [')'] else offsetText n

end MarkupJsx.Yaml
