import Txbox.Types

/-!
# Instants

`chrono` as `src/sqlite.rs` uses it: the range of `DateTime<Utc>`, `Duration::from_std`, the subtraction of a duration, and the RFC 3339
text that sqlx stores an instant as. An instant is a number of nanoseconds since the Unix epoch, without leap seconds; its calendar
date is proleptic Gregorian, computed from the day number.
-/

namespace Txbox

/-! ## The calendar -/

/-- A calendar date. -/
structure Civil where
  year : Int
  month : Int
  day : Int
  deriving DecidableEq, Repr

/-- The days of the years before the one that begins on 1 March of `year`, counted from 1 March of year 0. -/
def daysBeforeYear (year : Int) : Int := 365 * year + year / 4 - year / 100 + year / 400

/-- The days of the months before the one that is `month` months after March. -/
def daysBeforeMonth (month : Int) : Int := (153 * month + 2) / 5

/-- The year that began on the last 1 March, for a number of days since 1 March of year 0: the 400 years of 146097 days, the
centuries of 36524, the four years of 1461 and the years of 365. The last century of 400 years and the last of four years have a day
more. -/
def marchYear (days : Int) : Int :=
  let century := min (days % 146097 / 36524) 3
  let dayOfCentury := days % 146097 - 36524 * century
  let year := min (dayOfCentury % 1461 / 365) 3
  400 * (days / 146097) + 100 * century + 4 * (dayOfCentury / 1461) + year

/-- The date of a day number, counted from the Unix epoch. The year is taken to begin in March, so that a leap day ends it. -/
def civilFromDays (days : Int) : Civil :=
  let days := days + 719468
  let year := marchYear days
  let dayOfYear := days - daysBeforeYear year
  let month := (5 * dayOfYear + 2) / 153
  let day := dayOfYear - daysBeforeMonth month + 1
  if month < 10 then ⟨year, month + 3, day⟩ else ⟨year + 1, month - 9, day⟩

/-- The epoch, the days around a leap day, and the first day of the range. -/
example : civilFromDays 0 = ⟨1970, 1, 1⟩ ∧ civilFromDays 19782 = ⟨2024, 2, 29⟩ ∧ civilFromDays 19783 = ⟨2024, 3, 1⟩ ∧
    civilFromDays (-96465292) = ⟨-262143, 1, 1⟩ ∧ civilFromDays 95026236 = ⟨262142, 12, 31⟩ := by decide

/-! ## Instants and durations -/

/-- The nanoseconds of a second. -/
def nanosPerSecond : Int := 1000000000

/-- The nanoseconds of a day. -/
def nanosPerDay : Int := 86400 * nanosPerSecond

/-- `DateTime::<Utc>::MIN_UTC`: the beginning of the year -262143. -/
def minUtc : Int := -96465292 * nanosPerDay

/-- `DateTime::<Utc>::MAX_UTC`: the last nanosecond of the year 262142. -/
def maxUtc : Int := 95026237 * nanosPerDay - 1

/-- `DateTime<Utc>`. -/
structure DateTime where
  nanos : Int
  min_le : minUtc ≤ nanos
  le_max : nanos ≤ maxUtc
  deriving DecidableEq

namespace DateTime

/-- The date of an instant. -/
def date (t : DateTime) : Civil := civilFromDays (t.nanos / nanosPerDay)

/-- The seconds since midnight. -/
def secondOfDay (t : DateTime) : Int := t.nanos % nanosPerDay / nanosPerSecond

/-- The nanoseconds of the second. -/
def nanosecond (t : DateTime) : Int := t.nanos % nanosPerSecond

/-- The instant, unless it is out of range. -/
def ofNanos (nanos : Int) : Option DateTime :=
  if h : minUtc ≤ nanos ∧ nanos ≤ maxUtc then some ⟨nanos, h.1, h.2⟩ else none

end DateTime

/-- `chrono::Duration::from_std`: a duration in nanoseconds, unless it has more than `i64::MAX` milliseconds. -/
def fromStd (duration : Duration) : Option Int :=
  if duration.asNanos ≤ (2 ^ 63 - 1) * 1000000 then some duration.asNanos else none

/-! ## RFC 3339 -/

/-- A decimal digit. -/
def digit (n : Nat) : Char := Char.ofNat (48 + n % 10)

/-- The last `width` decimal digits of a number. -/
def padded : (width n : Nat) → List Char
  | 0, _ => []
  | width + 1, n => padded width (n / 10) ++ [digit n]

/-- The digits of a number, at least four of them. -/
def atLeastFour (n : Nat) : List Char :=
  if n < 10000 then padded 4 n else Nat.toDigits 10 n

/-- The year: four digits, with a sign when it is not in 0 to 9999. -/
def yearText (year : Int) : List Char :=
  if 0 ≤ year ∧ year ≤ 9999 then padded 4 year.toNat
  else if year < 0 then '-' :: atLeastFour year.natAbs
  else '+' :: atLeastFour year.natAbs

/-- The fraction of a second under `SecondsFormat::AutoSi`: none, or 3, 6 or 9 digits, the fewest that are exact. -/
def fractionText (nanosecond : Nat) : List Char :=
  if nanosecond = 0 then []
  else if nanosecond % 1000000 = 0 then '.' :: padded 3 (nanosecond / 1000000)
  else if nanosecond % 1000 = 0 then '.' :: padded 6 (nanosecond / 1000)
  else '.' :: padded 9 nanosecond

/-- The rest of the text after the year. -/
def afterYearText (month day second nanosecond : Nat) : List Char :=
  '-' :: padded 2 month ++ '-' :: padded 2 day ++ 'T' :: padded 2 (second / 3600) ++ ':' :: padded 2 (second / 60 % 60) ++
    ':' :: padded 2 (second % 60) ++ fractionText nanosecond ++ "+00:00".toList

/-- `to_rfc3339_opts(SecondsFormat::AutoSi, false)`: the text sqlx binds an instant as. -/
def DateTime.toRfc3339 (t : DateTime) : String :=
  String.ofList (yearText t.date.year ++
    afterYearText t.date.month.toNat t.date.day.toNat t.secondOfDay.toNat t.nanosecond.toNat)

end Txbox
