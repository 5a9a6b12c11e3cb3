/-! The Gregorian calendar, taken back to year 1. Day 1 is the first of January of year 1. -/
namespace BoardMigration.Date

def isLeap (year : Nat) : Bool := year % 4 == 0 && (year % 100 != 0 || year % 400 == 0)

def yearLength (year : Nat) : Nat := if isLeap year then 366 else 365

def monthLengths (year : Nat) : List Nat :=
  [31, if isLeap year then 29 else 28, 31, 30, 31, 30, 31, 31, 30, 31, 30, 31]

def monthLength (year month : Nat) : Nat := (monthLengths year).getD (month - 1) 0

def daysBeforeYear (year : Nat) : Nat :=
  let past := year - 1
  365 * past + past / 4 - past / 100 + past / 400

def daysBeforeMonth (year month : Nat) : Nat := ((monthLengths year).take (month - 1)).foldr (· + ·) 0

structure Day where
  year : Nat
  month : Nat
  day : Nat
  deriving DecidableEq, Repr

namespace Day

def maxYear : Nat := 9999

/-- The days that exist. -/
def Valid (d : Day) : Prop :=
  1 ≤ d.year ∧ d.year ≤ maxYear ∧ 1 ≤ d.month ∧ d.month ≤ 12 ∧
    1 ≤ d.day ∧ d.day ≤ monthLength d.year d.month

instance (d : Day) : Decidable d.Valid := by unfold Valid; infer_instance

def toOrdinal (d : Day) : Nat := daysBeforeYear d.year + daysBeforeMonth d.year d.month + d.day

/-- Monday is 0. -/
def weekday (d : Day) : Nat := (d.toOrdinal + 6) % 7

/-- Month and day of the `n`-th day, counted from 0, of a year whose remaining months are given. -/
def inMonths (month : Nat) : List Nat → Nat → Nat × Nat
  | [], n => (month, n + 1)
  | [_], n => (month, n + 1)
  | length :: rest, n => if n < length then (month, n + 1) else inMonths (month + 1) rest (n - length)

/-- Peels off whole periods of 400, 100, 4 and 1 years; the last century of a 400-year period and
the last year of a 4-year one are a day longer than the others. -/
def ofOrdinal (ordinal : Nat) : Day :=
  let n := ordinal - 1
  let (quadricentennials, n) := (n / 146097, n % 146097)
  let centuries := min 3 (n / 36524)
  let n := n - 36524 * centuries
  let (quadrennials, n) := (n / 1461, n % 1461)
  let years := min 3 (n / 365)
  let n := n - 365 * years
  let year := 400 * quadricentennials + 100 * centuries + 4 * quadrennials + years + 1
  let (month, day) := inMonths 1 (monthLengths year) n
  ⟨year, month, day⟩

end Day
end BoardMigration.Date
