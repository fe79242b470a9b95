import NotebookGrading.Time.Calendar

/-
  Instants in universal time.

  An instant is a day, a second of that day and nanoseconds.
  During a leap second the nanoseconds go on from a billion
  instead of a new second beginning.

  Key definitions include:
    * `Instant`
    * `Instant.elapsedSince`
    * `Instant.shift`
-/

namespace NotebookGrading

structure Instant where
  day : Int
  second : Nat
  nano : Nat
deriving DecidableEq, Repr, Inhabited

namespace Instant

def secondsPerDay : Nat :=
  86400

def nanosPerSecond : Nat :=
  1000000000

def isLeapSecond
    (instant : Instant) : Bool :=
  nanosPerSecond ≤ instant.nano

/-
  A leap second that lies between two times of day and has
  to be counted.
-/
def leapSeconds
    (later earlier : Instant) : Int :=
  if earlier.second < later.second then
    if earlier.isLeapSecond then 1 else 0
  else if later.second < earlier.second then
    if later.isLeapSecond then -1 else 0
  else
    0

/- The nanoseconds from one instant to another. -/
def elapsedSince
    (later earlier : Instant) : Int :=
  let seconds : Int :=
    (later.day - earlier.day) * secondsPerDay +
      ((later.second : Int) - earlier.second) +
      leapSeconds later earlier
  seconds * nanosPerSecond +
    ((later.nano : Int) - earlier.nano)

/- The instant whose clock shows some seconds more. -/
def shift
    (instant : Instant)
    (seconds : Int) : Instant :=
  let total := (instant.second : Int) + seconds
  let days := Int.fdiv total secondsPerDay
  { instant with
    day := instant.day + days
    second := (total - days * secondsPerDay).toNat }

end Instant

end NotebookGrading
