import EchoProbe.Outcome
import EchoProbe.Time.Text

/-!
# Statistics

The results of the probes of a run, one record each in the order of their reports, and
what they come to.

The average divides the sum of the round trips by the number of probes *sent*, lost
ones included, and so does the deviation; least and greatest look at the replies
alone. With no record everything is zero, also the time elapsed.
-/

namespace EchoProbe

namespace Duration

instance : Min Duration := ⟨fun d e => if d.nanos ≤ e.nanos then d else e⟩

instance : Max Duration := ⟨fun d e => if d.nanos ≤ e.nanos then e else d⟩

end Duration

/-- The result of a probe. -/
inductive Record
  | received (roundTrip : Duration)
  | lost
  deriving DecidableEq, Repr

namespace Record

/-- The round trip of a probe that was answered. -/
def roundTrip? : Record → Option Duration
  | received roundTrip => some roundTrip
  | lost => none

end Record

namespace Outcome

/-- The record that an outcome leaves: only replies and losses leave one. -/
def record? : Outcome → Option Record
  | reply r => some (.received r.roundTrip)
  | failure f => if f.kind.isLoss then some .lost else none

end Outcome

/-- The records of a run, and when its clock started. -/
structure Statistics where
  startTime : Instant
  records : Array Record
  deriving Repr

/-- What the records of a run come to. -/
structure Summary where
  sent : Nat
  received : Nat
  elapsed : Duration
  minRtt : Duration
  avgRtt : Duration
  maxRtt : Duration
  sdevRtt : Duration
  deriving DecidableEq, Repr

namespace Summary

/-- The summary of no probe at all. -/
def zero : Summary := ⟨0, 0, .zero, .zero, .zero, .zero, .zero⟩

/-- The share of lost probes in percent; `none` if more came back than were sent. -/
def lossPercent? (s : Summary) : Option Float :=
  if s.sent = 0 then some 0.0
  else if s.sent < s.received then none
  else some ((UInt64.ofNat (s.sent - s.received)).toFloat / (UInt64.ofNat s.sent).toFloat * 100.0)

/-- The two lines that close a run; `none` if more came back than were sent. -/
def text? (s : Summary) : Option String := do
  let loss ← s.lossPercent?
  let millis (places : Nat) (d : Duration) := Binary64.fixed places d.toFloatMillis
  let rtts := [s.minRtt, s.avgRtt, s.maxRtt, s.sdevRtt].map (millis 3)
  return s!"{s.sent} packets transmitted, {s.received} received, " ++
    s!"{Binary64.fixed 0 loss}% packet loss, time {millis 0 s.elapsed} ms\n" ++
    "rtt min/avg/max/sdev = " ++ "/".intercalate rtts ++ " ms"

end Summary

namespace Statistics

/-- No records yet, the clock starting at `startTime`. -/
def startingAt (startTime : Instant) : Statistics := ⟨startTime, #[]⟩

/-- Starts the clock anew and keeps the records. -/
def restart (s : Statistics) (now : Instant) : Statistics := { s with startTime := now }

/-- Adds the result of a probe. -/
def add (s : Statistics) (r : Record) : Statistics := { s with records := s.records.push r }

/-- Adds what an outcome leaves. -/
def addOutcome (s : Statistics) (o : Outcome) : Statistics :=
  match o.record? with
  | some r => s.add r
  | none => s

/-- The number of probes recorded. -/
def size (s : Statistics) : Nat := s.records.size

def isEmpty (s : Statistics) : Bool := s.records.isEmpty

/-- The round trips of the answered probes, in the order of their records. -/
def roundTrips (s : Statistics) : List Duration := s.records.toList.filterMap Record.roundTrip?

/-- The sum of the round trips divided by the probes sent, in whole nanoseconds up to
    the greatest 64-bit number. -/
def average (sent : Nat) (roundTrips : List Duration) : Duration :=
  .ofNanos (min (roundTrips.foldl (fun sum d => sum + d.nanos) 0 / sent) 18446744073709551615)

/-- How far the round trips lie from the average: the square root of the sum of the
    squared differences, in milliseconds, divided by one less than the probes sent.
    Of a single probe it is zero; `none` if it is no duration. -/
def deviation? (sent : Nat) (average : Duration) (roundTrips : List Duration) : Option Duration :=
  if sent ≤ 1 then some .zero
  else
    let squares := roundTrips.foldl (fun sum d =>
      let difference := d.toFloatMillis - average.toFloatMillis
      sum + difference * difference) 0.0
    Duration.ofFloatSeconds? ((squares / (UInt64.ofNat (sent - 1)).toFloat).sqrt / 1000.0)

/-- What the records come to at `now`; `none` if the deviation is no duration. -/
def summarize (s : Statistics) (now : Instant) : Option Summary :=
  if s.isEmpty then some .zero
  else
    let sent := s.size
    let roundTrips := s.roundTrips
    let avgRtt := average sent roundTrips
    (deviation? sent avgRtt roundTrips).map fun sdevRtt =>
      { sent
        received := roundTrips.length
        elapsed := now.since s.startTime
        minRtt := roundTrips.min?.getD .zero
        avgRtt
        maxRtt := roundTrips.max?.getD .zero
        sdevRtt }

end Statistics

end EchoProbe
