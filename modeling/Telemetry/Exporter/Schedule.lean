import Telemetry.Exporter.Basic

/-!
# Periodic work

Work that is repeated with a fixed time between its beginnings. The first round begins at once. A
round that could not begin in time moves all that follow it, so that rounds never pile up. The end
of the work lets a round that began before it finish.
-/

namespace Telemetry.Exporter

variable {σ : Type}

/-- How late a round may begin and still count as in time. -/
def tolerance : Duration := .ofMillis 5

/-- The beginning of the round after one that was planned for `planned` and began at `began`. -/
def nextRound (period : Duration) (planned began : Instant) : Instant :=
  if began > planned.after tolerance then began.after period else planned.after period

/-- Repeats rounds until `ending`. The next one is planned for `planned`; at most `fuel` are
run. -/
def repeatUntil (round : Exporter σ → Exporter σ) (period : Duration) (ending : Instant) :
    Nat → Instant → Exporter σ → Exporter σ
  | 0, _, x => x
  | fuel + 1, planned, x =>
    let began := max planned x.now
    if began > ending then x
    else repeatUntil round period ending fuel (nextRound period planned began)
      (round { x with now := began })

/-- Repeats rounds for a while. No more rounds begin than the period fits into it, and one. -/
def repeatFor (round : Exporter σ → Exporter σ) (period length : Duration) (x : Exporter σ) :
    Exporter σ :=
  let ending := x.now.after length
  let done := repeatUntil round period ending (length.nanos / period.nanos + 1) x.now x
  { done with now := max done.now ending }

/-- Runs ticks for a while. -/
def runScraper (interval length : Duration) (x : Exporter σ) : Exporter σ :=
  x.repeatFor tick interval length

/-- Runs cycles of log tailing for a while. -/
def runTailer (length : Duration) (x : Exporter σ) : Exporter σ :=
  x.repeatFor tailAll x.settings.log.interval length

end Telemetry.Exporter
