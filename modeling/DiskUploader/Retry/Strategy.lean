/-!
# Retry strategies and the plan they fold into

A retried call is described by a list of strategies. They fold into one plan: of several
limits the tightest wins, of several delays the longest. An empty list stands for the default
strategies, and a plan with neither an attempt count nor a time limit gets a fallback time limit,
so that no plan retries forever.

The delay after attempt `k` is the larger of the exponential delay `base * 2 ^ (k - 1)`, with
the exponent capped at 20, the product saturating at the longest duration and the delay capped at
`maxBackoff`, and the fixed delay; with neither, `defaultDelay`.

Durations are in nanoseconds, and are written as Rust writes a `Duration`: in seconds from one
second up, in milliseconds or microseconds below, with the fraction's trailing zeros dropped
(`1.5s`, `300s`, `1000.001s`, `999ms`, `2.5µs`), and in nanoseconds below a microsecond (`0ns`).
The clock counts whole milliseconds, so a wait of a duration lasts the whole milliseconds that
cover it.
-/

namespace DiskUploader

def nanosPerMilli : Nat := 1000000

def nanosPerSecond : Nat := 1000000000

def clockMillis (ns : Nat) : Nat := ns / nanosPerMilli + if ns % nanosPerMilli = 0 then 0 else 1

/-- The longest duration: `u64::MAX` seconds and all but a nanosecond of one more. -/
def Duration.maxNanos : Nat := Nat.pow 2 64 * nanosPerSecond - 1

def Duration.saturatingMul (d k : Nat) : Nat := min (d * k) Duration.maxNanos

namespace Text

def fractionDigits (width frac : Nat) : String :=
  let ds := (List.range width).reverse.map fun i => frac / Nat.pow 10 i % 10
  let kept := (ds.reverse.dropWhile (· = 0)).reverse
  String.ofList (kept.map fun d => Char.ofNat (48 + d))

def decimal (whole frac width : Nat) : String :=
  if frac = 0 then toString whole else s!"{whole}.{fractionDigits width frac}"

def duration (ns : Nat) : String :=
  if nanosPerSecond ≤ ns then decimal (ns / nanosPerSecond) (ns % nanosPerSecond) 9 ++ "s"
  else if nanosPerMilli ≤ ns then decimal (ns / nanosPerMilli) (ns % nanosPerMilli) 6 ++ "ms"
  else if 1000 ≤ ns then decimal (ns / 1000) (ns % 1000) 3 ++ "µs"
  else s!"{ns}ns"

example : duration 1500000000 = "1.5s" := by decide
example : duration 1000001000000 = "1000.001s" := by decide
example : duration 999000000 = "999ms" := by decide
example : duration 2500 = "2.5µs" := by decide
example : duration 0 = "0ns" := by decide

end Text

/-- One rule of how a call is retried. Durations are in nanoseconds. -/
inductive Strategy where
  /-- Give up once this many attempts have failed. -/
  | maxAttempts (n : Nat)
  /-- Wait `base * 2 ^ (attempt - 1)` between attempts. -/
  | backoff (base : Nat)
  /-- Wait a constant interval between attempts. -/
  | fixedDelay (ns : Nat)
  /-- Give up once this much time has passed since the first attempt. -/
  | wallClock (ns : Nat)
  /-- Fail a single attempt that runs longer than this. -/
  | attemptLimit (ns : Nat)
  /-- Give up as soon as the token cancels. -/
  | cancellation (token : Nat)
  deriving DecidableEq, Repr, Inhabited

namespace Strategy

def maxBackoff : Nat := 30 * nanosPerSecond

def defaultDelay : Nat := nanosPerSecond

def fallbackTimeout : Nat := 300 * nanosPerSecond

def defaults : List Strategy :=
  [.backoff nanosPerSecond, .maxAttempts 3, .wallClock (60 * nanosPerSecond)]

end Strategy

/-- The limits that apply to one retried call. -/
structure Plan where
  maxAttempts : Option Nat := none
  timeout : Option Nat := none
  backoff : Option Nat := none
  fixed : Option Nat := none
  attemptLimit : Option Nat := none
  tokens : List Nat := []
  deriving DecidableEq, Repr, Inhabited

namespace Plan

def tighten (f : Nat → Nat → Nat) (old : Option Nat) (n : Nat) : Option Nat :=
  some (match old with | some m => f m n | none => n)

def add (p : Plan) : Strategy → Plan
  | .maxAttempts n => { p with maxAttempts := tighten min p.maxAttempts (max n 1) }
  | .backoff b => { p with backoff := tighten max p.backoff b }
  | .fixedDelay d => { p with fixed := tighten max p.fixed d }
  | .wallClock t => { p with timeout := tighten min p.timeout t }
  | .attemptLimit t => { p with attemptLimit := tighten min p.attemptLimit t }
  | .cancellation i => { p with tokens := p.tokens ++ [i] }

def ofStrategies (ss : List Strategy) : Plan :=
  let p := (if ss.isEmpty then Strategy.defaults else ss).foldl add {}
  if p.maxAttempts.isNone && p.timeout.isNone then
    { p with timeout := some Strategy.fallbackTimeout }
  else p

def delay (p : Plan) (attempt : Nat) : Nat :=
  let exponential := p.backoff.map fun b =>
    min (Duration.saturatingMul b (Nat.pow 2 (min (attempt - 1) 20))) Strategy.maxBackoff
  match exponential, p.fixed with
  | some e, some f => max e f
  | some e, none => e
  | none, some f => f
  | none, none => Strategy.defaultDelay

theorem delay_le_of_backoff {p : Plan} (h : p.fixed = none) (hb : p.backoff.isSome)
    (attempt : Nat) : p.delay attempt ≤ Strategy.maxBackoff := by
  unfold delay
  cases hp : p.backoff with
  | none => simp [hp] at hb
  | some b =>
    simp only [h, Strategy.maxBackoff]
    exact Nat.min_le_right _ _

theorem ofStrategies_limited (ss : List Strategy) :
    (ofStrategies ss).maxAttempts.isSome ∨ (ofStrategies ss).timeout.isSome := by
  unfold ofStrategies
  generalize List.foldl add {} _ = p
  cases hm : p.maxAttempts <;> cases ht : p.timeout <;> simp [hm, ht]

end Plan

inductive StopReason where
  | attempts (n : Nat)
  | deadline (ns : Nat)
  | cancelled
  deriving DecidableEq, Repr, Inhabited

def StopReason.text : StopReason → String
  | .attempts n => s!"maximum of {n} attempts reached"
  | .deadline ns => s!"timeout of {Text.duration ns} exceeded"
  | .cancelled => "operation cancelled"

end DiskUploader
