/-!
# Timed work

Work that waits, retries and gives up runs against a virtual clock counting milliseconds. Time
moves only when the work waits, and then it jumps to the instant the wait ends. Beside the clock
the timeline holds cancellation tokens, the limits of attempts in progress, the log events
emitted so far and a counter for fresh identifiers; the state of whatever the work talks to is a
parameter, and a `Lens` lets one part of the work keep its own state inside a larger one.

Two things due at one instant happen in an order fixed by the timeline's `Precedence`: either
the work waiting for that instant wakes first and a cancellation due then is seen only once the
work waits again, or the cancellation happens first.

A wait that would pass the innermost running attempt's limit stops at the limit instead, and the
limit's handler takes over. A wait that ends exactly at the limit completes.
-/

namespace DiskUploader

variable {σ α : Type}

/-- Which of two things due at the same instant happens first. -/
inductive Precedence where
  /-- The work waiting for the instant wakes first. -/
  | work
  /-- A cancellation due at the instant happens first. -/
  | cancellation
  deriving DecidableEq, Repr, Inhabited

/-- A cancellation token, cancelled already or due to cancel itself at an instant. -/
structure Token where
  cancelled : Bool := false
  due : Option Nat := none
  deriving DecidableEq, Repr, Inhabited

/-- Why timed work stopped short of a result. -/
inductive Interrupt where
  /-- The work panicked, with its message when the payload is text. -/
  | panic (message : Option String)
  /-- The limit of an attempt running until this instant cut the work off. -/
  | cut (instant : Nat)
  /-- The harness stopped a retry loop that was still going after the attempts it allows. -/
  | exhausted
  deriving DecidableEq, Repr, Inhabited

inductive Level where
  | error | warn | info | debug
  deriving DecidableEq, Repr, Inhabited

/-- The part of the library a log event comes from. -/
inductive Source where
  | retry | upload | rest
  deriving DecidableEq, Repr, Inhabited

/-- A field value of a log event: shown as it is, or as a quoted text. -/
inductive FieldValue where
  | shown (text : String)
  | quoted (text : String)
  deriving DecidableEq, Repr, Inhabited

/-- A log event: its level, source, message and named fields in order. -/
structure LogEvent where
  level : Level
  source : Source
  message : String
  fields : List (String × FieldValue) := []
  deriving DecidableEq, Repr, Inhabited

/-- The state of a timeline around the state `σ` of what the work talks to. -/
structure World (σ : Type) where
  now : Nat := 0
  /-- Whether cancellations due at `now` have already happened. -/
  settled : Bool
  precedence : Precedence
  tokens : Array Token := #[]
  /-- The instants at which running attempts are cut off, innermost first. -/
  cutoffs : List Nat := []
  /-- The guard of the harness that runs the work: a retry loop still going after this many
  attempts is stopped. The library's loop has no such bound. -/
  attemptCap : Nat := 20000
  serial : Nat := 0
  log : Array LogEvent := #[]
  state : σ

def World.start (precedence : Precedence) (state : σ) : World σ :=
  { settled := precedence = .cancellation, precedence, state }

/-- A view of a part `τ` of a state `σ`, and a way to change that part. -/
structure Lens (σ τ : Type) where
  view : σ → τ
  update : (τ → τ) → σ → σ

def Lens.id (σ : Type) : Lens σ σ := ⟨fun s => s, fun f s => f s⟩

/-- Work over a timeline: it may be interrupted, and the timeline survives an interruption. -/
abbrev Timed (σ α : Type) := ExceptT Interrupt (StateM (World σ)) α

def World.fired (w : World σ) (t : Token) : Bool :=
  t.cancelled || match t.due with
    | some d => d < w.now || (d == w.now && w.settled)
    | none => false

def World.nextDue (w : World σ) (ids : List Nat) : Option Nat :=
  ids.foldl (fun acc i =>
    match w.tokens[i]? with
    | some t =>
      if w.fired t then acc
      else match t.due, acc with
        | some d, some a => some (min d a)
        | some d, none => some d
        | none, _ => acc
    | none => acc) none

namespace Timed

def now : Timed σ Nat := return (← get).now

def state : Timed σ σ := return (← get).state

def modifyState (f : σ → σ) : Timed σ Unit :=
  modify fun w => { w with state := f w.state }

def isCancelled (i : Nat) : Timed σ Bool := do
  let w ← get
  return (w.tokens[i]?.map w.fired).getD false

def anyCancelled (ids : List Nat) : Timed σ Bool := do
  let w ← get
  return ids.any fun i => (w.tokens[i]?.map w.fired).getD false

def cancel (i : Nat) : Timed σ Unit :=
  modify fun w => { w with tokens := w.tokens.modify i fun t => { t with cancelled := true } }

def newToken (t : Token) : Timed σ Nat :=
  modifyGet fun w => (w.tokens.size, { w with tokens := w.tokens.push t })

def fresh : Timed σ Nat :=
  modifyGet fun w => (w.serial, { w with serial := w.serial + 1 })

def emit (e : LogEvent) : Timed σ Unit :=
  modify fun w => { w with log := w.log.push e }

def panic (message : String) : Timed σ α :=
  throw (.panic (some message))

/-- Waits until `target`, or until one of the tokens cancels before it. A cancellation due
exactly at `target` ends the wait only when cancellations happen first. A limit of a running
attempt that falls before the wake-up instant cuts the work off there; so does a limit at a
cancellation that ends the wait, when the work wakes first. -/
def waitUntil (target : Nat) (ids : List Nat) : Timed σ Unit := do
  let w ← get
  if target ≤ w.now then return
  let cancelFirst := w.precedence = .cancellation
  let byToken := match w.nextDue ids with
    | some d => if d < target || (d == target && cancelFirst) then some d else none
    | none => none
  let wake := byToken.getD target
  match w.cutoffs.min? with
  | some c =>
    if c < wake || (c == wake && byToken.isSome && !cancelFirst) then
      set { w with now := c, settled := cancelFirst }
      throw (.cut c)
  | none => pure ()
  set { w with now := wake, settled := byToken.isSome || cancelFirst }

/-- Sleeps for a number of milliseconds; no cancellation ends it early. -/
def sleep (ms : Nat) : Timed σ Unit := do
  if ms = 0 then return
  waitUntil ((← now) + ms) []

def pause (ms : Nat) (deadline : Option Nat) (ids : List Nat) : Timed σ Unit := do
  if ms = 0 then return
  let t := (← now) + ms
  waitUntil (match deadline with | some d => min d t | none => t) ids

/-- Runs work as an attempt limited to `ms` milliseconds: `none` when the limit cut it off. -/
def withLimit (ms : Nat) (act : Timed σ α) : Timed σ (Option α) := do
  let c := (← now) + ms
  modify fun w => { w with cutoffs := c :: w.cutoffs }
  let r ← tryCatch (Except.ok <$> act) (fun e => pure (Except.error e))
  modify fun w => { w with cutoffs := w.cutoffs.drop 1 }
  match r with
  | .ok a => return some a
  | .error (.cut i) => if i = c then return none else throw (.cut i)
  | .error e => throw e

def run (act : Timed σ α) (w : World σ) : Except Interrupt α × World σ :=
  (ExceptT.run act).run w

end Timed

end DiskUploader
