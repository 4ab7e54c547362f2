import Mathlib
import DiskUploader.Upload.Session

/-!
# How a session may change

The changes an upload makes to its session, one at a time: it begins the phase that follows the
last one reached, reaches the phase it began, notes what the engine handed out, counts sent
bytes, aborts, and finishes once. Along any sequence of such changes the reached phases follow
the pipeline's order, an upload into an existing disk never requests a disk, the done flag never
reverts, the counted bytes never shrink nor pass the total, and a finished or aborted session
keeps its phase.
-/

namespace DiskUploader

namespace Phase

/-- The phase an upload begins after reaching `p`; `none` stands for the start. -/
def after (newDisk : Bool) : Option Phase → Option Phase
  | none => some (if newDisk then diskRequested else diskUnlocked)
  | some diskRequested => some diskUnlocked
  | some diskUnlocked => some transferNegotiated
  | some transferNegotiated => some transferReady
  | some transferReady => some urlVerified
  | some urlVerified => some bytesSent
  | some bytesSent => some finalized
  | some finalized => some diskStable
  | some _ => none

theorem index_lt_after {newDisk : Bool} {q : Option Phase} {p : Phase}
    (h : after newDisk q = some p) : (q.getD created).index < p.index := by
  rcases q with _ | q
  · cases newDisk <;> simp [after] at h <;> subst h <;> decide
  · cases q <;> simp [after] at h <;> subst h <;> decide

theorem after_ne_terminal {newDisk : Bool} {q : Option Phase} {p : Phase}
    (h : after newDisk q = some p) : p ≠ done ∧ p ≠ aborted := by
  rcases q with _ | q
  · cases newDisk <;> simp [after] at h <;> subst h <;> decide
  · cases q <;> simp [after] at h <;> subst h <;> decide

theorem after_terminal (newDisk : Bool) {q : Phase} (hq : q = done ∨ q = aborted) :
    after newDisk (some q) = none := by
  rcases hq with rfl | rfl <;> rfl

theorem after_diskRequested {newDisk : Bool} {q : Option Phase}
    (h : after newDisk q = some diskRequested) : newDisk = true := by
  rcases q with _ | q
  · cases newDisk <;> simp_all [after]
  · cases q <;> simp [after] at h

theorem index_before {newDisk : Bool} {q : Option Phase} {p : Phase}
    (h : after newDisk q = some p) (hp : transferNegotiated.index ≤ p.index) :
    (q.getD created).index = p.index - 1 := by
  rcases q with _ | q
  · cases newDisk <;> simp [after] at h <;> subst h <;> simp [index] at hp
  · cases q <;> simp [after] at h <;> subst h <;> simp [index] at hp ⊢

def Follows (newDisk : Bool) : Option Phase → List Phase → Prop
  | _, [] => True
  | q, p :: ps => after newDisk q = some p ∧ Follows newDisk (some p) ps

/-- Cut at `p`, phases that follow `q` are phases that follow `q` and then `p` after the last of
them. -/
theorem Follows.before {newDisk : Bool} {q : Option Phase} {pre post : List Phase} {p : Phase}
    (h : Follows newDisk q (pre ++ p :: post)) :
    Follows newDisk q pre ∧ after newDisk (pre.getLast?.or q) = some p := by
  induction pre generalizing q with
  | nil => exact ⟨trivial, h.1⟩
  | cons p' pre ih =>
    obtain ⟨hp', hpre, hp⟩ := And.imp_right ih h
    refine ⟨⟨hp', hpre⟩, ?_⟩
    rwa [List.getLast?_cons, Option.some_or, ← Option.or_some]

end Phase

namespace Session

/-- One change an upload makes to its session. -/
inductive Step (newDisk : Bool) : Session → Session → Prop
  /-- Begins the phase that follows the last one reached. -/
  | begin {s : Session} {p : Phase} (idle : s.attempting = none)
      (next : Phase.after newDisk s.phase = some p) : Step newDisk s (s.begin p)
  /-- Reaches the phase it began. -/
  | reach {s : Session} {p : Phase} (began : s.attempting = some p)
      (next : Phase.after newDisk s.phase = some p) : Step newDisk s (s.reach p)
  /-- Notes the disk, transfer, URL or disk record the engine handed out. -/
  | note {s : Session} (diskId transferId : Option String) (url : Option String)
      (disk : Option Disk) :
      Step newDisk s { s with diskId := diskId, transferId := transferId, url := url, disk := disk }
  /-- Counts sent bytes, up to the total, and where the stream ended early. -/
  | count {s : Session} (n : Nat) (truncatedAt : Option Nat) (more : s.uploaded ≤ n)
      (bounded : n ≤ s.total) : Step newDisk s { s with uploaded := n, truncatedAt := truncatedAt }
  /-- Aborts an upload that has not finished. -/
  | abort {s : Session} (began : s.attempting.isSome) (live : s.done = false)
      (notDone : s.phase ≠ some .done) : Step newDisk s s.abort
  /-- Finishes the upload: successfully from the last phase, with a fault once aborted. -/
  | finish {s : Session} (now : Nat) (o : Except Fault Unit) (live : s.done = false)
      (ok : o = .ok () → s.phase = some .diskStable)
      (failed : o.isOk = false → s.phase = some .aborted) : Step newDisk s (s.finish now o)

/-- A session that no change has touched yet. -/
structure Fresh (s : Session) : Prop where
  phase : s.phase = none
  attempting : s.attempting = none
  done : s.done = false
  uploaded : s.uploaded = 0
  diskId : s.diskId = none
  transferId : s.transferId = none
  error : s.error = none
  completion : s.completion = { value := false }

variable {newDisk : Bool} {s s' : Session}

@[simp] theorem finish_total (now : Nat) (o : Except Fault Unit) :
    (s.finish now o).total = s.total := by
  unfold finish total
  split
  · rfl
  · cases o with
    | ok => rfl
    | error e => dsimp only; split <;> rfl

@[simp] theorem finish_uploaded (now : Nat) (o : Except Fault Unit) :
    (s.finish now o).uploaded = s.uploaded := by
  unfold finish
  split
  · rfl
  · cases o with
    | ok => rfl
    | error e => dsimp only; split <;> rfl

/-- A session is done once finished, whether or not it was before. -/
@[simp] theorem finish_done_eq (now : Nat) (o : Except Fault Unit) : (s.finish now o).done = true := by
  unfold finish
  split
  · assumption
  · cases o with
    | ok => rfl
    | error e => dsimp only; split <;> rfl

theorem finish_phase_ok (h : s.done = false) (now : Nat) :
    (s.finish now (.ok ())).phase = some .done := by
  simp [finish, h]

theorem finish_phase_error (h : s.done = false) (ha : s.phase = some .aborted) (now : Nat)
    (e : Fault) : (s.finish now (.error e)).phase = some .aborted := by
  simp [finish, h, ha]

theorem Step.total (h : Step newDisk s s') : s'.total = s.total := by
  cases h with
  | finish now o => exact finish_total now o
  | _ => rfl

theorem Step.done_le (h : Step newDisk s s') (hd : s.done = true) : s'.done = true := by
  cases h with
  | finish now o live => simp [hd] at live
  | note | count => exact hd
  | _ => exact hd

theorem Step.error_eq (h : Step newDisk s s') (hd : s'.done = false) : s'.error = s.error := by
  cases h with
  | finish now o => simp at hd
  | note | count => rfl
  | _ => rfl

theorem Step.uploaded_le (h : Step newDisk s s') : s.uploaded ≤ s'.uploaded := by
  cases h with
  | finish now o => exact (finish_uploaded now o).ge
  | count _ _ more => exact more
  | note => exact le_rfl
  | _ => exact le_rfl

/-- How one change moves the phase: it stays, moves to the phase that follows, aborts, or moves
from the last pipeline phase to done. -/
theorem Step.phase_cases (h : Step newDisk s s') :
    s'.phase = s.phase ∨ (∃ p, Phase.after newDisk s.phase = some p ∧ s'.phase = some p) ∨
      (s'.phase = some .aborted ∧ s.phase ≠ some .done) ∨
      (s.phase = some .diskStable ∧ s'.phase = some .done) := by
  cases h with
  | begin => exact .inl rfl
  | reach _ next => exact .inr (.inl ⟨_, next, rfl⟩)
  | note | count => exact .inl rfl
  | abort _ _ notDone => exact .inr (.inr (.inl ⟨rfl, notDone⟩))
  | finish now o live ok failed =>
    cases o with
    | ok => exact .inr (.inr (.inr ⟨ok rfl, finish_phase_ok live now⟩))
    | error e =>
      have ha := failed rfl
      exact .inl ((finish_phase_error live ha now e).trans ha.symm)

theorem Step.terminal (h : Step newDisk s s') (ht : s.phase = some .done ∨ s.phase = some .aborted) :
    s'.phase = s.phase := by
  rcases h.phase_cases with h | ⟨p, hp, -⟩ | ⟨h, hnd⟩ | ⟨hds, -⟩
  · exact h
  · rcases ht with ht | ht <;> rw [ht] at hp <;> simp [Phase.after] at hp
  · rcases ht with ht | ht
    · exact absurd ht hnd
    · rw [h, ht]
  · rcases ht with ht | ht <;> rw [ht] at hds <;> cases hds

/-- Along any sequence of changes: done never reverts, the counted bytes never shrink, the
total never changes, and a finished or aborted session keeps its phase. -/
theorem steps_mono {s s' : Session} (h : Relation.ReflTransGen (Step newDisk) s s') :
    (s.done = true → s'.done = true) ∧ s.uploaded ≤ s'.uploaded ∧ s'.total = s.total ∧
      (s.phase = some .done ∨ s.phase = some .aborted → s'.phase = s.phase) := by
  induction h with
  | refl => exact ⟨id, le_rfl, rfl, fun _ => rfl⟩
  | tail _ step ih =>
    obtain ⟨hd, hu, ht, hp⟩ := ih
    refine ⟨fun h => step.done_le (hd h), hu.trans step.uploaded_le, step.total.trans ht,
      fun h => ?_⟩
    rw [step.terminal ((hp h).symm ▸ h), hp h]

theorem steps_error {s s' : Session} (h : Relation.ReflTransGen (Step newDisk) s s')
    (hd : s'.done = false) : s'.error = s.error := by
  induction h with
  | refl => rfl
  | tail _ step ih =>
    -- done never reverts, so the session before the last change was open as well
    have hmid := Bool.eq_false_iff.2 fun h => absurd (step.done_le h) (by simp [hd])
    rw [step.error_eq hd, ih hmid]

/-- The completion watch tells the done flag, and it has been sent to exactly once when the
session is done and never before. -/
def Signals (s : Session) : Prop :=
  s.completion = { value := s.done, version := if s.done then 1 else 0 }

theorem Fresh.signals (h : Fresh s) : s.Signals := by
  simp [Signals, h.completion, h.done]

theorem Step.signals (h : Step newDisk s s') (hs : s.Signals) : s'.Signals := by
  cases h with
  | finish now o live =>
    -- finishing an open session sends `true` once, whatever the outcome
    simp only [Signals, live, Bool.false_eq_true, if_false] at hs
    unfold Signals Session.finish
    rw [if_neg (by simp [live])]
    cases o with
    | ok => simp [hs, Watch.sendReplace]
    | error e => dsimp only; split <;> simp [hs, Watch.sendReplace]
  | _ => exact hs

theorem steps_signals {s s' : Session} (h : Relation.ReflTransGen (Step newDisk) s s')
    (hs : s.Signals) : s'.Signals := by
  induction h with
  | refl => exact hs
  | tail _ step ih => exact step.signals ih

theorem steps_uploaded_le_total {s s' : Session} (h : Relation.ReflTransGen (Step newDisk) s s')
    (hs : s.uploaded ≤ s.total) : s'.uploaded ≤ s'.total := by
  induction h with
  | refl => exact hs
  | tail _ step ih =>
    rw [step.total]
    cases step with
    | count _ _ _ bounded => exact bounded
    | finish now o => rw [finish_uploaded]; exact ih
    | note => exact ih
    | _ => exact ih

end Session

end DiskUploader
