import DiskUploader.Proofs.UploadWalk
import DiskUploader.Proofs.RehearsalFrame

/-!
# How an upload task ends

Once the pipeline stops, the task decides how the upload ends. A pipeline that went through
every phase finishes the session successfully. A pipeline that failed aborts the session,
compensates for what it created, under the `write` policy and with no cancellation, and finishes
the session with its fault. A panic that escapes the pipeline fails the upload as a bug, unless
it had already finished.

Compensation reads the record of creations once and clears it before undoing anything, so a
second failure of the same upload undoes nothing. The record names the transfer the session
noted and, for a new disk only, the disk it noted.

The session then ends in a form the whole upload can be read from. The task returns exactly when
the session is done: it is then either done, with its disk, transfer and every byte, or aborted
in the phase it attempted, with a fault. A compensation that panics is the one way the task stops
without finishing the session.
-/

namespace DiskUploader

variable {σ : Type}

namespace Session

variable {s : Session}

theorem finish_ok_of_live (h : s.done = false) (now : Nat) :
    s.finish now (.ok ()) = { s with done := true, finishedAt := some now, phase := some .done,
                                     completion := s.completion.sendReplace true } := by
  simp [finish, h]

theorem finish_error_of_aborted (h : s.done = false) (ha : s.phase = some .aborted) (now : Nat)
    (e : Fault) :
    s.finish now (.error e) = { s with done := true, finishedAt := some now, error := some e,
                                       completion := s.completion.sendReplace true } := by
  simp [finish, h, ha]

theorem abort_abort (h : s.attempting.isSome) : s.abort.abort = s.abort := by
  obtain ⟨p, hp⟩ := Option.isSome_iff_exists.1 h
  simp [abort, hp]

theorem outcome_of_error {e : Fault} (h : s.error = some e) : s.outcome = .error e := by
  simp [outcome, h]

theorem outcome_of_delivered {d : Disk} {t : String} (he : s.error = none) (hd : s.disk = some d)
    (ht : s.transferId = some t) : s.outcome = .ok ⟨d, t, s.uploaded⟩ := by
  simp [outcome, he, hd, ht]

/-- How an ended session reads: done from the last phase, holding its disk and transfer with
every byte sent, or aborted in the phase it attempted, with a fault. -/
def Ended (s : Session) : Prop :=
  (s.phase = some .done ∧ s.error = none ∧ s.uploaded = s.total ∧ s.disk.isSome ∧
      s.transferId.isSome) ∨
    (s.phase = some .aborted ∧ s.failedPhase.isSome ∧ s.failedPhase = s.attempting ∧
      s.error.isSome)

end Session

namespace UploadRun

def cleared (r : UploadRun) : UploadRun := { r with createdDisk := none, createdTransfer := none }

/-- An upload a failure may still end: its session came from the start by legal changes, is
open, and attempts a phase short of done. -/
structure Failing (r0 r : UploadRun) : Prop where
  steps : Relation.ReflTransGen (Session.Step r0.target.isNew) r0.session r.session
  live : r.session.done = false
  attempting : r.session.attempting.isSome
  notDone : r.session.phase ≠ some .done

/-- Where a task that returned `res` leaves the upload: its session came from the start by legal
changes, it is done exactly when the task returned, and once done it has ended. -/
structure Closed (r0 : UploadRun) (res : Except Interrupt Unit) (r : UploadRun) : Prop where
  steps : Relation.ReflTransGen (Session.Step r0.target.isNew) r0.session r.session
  done : res = .ok () ↔ r.session.done = true
  ended : r.session.done = true → r.session.Ended

variable {r0 r r' : UploadRun} {p : Phase}

theorem Attempting.failing (h : Attempting r0 r p) : Failing r0 r where
  steps := h.underway.steps
  live := h.underway.live
  attempting := by simp [h.attempting]
  notDone hd := by
    have hn := h.next
    rw [hd] at hn
    cases hn

theorem Failing.abort (h : Failing r0 r) (hs : r'.session = r.session.abort) : Failing r0 r' where
  steps := hs ▸ h.steps.tail (.abort h.attempting h.live h.notDone)
  live := by rw [hs]; exact h.live
  attempting := by rw [hs]; exact h.attempting
  notDone := by rw [hs]; simp [Session.abort]

theorem Failing.interrupted (h : Failing r0 r) (i : Interrupt) : Closed r0 (.error i) r where
  steps := h.steps
  done := by simp [h.live]
  ended hd := by simp [h.live] at hd

theorem Failing.abort_finish (h : Failing r0 r) (now : Nat) (e : Fault)
    (hs : r'.session = r.session.abort.finish now (.error e)) : Closed r0 (.ok ()) r' := by
  have ha : Failing r0 { r with session := r.session.abort } := h.abort rfl
  have hab : r.session.abort.phase = some .aborted := rfl
  obtain ⟨p, hp⟩ := Option.isSome_iff_exists.1 h.attempting
  refine ⟨hs ▸ ha.steps.tail (.finish now _ ha.live (fun h => by cases h) fun _ => hab), ?_,
    fun _ => ?_⟩
  · simp [hs]
  · rw [hs, Session.finish_error_of_aborted ha.live hab]
    exact .inr ⟨rfl, by simp [Session.abort, hp], by simp [Session.abort, hp], rfl⟩

theorem Complete.finish (h : Complete r0 r) (h0 : Fresh r0) (now : Nat)
    (hs : r'.session = r.session.finish now (.ok ())) : Closed r0 (.ok ()) r' := by
  have hu := h.reached.underway
  refine ⟨hs ▸ hu.steps.tail (.finish now _ hu.live (fun _ => h.reached.phase) fun h => by cases h),
    by simp [hs], fun _ => ?_⟩
  rw [hs, Session.finish_ok_of_live hu.live]
  exact .inl ⟨rfl, hu.error h0, h.sent, h.disk, h.transfer⟩

end UploadRun

theorem Rehearsal.fresh_default : UploadRun.Fresh (default : Rehearsal).run :=
  ⟨⟨rfl, rfl, rfl, rfl, rfl, rfl, rfl, rfl⟩, rfl, rfl⟩

namespace Uploader

open UploadRun Stage

variable {u : Uploader σ} {r0 : UploadRun} {w : World σ} {p : Phase}

/-- Compensation takes the record of creations before it undoes anything; the engine calls that
follow leave the upload alone. -/
theorem runOf_compensate (hu : u.Framed) (w : World σ) :
    u.runOf (u.compensate.run w).2 = (u.runOf w).cleared := by
  have hl := hu.lawful
  simp only [compensate, Timed.run_bind, run_current, run_change]
  refine Eq.trans ?_ (runOf_updated _ _ hl _)
  refine Quiet.runOf_eq ?_ _
  rcases (u.runOf w).createdTransfer with _ | t <;> rcases (u.runOf w).createdDisk with _ | d
  · exact Quiet.pure _
  · refine Quiet.bind (Quiet.retry _ _ (hu.removeDisk d)) fun r => ?_
    rcases r with _ | _ <;> exact Quiet.log _ _ _
  · refine Quiet.bind (Quiet.retry _ _ (hu.cancelTransfer t)) fun r => ?_
    rcases r with _ | _
    · exact Quiet.bind (Quiet.log _ _ _) fun _ => Quiet.pure _
    · exact Quiet.pure _
  · refine Quiet.bind (Quiet.retry _ _ (hu.cancelTransfer t)) fun r => ?_
    rcases r with _ | _
    · refine Quiet.bind (Quiet.log _ _ _) fun _ =>
        Quiet.bind (Quiet.retry _ _ (hu.removeDisk d)) fun r => ?_
      rcases r with _ | _ <;> exact Quiet.log _ _ _
    · refine Quiet.bind (Quiet.retry _ _ (hu.removeDisk d)) fun r => ?_
      rcases r with _ | _ <;> exact Quiet.log _ _ _

theorem run_compensate_of_none (w : World σ) (ht : (u.runOf w).createdTransfer = none)
    (hd : (u.runOf w).createdDisk = none) :
    u.compensate.run w = (.ok (), u.updated w fun r => r.cleared) := by
  simp only [compensate, Timed.run_bind, run_current, run_change, ht, hd]
  rfl

def withCleanup (u : Uploader σ) (cancel remove : String → Call σ Unit) : Uploader σ :=
  { u with api := { u.api with cancelTransfer := cancel, removeDisk := remove } }

section Cleanup

variable {c rm : String → Call σ Unit}

@[simp] theorem runOf_withCleanup : (u.withCleanup c rm).runOf = u.runOf := rfl

@[simp] theorem updated_withCleanup : (u.withCleanup c rm).updated = u.updated := rfl

theorem execute_withCleanup : (u.withCleanup c rm).execute = u.execute := rfl

/-- Compensation calls the engine only to cancel the recorded transfer and remove the recorded
disk. -/
theorem compensate_withCleanup (w : World σ)
    (hc : ∀ t, (u.runOf w).createdTransfer = some t → c t = u.api.cancelTransfer t)
    (hr : ∀ d, (u.runOf w).createdDisk = some d → rm d = u.api.removeDisk d) :
    (u.withCleanup c rm).compensate.run w = u.compensate.run w := by
  simp only [compensate, Timed.run_bind, run_current, run_change, runOf_withCleanup,
    updated_withCleanup]
  rcases ht : (u.runOf w).createdTransfer with _ | t <;>
    rcases hd : (u.runOf w).createdDisk with _ | d <;> dsimp only [withCleanup]
  · rw [hr d hd]
  · rw [hc t ht]
  · rw [hc t ht, hr d hd]

end Cleanup

/-- How failing an upload leaves it: the session aborted and the record taken, and, unless a
compensation call was interrupted, the session finished with the fault. Only a recorded
creation can be interrupted while undone. -/
theorem fail_run (hu : u.Framed) (e : Fault) (w : World σ) :
    ((u.fail e).run w).1 = .ok () ∧ u.runOf ((u.fail e).run w).2 =
        { (u.runOf w).cleared with
          session := (u.runOf w).session.abort.finish ((u.fail e).run w).2.now (.error e) } ∨
      ∃ i, ((u.fail e).run w).1 = .error i ∧
        u.runOf ((u.fail e).run w).2 =
          { (u.runOf w).cleared with session := (u.runOf w).session.abort } ∧
        ((u.runOf w).createdTransfer.isSome ∨ (u.runOf w).createdDisk.isSome) := by
  have hl := hu.lawful
  simp only [fail]
  rw [Timed.run_bind, run_changeSession]
  dsimp only
  rw [Timed.run_bind, run_current]
  dsimp only
  rw [Timed.run_bind, run_log]
  dsimp only
  rw [Timed.run_bind]
  generalize hW : ({ (u.updated w _) with log := _ } : World σ) = W
  -- the record the cleanup reads is the aborted one
  have hW' : u.runOf W = { u.runOf w with session := (u.runOf w).session.abort } := by
    rw [← hW]
    exact runOf_updated _ w hl _
  have hc := runOf_compensate hu W
  rcases hr : u.compensate.run W with ⟨_ | i, W'⟩ <;> rw [hr] at hc <;> dsimp only
  · refine .inr ⟨_, rfl, by rw [hc, hW']; rfl, ?_⟩
    -- with nothing recorded the cleanup could not have been interrupted
    by_contra hn
    simp only [not_or, Option.not_isSome_iff_eq_none] at hn
    rw [run_compensate_of_none W (by rw [hW']; exact hn.1) (by rw [hW']; exact hn.2)] at hr
    cases hr
  · refine .inl ⟨rfl, ?_⟩
    simp only [Timed.run_bind, Timed.run_now, run_changeSession]
    rw [runOf_updated _ _ hl, hc, hW']
    rfl

theorem closed_fail (hu : u.Framed) (e : Fault) (h : Failing r0 (u.runOf w)) :
    Closed r0 ((u.fail e).run w).1 (u.runOf ((u.fail e).run w).2) ∧
      ∀ i, ((u.fail e).run w).1 = .error i → Failing r0 (u.runOf ((u.fail e).run w).2) := by
  rcases fail_run hu e w with ⟨hok, hr⟩ | ⟨i, hi, hr, -⟩
  · refine ⟨hok ▸ h.abort_finish _ e (by rw [hr]), fun i hi => ?_⟩
    rw [hok] at hi
    cases hi
  · have hf : Failing r0 (u.runOf ((u.fail e).run w).2) := h.abort (by rw [hr])
    exact ⟨hi ▸ hf.interrupted i, fun _ _ => hf⟩

theorem fail_clears (hu : u.Framed) (e : Fault) (w : World σ) :
    (u.runOf ((u.fail e).run w).2).createdTransfer = none ∧
      (u.runOf ((u.fail e).run w).2).createdDisk = none := by
  rcases fail_run hu e w with ⟨-, hr⟩ | ⟨i, -, hr, -⟩ <;> rw [hr] <;> exact ⟨rfl, rfl⟩

theorem fail_reports (hu : u.Framed) (e : Fault) (w : World σ) (hd : (u.runOf w).session.done = false)
    (hok : ((u.fail e).run w).1 = .ok ()) :
    (u.runOf ((u.fail e).run w).2).session.error = some e := by
  rcases fail_run hu e w with ⟨-, hr⟩ | ⟨i, hi, -, -⟩
  · rw [hr]
    dsimp only
    rw [Session.finish_error_of_aborted (show (u.runOf w).session.abort.done = false from hd) rfl]
  · rw [hok] at hi
    cases hi

theorem fail_withCleanup {c rm : String → Call σ Unit} (hl : u.run.Lawful) (e : Fault)
    (w : World σ) (hc : ∀ t, (u.runOf w).createdTransfer = some t → c t = u.api.cancelTransfer t)
    (hr : ∀ d, (u.runOf w).createdDisk = some d → rm d = u.api.removeDisk d) :
    ((u.withCleanup c rm).fail e).run w = (u.fail e).run w := by
  simp only [fail, Timed.run_bind, run_changeSession, run_current, run_log, Timed.run_now,
    runOf_withCleanup, updated_withCleanup]
  generalize hW : ({ (u.updated w _) with log := _ } : World σ) = W
  -- aborting leaves the record as it was
  have hW' : u.runOf W = { u.runOf w with session := (u.runOf w).session.abort } := by
    rw [← hW]
    exact runOf_updated _ w hl _
  rw [compensate_withCleanup W (by rw [hW']; exact hc) (by rw [hW']; exact hr)]

theorem run_recover_panic (m : Option String) (hd : (u.runOf w).session.done = false) :
    (u.recover (.panic m)).run w = (u.fail (panicFault m)).run w := by
  simp [recover, hd]

theorem run_recover_other (i : Interrupt) (hi : ∀ m, i ≠ .panic m) :
    (u.recover i).run w = (.error i, w) := by
  cases i with
  | panic m => exact absurd rfl (hi m)
  | _ => rfl

theorem closed_recover (hu : u.Framed) (h : Failing r0 (u.runOf w)) (i : Interrupt) :
    Closed r0 ((u.recover i).run w).1 (u.runOf ((u.recover i).run w).2) := by
  cases i with
  | panic m =>
    rw [run_recover_panic m h.live]
    exact (closed_fail hu _ h).1
  | _ => exact h.interrupted _

theorem recover_reports (hu : u.Framed) (h : Failing r0 (u.runOf w)) (i : Interrupt)
    (hd : (u.runOf ((u.recover i).run w).2).session.done = true) :
    ∃ m, i = .panic m ∧ (u.runOf ((u.recover i).run w).2).session.error = some (panicFault m) := by
  cases i with
  | panic m =>
    rw [run_recover_panic m h.live] at hd ⊢
    exact ⟨m, rfl, fail_reports hu _ w h.live ((closed_fail hu _ h).1.done.2 hd)⟩
  | _ =>
    rw [run_recover_other _ (by simp)] at hd
    simp [h.live] at hd

theorem recover_keeps_cleared (hu : u.Framed) (i : Interrupt)
    (ht : (u.runOf w).createdTransfer = none) (hd : (u.runOf w).createdDisk = none) :
    (u.runOf ((u.recover i).run w).2).createdTransfer = none ∧
      (u.runOf ((u.recover i).run w).2).createdDisk = none := by
  cases i with
  | panic m =>
    simp only [recover, Timed.run_bind, run_current]
    split
    · exact ⟨ht, hd⟩
    · exact fail_clears hu _ w
  | _ => exact ⟨ht, hd⟩

theorem run_pipeline_ok (hl : u.run.Lawful) {w₁ : World σ}
    (hx : u.execute.run.run w = (.ok (.ok ()), w₁)) :
    ∃ n w₂, u.pipeline.run w = (.ok (), w₂) ∧
      u.runOf w₂ = { u.runOf w₁ with session := (u.runOf w₁).session.finish n (.ok ()) } := by
  simp only [pipeline, Timed.run_bind, hx, run_current, run_log, Timed.run_now, run_changeSession]
  exact ⟨_, _, rfl, runOf_updated _ _ hl _⟩

theorem run_pipeline_failed {e : Fault} {w₁ : World σ}
    (hx : u.execute.run.run w = (.ok (.error e), w₁)) : u.pipeline.run w = (u.fail e).run w₁ := by
  simp only [pipeline, Timed.run_bind, hx]

theorem run_pipeline_stopped {i : Interrupt} {w₁ : World σ}
    (hx : u.execute.run.run w = (.error i, w₁)) : u.pipeline.run w = (.error i, w₁) := by
  simp only [pipeline, Timed.run_bind, hx]

theorem runTask_closed (hu : u.Framed) (h0 : Fresh (u.runOf w)) :
    Closed (u.runOf w) (u.runTask.run w).1 (u.runOf (u.runTask.run w).2) := by
  have hx := ends_execute hu h0
  simp only [runTask, Timed.run_tryCatch]
  rcases hr : u.execute.run.run w with ⟨i | e | _, w₁⟩ <;> rw [hr] at hx
  · obtain ⟨p, ha⟩ := hx
    rw [run_pipeline_stopped hr]
    exact closed_recover hu ha.failing i
  · -- the upload failed: a failure interrupted while compensating is recovered from
    obtain ⟨p, ha, -⟩ := hx
    have hc := closed_fail hu e ha.failing
    rw [run_pipeline_failed hr]
    rcases hf : (u.fail e).run w₁ with ⟨i | _, w₂⟩ <;> rw [hf] at hc <;> dsimp only
    · exact closed_recover hu (hc.2 i rfl) i
    · exact hc.1
  · obtain ⟨n, w₂, hp, hw₂⟩ := run_pipeline_ok hu.lawful hr
    rw [hp]
    exact hx.finish h0 n (by rw [hw₂])

theorem recover_withCleanup {c rm : String → Call σ Unit} (hl : u.run.Lawful) (i : Interrupt)
    (w : World σ) (hc : ∀ t, (u.runOf w).createdTransfer = some t → c t = u.api.cancelTransfer t)
    (hr : ∀ d, (u.runOf w).createdDisk = some d → rm d = u.api.removeDisk d) :
    ((u.withCleanup c rm).recover i).run w = (u.recover i).run w := by
  cases i with
  | panic m =>
    simp only [recover, Timed.run_bind, run_current, runOf_withCleanup]
    split
    · rfl
    · exact fail_withCleanup hl _ w hc hr
  | _ => rfl

/-- A task runs alike with other cleanup calls when its pipeline went through, or when they
agree on the creations recorded where the pipeline stopped. -/
theorem runTask_withCleanup {c rm : String → Call σ Unit} (hu : u.Framed)
    {res : Except Interrupt (Except Fault Unit)} {w₁ : World σ}
    (hx : u.execute.run.run w = (res, w₁))
    (hagree : res ≠ .ok (.ok ()) →
      (∀ t, (u.runOf w₁).createdTransfer = some t → c t = u.api.cancelTransfer t) ∧
        ∀ d, (u.runOf w₁).createdDisk = some d → rm d = u.api.removeDisk d) :
    (u.withCleanup c rm).runTask.run w = u.runTask.run w := by
  have hl := hu.lawful
  have hx' : (u.withCleanup c rm).execute.run.run w = (res, w₁) := by
    rw [execute_withCleanup]
    exact hx
  simp only [runTask, Timed.run_tryCatch]
  rcases res with i | e | _
  · obtain ⟨hc, hr⟩ := hagree (by simp)
    rw [run_pipeline_stopped hx, run_pipeline_stopped hx']
    exact recover_withCleanup hl i w₁ hc hr
  · obtain ⟨hc, hr⟩ := hagree (by simp)
    rw [run_pipeline_failed hx, run_pipeline_failed hx', fail_withCleanup hl e w₁ hc hr]
    -- the first failure took the record, so recovering from it undoes nothing
    have hcl := fail_clears hu e w₁
    rcases hf : (u.fail e).run w₁ with ⟨i | _, w₂⟩
    · rw [hf] at hcl
      exact recover_withCleanup hl i w₂ (fun t ht => by simp [hcl.1] at ht)
        (fun d hd => by simp [hcl.2] at hd)
    · rfl
  · simp only [pipeline, Timed.run_bind, hx, hx', run_current, run_log, Timed.run_now,
      run_changeSession, runOf_withCleanup, updated_withCleanup]

/-- The fault a run of the pipeline fails the upload with: its own, or a panic that escaped it,
read as a bug. A pipeline that went through, or stopped otherwise, fails with none. -/
def pipelineFault : Except Interrupt (Except Fault Unit) → Option Fault
  | .ok (.error e) => some e
  | .error (.panic m) => some (panicFault m)
  | _ => none

theorem attempting_of_fault (hu : u.Framed) (h0 : Fresh (u.runOf w))
    {res : Except Interrupt (Except Fault Unit)} {w₁ : World σ}
    (hr : u.execute.run.run w = (res, w₁)) {e₀ : Fault} (hf : pipelineFault res = some e₀) :
    ∃ p, Attempting (u.runOf w) (u.runOf w₁) p := by
  have hx := ends_execute hu h0
  rw [hr] at hx
  rcases res with i | e | _
  · exact hx
  · exact ⟨_, hx.choose_spec.1⟩
  · simp [pipelineFault] at hf

/-- After the pipeline fails the upload, the task has taken the record of creations, and a
finished upload reports the pipeline's fault, or as a bug the panic that compensating for it
met. -/
theorem runTask_after_fault (hu : u.Framed) (h0 : Fresh (u.runOf w))
    {res : Except Interrupt (Except Fault Unit)} {w₁ : World σ}
    (hr : u.execute.run.run w = (res, w₁)) {e₀ : Fault} (hf : pipelineFault res = some e₀) :
    (u.runOf (u.runTask.run w).2).createdTransfer = none ∧
      (u.runOf (u.runTask.run w).2).createdDisk = none ∧
      ((u.runOf (u.runTask.run w).2).session.done = true →
        (u.runOf (u.runTask.run w).2).session.error = some e₀ ∨
          ∃ m, ((u.fail e₀).run w₁).1 = .error (.panic m) ∧
            (u.runOf (u.runTask.run w).2).session.error = some (panicFault m)) := by
  obtain ⟨p, ha⟩ := attempting_of_fault hu h0 hr hf
  simp only [runTask, Timed.run_tryCatch]
  rcases res with i | e | _
  · -- a panic escaped the pipeline: recovering fails the upload with it
    cases i with
    | panic m =>
      simp only [pipelineFault, Option.some.injEq] at hf
      subst hf
      rw [run_pipeline_stopped hr]
      dsimp only
      rw [run_recover_panic m ha.underway.live]
      have hcl := fail_clears hu (panicFault m) w₁
      refine ⟨hcl.1, hcl.2, fun hd => .inl (fail_reports hu _ w₁ ha.underway.live ?_)⟩
      exact (closed_fail hu _ ha.failing).1.done.2 hd
    | _ => simp [pipelineFault] at hf
  · -- the pipeline failed: the failure reports its fault unless compensating was interrupted
    simp only [pipelineFault, Option.some.injEq] at hf
    subst hf
    rw [run_pipeline_failed hr]
    have hc := closed_fail hu e ha.failing
    have hcl := fail_clears hu e w₁
    have hrep := fail_reports hu e w₁ ha.underway.live
    rcases hfr : (u.fail e).run w₁ with ⟨i | _, w₂⟩ <;> rw [hfr] at hc hcl hrep <;> dsimp only
    · have hrec := recover_keeps_cleared hu i hcl.1 hcl.2
      refine ⟨hrec.1, hrec.2, fun hd => .inr ?_⟩
      obtain ⟨m, rfl, he⟩ := recover_reports hu (hc.2 i rfl) i hd
      exact ⟨m, rfl, he⟩
    · exact ⟨hcl.1, hcl.2, fun _ => .inl (hrep rfl)⟩
  · simp [pipelineFault] at hf

theorem run_begin_fired (o : UploadOptions) (p : Phase)
    (hf : (o.reaches p && w.hasFired o.cancel) = true) :
    (u.begin o p).run.run w =
      (.ok (.error cancelledFault), u.updated w fun r => { r with session := r.session.begin p }) := by
  simp only [Uploader.begin, Stage.run_bind, Stage.run_lift, run_changeSession, run_cancelled,
    hasFired_updated]
  simp [hf]

theorem execute_through {pre post : List Phase}
    (hpath : (u.runOf w).target.path = pre ++ p :: post) {a : Progress} {w' : World σ}
    (h : (u.setOut (u.runOf w) >>= u.walk (u.runOf w) pre).run.run w = (.ok (.ok a), w')) :
    ∃ k : Stage σ Unit,
      u.execute.run.run w = (u.begin (u.runOf w).options p >>= fun _ => k).run.run w' := by
  obtain ⟨k, hk⟩ : ∃ k : Progress → Stage σ Unit,
      (u.setOut (u.runOf w) >>= u.walk (u.runOf w) (u.runOf w).target.path >>= fun _ => pure ()) =
        u.setOut (u.runOf w) >>= u.walk (u.runOf w) pre >>= fun b =>
          u.begin (u.runOf w).options p >>= fun _ => k b :=
    ⟨fun b => u.phaseWork (u.runOf w) p b >>= fun b => u.reach p >>= fun _ =>
        u.walk (u.runOf w) post b >>= fun _ => pure (),
      by simp only [hpath, walk_append, walk, phaseRun, bind_assoc, pure_bind]⟩
  refine ⟨k a, ?_⟩
  rw [execute_eq_walk, Stage.run_bind, Stage.run_lift, run_current]
  dsimp only
  rw [hk, Stage.run_bind, h]

/-- A pipeline that failed while attempting a phase ends its task with the session aborted
there: finished with the pipeline's fault, or with a panic that compensating met, when the task
returns, and left aborted when compensating was interrupted otherwise. -/
theorem runTask_of_failed (hu : u.Framed) {e : Fault} {w₁ : World σ}
    (hx : u.execute.run.run w = (.ok (.error e), w₁)) (ha : Attempting r0 (u.runOf w₁) p) :
    ((u.runTask.run w).1 = .ok () ∧ ∃ n e', (e' = e ∨ ∃ m, e' = panicFault m) ∧
        (u.runOf (u.runTask.run w).2).session = (u.runOf w₁).session.abort.finish n (.error e')) ∨
      ∃ i, (u.runTask.run w).1 = .error i ∧
        (u.runOf (u.runTask.run w).2).session = (u.runOf w₁).session.abort := by
  have hrun := fail_run hu e w₁
  simp only [runTask, Timed.run_tryCatch, run_pipeline_failed hx]
  rcases hfr : (u.fail e).run w₁ with ⟨i | _, w₂⟩ <;> rw [hfr] at hrun <;> dsimp only
  · rcases hrun with ⟨h, -⟩ | ⟨_, hi, hw₂, -⟩
    · cases h
    cases hi
    dsimp only at hw₂
    cases i with
    | panic m =>
      -- compensating panicked: the task fails the upload again, now with nothing to undo
      rw [run_recover_panic m (by rw [hw₂]; exact ha.underway.live)]
      rcases fail_run hu (panicFault m) w₂ with ⟨hok, hw₃⟩ | ⟨_, -, -, hsome⟩
      · refine .inl ⟨hok, ((u.fail (panicFault m)).run w₂).2.now, _, .inr ⟨m, rfl⟩, ?_⟩
        rw [hw₃]
        dsimp only
        rw [hw₂]
        dsimp only
        rw [Session.abort_abort ha.failing.attempting]
      · simp [hw₂, UploadRun.cleared] at hsome
    | _ =>
      rw [run_recover_other _ (by simp)]
      exact .inr ⟨_, rfl, by rw [hw₂]⟩
  · rcases hrun with ⟨-, hw₂⟩ | ⟨_, h, -⟩
    · exact .inl ⟨rfl, _, e, .inl rfl, by rw [hw₂]⟩
    · cases h

/-- Once the token has cancelled, a fault the pipeline fails with while attempting a phase the
cancellation reaches is final. -/
theorem fault_final_of_fired (hu : u.Framed) (h0 : Fresh (u.runOf w)) {e : Fault} {w₁ : World σ}
    (hr : u.execute.run.run w = (.ok (.error e), w₁)) {p : Phase}
    (hp : (u.runOf w₁).session.attempting = some p) (hre : (u.runOf w).options.reaches p = true)
    (hfi : w₁.hasFired (u.runOf w).options.cancel = true) : e.Final := by
  have hx := ends_execute hu h0
  rw [hr] at hx
  obtain ⟨q, hq, hfin⟩ := hx
  -- the phase attempted is the one the failure names
  rw [hq.attempting, Option.some.injEq] at hp
  subst hp
  exact hfin hre hfi

/-- The pipeline walks its target's path phase by phase (`execute_eq_walk`). A token that has
cancelled by the time the pipeline begins a phase the cancellation reaches stops the upload
there. The upload has then reached just the phases before it, and never reaches that phase: the
session is aborted in it and finished with the cancellation's fault, or with the panic that
compensating met, or left aborted when compensating was interrupted otherwise. Once the token
has cancelled, every fault the pipeline fails with in a phase the cancellation reaches is final:
a timeout or a permanent fault, never a transient one. -/
theorem cancellation_final (hu : u.Framed) (h0 : Fresh (u.runOf w)) :
    let r := u.runOf w
    let x := u.execute.run.run w
    let s := (u.runOf (u.runTask.run w).2).session
    (∀ pre p post, r.target.path = pre ++ p :: post → r.options.reaches p = true →
      ∀ a w', (u.setOut r >>= u.walk r pre).run.run w = (.ok (.ok a), w') →
        w'.hasFired r.options.cancel = true →
        (u.runOf w').session.phase = pre.getLast? ∧ s.phase = some .aborted ∧
          s.failedPhase = some p ∧
          (((u.runTask.run w).1 = .ok () ∧ ∃ n e, (e = cancelledFault ∨ ∃ m, e = panicFault m) ∧
              s = ((u.runOf w').session.begin p).abort.finish n (.error e)) ∨
            ∃ i, (u.runTask.run w).1 = .error i ∧ s = ((u.runOf w').session.begin p).abort)) ∧
    ∀ e, x.1 = .ok (.error e) → ∀ p, (u.runOf x.2).session.attempting = some p →
      r.options.reaches p = true → x.2.hasFired r.options.cancel = true → e.Final := by
  dsimp only
  refine ⟨fun pre p post hpath hre a w' hw hfi => ?_, fun e he p hp hre hfi => ?_⟩
  · have hl := hu.lawful
    have hfol := Target.follows_path (u.runOf w).target
    rw [hpath] at hfol
    obtain ⟨hpre, hp⟩ := hfol.before
    rw [Option.or_none] at hp
    -- the phases before `p` leave the upload having reached the last of them
    have hR : Reached (u.runOf w) pre.getLast? (u.runOf w') := by
      have hx := ends_walked hu h0 hpre
      rwa [hw] at hx
    -- so the pipeline fails as it begins `p`
    obtain ⟨k, hk⟩ := execute_through hpath hw
    have hx : u.execute.run.run w = (.ok (.error cancelledFault),
        u.updated w' fun r => { r with session := r.session.begin p }) := by
      rw [hk, Stage.run_bind, run_begin_fired _ _ (by simp [hre, hfi])]
    have ha : Attempting (u.runOf w)
        (u.runOf (u.updated w' fun r => { r with session := r.session.begin p })) p := by
      rw [runOf_updated _ _ hl]
      exact hR.toAt.begin hp
    have hs₁ : (u.runOf (u.updated w' fun r => { r with session := r.session.begin p })).session =
        (u.runOf w').session.begin p := by
      rw [runOf_updated _ _ hl]
    have hlive : ((u.runOf w').session.begin p).abort.done = false := hR.underway.live
    refine ⟨hR.phase, ?_⟩
    rcases runTask_of_failed hu hx ha with ⟨hok, n, e, he, hs⟩ | ⟨i, hi, hs⟩
    · rw [hs₁] at hs
      have hf := Session.finish_error_of_aborted hlive rfl n e
      rw [hs, hf]
      exact ⟨rfl, rfl, .inl ⟨hok, n, e, he, hf.symm⟩⟩
    · rw [hs₁] at hs
      rw [hs]
      exact ⟨rfl, rfl, .inr ⟨i, hi, rfl⟩⟩
  · rcases hr : u.execute.run.run w with ⟨res, w₁⟩
    rw [hr] at he hp hfi
    dsimp only at he hp hfi
    subst he
    exact fault_final_of_fired hu h0 hr hp hre hfi

/-- A standard rehearsal whose token cancelled before it started is framed and fresh, stops as a
cancelled upload does, and its first phase is begun with the token cancelled. -/
theorem rehearsal_cancellation_final :
    let u := Rehearsal.uploader {} {} RetryDefaults.standard false
    let w : World Rehearsal :=
      { World.start .work (default : Rehearsal) with tokens := #[{ cancelled := true }] }
    let r := u.runOf w
    let x := u.execute.run.run w
    let s := (u.runOf (u.runTask.run w).2).session
    u.Framed ∧ Fresh r ∧
      r.target.path = [] ++ .diskRequested :: r.target.path.tail ∧
      r.options.reaches .diskRequested = true ∧
      (u.setOut r >>= u.walk r []).run.run w = (.ok (.ok {}), w) ∧
      w.hasFired r.options.cancel = true ∧
      ((∀ pre p post, r.target.path = pre ++ p :: post → r.options.reaches p = true →
        ∀ a w', (u.setOut r >>= u.walk r pre).run.run w = (.ok (.ok a), w') →
          w'.hasFired r.options.cancel = true →
          (u.runOf w').session.phase = pre.getLast? ∧ s.phase = some .aborted ∧
            s.failedPhase = some p ∧
            (((u.runTask.run w).1 = .ok () ∧ ∃ n e, (e = cancelledFault ∨ ∃ m, e = panicFault m) ∧
                s = ((u.runOf w').session.begin p).abort.finish n (.error e)) ∨
              ∃ i, (u.runTask.run w).1 = .error i ∧ s = ((u.runOf w').session.begin p).abort)) ∧
      ∀ e, x.1 = .ok (.error e) → ∀ p, (u.runOf x.2).session.attempting = some p →
        r.options.reaches p = true → x.2.hasFired r.options.cancel = true → e.Final) :=
  ⟨Rehearsal.framed, Rehearsal.fresh_default, rfl, rfl, rfl, rfl,
    cancellation_final Rehearsal.framed Rehearsal.fresh_default⟩

end Uploader

end DiskUploader
