import DiskUploader.Proofs.TokenBlind
import DiskUploader.Proofs.UploadFrame
import DiskUploader.Upload.Pipeline

/-!
# Cancellation after the endpoint is verified

Under the initialization scope the token stops mattering once the upload has verified an
endpoint. From there the pipeline streams, finalizes and waits under strategies with no
cancellation, begins phases the cancellation does not reach, reads the body without checking the
token, and compensates without it; a token read on that path has its answer thrown away. So the
rest of the task is blind: run with the token cancelled at that moment, due to cancel at any later
instant, or never cancelled, it makes the same calls and ends the same, but for the tokens.

The task is split at the verified endpoint: `untilVerified` runs the phases up to it, and
`afterVerified` is what the task does from there to its end.
-/

namespace DiskUploader

/-- What the pipeline holds once an endpoint is verified. -/
structure Verified where
  diskId : String
  transfer : Transfer
  url : String

namespace Uploader

variable {σ : Type} (u : Uploader σ)

def untilVerified (r : UploadRun) : Stage σ Verified := do
  let o := r.options
  let corr := r.session.correlation
  let diskId ← u.acquireDisk o corr r.target
  let t ← u.openTransfer o corr diskId
  u.begin o .urlVerified
  let url ← u.verifyUrl o t
  u.changeSession ({ · with url := some url })
  u.reach .urlVerified
  pure ⟨diskId, t, url⟩

def streamed (o : UploadOptions) (corr : CorrelationId) (v : Verified) : Stage σ Unit := do
  u.begin o .bytesSent
  u.sendBytes o v.url
  u.reach .bytesSent
  u.settle o corr v.diskId v.transfer

def conclude : Except Fault Unit → Timed σ Unit
  | .ok () => do
    let s := (← u.current).session
    (log .info "upload finished"
      [("alias", .quoted s.aliasName), ("bytes", .shown (toString s.uploaded)),
       ("correlation_id", .shown s.correlation.text)])
    let now ← Timed.now
    u.changeSession (·.finish now (.ok ()))
  | .error e => u.fail e

def afterVerified (o : UploadOptions) (corr : CorrelationId) (v : Verified) : Timed σ Unit :=
  tryCatch ((u.streamed o corr v).run >>= u.conclude) u.recover

theorem pipeline_eq : u.pipeline = u.execute.run >>= u.conclude := rfl

theorem execute_eq : u.execute = (do
    let r ← u.current
    let v ← u.untilVerified r
    u.streamed r.options r.session.correlation v) := by
  simp only [execute, deliver, untilVerified, streamed, bind_assoc, pure_bind]

theorem runTask_of_verified {w w₁ : World σ} {v : Verified}
    (h : (u.untilVerified (u.runOf w)).run.run w = (.ok (.ok v), w₁)) :
    u.runTask.run w =
      (u.afterVerified (u.runOf w).options (u.runOf w).session.correlation v).run w₁ := by
  have hx : u.execute.run.run w =
      (u.streamed (u.runOf w).options (u.runOf w).session.correlation v).run.run w₁ := by
    rw [execute_eq, Stage.run_bind, Stage.run_lift, run_current]
    dsimp only
    rw [Stage.run_bind, h]
  simp only [runTask, afterVerified, pipeline_eq, Timed.run_tryCatch, Timed.run_bind, hx]

/-- The engine calls and the transport that follow endpoint verification never read a token:
the disk reads and job listings of the last wait, finalizing, the cancel and remove calls of
compensation, and sending a body whose reader reads none. -/
structure Blind : Prop where
  getDisk : ∀ id, Timed.Blind (u.api.getDisk id)
  listJobs : ∀ k, Timed.Blind (u.api.listJobs k)
  finalizeTransfer : ∀ id k, Timed.Blind (u.api.finalizeTransfer id k)
  cancelTransfer : ∀ id, Timed.Blind (u.api.cancelTransfer id)
  removeDisk : ∀ id, Timed.Blind (u.api.removeDisk id)
  put : ∀ url n (read : BodyReader σ), (∀ k, Timed.Blind (read k)) →
    Timed.Blind (u.transport.put url n read)

end Uploader

namespace Stage

variable {σ α β : Type}

theorem blind_bind {x : Stage σ α} {f : α → Stage σ β} (hx : Timed.Blind x.run)
    (hf : ∀ a, Timed.Blind (f a).run) : Timed.Blind (x >>= f).run := by
  rw [ExceptT.run_bind]
  refine Timed.Blind.bind hx fun r => ?_
  cases r with
  | error e => exact Timed.Blind.pure _
  | ok a => exact hf a

theorem blind_lift {t : Timed σ α} (ht : Timed.Blind t) : Timed.Blind (monadLift t : Stage σ α).run := by
  rw [ExceptT.run_monadLift]
  exact Timed.Blind.map _ ht

theorem run_lift_bind (t : Timed σ α) (f : α → Stage σ β) :
    (monadLift t >>= f : Stage σ β).run = t >>= fun a => (f a).run :=
  ExceptT.run_bind_lift t f

theorem blind_pure (a : α) : Timed.Blind (pure a : Stage σ α).run := Timed.Blind.pure _

theorem blind_throw (e : Fault) : Timed.Blind (throw e : Stage σ α).run := Timed.Blind.pure _

end Stage

namespace UploadOptions

theorem strategies_tokens {o : UploadOptions} {p : Phase} (hp : o.reaches p = false)
    (policy : RetryPolicy) : (Plan.ofStrategies (o.strategies policy p)).tokens = [] := by
  simp only [strategies, hp, Bool.false_eq_true, ↓reduceIte, List.append_nil]
  exact policy.plan_tokens

end UploadOptions

namespace Uploader

variable {σ : Type} {u : Uploader σ}

section Steps

variable (u)

theorem blind_current : Timed.Blind u.current := fun _ ts => ⟨ts, rfl⟩

theorem blind_change (f : UploadRun → UploadRun) : Timed.Blind (u.change f) := fun _ ts => ⟨ts, rfl⟩

theorem blind_changeSession (f : Session → Session) : Timed.Blind (u.changeSession f) :=
  fun _ ts => ⟨ts, rfl⟩

theorem blind_log (l : Level) (m : String) (fs : List (String × FieldValue)) :
    Timed.Blind (log l m fs : Timed σ Unit) := fun _ ts => ⟨ts, rfl⟩

theorem blind_reach (p : Phase) : Timed.Blind (u.reach p).run :=
  Stage.blind_lift (u.blind_changeSession _)

theorem blind_begin {o : UploadOptions} {p : Phase} (hp : o.reaches p = false) :
    Timed.Blind (u.begin o p).run := by
  unfold begin cancelled
  refine Stage.blind_bind (Stage.blind_lift (u.blind_changeSession _)) fun _ => ?_
  rw [Stage.run_lift_bind]
  refine Timed.Blind.isCancelled_bind (fun b => ?_) ?_
  · simp only [hp, Bool.false_and]
  · simp only [hp, Bool.false_and, Bool.false_eq_true, ↓reduceIte]
    exact Stage.blind_pure _

theorem blind_countingRead (o : UploadOptions) (want : Nat) :
    Timed.Blind (u.countingRead o false want) := by
  unfold countingRead cancelled
  refine Timed.Blind.isCancelled_bind (fun b => by simp only [Bool.false_and]) ?_
  simp only [Bool.false_and, Bool.false_eq_true, ↓reduceIte]
  refine Timed.Blind.bind (u.blind_current) fun r => ?_
  split
  · exact Timed.Blind.bind (u.blind_change _) fun _ => Timed.Blind.pure _
  · refine Timed.Blind.bind (u.blind_change _) fun _ => ?_
    split
    · exact Timed.Blind.bind (u.blind_changeSession _) fun _ => Timed.Blind.pure _
    · exact Timed.Blind.pure _

end Steps

section Streaming

variable (hu : u.Blind)
include hu

/-- Streaming outside the cancellation's reach: the reader checks no token, and the token read
after a failed send has its answer thrown away. -/
theorem blind_sendBytes {o : UploadOptions} (hp : o.reaches .bytesSent = false) (url : String) :
    Timed.Blind (u.sendBytes o url).run := by
  unfold sendBytes cancelled
  simp only [hp]
  refine Stage.blind_bind (Stage.blind_lift u.blind_current) fun r => ?_
  refine Stage.blind_bind (Stage.blind_lift (blind_log (σ := σ) _ _ _)) fun _ => ?_
  refine Stage.blind_bind (Stage.blind_lift (hu.put _ _ _ (u.blind_countingRead o))) fun res => ?_
  rcases res with err | ⟨⟩
  · rw [Stage.run_lift_bind]
    refine Timed.Blind.isCancelled_bind (fun b => by simp only [Bool.false_and]) ?_
    simp only [Bool.false_and, Bool.false_eq_true, ↓reduceIte]
    refine Stage.blind_bind (Stage.blind_lift u.blind_current) fun r => ?_
    split
    · exact Stage.blind_throw _
    · exact Stage.blind_throw _
  · refine Stage.blind_bind (Stage.blind_lift u.blind_current) fun r => ?_
    split
    · exact Stage.blind_throw _
    · exact Stage.blind_pure _

theorem blind_settle {o : UploadOptions} (hf : o.reaches .finalized = false)
    (hd : o.reaches .diskStable = false) (corr : CorrelationId) (diskId : String) (t : Transfer) :
    Timed.Blind (u.settle o corr diskId t).run := by
  unfold settle
  refine Stage.blind_bind (u.blind_begin hf) fun _ => ?_
  refine Stage.blind_bind (Timed.Blind.retry _ (UploadOptions.strategies_tokens hf _)
    (hu.finalizeTransfer _ _)) fun _ => ?_
  refine Stage.blind_bind (u.blind_reach _) fun _ => ?_
  refine Stage.blind_bind (u.blind_begin hd) fun _ => ?_
  refine Stage.blind_bind (Timed.Blind.waitForDiskStable (UploadOptions.strategies_tokens hd _)
    (UploadOptions.strategies_tokens hd _) (hu.getDisk _) (hu.listJobs _)) fun _ => ?_
  exact Stage.blind_bind (Stage.blind_lift (u.blind_changeSession _)) fun _ => u.blind_reach _

theorem blind_streamed {o : UploadOptions} (hs : o.scope = .initialization) (corr : CorrelationId)
    (v : Verified) : Timed.Blind (u.streamed o corr v).run := by
  have hout : ∀ p : Phase, Phase.urlVerified.index < p.index → o.reaches p = false := by
    intro p hp
    simp only [UploadOptions.reaches, hs, decide_eq_false_iff_not, Nat.not_le]
    exact hp
  unfold streamed
  refine Stage.blind_bind (u.blind_begin (hout _ (by decide))) fun _ => ?_
  refine Stage.blind_bind (blind_sendBytes hu (hout _ (by decide)) _) fun _ => ?_
  refine Stage.blind_bind (u.blind_reach _) fun _ => ?_
  exact blind_settle hu (hout _ (by decide)) (hout _ (by decide)) _ _ _

end Streaming

section Ending

variable (hu : u.Blind)
include hu

theorem blind_compensate : Timed.Blind u.compensate := by
  unfold compensate
  refine Timed.Blind.bind u.blind_current fun r => ?_
  refine Timed.Blind.bind (u.blind_change _) fun _ => ?_
  have hss := u.policies.write.plan_tokens
  dsimp only
  -- a recorded transfer is cancelled first; the disk part is shared by every way that ends
  split
  on_goal 1 =>
    refine Timed.Blind.bind (Timed.Blind.retry _ hss (hu.cancelTransfer _)) fun r => ?_
    split
    on_goal 2 => refine Timed.Blind.bind (blind_log _ _ _) fun _ => ?_
  all_goals
    split
    · refine Timed.Blind.bind (Timed.Blind.retry _ hss (hu.removeDisk _)) fun r => ?_
      split <;> exact blind_log _ _ _
    · exact Timed.Blind.pure _

theorem blind_fail (e : Fault) : Timed.Blind (u.fail e) := by
  unfold fail
  refine Timed.Blind.bind (u.blind_changeSession _) fun _ => ?_
  refine Timed.Blind.bind u.blind_current fun _ => ?_
  refine Timed.Blind.bind (blind_log _ _ _) fun _ => ?_
  refine Timed.Blind.bind (blind_compensate hu) fun _ => ?_
  exact Timed.Blind.bind Timed.Blind.now fun _ => u.blind_changeSession _

theorem blind_conclude (res : Except Fault Unit) : Timed.Blind (u.conclude res) := by
  rcases res with e | ⟨⟩
  · exact blind_fail hu e
  · refine Timed.Blind.bind u.blind_current fun _ => ?_
    refine Timed.Blind.bind (blind_log _ _ _) fun _ => ?_
    exact Timed.Blind.bind Timed.Blind.now fun _ => u.blind_changeSession _

theorem blind_recover (i : Interrupt) : Timed.Blind (u.recover i) := by
  cases i with
  | panic m =>
    refine Timed.Blind.bind u.blind_current fun r => ?_
    split
    · exact Timed.Blind.pure _
    · exact blind_fail hu _
  | _ => exact Timed.Blind.throw _

theorem blind_afterVerified {o : UploadOptions} (hs : o.scope = .initialization)
    (corr : CorrelationId) (v : Verified) : Timed.Blind (u.afterVerified o corr v) :=
  Timed.Blind.tryCatch (Timed.Blind.bind (blind_streamed hu hs corr v) (blind_conclude hu))
    (blind_recover hu)

end Ending

/-- Under the initialization scope, once the pipeline has verified an endpoint the task goes on
as `afterVerified`, and that rest of the task, run with any tokens at all (the upload's token
cancelled at that moment, due to cancel at any later instant, or never cancelled), ends with the
same outcome in the same world but for the tokens: the same engine and transport state, the same
session and the same log. -/
theorem late_cancellation_unseen (hu : u.Blind) {w : World σ}
    (hs : (u.runOf w).options.scope = .initialization) :
    ∀ v w₁, (u.untilVerified (u.runOf w)).run.run w = (.ok (.ok v), w₁) →
      let rest := u.afterVerified (u.runOf w).options (u.runOf w).session.correlation v
      u.runTask.run w = rest.run w₁ ∧
        ∀ ts, ∃ ts', rest.run (w₁.withTokens ts) = ((rest.run w₁).1, (rest.run w₁).2.withTokens ts') := by
  intro v w₁ hv rest
  exact ⟨runTask_of_verified u hv, blind_afterVerified hu hs _ v w₁⟩

end Uploader

namespace Mock

variable {σ : Type} (b : MockBehavior) (l : Lens σ MockState)

theorem blind_view : Timed.Blind (view l) := fun _ ts => ⟨ts, rfl⟩

theorem blind_store (m : MockState) : Timed.Blind (store l m) := fun _ ts => ⟨ts, rfl⟩

theorem blind_entered {α : Type} (c : EngineCall) {k : Timed σ (Except Fault α)}
    (hk : Timed.Blind k) : Timed.Blind (entered l c k) := by
  refine Timed.Blind.bind (Timed.Blind.bind (blind_view l) fun m => ?_) fun r => ?_
  · exact Timed.Blind.bind (blind_store l _) fun _ => Timed.Blind.pure _
  · rcases r with _ | _
    · exact Timed.Blind.pure _
    · exact hk

theorem blind_startJob (c : CorrelationId) (d : String) : Timed.Blind (startJob b l c d) :=
  Timed.Blind.bind (Timed.Blind.bind Timed.Blind.fresh fun _ => Timed.Blind.pure _) fun _ =>
    Timed.Blind.bind (blind_view l) fun _ => blind_store l _

theorem blind_calls :
    (∀ id, Timed.Blind (getDisk l id)) ∧ (∀ k, Timed.Blind (listJobs l k)) ∧
      (∀ id k, Timed.Blind (finalizeTransfer b l id k)) ∧ (∀ id, Timed.Blind (cancelTransfer l id)) ∧
      (∀ id, Timed.Blind (removeDisk l id)) := by
  -- each call reads the engine's part of the state, answers from it and stores it back
  refine ⟨fun id => ?_, fun k => ?_, fun id k => ?_, fun id => ?_, fun id => ?_⟩
  · refine blind_entered l _ (Timed.Blind.bind (blind_view l) fun _ => ?_)
    split
    · exact Timed.Blind.pure _
    · exact Timed.Blind.bind (blind_store l _) fun _ => Timed.Blind.pure _
  · exact blind_entered l _ (Timed.Blind.bind (blind_view l) fun _ =>
      Timed.Blind.bind (blind_store l _) fun _ => Timed.Blind.pure _)
  · refine blind_entered l _ (Timed.Blind.bind (blind_view l) fun _ => ?_)
    split
    · exact Timed.Blind.pure _
    · exact Timed.Blind.bind (blind_store l _) fun _ =>
        Timed.Blind.bind (blind_startJob b l _ _) fun _ => Timed.Blind.pure _
  · refine blind_entered l _ (Timed.Blind.bind (blind_view l) fun _ => ?_)
    split
    · exact Timed.Blind.pure _
    · exact Timed.Blind.bind (blind_store l _) fun _ => Timed.Blind.pure _
  · refine blind_entered l _ (Timed.Blind.bind (blind_view l) fun _ => ?_)
    split
    · exact Timed.Blind.pure _
    · exact Timed.Blind.bind (blind_store l _) fun _ => Timed.Blind.pure _

end Mock

namespace TransportScript

variable {σ : Type} (t : TransportScript) (l : Lens σ TransportLog) {read : BodyReader σ}
  (hread : ∀ k, Timed.Blind (read k))
include hread

theorem blind_receive : ∀ fuel acc fired, Timed.Blind (t.receive read fuel acc fired) := by
  intro fuel
  induction fuel with
  | zero => exact fun _ _ => Timed.Blind.pure _
  | succ n ih =>
    intro acc fired
    rw [receive]
    refine Timed.Blind.bind (hread _) fun r => ?_
    rcases r with e | bs
    · exact Timed.Blind.pure _
    · dsimp only
      split
      · exact Timed.Blind.pure _
      · split
        · exact Timed.Blind.bind (Timed.Blind.cancel _) fun _ => ih _ _
        · exact ih _ _

theorem blind_put (url : String) (n : Nat) : Timed.Blind (t.put l url n read) := by
  unfold put
  dsimp only
  -- a scripted panic comes before anything is read; otherwise the body is read in full
  split
  on_goal 1 => refine Timed.Blind.bind (Timed.Blind.throw _) fun _ => ?_
  all_goals
    refine Timed.Blind.bind (blind_receive t hread _ _ _) fun r => ?_
    rcases r with e | body
    · exact Timed.Blind.pure _
    · dsimp only
      split
      · exact Timed.Blind.pure _
      · split
        · exact Timed.Blind.pure _
        · exact Timed.Blind.bind (Timed.Blind.modifyState _) fun _ => Timed.Blind.pure _

end TransportScript

namespace Rehearsal

variable {b : MockBehavior} {t : TransportScript} {policies : RetryDefaults} {sparse : Bool}

theorem blind : (uploader b t policies sparse).Blind where
  getDisk := (Mock.blind_calls b engineLens).1
  listJobs := (Mock.blind_calls b engineLens).2.1
  finalizeTransfer := (Mock.blind_calls b engineLens).2.2.1
  cancelTransfer := (Mock.blind_calls b engineLens).2.2.2.1
  removeDisk := (Mock.blind_calls b engineLens).2.2.2.2
  put url n _ hread := t.blind_put transportLens hread url n

end Rehearsal

namespace Uploader

/-- A standard rehearsal from an untouched upload is blind and under the initialization scope,
so a cancellation after its endpoint is verified goes unseen. -/
theorem rehearsal_late_cancellation_unseen :
    let u := Rehearsal.uploader {} {} RetryDefaults.standard false
    let w := World.start .work (default : Rehearsal)
    u.Blind ∧ (u.runOf w).options.scope = .initialization ∧
      ∀ v w₁, (u.untilVerified (u.runOf w)).run.run w = (.ok (.ok v), w₁) →
        let rest := u.afterVerified (u.runOf w).options (u.runOf w).session.correlation v
        u.runTask.run w = rest.run w₁ ∧
          ∀ ts, ∃ ts', rest.run (w₁.withTokens ts) =
            ((rest.run w₁).1, (rest.run w₁).2.withTokens ts') :=
  ⟨Rehearsal.blind, rfl, late_cancellation_unseen Rehearsal.blind rfl⟩

end Uploader

end DiskUploader
