import DiskUploader.Proofs.RehearsalSteps
import DiskUploader.Proofs.UploadOutcome

/-!
# Uploads into a new disk

An upload into a new disk, rehearsed against an empty in-memory engine through a transport that
accepts the transfer's direct endpoint and sends a body as it is read, with a token that never
fires. Each stage of the pipeline is stated as it settles: creating the disk and waiting for it
to unlock and for its job, opening the transfer and waiting for it to start, delivering the body,
and finalizing and waiting for the disk again. Each wait runs its engine countdown out, so the
whole upload goes through exactly when the pending policy outlasts the countdowns, and then leaves
the engine, the transport and the outcome as `newDisk_upload` says.
-/

namespace DiskUploader

/-- Every deadline a retry of an upload with options `o` sets by the instant `latest` lies
within the clock's range, whatever its policy and phase. -/
def RetryDefaults.FitBy (policies : RetryDefaults) (o : UploadOptions) (latest : Nat) : Prop :=
  ∀ p, ∀ policy ∈ [policies.read, policies.write, policies.pending, policies.probe],
    (Plan.ofStrategies (o.strategies policy p)).FitsBy latest

theorem RetryDefaults.FitBy.plan {policies : RetryDefaults} {o : UploadOptions} {latest : Nat}
    (h : policies.FitBy o latest) (policy : RetryPolicy)
    (hp : policy ∈ [policies.read, policies.write, policies.pending, policies.probe]) (p : Phase)
    {t : Nat} (ht : t ≤ latest) : (Plan.ofStrategies (o.strategies policy p)).FitsBy t :=
  (h p policy hp).mono ht

/-- The calls an upload into a new disk makes of an in-memory engine whose transitions last as
`b` says, when every wait runs out: one creation each of the disk and the transfer, one
finalization, the disk read until unlocked and again until settled, its jobs listed until done
after each, and the transfer read until it starts. Nothing is cancelled or removed. -/
def MockBehavior.uploadCalls (b : MockBehavior) : EngineCall → Nat
  | .createDisk => 1
  | .getDisk => 2 * (b.lockedPolls + 1)
  | .listJobs => 2 * (b.runningJobPolls + 1)
  | .createTransfer => 1
  | .getTransfer => b.initializingPolls + 1
  | .finalizeTransfer => 1
  | .cancelTransfer => 0
  | .removeDisk => 0

/-- An in-memory engine as an upload into the new disk `d` leaves it: every call made as often as
`uploadCalls` says, `d` the only disk, ready with no polls left, the transfer `tid` finalized,
and nothing cancelled or removed. -/
structure MockState.Uploaded (m : MockState) (b : MockBehavior) (d : Disk) (tid : String) : Prop where
  calls : ∀ c, m.callCount c = b.uploadCalls c
  disks : m.disks = [⟨d, 0, none⟩]
  finalized : m.finalized = [tid]
  removed : m.removed = []
  cancelled : m.cancelled = []

/-- How long the waits of an upload into a new disk pause in all when each runs its countdown
out: the disk unlocking and its jobs, the transfer starting, and the disk settling again. -/
def UploadOptions.pauses (o : UploadOptions) (policies : RetryDefaults) (b : MockBehavior) : Nat :=
  (Plan.ofStrategies (o.strategies policies.pending .diskUnlocked)).waited b.lockedPolls +
    (Plan.ofStrategies (o.strategies policies.pending .diskUnlocked)).waited b.runningJobPolls +
    (Plan.ofStrategies (o.strategies policies.pending .transferReady)).waited b.initializingPolls +
    (Plan.ofStrategies (o.strategies policies.pending .diskStable)).waited b.lockedPolls +
    (Plan.ofStrategies (o.strategies policies.pending .diskStable)).waited b.runningJobPolls

namespace Plan

variable (p : Plan)

theorem allows_max_succ {j k : Nat} : p.Allows (max j k + 1) ↔ p.Allows (j + 1) ∧ p.Allows (k + 1) := by
  constructor
  · intro h
    exact ⟨fun n hn => h n (by omega), fun n hn => h n (by omega)⟩
  · rintro ⟨hj, hk⟩ n hn
    by_cases hnj : n < j + 1
    · exact hj n hnj
    · exact hk n (by omega)

instance (latest : Nat) : Decidable (p.FitsBy latest) :=
  inferInstanceAs (Decidable (∀ t ∈ p.timeout, _))

end Plan

/-- Whether the waits of an upload into a new disk each let the attempts they need be made when
every attempt takes no time: the disk unlocking and its jobs finishing, the transfer starting,
and the disk settling again with its jobs. Each wait runs on the strategies the pending policy
gives its own phase. -/
def UploadOptions.Outlasts (o : UploadOptions) (policies : RetryDefaults) (b : MockBehavior) : Prop :=
  (Plan.ofStrategies (o.strategies policies.pending .diskUnlocked)).Allows
      (max b.lockedPolls b.runningJobPolls + 1) ∧
    (Plan.ofStrategies (o.strategies policies.pending .transferReady)).Allows
      (b.initializingPolls + 1) ∧
    (Plan.ofStrategies (o.strategies policies.pending .diskStable)).Allows
      (max b.lockedPolls b.runningJobPolls + 1)

instance (o : UploadOptions) (policies : RetryDefaults) (b : MockBehavior) :
    Decidable (o.Outlasts policies b) :=
  inferInstanceAs (Decidable (_ ∧ _ ∧ _))

/-- The disk an upload of `req` into a new disk `id` ends with, for an image read as `info`:
ready, named and placed as asked, sized as the image says, and with the declared size as its
initial size when the image is qcow. -/
def UploadRequest.uploadedDisk (req : UploadRequest) (info : ImageInfo) (id : String) : Disk :=
  { id, aliasName := req.aliasName, status := .ok, format := info.format
    provisionedSize := info.logicalSize
    totalSize := if info.format = .cow then some req.size else none
    storageDomainIds := [req.storageDomainId] }

theorem TransportScript.accepts_unanswered {t : TransportScript} (h : t.answers = []) (url : String) :
    t.Accepts url := by
  intro log ia hia
  simp [TransportScript.answerFor, h] at hia

namespace Uploader

variable {σ : Type} {u : Uploader σ} {w w₁ : World σ}

theorem run_runTask_executed (hx : u.execute.run.run w = (.ok (.ok ()), w₁)) :
    ∃ e, u.runTask.run w = (.ok (), u.updated { w₁ with log := w₁.log.push e }
      fun r => { r with session := r.session.finish w₁.now (.ok ()) }) := by
  simp only [runTask, Timed.run_tryCatch, pipeline, Timed.run_bind, hx, run_current, run_log,
    Timed.run_now, run_changeSession]
  exact ⟨_, rfl⟩

theorem runTask_unsuccessful (hu : u.Framed) (h0 : UploadRun.Fresh (u.runOf w)) {e : Fault}
    (hx : u.execute.run.run w = (.ok (.error e), w₁)) :
    ¬ ((u.runTask.run w).1 = .ok () ∧
      ∃ out, (u.runOf (u.runTask.run w).2).session.outcome = .ok out) := by
  rintro ⟨hok, out, hout⟩
  have hdone := (runTask_closed hu h0).done.1 hok
  rcases (runTask_after_fault hu h0 hx rfl).2.2 hdone with he | ⟨m, -, he⟩ <;>
    simp [Session.outcome, he] at hout

end Uploader

namespace Rehearsal

section Stages

variable {b : MockBehavior} {tr : TransportScript} {policies : RetryDefaults} {sparse : Bool}
  {o : UploadOptions} {w₀ : World Rehearsal} {latest t k : Nat} {s : Rehearsal}
  (hsil : w₀.Silent o.cancel) (hcut : w₀.cutoffs = []) (hfit : policies.FitBy o latest)
  (hf : s.engine.faults = []) (hdone : s.run.session.done = false)

include hsil hcut hfit hf hdone

theorem acquireNew_settles (c : DiskCreation) (corr : CorrelationId)
    (hd0 : s.engine.disks = []) (hj0 : s.engine.jobs = [])
    (hcapL : b.lockedPolls < w₀.attemptCap) (hcapR : b.runningJobPolls < w₀.attemptCap)
    (hlate : t + (Plan.ofStrategies (o.strategies policies.pending .diskUnlocked)).waited b.lockedPolls +
      (Plan.ofStrategies (o.strategies policies.pending .diskUnlocked)).waited b.runningJobPolls ≤ latest) :
    Stage.Settles w₀ ((uploader b tr policies sparse).acquireDisk o corr (.newDisk c)) t k s
      ((Plan.ofStrategies (o.strategies policies.pending .diskUnlocked)).Allows (b.lockedPolls + 1) ∧
        (Plan.ofStrategies (o.strategies policies.pending .diskUnlocked)).Allows (b.runningJobPolls + 1))
      (uuidOf k)
      (t + (Plan.ofStrategies (o.strategies policies.pending .diskUnlocked)).waited b.lockedPolls +
        (Plan.ofStrategies (o.strategies policies.pending .diskUnlocked)).waited b.runningJobPolls) (k + 2)
      (· = { s with
        engine := (s.engine.creating (Mock.createdDisk b c (uuidOf k)) b.lockedPolls
            (Mock.startedJob b corr (uuidOf (k + 1)) s!"Adding disk {c.aliasName}")).stabilized
            (uuidOf k) (Mock.createdDisk b c (uuidOf k)) b.lockedPolls corr b.runningJobPolls
        run := { s.run with
          createdDisk := some (uuidOf k)
          session := { s.run.session with
            phase := some .diskUnlocked, attempting := none, diskId := some (uuidOf k) } } })
      (Recoverable w₀ latest) := by
  have hcap : 0 < w₀.attemptCap := by omega
  simp only [Uploader.acquireDisk, uploader_policies]
  refine (begin_goes hsil _).bind_settles_eq ?_
  refine (createDisk_goes hcap ?_ ?_ c corr).bind_settles_eq ?_
  · exact hf
  · exact hfit.plan policies.write (by simp) _ (by omega)
  refine (change_goes _).bind_settles_eq ?_
  refine (changeSession_goes _).bind_settles_eq ?_
  refine (reach_goes _).bind_settles_eq ?_
  refine (begin_goes hsil _).bind_settles_eq ?_
  have hjob := Mock.startedJob_runsFor b corr (uuidOf (k + 1)) s!"Adding disk {c.aliasName}"
  refine (diskStable_settles (o.strategies_attemptLimit _ _) (hfit.plan policies.read (by simp) _ le_rfl)
    (o.strategies_attemptLimit _ _) hcut (o.strategies_silent _ _ hsil) ?hf ?hdone
    ?hd rfl ?hjobs ?hlong (hfit.plan policies.pending (by simp) _ le_rfl) hlate hcapL
    hcapR).bind_goes_eq ?_
  case hf => simpa [(MockState.frame_creating _ _ _ _).faults] using hf
  case hdone => exact hdone
  case hd => simp [MockState.disk?, hd0, Mock.createdDisk]
  case hjobs => simpa [hj0] using fun _ => ⟨_, le_rfl, hjob⟩
  case hlong => simpa [hj0] using fun _ => ⟨rfl, hjob⟩
  refine (reach_goes _).bind_eq ?_
  exact Stage.goes_pure

theorem openTransfer_settles (corr : CorrelationId) {diskId : String}
    (hd : (s.engine.disk? diskId).isSome) (ht0 : s.engine.transfers = [])
    (hp : s.engine.forcedPhase = none) (hcapI : b.initializingPolls < w₀.attemptCap)
    (hlate : t + (Plan.ofStrategies (o.strategies policies.pending .transferReady)).waited
      b.initializingPolls ≤ latest) :
    Stage.Settles w₀ ((uploader b tr policies sparse).openTransfer o corr diskId) t k s
      ((Plan.ofStrategies (o.strategies policies.pending .transferReady)).Allows
        (b.initializingPolls + 1))
      { Mock.openedTransfer diskId (uuidOf k) with phase := .transferring }
      (t + (Plan.ofStrategies (o.strategies policies.pending .transferReady)).waited
        b.initializingPolls) (k + 1)
      (· = { s with
        engine := (s.engine.opening (Mock.openedTransfer diskId (uuidOf k)) b.initializingPolls).transferReads
            (uuidOf k) (Mock.openedTransfer diskId (uuidOf k)) b.initializingPolls (b.initializingPolls + 1)
        run := { s.run with
          createdTransfer := some (uuidOf k)
          session := { s.run.session with
            phase := some .transferReady, attempting := none, transferId := some (uuidOf k) } } })
      (Recoverable w₀ latest) := by
  have hcap : 0 < w₀.attemptCap := by omega
  simp only [Uploader.openTransfer, uploader_policies]
  refine (begin_goes hsil _).bind_settles_eq ?_
  refine (createTransfer_goes hcap ?_ ?_ ?_ corr).bind_settles_eq ?_
  · exact hf
  · exact hfit.plan policies.write (by simp) _ (by omega)
  · exact hd
  refine (change_goes _).bind_settles_eq ?_
  refine (changeSession_goes _).bind_settles_eq ?_
  refine (reach_goes _).bind_settles_eq ?_
  refine (begin_goes hsil _).bind_settles_eq ?_
  refine (transfer_settles hsil hcut (hfit.plan policies.read (by simp) _ le_rfl)
    (hfit.plan policies.pending (by simp) _ (by omega)) ?hf ?hp ?hdone ?ht rfl rfl hlate
    hcapI).bind_goes_eq ?_
  case hf => simpa [(MockState.frame_opening _ _ _).faults] using hf
  case hp => simpa [(MockState.frame_opening _ _ _).forcedPhase] using hp
  case hdone => exact hdone
  case ht => simp [MockState.transfer?, ht0, Mock.openedTransfer]
  refine (reach_goes _).bind_eq ?_
  exact Stage.goes_pure

omit hcut hf hdone in
theorem deliver_goes {B : ByteArray} {n : Nat} (hno : tr.cancelOnProbe = none) (hsend : tr.Sends B)
    {tx : Transfer} {url : String} {rest : List String} (hc : tx.candidateUrls = url :: rest)
    (hacc : tr.Accepts url) (hcap : 0 < w₀.attemptCap) (ht : t ≤ latest)
    (htotal : s.run.session.total = n) (hcnt : s.run.counted = 0)
    (hu : s.run.session.uploaded = 0) (hb : s.run.body.At B n 0) :
    Stage.Goes w₀ ((uploader b tr policies sparse).deliver o tx) t k s () t k
      (fun s' => ∃ used bd', s' = { s with
        transport := { s.transport with
          probes := s.transport.probes ++ [url], used
          deliveries := s.transport.deliveries ++ [⟨url, n, true⟩] }
        run := { s.run with
          body := bd', counted := n
          session := { s.run.session with
            url := some url, phase := some .bytesSent, attempting := none, uploaded := n } } }) := by
  simp only [Uploader.deliver]
  refine (begin_goes hsil _).bind_eq ?_
  refine (verifyUrl_goes hno hc hacc hcap (hfit.plan policies.probe (by simp) _ ht)).bind
    fun s₂ hs₂ => ?_
  obtain ⟨used, rfl⟩ := hs₂
  refine (changeSession_goes _).bind_eq ?_
  refine (reach_goes _).bind_eq ?_
  refine (begin_goes hsil _).bind_eq ?_
  refine (sendBytes_goes (n := n) hsend hsil url ?htotal ?hcnt ?hu ?hb).bind fun s₆ hs₆ => ?_
  case htotal => exact htotal
  case hcnt => exact hcnt
  case hu => exact hu
  case hb => exact hb
  obtain ⟨bd', rfl⟩ := hs₆
  exact (reach_goes _).imp fun s' hs' => ⟨used, bd', hs'⟩

theorem settle_settles (corr : CorrelationId) {diskId : String} {tx : Transfer} {d : Disk}
    (ht : (s.engine.transfer? tx.id).map (·.transfer.diskId) = some diskId)
    (hd : s.engine.disk? diskId = some ⟨d, 0, none⟩) (hid : d.id = diskId)
    (hsa : s.engine.statusAfterFinalize = none)
    (hjobs : ∀ x ∈ s.engine.jobs, x.correlation = corr → x.RunsFor 0)
    (hcapL : b.lockedPolls < w₀.attemptCap) (hcapR : b.runningJobPolls < w₀.attemptCap)
    (hlate : t + (Plan.ofStrategies (o.strategies policies.pending .diskStable)).waited b.lockedPolls +
      (Plan.ofStrategies (o.strategies policies.pending .diskStable)).waited b.runningJobPolls ≤ latest) :
    Stage.Settles w₀ ((uploader b tr policies sparse).settle o corr diskId tx) t k s
      ((Plan.ofStrategies (o.strategies policies.pending .diskStable)).Allows (b.lockedPolls + 1) ∧
        (Plan.ofStrategies (o.strategies policies.pending .diskStable)).Allows (b.runningJobPolls + 1))
      ()
      (t + (Plan.ofStrategies (o.strategies policies.pending .diskStable)).waited b.lockedPolls +
        (Plan.ofStrategies (o.strategies policies.pending .diskStable)).waited b.runningJobPolls) (k + 1)
      (· = { s with
        engine := (s.engine.finalizing tx.id diskId b.lockedPolls
            (Mock.startedJob b corr (uuidOf k) s!"Finalizing transfer {tx.id}")).stabilized
            diskId d b.lockedPolls corr b.runningJobPolls
        run := { s.run with
          session := { s.run.session with
            phase := some .diskStable, attempting := none, disk := some { d with status := .ok } } } })
      (Recoverable w₀ latest) := by
  have hcap : 0 < w₀.attemptCap := by omega
  obtain ⟨st, hst, hdisk⟩ := Option.map_eq_some_iff.1 ht
  simp only [Uploader.settle, uploader_policies]
  refine (begin_goes hsil _).bind_settles_eq ?_
  refine (finalizeTransfer_goes (s := { s with run := { s.run with
      session := s.run.session.begin .finalized } }) hcap hf
    (hfit.plan policies.write (by simp) _ (by omega)) hst corr).bind_settles fun s₂ hs₂ => ?_
  rw [hdisk] at hs₂
  subst hs₂
  refine (reach_goes _).bind_settles_eq ?_
  refine (begin_goes hsil _).bind_settles_eq ?_
  have hjob := Mock.startedJob_runsFor b corr (uuidOf k) s!"Finalizing transfer {tx.id}"
  refine (diskStable_settles (o.strategies_attemptLimit _ _) (hfit.plan policies.read (by simp) _ le_rfl)
    (o.strategies_attemptLimit _ _) hcut (o.strategies_silent _ _ hsil) ?hf ?hdone
    ?hd hid ?hjobs ?hlong (hfit.plan policies.pending (by simp) _ le_rfl) hlate hcapL
    hcapR).bind_goes_eq ?_
  case hf => simpa using hf
  case hdone => exact hdone
  case hd => simpa [hsa] using MockState.disk?_finalizing _ hd
  case hjobs =>
    simp only [MockState.jobs_finalizing, List.mem_append, List.mem_singleton]
    rintro x (hx | rfl) hc
    · exact ⟨0, Nat.zero_le _, hjobs x hx hc⟩
    · exact ⟨_, le_rfl, hjob⟩
  case hlong => exact fun _ => ⟨_, by simp, rfl, hjob⟩
  refine (changeSession_goes _).bind_eq ?_
  exact (reach_goes _)

omit hf in
theorem execute_settles {B : ByteArray} {n : Nat} (c : DiskCreation) (hno : tr.cancelOnProbe = none)
    (hsend : tr.Sends B)
    (hacc : tr.Accepts s!"https://host.mock:54322/images/{uuidOf (k + 2)}")
    (hm : s.engine = {}) (hopt : s.run.options = o) (htarget : s.run.target = .newDisk c)
    (htotal : s.run.session.total = n) (hcnt : s.run.counted = 0)
    (hu : s.run.session.uploaded = 0) (hb : s.run.body.At B n 0)
    (hcapL : b.lockedPolls < w₀.attemptCap) (hcapR : b.runningJobPolls < w₀.attemptCap)
    (hcapI : b.initializingPolls < w₀.attemptCap)
    (hlate : t + o.pauses policies b ≤ latest) :
    Stage.Settles w₀ (uploader b tr policies sparse).execute t k s
      (((Plan.ofStrategies (o.strategies policies.pending .diskUnlocked)).Allows (b.lockedPolls + 1) ∧
        (Plan.ofStrategies (o.strategies policies.pending .diskUnlocked)).Allows (b.runningJobPolls + 1)) ∧
        ((Plan.ofStrategies (o.strategies policies.pending .transferReady)).Allows
          (b.initializingPolls + 1) ∧
        ((Plan.ofStrategies (o.strategies policies.pending .diskStable)).Allows (b.lockedPolls + 1) ∧
          (Plan.ofStrategies (o.strategies policies.pending .diskStable)).Allows (b.runningJobPolls + 1))))
      () (t + o.pauses policies b) (k + 4)
      (fun s' => ∃ used bd',
        s'.transport = { s.transport with
          probes := s.transport.probes ++ [s!"https://host.mock:54322/images/{uuidOf (k + 2)}"], used
          deliveries := s.transport.deliveries ++
            [⟨s!"https://host.mock:54322/images/{uuidOf (k + 2)}", n, true⟩] } ∧
        s'.run = { s.run with
          body := bd', counted := n, createdDisk := some (uuidOf k), createdTransfer := some (uuidOf (k + 2))
          session := { s.run.session with
            phase := some .diskStable, attempting := none, uploaded := n
            diskId := some (uuidOf k), transferId := some (uuidOf (k + 2))
            url := some s!"https://host.mock:54322/images/{uuidOf (k + 2)}"
            disk := some { Mock.createdDisk b c (uuidOf k) with status := .ok } } } ∧
        s'.engine.Uploaded b { Mock.createdDisk b c (uuidOf k) with status := .ok } (uuidOf (k + 2)))
      (Recoverable w₀ latest) := by
  simp only [Uploader.execute]
  refine current_goes.bind_settles_eq ?_
  rw [hopt, htarget]
  simp only [UploadOptions.pauses] at hlate
  have hjob₁ := Mock.startedJob_runsFor b s.run.session.correlation (uuidOf (k + 1))
    s!"Adding disk {c.aliasName}"
  -- the disk is created and unlocked, with its job finished
  refine (acquireNew_settles hsil hcut hfit (by simp [hm])
    hdone c _ (by simp [hm]) (by simp [hm]) hcapL hcapR (by omega)).bind fun _ s₁ hs₁ => ?_
  have hf₁ : s₁.engine.faults = [] := by
    rw [hs₁]
    simp [(MockState.frame_stabilized _ _ _ _ _ _).faults, (MockState.frame_creating _ _ _ _).faults, hm]
  have hd₁ : s₁.engine.disk? (uuidOf k) =
      some ⟨{ Mock.createdDisk b c (uuidOf k) with status := .ok }, 0, none⟩ := by
    rw [hs₁]
    exact MockState.disk?_stabilized _ _ (by simp [MockState.disk?, hm, Mock.createdDisk]) rfl
  have ht₁ : s₁.engine.transfers = [] := by
    rw [hs₁]
    simp [MockState.transfers_stabilized, hm]
  have hp₁ : s₁.engine.forcedPhase = none := by
    rw [hs₁]
    simp [(MockState.frame_stabilized _ _ _ _ _ _).forcedPhase, (MockState.frame_creating _ _ _ _).forcedPhase, hm]
  have hsa₁ : s₁.engine.statusAfterFinalize = none := by
    rw [hs₁]
    simp [(MockState.frame_stabilized _ _ _ _ _ _).statusAfterFinalize,
      (MockState.frame_creating _ _ _ _).statusAfterFinalize, hm]
  have hj₁ : ∀ x ∈ s₁.engine.jobs, x.correlation = s.run.session.correlation → x.RunsFor 0 := by
    rw [hs₁]
    exact MockState.jobs_stabilized _ _ (by simpa [hm] using fun _ => ⟨_, le_rfl, hjob₁⟩)
  have hdone₁ : s₁.run.session.done = false := by rw [hs₁]; exact hdone
  -- the transfer is opened and starts transferring
  refine (openTransfer_settles hsil hcut hfit hf₁ hdone₁ _ (by rw [hd₁]; rfl) ht₁ hp₁ hcapI
    (by omega)).bind fun _ s₂ hs₂ => ?_
  have hf₂ : s₂.engine.faults = [] := by
    rw [hs₂]
    simp [(MockState.frame_transferReads _ _ _ _ _).faults, (MockState.frame_opening _ _ _).faults, hf₁]
  have ht₂ : s₂.engine.transfer? (uuidOf (k + 2)) = some (StoredTransfer.initializingAfter
      (Mock.openedTransfer (uuidOf k) (uuidOf (k + 2))) b.initializingPolls (b.initializingPolls + 1)) := by
    rw [hs₂]
    exact MockState.transfer?_transferReads (by simp [MockState.transfer?, ht₁, Mock.openedTransfer]) (by rfl) _
  have hD₂ : s₂.engine.disks = s₁.engine.disks := by
    rw [hs₂]
    exact (MockState.disks_transferReads _ _ _ _ _).trans (MockState.disks_opening _ _ _)
  have hJ₂ : s₂.engine.jobs = s₁.engine.jobs := by
    rw [hs₂]
    exact (MockState.jobs_transferReads _ _ _ _ _).trans (MockState.jobs_opening _ _ _)
  have hsa₂ : s₂.engine.statusAfterFinalize = none := by
    rw [hs₂]
    simp [(MockState.frame_transferReads _ _ _ _ _).statusAfterFinalize,
      (MockState.frame_opening _ _ _).statusAfterFinalize, hsa₁]
  have hrun₂ : s₂.run.session.total = n ∧ s₂.run.counted = 0 ∧ s₂.run.session.uploaded = 0 ∧
      s₂.run.body.At B n 0 ∧ s₂.run.session.done = false := by
    rw [hs₂, hs₁]
    exact ⟨htotal, hcnt, hu, hb, hdone⟩
  -- the image is sent to the transfer's direct endpoint
  refine (deliver_goes (n := n) hsil hfit hno hsend (Mock.candidateUrls_openedTransfer _ _ _) hacc
    (by omega) (by omega) hrun₂.1 hrun₂.2.1 hrun₂.2.2.1 hrun₂.2.2.2.1).bind_settles fun s₃ hs₃ => ?_
  obtain ⟨used, bd', hs₃⟩ := hs₃
  have he₃ : s₃.engine = s₂.engine := by rw [hs₃]
  -- the transfer is finalized and the disk settles again
  refine Stage.Settles.cast_end ((settle_settles (d := { Mock.createdDisk b c (uuidOf k) with status := .ok })
    hsil hcut hfit (he₃ ▸ hf₂) (by rw [hs₃]; exact hrun₂.2.2.2.2) _ (by rw [he₃]; exact (congrArg (Option.map _) ht₂).trans rfl)
    (by rw [he₃, MockState.disk?_of_disks hD₂]; exact hd₁) rfl (he₃ ▸ hsa₂) (by rw [he₃, hJ₂]; exact hj₁)
    hcapL hcapR (by omega)).imp fun s₄ hs₄ => ?_) (by simp only [UploadOptions.pauses]; omega) rfl
  refine ⟨used, bd', by rw [hs₄, hs₃, hs₂, hs₁], ?_, ?_⟩
  · rw [hs₄, hs₃, hs₂, hs₁]
    simp only [hopt, htarget]
  -- what the engine holds: every call counted, one ready disk, the transfer finalized
  have hF₂ : MockState.Frame s.engine s₂.engine := by
    rw [hs₂, hs₁]
    exact ((MockState.frame_creating _ _ _ _).trans (MockState.frame_stabilized _ _ _ _ _ _)).trans
      ((MockState.frame_opening _ _ _).trans (MockState.frame_transferReads _ _ _ _ _))
  have hc₂ : ∀ c', s₂.engine.callCount c' = (if c' = .createDisk then 1 else 0) +
      (if c' = .getDisk then b.lockedPolls + 1 else 0) + (if c' = .listJobs then b.runningJobPolls + 1 else 0) +
      (if c' = .createTransfer then 1 else 0) + (if c' = .getTransfer then b.initializingPolls + 1 else 0) := by
    intro c'
    rw [hs₂, hs₁]
    simp only [MockState.callCount_transferReads, MockState.callCount_opening, MockState.callCount_stabilized,
      MockState.callCount_creating, hm]
    simp [MockState.callCount]
  have hD₁ : s₁.engine.disks = [⟨{ Mock.createdDisk b c (uuidOf k) with status := .ok }, 0, none⟩] := by
    rw [hs₁]
    exact MockState.disks_stabilized _ _ (by simp [hm]) rfl
  have hDf : (s₂.engine.finalizing (uuidOf (k + 2)) (uuidOf k) b.lockedPolls
      (Mock.startedJob b s.run.session.correlation (uuidOf (k + 3))
        s!"Finalizing transfer {uuidOf (k + 2)}")).disks =
      [⟨{ Mock.createdDisk b c (uuidOf k) with status := .ok }, b.lockedPolls, none⟩] := by
    rw [MockState.disks_finalizing _ (hD₂.trans hD₁) (by rfl), hsa₂]
  rw [hs₄]
  dsimp only
  rw [he₃]
  refine ⟨fun c' => ?_, MockState.disks_stabilized _ _ hDf rfl, ?_, ?_, ?_⟩
  · rw [MockState.callCount_stabilized, MockState.callCount_finalizing, hc₂]
    cases c' <;> simp [MockBehavior.uploadCalls] <;> omega
  · rw [(MockState.frame_stabilized _ _ _ _ _ _).finalized, MockState.finalized_finalizing, hF₂.finalized, hm]
    rfl
  · rw [(MockState.frame_stabilized _ _ _ _ _ _).removed, MockState.removed_finalizing, hF₂.removed, hm]
  · rw [(MockState.frame_stabilized _ _ _ _ _ _).cancelled, MockState.cancelled_finalizing, hF₂.cancelled, hm]

end Stages

theorem startNew_run {b : MockBehavior} {tr : TransportScript} {policies : RetryDefaults}
    {sparse : Bool} (req : UploadRequest) {src : ImageSource} (o : UploadOptions) (w : World Rehearsal)
    (h0 : src.position = 0) (hsize : qcowHeaderLength ≤ src.bytes.size)
    {info : ImageInfo} (hs : sniff req.size (src.bytes.extract 0 qcowHeaderLength) = .ok info) :
    ∃ lg, ((uploader b tr policies sparse).startNew req src o).run w = (.ok (.ok ()), { w with
      serial := w.serial + 1, log := lg
      state := { w.state with run :=
        { session := { aliasName := req.aliasName
                       correlation := CorrelationId.generate "image_upload" req.aliasName w.serial
                       image := info, cancelToken := o.cancel, startedAt := w.now }
          target := .newDisk { storageDomainId := req.storageDomainId, aliasName := req.aliasName
                               format := info.format, provisionedSize := info.logicalSize
                               initialSize := if info.format = .cow then some info.declaredSize else none
                               sparse := req.sparse.getD sparse }
          options := o
          body := ⟨{ ahead := src.bytes.extract 0 qcowHeaderLength
                     source := { src with position := qcowHeaderLength } }, info.declaredSize⟩ } } }) := by
  apply Exists.intro
  simp only [Uploader.startNew, peekImage_replay h0 hsize, hs, Except.map]
  simp [Timed.run_bind, Timed.fresh]
  rfl

/-- Where an upload into a new disk can be rehearsed from: an in-memory engine with nothing in
it, an upload token that never fires, no attempt limit running, room in the attempt cap for every
countdown of the engine, and every deadline the upload's retries set in the clock's range. -/
structure Opening (b : MockBehavior) (policies : RetryDefaults) (o : UploadOptions)
    (w : World Rehearsal) : Prop where
  empty : w.state.engine = {}
  silent : w.Silent o.cancel
  idle : w.cutoffs = []
  lockedCap : b.lockedPolls < w.attemptCap
  runningCap : b.runningJobPolls < w.attemptCap
  initializingCap : b.initializingPolls < w.attemptCap
  fits : policies.FitBy o (w.now + o.pauses policies b)

section Task

variable {b : MockBehavior} {tr : TransportScript} {policies : RetryDefaults} {sparse : Bool}
  {o : UploadOptions} {w : World Rehearsal}

/-- The task of an upload into a new disk, set up from an opening: when the pending policy
outlasts every countdown, it goes through after every wait ran out, leaving the engine as an
upload leaves it, the body delivered once to the transfer's direct endpoint, and the disk and
transfer as its outcome; otherwise it finishes without one. -/
theorem runTask_newDisk {B : ByteArray} {n : Nat} (hw : Opening b policies o w) (c : DiskCreation)
    (hno : tr.cancelOnProbe = none) (hsend : tr.Sends B)
    (hacc : tr.Accepts s!"https://host.mock:54322/images/{uuidOf (w.serial + 2)}")
    (hr : UploadRun.Fresh w.state.run) (hopt : w.state.run.options = o)
    (htarget : w.state.run.target = .newDisk c) (htotal : w.state.run.session.total = n)
    (hcnt : w.state.run.counted = 0) (hb : w.state.run.body.At B n 0) :
    (o.Outlasts policies b →
      ((uploader b tr policies sparse).runTask.run w).1 = .ok () ∧
        ((uploader b tr policies sparse).runTask.run w).2.state.engine.Uploaded b
          { Mock.createdDisk b c (uuidOf w.serial) with status := .ok } (uuidOf (w.serial + 2)) ∧
        ((uploader b tr policies sparse).runTask.run w).2.state.transport.deliveries =
          w.state.transport.deliveries ++
            [⟨s!"https://host.mock:54322/images/{uuidOf (w.serial + 2)}", n, true⟩] ∧
        ((uploader b tr policies sparse).runTask.run w).2.state.run.session.outcome =
          .ok ⟨{ Mock.createdDisk b c (uuidOf w.serial) with status := .ok }, uuidOf (w.serial + 2), n⟩ ∧
        ((uploader b tr policies sparse).runTask.run w).2.now = w.now + o.pauses policies b) ∧
    (¬ o.Outlasts policies b →
      ¬ (((uploader b tr policies sparse).runTask.run w).1 = .ok () ∧
        ∃ out, ((uploader b tr policies sparse).runTask.run w).2.state.run.session.outcome = .ok out)) := by
  -- the five waits of the pipeline are the three of the pending policy's phases
  have hends : Stage.Ends _ _ _ ((uploader b tr policies sparse).execute.run.run w) :=
    (execute_settles hw.silent hw.idle hw.fits hr.session.done c hno hsend hacc hw.empty hopt
      htarget htotal hcnt hr.session.uploaded hb hw.lockedCap hw.runningCap hw.initializingCap
      le_rfl).congr_cond
      (by simp only [UploadOptions.Outlasts, Plan.allows_max_succ] : _ ↔ o.Outlasts policies b)
      w (World.Lands.refl w)
  rcases hx : (uploader b tr policies sparse).execute.run.run w with ⟨i | e | _, w'⟩ <;>
    rw [hx] at hends
  · exact hends.elim
  · exact ⟨fun hC => absurd hC hends.1,
      fun _ => Uploader.runTask_unsuccessful Rehearsal.framed hr hx⟩
  · obtain ⟨hC, -, s', ⟨used, bd', htr, hrun, hup⟩, hl⟩ := hends
    obtain ⟨ev, htask⟩ := Uploader.run_runTask_executed hx
    refine ⟨fun _ => ?_, fun hnC => absurd hC hnC⟩
    rw [htask]
    refine ⟨rfl, ?_, ?_, ?_, hl.now⟩
    · show w'.state.engine.Uploaded _ _ _
      rw [hl.state]
      exact hup
    · show w'.state.transport.deliveries = _
      rw [hl.state, htr]
    · show (w'.state.run.session.finish w'.now (.ok ())).outcome = _
      rw [hl.state, hrun]
      simp [Session.finish, Session.outcome, hr.session.done, hr.session.error]

theorem Opening.started (hw : Opening b policies o w) (k : Nat) (lg : Array LogEvent) (r : UploadRun) :
    Opening b policies o { w with serial := k, log := lg, state := { w.state with run := r } } :=
  ⟨hw.empty, hw.silent, hw.idle, hw.lockedCap, hw.runningCap, hw.initializingCap, hw.fits⟩

/-- The disk the in-memory engine creates for an image read as `info` ends ready as the disk the
request asked for. -/
theorem createdDisk_uploaded {req : UploadRequest} {info : ImageInfo}
    (hdecl : info.declaredSize = req.size) (sparse : Bool) (id : String) :
    { Mock.createdDisk b
        { storageDomainId := req.storageDomainId, aliasName := req.aliasName, format := info.format
          provisionedSize := info.logicalSize
          initialSize := if info.format = .cow then some info.declaredSize else none
          sparse := req.sparse.getD sparse } id with status := .ok } = req.uploadedDisk info id := by
  simp [Mock.createdDisk, UploadRequest.uploadedDisk, hdecl]

/-- Starting an upload into a new disk from a sound stream at its start, long enough for the
header and the declared size, sets up a fresh upload of the request's disk whose body yields the
first `req.size` bytes of the stream, moving only the serial and the log. -/
theorem startNew_spec (req : UploadRequest) {src : ImageSource} (o : UploadOptions)
    (w : World Rehearsal) (h0 : src.position = 0)
    (hsize : max qcowHeaderLength req.size ≤ src.bytes.size) {info : ImageInfo}
    (hs : sniff req.size (src.bytes.extract 0 qcowHeaderLength) = .ok info) :
    ∃ lg r, ((uploader b tr policies sparse).startNew req src o).run w =
        (.ok (.ok ()), { w with serial := w.serial + 1, log := lg, state := { w.state with run := r } }) ∧
      UploadRun.Fresh r ∧ r.options = o ∧
      r.target = .newDisk
        { storageDomainId := req.storageDomainId, aliasName := req.aliasName, format := info.format
          provisionedSize := info.logicalSize
          initialSize := if info.format = .cow then some info.declaredSize else none
          sparse := req.sparse.getD sparse } ∧
      r.session.total = req.size ∧ r.counted = 0 ∧ r.body.At src.bytes req.size 0 := by
  have hdecl := sniff_declared hs
  obtain ⟨lg, hrun⟩ := @startNew_run b tr policies sparse req src o w h0 (by omega) info hs
  refine ⟨lg, _, hrun, ⟨⟨rfl, rfl, rfl, rfl, rfl, rfl, rfl, rfl⟩, rfl, rfl⟩, rfl, rfl, hdecl, rfl, ?_⟩
  rw [hdecl]
  exact Body.at_start (by omega) (by omega)

/-- An upload into a new disk, from its start on an opening: it always starts, and then goes
through exactly when the pending policy outlasts every countdown of the engine, leaving the
engine as an upload leaves it with the disk the request asked for, the first `req.size` bytes of
the image delivered once to the transfer's direct endpoint, that disk and transfer and every byte
as its outcome, and the clock moved on by the waits. Otherwise it finishes without an outcome. -/
theorem newDisk_upload {req : UploadRequest} {src : ImageSource} (hw : Opening b policies o w)
    (h0 : src.position = 0)
    (hsize : max qcowHeaderLength req.size ≤ src.bytes.size) (hsend : tr.Sends src.bytes)
    (hno : tr.cancelOnProbe = none)
    (hacc : tr.Accepts s!"https://host.mock:54322/images/{uuidOf (w.serial + 3)}") :
    let u := uploader b tr policies sparse
    let w₁ := ((u.startNew req src o).run w).2
    let w₂ := (u.runTask.run w₁).2
    ((u.startNew req src o).run w).1 = .ok (.ok ()) ∧
      (o.Outlasts policies b → (u.runTask.run w₁).1 = .ok () ∧
        ∃ info, sniff req.size (src.bytes.extract 0 qcowHeaderLength) = .ok info ∧
          w₂.state.engine.Uploaded b (req.uploadedDisk info (uuidOf (w.serial + 1)))
            (uuidOf (w.serial + 3)) ∧
          w₂.state.transport.deliveries = w.state.transport.deliveries ++
            [⟨s!"https://host.mock:54322/images/{uuidOf (w.serial + 3)}", req.size, true⟩] ∧
          w₂.state.run.session.outcome =
            .ok ⟨req.uploadedDisk info (uuidOf (w.serial + 1)), uuidOf (w.serial + 3), req.size⟩ ∧
          w₂.now = w.now + o.pauses policies b) ∧
      (¬ o.Outlasts policies b →
        ¬ ((u.runTask.run w₁).1 = .ok () ∧ ∃ out, w₂.state.run.session.outcome = .ok out)) := by
  intro u w₁ w₂
  -- the header is long enough to be read, as qcow or else as raw
  have hhdr : qcowHeaderLength ≤ (src.bytes.extract 0 qcowHeaderLength).size := by
    simp only [ByteArray.size_extract]
    omega
  obtain ⟨info, hs⟩ := @sniff_ok req.size _ hhdr
  have hdecl := sniff_declared hs
  obtain ⟨lg, r, hrun, hfresh, hopt, htarget, htotal, hcnt, hb⟩ :=
    @startNew_spec b tr policies sparse req src o w h0 hsize info hs
  have htask := @runTask_newDisk b tr policies sparse o _ _ _ (hw.started (w.serial + 1) lg r) _ hno hsend hacc
    hfresh hopt htarget htotal hcnt hb
  simp only [w₂, w₁, u, hrun]
  refine ⟨trivial, fun hC => ?_, htask.2⟩
  obtain ⟨hok, hup, hdel, hout, hnow⟩ := htask.1 hC
  rw [createdDisk_uploaded hdecl] at hup hout
  exact ⟨hok, info, hs, hup, hdel, hout, hnow⟩

/-- An upload into a new disk on an empty in-memory engine, through a transport that accepts the
transfer's direct endpoint and sends as it reads, goes through exactly when the pending policy
outlasts every countdown; then the engine saw each call as often as `uploadCalls` says and holds
the one disk the request asked for, sized as the sniffed image says, the first `req.size` bytes
of the image were delivered, and the outcome reports that disk, the transfer and `req.size` bytes. -/
theorem newDisk_succeeds_iff_pending_outlasts {req : UploadRequest} {src : ImageSource}
    (hw : Opening b policies o w) (h0 : src.position = 0)
    (hsize : max qcowHeaderLength req.size ≤ src.bytes.size) (hsend : tr.Sends src.bytes)
    (hno : tr.cancelOnProbe = none)
    (hacc : tr.Accepts s!"https://host.mock:54322/images/{uuidOf (w.serial + 3)}") :
    let u := uploader b tr policies sparse
    let w₁ := ((u.startNew req src o).run w).2
    let w₂ := (u.runTask.run w₁).2
    ((u.startNew req src o).run w).1 = .ok (.ok ()) ∧
      (((u.runTask.run w₁).1 = .ok () ∧ ∃ out, w₂.state.run.session.outcome = .ok out) ↔
        o.Outlasts policies b) ∧
      (o.Outlasts policies b →
        ∃ info, sniff req.size (src.bytes.extract 0 qcowHeaderLength) = .ok info ∧
          w₂.state.engine.Uploaded b (req.uploadedDisk info (uuidOf (w.serial + 1)))
            (uuidOf (w.serial + 3)) ∧
          w₂.state.transport.deliveries = w.state.transport.deliveries ++
            [⟨s!"https://host.mock:54322/images/{uuidOf (w.serial + 3)}", req.size, true⟩] ∧
          w₂.state.run.session.outcome =
            .ok ⟨req.uploadedDisk info (uuidOf (w.serial + 1)), uuidOf (w.serial + 3), req.size⟩) := by
  dsimp only
  obtain ⟨hstart, hgoes, hfails⟩ := @newDisk_upload b tr policies sparse o w req src hw h0 hsize hsend
    hno hacc
  refine ⟨hstart, ⟨fun hok => ?_, fun hC => ?_⟩, fun hC => ?_⟩
  · by_contra hnC
    exact hfails hnC hok
  · obtain ⟨hdone, info, -, -, -, hout, -⟩ := hgoes hC
    exact ⟨hdone, _, hout⟩
  · obtain ⟨-, info, hs, hup, hdel, hout, -⟩ := hgoes hC
    exact ⟨info, hs, hup, hdel, hout⟩

/-- A rehearsal of an upload of a 72-byte raw image into a new disk with the standard policies
and the engine's standard countdowns. -/
theorem newDisk_standard_succeeds :
    let img : ByteArray := ⟨Array.replicate 72 0⟩
    let u := uploader {} { source := img } RetryDefaults.standard false
    let w : World Rehearsal := { World.start .work (default : Rehearsal) with tokens := #[{}] }
    let req : UploadRequest := ⟨"sd", "disk", 72, none⟩
    let src : ImageSource := { bytes := img, chunking := .uniform 8192 (by decide) }
    let w₁ := ((u.startNew req src ⟨0, .initialization⟩).run w).2
    let w₂ := (u.runTask.run w₁).2
    ((u.startNew req src ⟨0, .initialization⟩).run w).1 = .ok (.ok ()) ∧
      (((u.runTask.run w₁).1 = .ok () ∧ ∃ out, w₂.state.run.session.outcome = .ok out) ↔
        UploadOptions.Outlasts ⟨0, .initialization⟩ RetryDefaults.standard {}) ∧
      (UploadOptions.Outlasts ⟨0, .initialization⟩ RetryDefaults.standard {} →
        ∃ info, sniff req.size (src.bytes.extract 0 qcowHeaderLength) = .ok info ∧
          w₂.state.engine.Uploaded {} (req.uploadedDisk info (uuidOf 1)) (uuidOf 3) ∧
          w₂.state.transport.deliveries = w.state.transport.deliveries ++
            [⟨s!"https://host.mock:54322/images/{uuidOf 3}", req.size, true⟩] ∧
          w₂.state.run.session.outcome = .ok ⟨req.uploadedDisk info (uuidOf 1), uuidOf 3, req.size⟩) :=
  newDisk_succeeds_iff_pending_outlasts
    ⟨rfl, fun t ht => by simp at ht; simp [← ht], rfl, by decide, by decide, by decide,
      fun p => by cases p <;> decide⟩
    rfl (by decide) ⟨rfl, rfl, by decide, rfl, rfl⟩ rfl
    (TransportScript.accepts_unanswered rfl _)

/-- An empty pending policy does not bound the waits by the default attempts: the cancellation
the initialization scope adds makes its list non-empty, so the disk's unlocking and the transfer's
start run on the fallback time limit alone, and an upload whose transfer initializes for five polls
goes through though the defaults allow only three attempts. -/
theorem newDisk_succeeds_past_pending_attempts :
    let img : ByteArray := ⟨Array.ofFn (n := 4096) fun i => (i.val * 7 % 256).toUInt8⟩
    let b : MockBehavior := ⟨2, 0, 5⟩
    let policies : RetryDefaults :=
      { read := ⟨some 3, some 10, none, some 5⟩, write := ⟨some 3, some 10, none, some 5⟩
        pending := {}, probe := ⟨some 2, some 10, none, some 5⟩ }
    let u := uploader b { source := img } policies true
    let w : World Rehearsal := { World.start .work (default : Rehearsal) with tokens := #[{}] }
    let w₁ := ((u.startNew ⟨"sd-1", "image", 4096, none⟩ { bytes := img, chunking := .uniform 4096 (by decide) }
      ⟨0, .initialization⟩).run w).2
    ((u.runTask.run w₁).1 = .ok () ∧ ∃ out, (u.runTask.run w₁).2.state.run.session.outcome = .ok out) ∧
      ¬ (Plan.ofStrategies policies.pending.strategies).Allows
        (max b.lockedPolls (max b.runningJobPolls b.initializingPolls) + 1) := by
  intro img b policies u w w₁
  obtain ⟨-, hgoes, -⟩ := @newDisk_upload b { source := img } policies true ⟨0, .initialization⟩ w
    ⟨"sd-1", "image", 4096, none⟩ { bytes := img, chunking := .uniform 4096 (by decide) }
    ⟨rfl, fun t ht => by simp [w] at ht; simp [← ht], rfl, by decide, by decide, by decide,
      fun p => by cases p <;> decide⟩
    rfl (by simp [img, ByteArray.size, qcowHeaderLength]) ⟨rfl, rfl, by decide, rfl, rfl⟩ rfl
    (TransportScript.accepts_unanswered rfl _)
  obtain ⟨hdone, _, -, -, -, hout, -⟩ := hgoes (by decide)
  simp only [w₁, u]
  exact ⟨⟨hdone, _, hout⟩, by decide⟩

end Task

end Rehearsal

end DiskUploader
