import DiskUploader.Proofs.MockCalls

/-!
# Waiting on the in-memory engine

The in-memory engine's transitional states are countdowns. A disk stored with `L` locked polls
is read locked `L` times and then ok; a transfer with `I` initializing polls is read
initializing `I` times and then transferring; a job with `R` running polls is listed running `R`
times and then finished. Each countdown is an orbit of engine states, one step per poll, that
leaves everything but the counted calls and the polled entry alone.

Waiting for a disk to become ok, or for the jobs of a correlation id to finish, is then a retried
countdown: it ends as its plan allows, after as many polls as the countdown is long plus one.
-/

namespace DiskUploader

def StoredDisk.lockedAfter (d : Disk) (L : Nat) : Nat → StoredDisk
  | 0 => ⟨d, L, none⟩
  | j + 1 => ⟨{ d with status := if j < L then .locked else .ok }, L - (j + 1), none⟩

theorem StoredDisk.polled_lockedAfter (d : Disk) (L j : Nat) :
    (lockedAfter d L j).polled = lockedAfter d L (j + 1) := by
  cases j with
  | zero =>
    by_cases hL : 0 < L
    · simp [lockedAfter, polled, hL]
    · simp [lockedAfter, polled, hL]
      omega
  | succ j =>
    -- a read while polls are left keeps the disk locked; after them it stays ok
    by_cases hj : j + 1 < L
    · simp [lockedAfter, polled, hj, show 0 < L - (j + 1) by omega, show j < L by omega]
      omega
    · simp [lockedAfter, polled, hj, show L - (j + 1) = 0 by omega, show L - (j + 1 + 1) = 0 by omega]

def StoredTransfer.initializingAfter (t : Transfer) (I : Nat) : Nat → StoredTransfer
  | 0 => ⟨t, I⟩
  | j + 1 => ⟨{ t with phase := if j < I then .initializing else .transferring }, I - (j + 1)⟩

theorem StoredTransfer.polled_initializingAfter {t : Transfer} (ht : t.phase = .initializing)
    (I j : Nat) : (initializingAfter t I j).polled = initializingAfter t I (j + 1) := by
  cases j with
  | zero =>
    by_cases hI : 0 < I
    · simp [initializingAfter, polled, ht, hI]
      rw [← ht]
    · simp [initializingAfter, polled, ht, show I = 0 by omega]
  | succ j =>
    by_cases hj : j + 1 < I
    · simp [initializingAfter, polled, hj, show 0 < I - (j + 1) by omega, show j < I by omega]
      omega
    · by_cases hj' : j < I
      · simp [initializingAfter, polled, hj, hj', show I - (j + 1) = 0 by omega,
          show I - (j + 1 + 1) = 0 by omega]
      · simp [initializingAfter, polled, hj, hj', show I - (j + 1) = 0 by omega,
          show I - (j + 1 + 1) = 0 by omega]

def StoredJob.RunsFor (x : StoredJob) (n : Nat) : Prop :=
  x.pollsLeft = n ∧ x.job.status = if 0 < n then .started else .finished

theorem StoredJob.RunsFor.poll {x : StoredJob} {n : Nat} (h : x.RunsFor n) :
    (Mock.StoredJob.poll x).RunsFor (n - 1) := by
  obtain ⟨hl, hs⟩ := h
  by_cases hn : 0 < n
  · by_cases hn1 : n - 1 = 0
    · simp_all [Mock.StoredJob.poll, RunsFor]
    · simp_all [Mock.StoredJob.poll, RunsFor]
      omega
  · simp_all [Mock.StoredJob.poll, RunsFor]

theorem StoredJob.RunsFor.iterate {x : StoredJob} {n : Nat} (h : x.RunsFor n) (j : Nat) :
    (Mock.StoredJob.poll^[j] x).RunsFor (n - j) := by
  induction j with
  | zero => simpa using h
  | succ j ih =>
    rw [Function.iterate_succ_apply', show n - (j + 1) = n - j - 1 by omega]
    exact ih.poll

theorem Mock.StoredJob.poll_correlation (x : StoredJob) (j : Nat) :
    (Mock.StoredJob.poll^[j] x).correlation = x.correlation := by
  induction j with
  | zero => rfl
  | succ j ih =>
    rw [Function.iterate_succ_apply', ← ih]
    unfold Mock.StoredJob.poll
    split <;> rfl

theorem Mock.startedJob_runsFor (b : MockBehavior) (c : CorrelationId) (id d : String) :
    (Mock.startedJob b c id d).RunsFor b.runningJobPolls := by
  simp [Mock.startedJob, StoredJob.RunsFor]

namespace MockState

def diskReads (m : MockState) (id : String) (d : Disk) (L : Nat) : Nat → MockState
  | 0 => m
  | j + 1 => ((diskReads m id d L j).counted .getDisk).updateDisk id fun _ =>
    StoredDisk.lockedAfter d L (j + 1)

def transferReads (m : MockState) (id : String) (t : Transfer) (I : Nat) : Nat → MockState
  | 0 => m
  | j + 1 => ((transferReads m id t I j).counted .getTransfer).updateTransfer id fun _ =>
    StoredTransfer.initializingAfter t I (j + 1)

def listings (m : MockState) (c : CorrelationId) : Nat → MockState
  | 0 => m
  | j + 1 => { (listings m c j).counted .listJobs with
      jobs := (listings m c j).jobs.map fun x => if x.correlation == c then Mock.StoredJob.poll x else x }

theorem disk?_of_disks {m m' : MockState} (h : m'.disks = m.disks) (id : String) :
    m'.disk? id = m.disk? id := by
  simp [disk?, h]

theorem transfer?_of_transfers {m m' : MockState} (h : m'.transfers = m.transfers) (id : String) :
    m'.transfer? id = m.transfer? id := by
  simp [transfer?, h]

variable (m : MockState)

section Disk

variable (id : String) (d : Disk) (L : Nat)

theorem frame_diskReads (j : Nat) : Frame m (m.diskReads id d L j) := by
  induction j with
  | zero => exact Frame.refl m
  | succ j ih => exact ih.trans ⟨rfl, rfl, rfl, rfl, rfl, rfl⟩

theorem transfers_diskReads (j : Nat) : (m.diskReads id d L j).transfers = m.transfers := by
  induction j with
  | zero => rfl
  | succ j ih => exact ih

theorem jobs_diskReads (j : Nat) : (m.diskReads id d L j).jobs = m.jobs := by
  induction j with
  | zero => rfl
  | succ j ih => exact ih

theorem callCount_diskReads (j : Nat) (c : EngineCall) :
    (m.diskReads id d L j).callCount c = m.callCount c + if c = .getDisk then j else 0 := by
  induction j with
  | zero => simp [diskReads]
  | succ j ih =>
    rw [diskReads, callCount_updateDisk, callCount_counted, ih]
    by_cases hc : c = .getDisk <;> simp [hc]
    omega

variable {m id d L}

theorem disk?_diskReads (hd : m.disk? id = some ⟨d, L, none⟩) (hid : d.id = id) (j : Nat) :
    (m.diskReads id d L j).disk? id = some (StoredDisk.lockedAfter d L j) := by
  induction j with
  | zero => exact hd
  | succ j ih =>
    rw [diskReads, disk?_updateDisk _ (fun _ _ => by cases j <;> exact hid), disk?_counted, ih]
    rfl

theorem disks_diskReads (hd : m.disks = [⟨d, L, none⟩]) (hid : d.id = id) (j : Nat) :
    (m.diskReads id d L j).disks = [StoredDisk.lockedAfter d L j] := by
  induction j with
  | zero => exact hd
  | succ j ih =>
    have hid' : (StoredDisk.lockedAfter d L j).disk.id = id := by cases j <;> exact hid
    simp [diskReads, updateDisk, ih, hid']

end Disk

section Transfer

variable (id : String) (t : Transfer) (I : Nat)

theorem frame_transferReads (j : Nat) : Frame m (m.transferReads id t I j) := by
  induction j with
  | zero => exact Frame.refl m
  | succ j ih => exact ih.trans ⟨rfl, rfl, rfl, rfl, rfl, rfl⟩

theorem disks_transferReads (j : Nat) : (m.transferReads id t I j).disks = m.disks := by
  induction j with
  | zero => rfl
  | succ j ih => exact ih

theorem jobs_transferReads (j : Nat) : (m.transferReads id t I j).jobs = m.jobs := by
  induction j with
  | zero => rfl
  | succ j ih => exact ih

theorem callCount_transferReads (j : Nat) (c : EngineCall) :
    (m.transferReads id t I j).callCount c = m.callCount c + if c = .getTransfer then j else 0 := by
  induction j with
  | zero => simp [transferReads]
  | succ j ih =>
    rw [transferReads, callCount_updateTransfer, callCount_counted, ih]
    by_cases hc : c = .getTransfer <;> simp [hc]
    omega

variable {m id t I}

theorem transfer?_transferReads (ht : m.transfer? id = some ⟨t, I⟩) (hid : t.id = id) (j : Nat) :
    (m.transferReads id t I j).transfer? id = some (StoredTransfer.initializingAfter t I j) := by
  induction j with
  | zero => exact ht
  | succ j ih =>
    rw [transferReads, transfer?_updateTransfer _ (fun _ _ => by cases j <;> exact hid),
      transfer?_counted, ih]
    rfl

end Transfer

section Jobs

variable (c : CorrelationId)

theorem frame_listings (j : Nat) : Frame m (m.listings c j) := by
  induction j with
  | zero => exact Frame.refl m
  | succ j ih => exact ih.trans ⟨rfl, rfl, rfl, rfl, rfl, rfl⟩

theorem disks_listings (j : Nat) : (m.listings c j).disks = m.disks := by
  induction j with
  | zero => rfl
  | succ j ih => exact ih

theorem transfers_listings (j : Nat) : (m.listings c j).transfers = m.transfers := by
  induction j with
  | zero => rfl
  | succ j ih => exact ih

theorem callCount_listings (j : Nat) (c' : EngineCall) :
    (m.listings c j).callCount c' = m.callCount c' + if c' = .listJobs then j else 0 := by
  induction j with
  | zero => simp [listings]
  | succ j ih =>
    rw [listings, show ∀ x : MockState, ∀ js, ({ x with jobs := js } : MockState).callCount c' =
      x.callCount c' from fun _ _ => rfl, callCount_counted, ih]
    by_cases hc : c' = .listJobs <;> simp [hc]
    omega

theorem jobs_listings (j : Nat) : (m.listings c j).jobs =
    m.jobs.map fun x => if x.correlation == c then Mock.StoredJob.poll^[j] x else x := by
  induction j with
  | zero => simp [listings]
  | succ j ih =>
    simp only [listings, ih, List.map_map]
    congr 1
    funext x
    by_cases hx : x.correlation = c
    · simp [hx, Mock.StoredJob.poll_correlation, Function.iterate_succ_apply']
    · simp [hx]

theorem mem_listed_listings (j : Nat) (y : Job) :
    y ∈ ((m.listings c j).jobs.filter (·.correlation == c)).map (·.job) ↔
      ∃ x ∈ m.jobs, x.correlation = c ∧ (Mock.StoredJob.poll^[j] x).job = y := by
  simp only [jobs_listings, List.mem_map, List.mem_filter]
  constructor
  · rintro ⟨_, ⟨⟨x, hx, rfl⟩, hc⟩, rfl⟩
    by_cases hxc : x.correlation = c
    · exact ⟨x, hx, hxc, by simp [hxc]⟩
    · simp [hxc] at hc
  · rintro ⟨x, hx, hxc, rfl⟩
    refine ⟨_, ⟨⟨x, hx, rfl⟩, ?_⟩, by simp [hxc]⟩
    simp [hxc, Mock.StoredJob.poll_correlation]

end Jobs

/-- The engine once a wait for the disk `id`, stored as `⟨d, L, none⟩`, and then for the jobs of
`c` ran out: `L + 1` reads of the disk, then `R + 1` listings. -/
def stabilized (id : String) (d : Disk) (L : Nat) (c : CorrelationId) (R : Nat) : MockState :=
  (m.diskReads id d L (L + 1)).listings c (R + 1)

section Stabilized

variable (id : String) (d : Disk) (L : Nat) (c : CorrelationId) (R : Nat)

theorem frame_stabilized : Frame m (m.stabilized id d L c R) :=
  (frame_diskReads m id d L _).trans (frame_listings _ c _)

theorem transfers_stabilized : (m.stabilized id d L c R).transfers = m.transfers :=
  (transfers_listings _ c _).trans (transfers_diskReads m id d L _)

theorem callCount_stabilized (c' : EngineCall) :
    (m.stabilized id d L c R).callCount c' =
      m.callCount c' + (if c' = .getDisk then L + 1 else 0) + if c' = .listJobs then R + 1 else 0 := by
  rw [stabilized, callCount_listings, callCount_diskReads]

theorem lockedAfter_last : StoredDisk.lockedAfter d L (L + 1) = ⟨{ d with status := .ok }, 0, none⟩ := by
  simp [StoredDisk.lockedAfter]

variable {m id d L}

theorem disk?_stabilized (hd : m.disk? id = some ⟨d, L, none⟩) (hid : d.id = id) :
    (m.stabilized id d L c R).disk? id = some ⟨{ d with status := .ok }, 0, none⟩ := by
  rw [stabilized, disk?_of_disks (disks_listings _ c _), disk?_diskReads hd hid, lockedAfter_last]

theorem disks_stabilized (hd : m.disks = [⟨d, L, none⟩]) (hid : d.id = id) :
    (m.stabilized id d L c R).disks = [⟨{ d with status := .ok }, 0, none⟩] := by
  rw [stabilized, disks_listings, disks_diskReads hd hid, lockedAfter_last]

theorem jobs_stabilized (hjobs : ∀ x ∈ m.jobs, x.correlation = c → ∃ n ≤ R, x.RunsFor n) :
    ∀ x ∈ (m.stabilized id d L c R).jobs, x.correlation = c → x.RunsFor 0 := by
  simp only [stabilized, jobs_listings, jobs_diskReads, List.mem_map]
  rintro _ ⟨x, hx, rfl⟩ hc
  by_cases hxc : x.correlation = c
  · obtain ⟨n, hn, hrun⟩ := hjobs x hx hxc
    simpa [hxc, show n - (R + 1) = 0 by omega] using hrun.iterate (R + 1)
  · simp [hxc] at hc

end Stabilized

end MockState

namespace Mock

section Waits

variable (b : MockBehavior) {read : List Strategy}
  (hread : (Plan.ofStrategies read).attemptLimit = none) {latest : Nat}
  (hfit : (Plan.ofStrategies read).FitsBy latest)
include hread hfit

theorem diskRead_run {s : Rehearsal} {id : String} {d : Disk} {L j : Nat}
    (hf : s.engine.faults = []) (hd : s.engine.disk? id = some ⟨d, L, none⟩) (hid : d.id = id)
    {w : World Rehearsal} (hw : w.state = { s with engine := s.engine.diskReads id d L j })
    (hr : w.Ready latest) :
    (retry s!"get disk {id}" read ((engine b Rehearsal.engineLens).getDisk id)).run w =
      (.ok (.ok (StoredDisk.lockedAfter d L (j + 1)).disk),
        { w with state := { s with engine := s.engine.diskReads id d L (j + 1) } }) := by
  have hf' : w.state.engine.faults = [] := by
    rw [hw, (MockState.frame_diskReads _ _ _ _ _).faults, hf]
  have hd' : w.state.engine.disk? id = some (StoredDisk.lockedAfter d L j) := by
    rw [hw]
    exact MockState.disk?_diskReads hd hid j
  refine (retry_first _ hread (hfit.mono hr.early) hr.capped (getDisk_run w hf' hd')).trans ?_
  rw [StoredDisk.polled_lockedAfter, hw]
  rfl

/-- Waiting for a disk stored as `⟨d, L, none⟩` is a countdown of `L` reads that find it
locked, ended by a read that finds it ok. -/
theorem waitForDiskOk_countdown (wait : List Strategy) {s : Rehearsal} {id : String} {d : Disk}
    {L : Nat} (hf : s.engine.faults = []) (hd : s.engine.disk? id = some ⟨d, L, none⟩)
    (hid : d.id = id) :
    ∃ poll, waitForDiskOk (engine b Rehearsal.engineLens) id read wait =
        retry s!"wait for disk {id} to become ok" wait poll ∧
      Timed.Countdown latest poll (fun j => { s with engine := s.engine.diskReads id d L j }) L
        { d with status := .ok } := by
  refine ⟨_, rfl, fun j hj w hw hr => ?_, fun w hw hr => ?_⟩
  · refine ⟨Fault.new .diskLocked s!"disk {id} is locked", _, ?_, rfl, World.Lands.state_only _ _⟩
    rw [Timed.run_bind, diskRead_run b hread hfit hf hd hid hw hr]
    simp [StoredDisk.lockedAfter, hj]
  · refine ⟨_, ?_, World.Lands.state_only _ _⟩
    rw [Timed.run_bind, diskRead_run b hread hfit hf hd hid hw hr]
    simp [StoredDisk.lockedAfter]

theorem listing_run {s : Rehearsal} {c : CorrelationId} {j : Nat} (hf : s.engine.faults = [])
    {w : World Rehearsal} (hw : w.state = { s with engine := s.engine.listings c j })
    (hr : w.Ready latest) :
    (retry s!"list jobs with correlation id {c.text}" read
        ((engine b Rehearsal.engineLens).listJobs c)).run w =
      (.ok (.ok (((s.engine.listings c j).jobs.filter (·.correlation == c)).map (·.job))),
        { w with state := { s with engine := s.engine.listings c (j + 1) } }) := by
  have hf' : w.state.engine.faults = [] := by
    rw [hw, (MockState.frame_listings _ _ _).faults, hf]
  refine (retry_first _ hread (hfit.mono hr.early) hr.capped (listJobs_run w hf' c)).trans ?_
  rw [hw]
  rfl

/-- Waiting for the jobs of `c`, each running for at most `R` more listings and one for exactly
`R`, is a countdown of `R` listings that find a job running. -/
theorem waitForJobs_countdown (wait : List Strategy) {s : Rehearsal} {c : CorrelationId} {R : Nat}
    (hf : s.engine.faults = [])
    (hjobs : ∀ x ∈ s.engine.jobs, x.correlation = c → ∃ n ≤ R, x.RunsFor n)
    (hlong : 0 < R → ∃ x ∈ s.engine.jobs, x.correlation = c ∧ x.RunsFor R) :
    ∃ poll, waitForJobs (engine b Rehearsal.engineLens) c read wait =
        retry s!"wait for jobs with correlation id {c.text}" wait poll ∧
      Timed.Countdown latest poll (fun j => { s with engine := s.engine.listings c j }) R () := by
  -- listing `j` finds each job of `c` running or finished, as its polls left say
  have hstatus : ∀ j, ∀ y ∈ ((s.engine.listings c j).jobs.filter (·.correlation == c)).map (·.job),
      ∃ n ≤ R, y.status = if j < n then .started else .finished := by
    intro j y hy
    obtain ⟨x, hx, hxc, rfl⟩ := (MockState.mem_listed_listings _ _ _ _).1 hy
    obtain ⟨n, hn, hrx⟩ := hjobs x hx hxc
    refine ⟨n, hn, ?_⟩
    rw [(hrx.iterate j).2]
    simp
  have hnone : ∀ j, (((s.engine.listings c j).jobs.filter (·.correlation == c)).map (·.job)).find?
      (fun y => y.status = .failed || y.status = .aborted) = none := by
    intro j
    rw [List.find?_eq_none]
    intro y hy
    obtain ⟨n, -, h⟩ := hstatus j y hy
    split at h <;> simp [h]
  refine ⟨_, rfl, fun j hj w hw hr => ?_, fun w hw hr => ?_⟩
  · -- the longest job is still running at listing `j`
    obtain ⟨x, hx, hxc, hrx⟩ := hlong (by omega)
    have hy : (Mock.StoredJob.poll^[j] x).job ∈
        ((s.engine.listings c j).jobs.filter (·.correlation == c)).map (·.job) :=
      (MockState.mem_listed_listings _ _ _ _).2 ⟨x, hx, hxc, rfl⟩
    have hrunning : 0 < ((((s.engine.listings c j).jobs.filter (·.correlation == c)).map
        (·.job)).filter (·.status = .started)).length := by
      refine List.length_pos_of_mem (List.mem_filter.2 ⟨hy, ?_⟩)
      rw [(hrx.iterate j).2]
      simp [hj]
    refine ⟨?e, ?w', ?hrun, ?hperm, ?hlands⟩
    case hrun =>
      rw [Timed.run_bind, listing_run b hread hfit hf hw hr]
      simp only [hnone, hrunning]
      rfl
    case hperm => rfl
    case hlands => exact World.Lands.state_only _ _
  · -- at listing `R` every job of `c` has finished
    have hdone : ((((s.engine.listings c R).jobs.filter (·.correlation == c)).map
        (·.job)).filter (·.status = .started)).length = 0 := by
      rw [List.length_eq_zero_iff, List.filter_eq_nil_iff]
      intro y hy
      obtain ⟨n, hn, h⟩ := hstatus R y hy
      simp [h, Nat.not_lt.2 hn]
    refine ⟨_, ?_, World.Lands.state_only _ _⟩
    rw [Timed.run_bind, listing_run b hread hfit hf hw hr]
    simp only [hnone, hdone]
    rfl

end Waits

section TransferWait

variable {b : MockBehavior} {u : Uploader Rehearsal} (hu : u.api = engine b Rehearsal.engineLens)
  (o : UploadOptions)
  (hread : (Plan.ofStrategies (o.strategies u.policies.read .transferReady)).attemptLimit = none)
  {latest : Nat} (hfit : (Plan.ofStrategies (o.strategies u.policies.read .transferReady)).FitsBy latest)
include hu hread hfit

theorem transferRead_run {s : Rehearsal} {id : String} {t : Transfer} {I j : Nat}
    (hf : s.engine.faults = []) (hp : s.engine.forcedPhase = none)
    (ht : s.engine.transfer? id = some ⟨t, I⟩) (hid : t.id = id) (hphase : t.phase = .initializing)
    {w : World Rehearsal} (hw : w.state = { s with engine := s.engine.transferReads id t I j })
    (hr : w.Ready latest) :
    (retry s!"get image transfer {id}" (o.strategies u.policies.read .transferReady)
        (u.api.getTransfer id)).run w =
      (.ok (.ok (StoredTransfer.initializingAfter t I (j + 1)).transfer),
        { w with state := { s with engine := s.engine.transferReads id t I (j + 1) } }) := by
  have hframe := MockState.frame_transferReads s.engine id t I j
  have hf' : w.state.engine.faults = [] := by rw [hw, hframe.faults, hf]
  have hp' : w.state.engine.forcedPhase = none := by rw [hw, hframe.forcedPhase, hp]
  have ht' : w.state.engine.transfer? id = some (StoredTransfer.initializingAfter t I j) := by
    rw [hw]
    exact MockState.transfer?_transferReads ht hid j
  rw [hu]
  refine (retry_first _ hread (hfit.mono hr.early) hr.capped (getTransfer_run w hf' hp' ht')).trans ?_
  rw [StoredTransfer.polled_initializingAfter hphase, hw]
  rfl

/-- Waiting for a transfer stored as `⟨t, I⟩`, initializing, is a countdown of `I` reads that
find it initializing, ended by a read that finds it transferring. -/
theorem waitForTransfer_countdown {s : Rehearsal} {id : String} {t : Transfer} {I : Nat}
    (hf : s.engine.faults = []) (hp : s.engine.forcedPhase = none)
    (ht : s.engine.transfer? id = some ⟨t, I⟩) (hid : t.id = id) (hphase : t.phase = .initializing) :
    ∃ poll, u.waitForTransfer o id =
        Stage.call (retry s!"wait for image transfer {id} to start"
          (o.strategies u.policies.pending .transferReady) poll) ∧
      Timed.Countdown latest poll (fun j => { s with engine := s.engine.transferReads id t I j }) I
        { t with phase := .transferring } := by
  refine ⟨_, rfl, fun j hj w hw hr => ?_, fun w hw hr => ?_⟩
  · refine ⟨Fault.new .pending s!"image transfer {id} is still initializing", _, ?_, rfl,
      World.Lands.state_only _ _⟩
    rw [Timed.run_bind, transferRead_run hu o hread hfit hf hp ht hid hphase hw hr]
    simp [StoredTransfer.initializingAfter, hj]
  · refine ⟨_, ?_, World.Lands.state_only _ _⟩
    rw [Timed.run_bind, transferRead_run hu o hread hfit hf hp ht hid hphase hw hr]
    simp [StoredTransfer.initializingAfter]

end TransferWait

end Mock

end DiskUploader
