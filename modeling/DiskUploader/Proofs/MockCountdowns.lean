import DiskUploader.Proofs.MockEntries

/-!
# The countdowns of the in-memory engine

Read after read, a disk counts down the polls it stays locked, a transfer the polls it stays
initializing, and a job the listings it stays running. `MockStep.diskReports`,
`MockStep.transferReports` and `MockStep.jobReports` collect what the answered calls of a trace
reported for one entry, in order. Each run lemma proves that this is the entry's countdown from
where the trace starts, however the calls on other entries and the settings interleave with it;
`MockStep.countdowns` states the countdowns from where they start.
-/

namespace DiskUploader

namespace StoredDisk

@[simp] theorem statusOverride_polled (d : StoredDisk) : d.polled.statusOverride = d.statusOverride := by
  unfold polled
  split
  · rfl
  · split <;> rfl

theorem lockedLeft_polled {d : StoredDisk} (h : d.statusOverride = none) :
    d.polled.lockedLeft = d.lockedLeft - 1 := by
  simp only [polled, h]
  split <;> simp
  omega

theorem status_polled (d : StoredDisk) :
    d.polled.disk.status = d.statusOverride.getD (if 0 < d.lockedLeft then .locked else .ok) := by
  unfold polled
  split
  next s hs => simp [hs]
  next hs => split <;> simp [*]

/-- The `j + 1`-th read of a stored disk reports its pinned status if it has one, else locked
while the polls it was stored with last. -/
theorem status_polled_iterate (d : StoredDisk) (j : Nat) :
    (polled^[j] d).polled.disk.status =
      d.statusOverride.getD (if j < d.lockedLeft then .locked else .ok) := by
  have hpin : ∀ i, (polled^[i] d).statusOverride = d.statusOverride := by
    intro i
    induction i with
    | zero => rfl
    | succ i ih => rw [Function.iterate_succ_apply', statusOverride_polled, ih]
  rw [status_polled, hpin]
  cases ho : d.statusOverride with
  | some s => rfl
  | none =>
    -- unpinned, each read uses up one of the polls it stays locked
    have hleft : ∀ i, (polled^[i] d).lockedLeft = d.lockedLeft - i := by
      intro i
      induction i with
      | zero => rfl
      | succ i ih =>
        rw [Function.iterate_succ_apply', lockedLeft_polled ((hpin i).trans ho), ih]
        omega
    by_cases hj : j < d.lockedLeft
    · simp [hleft, hj, show 0 < d.lockedLeft - j by omega]
    · simp [hleft, hj, show d.lockedLeft - j = 0 by omega]

end StoredDisk

theorem StoredTransfer.phase_polled_iterate {t : Transfer} (ht : t.phase = .initializing)
    (I i : Nat) :
    (StoredTransfer.polled^[i] ⟨t, I⟩).polled.transfer.phase =
      if i < I then .initializing else .transferring := by
  have hiter : ∀ j, StoredTransfer.polled^[j] ⟨t, I⟩ = StoredTransfer.initializingAfter t I j := by
    intro j
    induction j with
    | zero => rfl
    | succ j ih => rw [Function.iterate_succ_apply', ih, StoredTransfer.polled_initializingAfter ht]
  rw [hiter, StoredTransfer.polled_initializingAfter ht]
  rfl

theorem StoredJob.RunsFor.status_iterate {x : StoredJob} {R : Nat} (h : x.RunsFor R) (i : Nat) :
    (Mock.StoredJob.poll^[i] x).job.status = if i < R then .started else .finished := by
  rw [(h.iterate i).2]
  by_cases hi : i < R
  · simp [hi, show 0 < R - i by omega]
  · simp [hi, show R - i = 0 by omega]

namespace MockStep

variable {b : MockBehavior} {id : String}

theorem serial_trace_le (ss : List MockStep) (w : World MockState) :
    ∀ e ∈ trace b ss w, e.1.serial + 2 ≤ w.serial + 2 * ss.length := by
  induction ss generalizing w with
  | nil => simp
  | cons s ss ih =>
    intro e he
    have hk := taken_apply_le b w.serial w.state s
    rw [trace_cons, List.mem_cons] at he
    rcases he with rfl | he
    · simp only [List.length_cons]
      omega
    · have hrest := ih _ e he
      rw [run_world] at hrest
      simp only [List.length_cons] at hrest ⊢
      omega

/-- The reports that `pick` reads off a trace follow the countdown `f` when each step, taken
where the track stands at `i`, either reports nothing and keeps the track at `i`, or reports
`f i` and moves it to `i + 1`. -/
theorem trace_countdown {α : Type}
    (pick : World MockState × MockStep × Option EngineReply → Option α)
    (track : World MockState → Nat → Prop) (f : Nat → α) (ss : List MockStep) :
    ∀ (w : World MockState) (j : Nat),
      (∀ v s, (v, s, (s.apply b v.state v.serial).1) ∈ trace b ss w → ∀ i, track v i →
        (pick (v, s, (s.apply b v.state v.serial).1) = none ∧ track ((s.run b).run v).2 i) ∨
          (pick (v, s, (s.apply b v.state v.serial).1) = some (f i) ∧
            track ((s.run b).run v).2 (i + 1))) →
      track w j → ∃ N, (trace b ss w).filterMap pick = (List.range N).map fun i => f (j + i) := by
  induction ss with
  | nil => exact fun _ _ _ _ => ⟨0, rfl⟩
  | cons s ss ih =>
    intro w j hstep hj
    have hrest : ∀ v t, (v, t, (t.apply b v.state v.serial).1) ∈ trace b ss ((s.run b).run w).2 →
        (v, t, (t.apply b v.state v.serial).1) ∈ trace b (s :: ss) w :=
      fun v t he => by simp [he]
    rcases hstep w s (by simp) j hj with ⟨hnone, hnext⟩ | ⟨hsome, hnext⟩
    · obtain ⟨N, hN⟩ := ih _ j (fun v t he => hstep v t (hrest v t he)) hnext
      exact ⟨N, by rw [trace_cons, List.filterMap_cons_none hnone, hN]⟩
    · obtain ⟨N, hN⟩ := ih _ (j + 1) (fun v t he => hstep v t (hrest v t he)) hnext
      refine ⟨N + 1, ?_⟩
      rw [trace_cons, List.filterMap_cons_some hsome, hN, List.range_succ_eq_map]
      simp [Nat.add_assoc, Nat.add_comm 1]

/-- Whether a step, taken in the world `e.1` and answered `e.2.2`, finalized a transfer into the
disk `id`. -/
def resetsDisk (id : String) (e : World MockState × MockStep × Option EngineReply) : Bool :=
  served e.2.2 && (e.2.1.finalized?.bind e.1.state.transfer?).any (·.transfer.diskId == id)

def diskReports (id : String) (tr : List (World MockState × MockStep × Option EngineReply)) :
    List DiskStatus :=
  tr.filterMap fun e =>
    if e.2.1.readsDisk id then (e.2.2.bind EngineReply.disk?).map (·.status) else none

/-- Between finalizations of its transfers, the answered reads of the disk `id` report the
countdown it was stored with, one poll per read, for as long as the disk is held. -/
theorem diskReports_trace {d : StoredDisk} (ss : List MockStep) (w : World MockState) (j : Nat)
    (hid : ∃ k < w.serial, id = uuidOf k) (hb : w.serial + 2 * ss.length ≤ 16 ^ 12)
    (hd : w.state.disk? id = some (StoredDisk.polled^[j] d) ∨ w.state.disk? id = none)
    (hres : ∀ e ∈ trace b ss w, resetsDisk id e = false) :
    ∃ N, diskReports id (trace b ss w) =
      (List.range N).map fun i => (StoredDisk.polled^[j + i] d).polled.disk.status := by
  -- the track: the id was handed out before the serial, so a removed disk never comes back,
  -- and the disk is held polled once per answered read, or gone
  refine trace_countdown _ (fun v i => (∃ k < v.serial, id = uuidOf k) ∧
      (v.state.disk? id = some (StoredDisk.polled^[i] d) ∨ v.state.disk? id = none))
    (fun i => (StoredDisk.polled^[i] d).polled.disk.status) ss w j (fun v s he i hi => ?_) ⟨hid, hd⟩
  obtain ⟨hidv, hdv⟩ := hi
  have hk := taken_apply_le b v.serial v.state s
  have hid' : ∃ k < v.serial + (s.apply b v.state v.serial).2.2, id = uuidOf k := by
    obtain ⟨k, hk', hke⟩ := hidv
    exact ⟨k, by omega, hke⟩
  simp only [run_world]
  cases hread : s.readsDisk id with
  | false =>
    have hbv : v.serial + 2 ≤ w.serial + 2 * ss.length := serial_trace_le ss w _ he
    rcases disk?_apply_other hidv (by omega) hread (hres _ he) with hsame | hgone
    · exact .inl ⟨by simp, hid', by rw [hsame]; exact hdv⟩
    · exact .inl ⟨by simp, hid', .inr hgone⟩
  | true =>
    rcases disk?_apply_read (b := b) (m := v.state) (n := v.serial) hread with
      ⟨hnone, hsame⟩ | ⟨d', hd', hrep, hnext⟩
    · exact .inl ⟨by simp [hnone], hid', by rw [hsame]; exact hdv⟩
    · -- an answered read found the disk held, so it is the one polled `i` times
      have hdi : d' = StoredDisk.polled^[i] d := by
        rcases hdv with h | h
        · exact Option.some.inj (hd'.symm.trans h)
        · exact (Option.some_ne_none _ (hd'.symm.trans h)).elim
      subst hdi
      exact .inr ⟨by simp [hrep], hid', .inl (by rw [hnext, Function.iterate_succ_apply'])⟩

def closesTransfer (id : String) (e : World MockState × MockStep × Option EngineReply) : Bool :=
  served e.2.2 && (e.2.1.finalized? == some id || e.2.1.cancelled? == some id)

def transferReports (id : String) (tr : List (World MockState × MockStep × Option EngineReply)) :
    List TransferPhase :=
  tr.filterMap fun e =>
    if e.2.1.readsTransfer id then (e.2.2.bind EngineReply.transfer?).map (·.phase) else none

/-- While no phase is forced and the transfer is neither finalized nor cancelled, the answered
reads of the transfer `id` report the countdown it was stored with, one poll per read. -/
theorem transferReports_trace {t : StoredTransfer} (ss : List MockStep) (w : World MockState)
    (j : Nat) (ht : w.state.transfer? id = some (StoredTransfer.polled^[j] t))
    (hrest : ∀ e ∈ trace b ss w, e.1.state.forcedPhase = none ∧ closesTransfer id e = false) :
    ∃ N, transferReports id (trace b ss w) =
      (List.range N).map fun i => (StoredTransfer.polled^[j + i] t).polled.transfer.phase := by
  refine trace_countdown _ (fun v i => v.state.transfer? id = some (StoredTransfer.polled^[i] t))
    (fun i => (StoredTransfer.polled^[i] t).polled.transfer.phase) ss w j
    (fun v s he i hi => ?_) ht
  obtain ⟨hfree, hr⟩ := hrest _ he
  simp only [run_world]
  cases hread : s.readsTransfer id with
  | false =>
    exact .inl ⟨by simp,
      by rw [transfer?_apply_other (by simp [hi]) hread hr, hi]⟩
  | true =>
    rcases transfer?_apply_read (b := b) (m := v.state) (n := v.serial) hread with
      ⟨hnone, hsame⟩ | ⟨t', ht', hrep, hnext⟩
    · exact .inl ⟨by simp [hnone], by rw [hsame, hi]⟩
    · -- unforced, the read polls the transfer it found
      have hti : t' = StoredTransfer.polled^[i] t := Option.some.inj (ht'.symm.trans hi)
      have hpolled : t'.read v.state.forcedPhase = (StoredTransfer.polled^[i] t).polled := by
        rw [hfree, hti]
        rfl
      rw [hpolled] at hrep hnext
      exact .inr ⟨by simp [hrep], by rw [hnext, Function.iterate_succ_apply']⟩

/-- The statuses that the answered listings of `c` in a trace reported for the job `id`, in
order. -/
def jobReports (c : CorrelationId) (id : String)
    (tr : List (World MockState × MockStep × Option EngineReply)) : List JobStatus :=
  tr.filterMap fun e =>
    if e.2.1.listsFor c then
      ((e.2.2.bind EngineReply.jobs?).bind fun js => js.find? (·.id == id)).map (·.status)
    else none

/-- The answered listings of a job's correlation id report it as it runs down, one poll per
listing. -/
theorem jobReports_trace {x : StoredJob} (ss : List MockStep) (w : World MockState) (j : Nat)
    (hx : w.state.job? id = some (Mock.StoredJob.poll^[j] x)) :
    ∃ N, jobReports x.correlation id (trace b ss w) =
      (List.range N).map fun i => (Mock.StoredJob.poll^[j + i] x).job.status := by
  refine trace_countdown _ (fun v i => v.state.job? id = some (Mock.StoredJob.poll^[i] x))
    (fun i => (Mock.StoredJob.poll^[i] x).job.status) ss w j (fun v s _ i hi => ?_) hx
  have hcor := Mock.StoredJob.poll_correlation x i
  simp only [run_world]
  cases hlist : s.listsFor x.correlation with
  | false => exact .inl ⟨by simp, job?_apply_other hi (by rw [hcor]; exact hlist)⟩
  | true =>
    obtain rfl := eq_of_listsFor hlist
    rcases listJobs_apply (b := b) (m := v.state) (n := v.serial) x.correlation with
      ⟨hnone, hsame⟩ | ⟨hrep, hpoll⟩
    · exact .inl ⟨by simp [hnone], by rw [MockState.job?_of_jobs hsame, hi]⟩
    · -- an answered listing reports the job as it stands and then polls it
      refine .inr ⟨by simp [hrep, EngineReply.jobs?, MockState.find?_listed hi hcor], ?_⟩
      rw [MockState.job?, hpoll, MockState.find?_pollJobs,
        show v.state.jobs.find? (·.job.id == id) = v.state.job? id from rfl, hi]
      simp [hcor, Function.iterate_succ_apply']

theorem transferReports_forced {p : TransferPhase} (ss : List MockStep) (w : World MockState)
    (hforced : ∀ e ∈ trace b ss w, e.1.state.forcedPhase = some p) :
    ∃ N, transferReports id (trace b ss w) = List.replicate N p := by
  refine (trace_countdown (b := b) (fun e =>
      if e.2.1.readsTransfer id then (e.2.2.bind EngineReply.transfer?).map (·.phase) else none)
    (fun _ _ => True) (fun _ => p) ss w 0 (fun v s he i _ => ?_) trivial).imp
      fun N hN => by simpa [transferReports] using hN
  cases hread : s.readsTransfer id with
  | false => exact .inl ⟨by simp, trivial⟩
  | true =>
    rcases transfer?_apply_read (b := b) (m := v.state) (n := v.serial) hread with
      ⟨hnone, -⟩ | ⟨t, -, hrep, -⟩
    · exact .inl ⟨by simp [hnone], trivial⟩
    · have hp : v.state.forcedPhase = some p := hforced _ he
      exact .inr ⟨by simp [hrep, hp, StoredTransfer.read], trivial⟩

/-- The countdowns of the in-memory engine over every run of steps. A test's engine only holds ids
handed out before the timeline's serial, so each countdown follows the one disk, transfer or
job it started for. A created disk is answered locked exactly when it stays locked for some
reads. After its creation, or after a finalization of one of its transfers, its reads report
locked for the behaviour's polls and then ok, or the status pinned at the finalization. A new
transfer's reads report initializing for the behaviour's polls and then transferring, while no
phase is forced and it is neither finalized nor cancelled; a forced phase is what every read
reports, and the read transfer keeps it. A started job is listed as started by the behaviour's
number of listings of its correlation id, and as finished after. A listing answers the jobs of
its correlation id in the order they were started, and leaves the other jobs as they were. -/
theorem countdowns (b : MockBehavior) :
    (∀ (w : World MockState) (ss : List MockStep), w.state.IdsBelow w.serial →
      (after b ss w).state.IdsBelow (after b ss w).serial ∧
        (after b ss w).serial ≤ w.serial + 2 * ss.length) ∧
    (∀ (m : MockState) (n : Nat) (p : DiskCreation) (c : CorrelationId) (d : Disk),
      ((call (.createDisk p c)).apply b m n).1 = some (.disk (.ok d)) →
      (d.status = .locked ↔ 0 < b.lockedPolls)) ∧
    (∀ (w : World MockState) (p : DiskCreation) (c : CorrelationId) (d : Disk)
      (ss : List MockStep), w.state.IdsBelow w.serial → w.serial + 2 * (ss.length + 1) ≤ 16 ^ 12 →
      ((call (.createDisk p c)).apply b w.state w.serial).1 = some (.disk (.ok d)) →
      (∀ e ∈ trace b ss (after b [call (.createDisk p c)] w), resetsDisk d.id e = false) →
      ∃ N, diskReports d.id (trace b ss (after b [call (.createDisk p c)] w)) =
        (List.range N).map fun k => if k < b.lockedPolls then .locked else .ok) ∧
    (∀ (w : World MockState) (tid : String) (c : CorrelationId) (t : StoredTransfer)
      (ss : List MockStep), w.state.IdsBelow w.serial → w.serial + 2 * (ss.length + 1) ≤ 16 ^ 12 →
      w.state.transfer? tid = some t →
      ((call (.finalizeTransfer tid c)).apply b w.state w.serial).1 = some (.done (.ok ())) →
      (∀ e ∈ trace b ss (after b [call (.finalizeTransfer tid c)] w),
        resetsDisk t.transfer.diskId e = false) →
      ∃ N, diskReports t.transfer.diskId (trace b ss (after b [call (.finalizeTransfer tid c)] w)) =
        (List.range N).map fun k =>
          w.state.statusAfterFinalize.getD (if k < b.lockedPolls then .locked else .ok)) ∧
    (∀ (w : World MockState) (d : String) (dir : Direction) (c : CorrelationId) (t : Transfer)
      (ss : List MockStep), w.state.IdsBelow w.serial → w.serial < 16 ^ 12 →
      ((call (.createTransfer d dir c)).apply b w.state w.serial).1 = some (.transfer (.ok t)) →
      (∀ e ∈ trace b ss (after b [call (.createTransfer d dir c)] w),
        e.1.state.forcedPhase = none ∧ closesTransfer t.id e = false) →
      ∃ N, transferReports t.id (trace b ss (after b [call (.createTransfer d dir c)] w)) =
        (List.range N).map fun k => if k < b.initializingPolls then .initializing else .transferring) ∧
    (∀ (w : World MockState) (id : String) (p : TransferPhase) (ss : List MockStep),
      (∀ e ∈ trace b ss w, e.1.state.forcedPhase = some p) →
      ∃ N, transferReports id (trace b ss w) = List.replicate N p) ∧
    (∀ (m : MockState) (n : Nat) (id : String) (p : TransferPhase) (t : Transfer),
      m.forcedPhase = some p →
      ((call (.getTransfer id)).apply b m n).1 = some (.transfer (.ok t)) →
      t.phase = p ∧
        (((call (.getTransfer id)).apply b m n).2.1.transfer? id).map (·.transfer.phase) = some p) ∧
    (∀ (w : World MockState) (s : MockStep) (x : StoredJob) (ss : List MockStep),
      w.state.IdsBelow w.serial → w.serial + 2 ≤ 16 ^ 12 →
      (s.apply b w.state w.serial).2.1.jobs = w.state.jobs ++ [x] →
      ∃ N, jobReports x.correlation x.job.id (trace b ss (after b [s] w)) =
        (List.range N).map fun k => if k < b.runningJobPolls then .started else .finished) ∧
    (∀ (m : MockState) (n : Nat) (c : CorrelationId) (js : List Job),
      ((call (.listJobs c)).apply b m n).1 = some (.jobs (.ok js)) →
      js = (m.jobs.filter (·.correlation == c)).map (·.job)) ∧
    (∀ (m : MockState) (n : Nat) (c : CorrelationId),
      ((call (.listJobs c)).apply b m n).2.1.jobs.filter (·.correlation != c) =
        m.jobs.filter (·.correlation != c)) ∧
    (∀ (w : World MockState) (ss : List MockStep),
      (w.state.jobs.map (·.job.id)).IsPrefix ((after b ss w).state.jobs.map (·.job.id))) := by
  refine ⟨?fresh, ?locked, ?created, ?finalized, ?opened, ?forced, ?kept, ?started, ?listed,
    ?others, ?order⟩
  case fresh =>
    intro w ss hw
    obtain ⟨hids, -, hle⟩ := hw.after (b := b) ss
    exact ⟨hids, hle⟩
  case locked =>
    intro m n p c d h
    obtain ⟨rfl, -⟩ := createDisk_reply h
    by_cases hL : 0 < b.lockedPolls <;> simp [Mock.createdDisk, hL]
  case created =>
    intro w p c d ss hw hb h hres
    have hd := createDisk_apply hw (by omega) h
    obtain ⟨rfl, hk⟩ := createDisk_reply h
    obtain ⟨N, hN⟩ := diskReports_trace (b := b) (d := ⟨_, b.lockedPolls, none⟩) ss
      (after b [call (.createDisk p c)] w) 0
      (by simp only [after_cons, after_nil, run_world, hk]; exact ⟨w.serial, by omega, rfl⟩)
      (by simp only [after_cons, after_nil, run_world, hk]; omega)
      (.inl (by simpa [run_world] using hd)) hres
    refine ⟨N, hN.trans ?_⟩
    simp [StoredDisk.status_polled_iterate]
  case finalized =>
    intro w tid c t ss hw hb ht h hres
    have hk := taken_apply_le b w.serial w.state (call (.finalizeTransfer tid c))
    have hreset := finalizeTransfer_apply ht h
    -- the disk may have been removed before; then no read of it is answered again
    let sd : StoredDisk := { ((w.state.disk? t.transfer.diskId).getD default) with
      lockedLeft := b.lockedPolls, statusOverride := w.state.statusAfterFinalize }
    obtain ⟨N, hN⟩ := diskReports_trace (b := b) (d := sd) ss
      (after b [call (.finalizeTransfer tid c)] w) 0
      (by
        obtain ⟨k, hk', he⟩ := hw.diskId_mem ht
        simp only [after_cons, after_nil, run_world]
        exact ⟨k, by omega, he⟩)
      (by simp only [after_cons, after_nil, run_world]; omega)
      (by
        simp only [after_cons, after_nil, run_world, hreset]
        cases hdisk : w.state.disk? t.transfer.diskId <;> simp [sd, hdisk])
      hres
    refine ⟨N, hN.trans ?_⟩
    simp [sd, StoredDisk.status_polled_iterate]
  case opened =>
    intro w d dir c t ss hw hb h hres
    obtain ⟨hinit, ht⟩ := createTransfer_apply hw hb h
    obtain ⟨N, hN⟩ := transferReports_trace (b := b) (t := ⟨t, b.initializingPolls⟩) ss
      (after b [call (.createTransfer d dir c)] w) 0
      (by simpa [run_world] using ht) hres
    refine ⟨N, hN.trans ?_⟩
    simp [StoredTransfer.phase_polled_iterate hinit]
  case forced =>
    intro w id p ss hforced
    exact transferReports_forced ss w hforced
  case kept =>
    intro m n id p t hp h
    rcases transfer?_apply_read (b := b) (m := m) (n := n)
      (show (call (.getTransfer id)).readsTransfer id = true by simp [readsTransfer]) with
      ⟨hnone, -⟩ | ⟨st, -, hrep, hnext⟩
    · simp [h, EngineReply.transfer?] at hnone
    · simp only [h, Option.bind_some, EngineReply.transfer?, Option.some.injEq] at hrep
      subst hrep
      simp [hnext, hp, StoredTransfer.read]
  case started =>
    intro w s x ss hw hb hx
    obtain ⟨hrun, hheld⟩ := job?_started hw hb hx
    obtain ⟨N, hN⟩ := jobReports_trace (b := b) (x := x) ss (after b [s] w) 0
      (by simpa [run_world] using hheld)
    refine ⟨N, hN.trans ?_⟩
    simp [hrun.status_iterate]
  case listed =>
    intro m n c js h
    rcases listJobs_apply (b := b) (m := m) (n := n) c with ⟨hnone, -⟩ | ⟨hrep, -⟩
    · simp [h, EngineReply.jobs?] at hnone
    · simpa [h] using hrep
  case others =>
    intro m n c
    rcases listJobs_apply (b := b) (m := m) (n := n) c with ⟨-, hsame⟩ | ⟨-, hpoll⟩
    · rw [hsame]
    · rw [hpoll, MockState.filter_pollJobs]
  case order =>
    intro w ss
    exact jobIds_after ss w

end MockStep

end DiskUploader
