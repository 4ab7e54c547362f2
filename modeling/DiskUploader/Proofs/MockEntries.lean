import DiskUploader.Proofs.MockFaults
import DiskUploader.Proofs.MockWaits

/-!
# What one step does to the engine's entries

The in-memory engine hands out its ids from the timeline's serial, so the engine a test reaches
holds only ids handed out before the serial (`MockState.IdsBelow`, kept by every step), and an
id it hands out is never one it holds. On that ground each kind of entry gets a lemma for the
step that reads it and one for every other step. An answered read polls the disk or transfer it
names. Nothing else changes a disk but its removal and a finalization of one of its transfers,
and nothing else changes a transfer but its finalization or cancellation. A step leaves the jobs
as they were, polls the jobs of the correlation id it lists, or starts one job under a fresh id.
Last come the steps that start a countdown: a disk's creation, a finalization, a transfer's
opening and a job's start.
-/

namespace DiskUploader

def EngineReply.disk? : EngineReply → Option Disk
  | .disk (.ok d) => some d
  | _ => none

def EngineReply.transfer? : EngineReply → Option Transfer
  | .transfer (.ok t) => some t
  | _ => none

def EngineReply.jobs? : EngineReply → Option (List Job)
  | .jobs (.ok js) => some js
  | _ => none

namespace MockStep

def readsDisk (id : String) : MockStep → Bool
  | call (.getDisk i) => i == id
  | _ => false

def readsTransfer (id : String) : MockStep → Bool
  | call (.getTransfer i) => i == id
  | _ => false

def listsFor (c : CorrelationId) : MockStep → Bool
  | call (.listJobs c') => c' == c
  | _ => false

def served (a : Option EngineReply) : Bool := a.any fun r => r.fault?.isNone

def finalized? : MockStep → Option String
  | call (.finalizeTransfer t _) => some t
  | _ => none

def cancelled? : MockStep → Option String
  | call (.cancelTransfer t) => some t
  | _ => none

end MockStep

namespace MockState

variable (b : MockBehavior) (n : Nat) (m : MockState)

@[simp] theorem disks_enter (c : EngineCall) : (m.enter c).2.disks = m.disks :=
  (congrArg MockState.disks (enter_frame m c) :)

@[simp] theorem transfers_enter (c : EngineCall) : (m.enter c).2.transfers = m.transfers :=
  (congrArg MockState.transfers (enter_frame m c) :)

@[simp] theorem jobs_enter (c : EngineCall) : (m.enter c).2.jobs = m.jobs :=
  (congrArg MockState.jobs (enter_frame m c) :)

@[simp] theorem forcedPhase_enter (c : EngineCall) : (m.enter c).2.forcedPhase = m.forcedPhase :=
  (congrArg MockState.forcedPhase (enter_frame m c) :)

@[simp] theorem statusAfterFinalize_enter (c : EngineCall) :
    (m.enter c).2.statusAfterFinalize = m.statusAfterFinalize :=
  (congrArg MockState.statusAfterFinalize (enter_frame m c) :)

theorem answer_of_served {r : EngineRequest} (h : (m.answer b n r).1.fault? = none) :
    m.answer b n r = (m.enter r.call).2.work b n r := by
  unfold answer at h ⊢
  rcases he : m.enter r.call with ⟨_ | _, m'⟩
  · rw [he] at h
    simp at h
  · rfl

variable {m} {r : EngineRequest}

/-- The ids the engine holds: of its disks, of its transfers and the disks they write into, and
of its jobs. -/
def idsIn (m : MockState) : List String :=
  m.disks.map (·.disk.id) ++ m.transfers.map (·.transfer.id) ++
    m.transfers.map (·.transfer.diskId) ++ m.jobs.map (·.job.id)

def IdsBelow (m : MockState) (n : Nat) : Prop := ∀ x ∈ m.idsIn, ∃ k < n, x = uuidOf k

@[simp] theorem id_createdDisk (p : DiskCreation) (id : String) :
    (Mock.createdDisk b p id).id = id := rfl

@[simp] theorem id_startedJob (c : CorrelationId) (id d : String) :
    (Mock.startedJob b c id d).job.id = id := rfl

@[simp] theorem id_openedTransfer (d id : String) : (Mock.openedTransfer d id).id = id := rfl

@[simp] theorem diskId_openedTransfer (d id : String) : (Mock.openedTransfer d id).diskId = d :=
  rfl

@[simp] theorem id_read (f : Option TransferPhase) (t : StoredTransfer) :
    (t.read f).transfer.id = t.transfer.id := by
  cases f <;> simp [StoredTransfer.read]

@[simp] theorem diskId_read (f : Option TransferPhase) (t : StoredTransfer) :
    (t.read f).transfer.diskId = t.transfer.diskId := by
  cases f <;> simp [StoredTransfer.read]

theorem id_of_disk? {i : String} {d : StoredDisk} (h : m.disk? i = some d) : d.disk.id = i := by
  simpa using List.find?_some h

theorem id_of_transfer? {i : String} {t : StoredTransfer} (h : m.transfer? i = some t) :
    t.transfer.id = i := by
  simpa using List.find?_some h

theorem mem_idsIn_of_disk? {i : String} (h : (m.disk? i).isSome) : i ∈ m.idsIn := by
  obtain ⟨d, hd, hid⟩ := List.find?_isSome.1 h
  simp only [beq_iff_eq] at hid
  simp only [idsIn, List.mem_append, List.mem_map]
  exact .inl (.inl (.inl ⟨d, hd, hid⟩))

theorem idsIn_work (r : EngineRequest) :
    (m.work b n r).2.1.idsIn ⊆ m.idsIn ++ freshIds n (m.work b n r).2.2 := by
  intro x hx
  cases r with
  | createDisk p c =>
    simp [work, idsIn, freshIds, List.range_succ] at hx ⊢
    grind
  | getDisk id =>
    cases hd : m.disk? id with
    | none => simp_all [work]
    | some d =>
      have hid := id_of_disk? hd
      simp [work, hd, idsIn, updateDisk] at hx ⊢
      grind [StoredDisk.id_polled]
  | removeDisk id =>
    cases hd : m.disk? id with
    | none => simp_all [work]
    | some d =>
      simp [work, hd, idsIn] at hx ⊢
      grind
  | createTransfer d dir c =>
    cases hd : m.disk? d with
    | none => simp_all [work]
    | some sd =>
      have hmem := mem_idsIn_of_disk? (m := m) (i := d) (by simp [hd])
      simp [work, hd, idsIn, freshIds] at hx hmem ⊢
      grind
  | getTransfer id =>
    cases ht : m.transfer? id with
    | none => simp_all [work]
    | some t =>
      have hid := id_of_transfer? ht
      have hmem := List.mem_of_find?_eq_some ht
      simp [work, ht, idsIn, updateTransfer] at hx ⊢
      grind [id_read, diskId_read]
  | finalizeTransfer id c =>
    cases ht : m.transfer? id with
    | none => simp_all [work]
    | some t =>
      simp [work, ht, idsIn, updateTransfer, updateDisk, freshIds] at hx ⊢
      grind
  | cancelTransfer id =>
    cases ht : m.transfer? id with
    | none => simp_all [work]
    | some t =>
      simp [work, ht, idsIn, updateTransfer] at hx ⊢
      grind
  | listJobs c =>
    simp [work, idsIn] at hx ⊢
    grind [Mock.StoredJob.id_poll]

theorem taken_work_le (r : EngineRequest) : (m.work b n r).2.2 ≤ 2 := by
  cases r with
  | getDisk id => cases h : m.disk? id <;> simp [work, h]
  | removeDisk id => cases h : m.disk? id <;> simp [work, h]
  | createTransfer d dir c => cases h : m.disk? d <;> simp [work, h]
  | getTransfer id => cases h : m.transfer? id <;> simp [work, h]
  | finalizeTransfer id c => cases h : m.transfer? id <;> simp [work, h]
  | cancelTransfer id => cases h : m.transfer? id <;> simp [work, h]
  | _ => simp [work]

/-- A call either meets its injected fault, counted and with nothing else changed, or does its
work on the engine that counted it. -/
theorem answer_cases (r : EngineRequest) :
    (∃ e, m.answer b n r = (r.failed e, (m.enter r.call).2, 0)) ∨
      m.answer b n r = (m.enter r.call).2.work b n r := by
  unfold answer
  rcases m.enter r.call with ⟨_ | _, m'⟩
  · exact .inl ⟨_, rfl⟩
  · exact .inr rfl

@[simp] theorem idsIn_enter (c : EngineCall) : (m.enter c).2.idsIn = m.idsIn := by
  simp [idsIn]

@[simp] theorem disk?_enter (c : EngineCall) (id : String) : (m.enter c).2.disk? id = m.disk? id :=
  disk?_of_disks (disks_enter m c) id

@[simp] theorem transfer?_enter (c : EngineCall) (id : String) :
    (m.enter c).2.transfer? id = m.transfer? id :=
  transfer?_of_transfers (transfers_enter m c) id

theorem find?_map_skipped {β : Type} (p q : β → Bool) (f : β → β)
    (hf : ∀ x, q x = true → p x = false ∧ p (f x) = false) (l : List β) :
    (l.map fun x => if q x then f x else x).find? p = l.find? p := by
  induction l with
  | nil => rfl
  | cons x xs ih =>
    by_cases hx : q x
    · simp [hx, (hf x hx).1, (hf x hx).2, ih]
    · simp only [List.map_cons, hx, Bool.false_eq_true, if_false]
      rw [List.find?_cons, List.find?_cons, ih]

theorem disk?_updateDisk_ne {i id : String} (hne : i ≠ id) {f : StoredDisk → StoredDisk}
    (hf : ∀ d, d.disk.id = i → (f d).disk.id = i) : (m.updateDisk i f).disk? id = m.disk? id := by
  unfold updateDisk disk?
  refine find?_map_skipped _ _ f (fun d hd => ?_) m.disks
  simp only [beq_iff_eq] at hd
  simp [hd, hf d hd, hne]

theorem disk?_append {d : StoredDisk} {id : String} (hne : d.disk.id ≠ id) :
    (m.disks ++ [d]).find? (·.disk.id == id) = m.disk? id := by
  simp [List.find?_append, hne, disk?]

theorem disk?_filter (i id : String) :
    (m.disks.filter (·.disk.id != i)).find? (·.disk.id == id) =
      if i = id then none else m.disk? id := by
  split
  next hi =>
    subst i
    simp
  next hi =>
    simp only [List.find?_filter, disk?]
    congr 1
    funext d
    by_cases hd : d.disk.id = id <;> simp [hd, Ne.symm hi]

theorem disk?_work_read (id : String) :
    (m.work b n (.getDisk id)).1.disk? = (m.disk? id).map (·.polled.disk) ∧
      (m.work b n (.getDisk id)).2.1.disk? id = (m.disk? id).map StoredDisk.polled := by
  cases hd : m.disk? id with
  | none => simp [work, hd, EngineReply.disk?]
  | some d =>
    have hid := id_of_disk? hd
    simp [work, hd, EngineReply.disk?,
      disk?_updateDisk m (f := fun _ => d.polled) (fun _ _ => by simpa using hid)]

theorem disks_work_finalize {tid : String} {c : CorrelationId} {t : StoredTransfer}
    (ht : m.transfer? tid = some t) :
    (m.work b n (.finalizeTransfer tid c)).2.1.disks =
      (m.updateDisk t.transfer.diskId fun d =>
        { d with lockedLeft := b.lockedPolls, statusOverride := m.statusAfterFinalize }).disks := by
  simp [work, ht, updateDisk]

/-- No call but a read, a removal or a finalization of one of its transfers changes the disk
`id`, and a removal drops it. -/
theorem disk?_work_other {id : String} (hnew : id ≠ uuidOf n) (r : EngineRequest)
    (h : (MockStep.call r).readsDisk id = false)
    (hr : ((m.work b n r).1.fault?.isNone &&
      ((MockStep.call r).finalized?.bind m.transfer?).any (·.transfer.diskId == id)) = false) :
    (m.work b n r).2.1.disk? id = m.disk? id ∨ (m.work b n r).2.1.disk? id = none := by
  cases r with
  | createDisk p c =>
    exact .inl (disk?_append (m := m) (Ne.symm hnew))
  | getDisk i =>
    have hi : i ≠ id := by simpa [MockStep.readsDisk] using h
    cases hd : m.disk? i with
    | none => simp [work, hd]
    | some d =>
      left
      simp only [work, hd]
      exact disk?_updateDisk_ne hi (fun _ _ => by simpa using id_of_disk? hd)
  | removeDisk i =>
    cases hd : m.disk? i with
    | none => simp [work, hd]
    | some d =>
      simp only [work, hd]
      by_cases hi : i = id
      · right
        simp [disk?, hi]
      · left
        simpa [disk?, hi] using disk?_filter (m := m) i id
  | createTransfer d dir c =>
    exact .inl (disk?_of_disks (by cases hd : m.disk? d <;> simp [work, hd]) id)
  | getTransfer i =>
    exact .inl (disk?_of_disks (by cases ht : m.transfer? i <;> simp [work, ht]) id)
  | finalizeTransfer i c =>
    cases ht : m.transfer? i with
    | none => simp [work, ht]
    | some t =>
      have hne : t.transfer.diskId ≠ id := by
        simpa [work, ht, MockStep.finalized?, EngineReply.fault?] using hr
      exact .inl ((disk?_of_disks (disks_work_finalize b n ht) id).trans
        (disk?_updateDisk_ne hne fun _ h => h))
  | cancelTransfer i =>
    exact .inl (disk?_of_disks (by cases ht : m.transfer? i <;> simp [work, ht]) id)
  | listJobs c => exact .inl (disk?_of_disks rfl id)

theorem disk?_work_finalize {tid : String} {c : CorrelationId} {t : StoredTransfer}
    (ht : m.transfer? tid = some t) :
    (m.work b n (.finalizeTransfer tid c)).2.1.disk? t.transfer.diskId =
      (m.disk? t.transfer.diskId).map fun d =>
        { d with lockedLeft := b.lockedPolls, statusOverride := m.statusAfterFinalize } := by
  rw [disk?_of_disks (disks_work_finalize b n ht)]
  exact disk?_updateDisk m fun _ h => h

theorem disk?_work_create (hfresh : m.disk? (uuidOf n) = none) (p : DiskCreation)
    (c : CorrelationId) :
    (m.work b n (.createDisk p c)).2.1.disk? (uuidOf n) =
      some ⟨Mock.createdDisk b p (uuidOf n), b.lockedPolls, none⟩ := by
  unfold disk? at hfresh ⊢
  simp [work, List.find?_append, hfresh]

theorem transfer?_updateTransfer_ne {i id : String} (hne : i ≠ id)
    {f : StoredTransfer → StoredTransfer} (hf : ∀ t, t.transfer.id = i → (f t).transfer.id = i) :
    (m.updateTransfer i f).transfer? id = m.transfer? id := by
  unfold updateTransfer transfer?
  refine find?_map_skipped _ _ f (fun t ht => ?_) m.transfers
  simp only [beq_iff_eq] at ht
  simp [ht, hf t ht, hne]

theorem transfer?_append {t : StoredTransfer} {id : String} (h : (m.transfer? id).isSome) :
    (m.transfers ++ [t]).find? (·.transfer.id == id) = m.transfer? id := by
  obtain ⟨x, hx⟩ := Option.isSome_iff_exists.1 h
  rw [List.find?_append, show m.transfers.find? (·.transfer.id == id) = m.transfer? id from rfl, hx]
  rfl

theorem transfer?_work_read (id : String) :
    (m.work b n (.getTransfer id)).1.transfer? =
        (m.transfer? id).map (·.read m.forcedPhase |>.transfer) ∧
      (m.work b n (.getTransfer id)).2.1.transfer? id =
        (m.transfer? id).map (StoredTransfer.read m.forcedPhase) := by
  cases ht : m.transfer? id with
  | none => simp [work, ht, EngineReply.transfer?]
  | some t =>
    have hid := id_of_transfer? ht
    simp [work, ht, EngineReply.transfer?,
      transfer?_updateTransfer m (f := fun _ => t.read m.forcedPhase) (fun _ _ => by simpa using hid)]

theorem transfer?_work_other {id : String} (hheld : (m.transfer? id).isSome) (r : EngineRequest)
    (h : (MockStep.call r).readsTransfer id = false)
    (hr : ((m.work b n r).1.fault?.isNone &&
      ((MockStep.call r).finalized? == some id || (MockStep.call r).cancelled? == some id)) = false) :
    (m.work b n r).2.1.transfer? id = m.transfer? id := by
  cases r with
  | createDisk p c => exact transfer?_of_transfers rfl id
  | getDisk i => exact transfer?_of_transfers (by cases hd : m.disk? i <;> simp [work, hd]) id
  | removeDisk i => exact transfer?_of_transfers (by cases hd : m.disk? i <;> simp [work, hd]) id
  | createTransfer d dir c =>
    cases hd : m.disk? d with
    | none => simp [work, hd]
    | some sd =>
      have hmade : (m.disk? d).isSome := by simp [hd]
      simp only [work, hmade, if_true]
      exact transfer?_append (m := m) hheld
  | getTransfer i =>
    have hi : i ≠ id := by simpa [MockStep.readsTransfer] using h
    cases ht : m.transfer? i with
    | none => simp [work, ht]
    | some t =>
      simp only [work, ht]
      exact transfer?_updateTransfer_ne hi (fun _ _ => by simpa using id_of_transfer? ht)
  | finalizeTransfer i c =>
    cases ht : m.transfer? i with
    | none => simp [work, ht]
    | some t =>
      have hi : i ≠ id := by
        simpa [work, ht, MockStep.finalized?, MockStep.cancelled?, EngineReply.fault?] using hr
      have htransfers : (m.work b n (.finalizeTransfer i c)).2.1.transfers =
          (m.updateTransfer i fun t =>
            { t with transfer := { t.transfer with phase := .other "finalizing_success" } }).transfers := by
        simp [work, ht]
      exact (transfer?_of_transfers htransfers id).trans (transfer?_updateTransfer_ne hi fun _ h => h)
  | cancelTransfer i =>
    cases ht : m.transfer? i with
    | none => simp [work, ht]
    | some t =>
      have hi : i ≠ id := by
        simpa [work, ht, MockStep.finalized?, MockStep.cancelled?, EngineReply.fault?] using hr
      have htransfers : (m.work b n (.cancelTransfer i)).2.1.transfers =
          (m.updateTransfer i fun t =>
            { t with transfer := { t.transfer with phase := .other "cancelled" } }).transfers := by
        simp [work, ht]
      exact (transfer?_of_transfers htransfers id).trans (transfer?_updateTransfer_ne hi fun _ h => h)
  | listJobs c => exact transfer?_of_transfers rfl id

theorem transfer?_work_create (hfresh : m.transfer? (uuidOf n) = none) {d : String}
    (hd : (m.disk? d).isSome) (dir : Direction) (c : CorrelationId) :
    (m.work b n (.createTransfer d dir c)).2.1.transfer? (uuidOf n) =
      some ⟨Mock.openedTransfer d (uuidOf n), b.initializingPolls⟩ := by
  unfold transfer? at hfresh ⊢
  simp [work, hd, List.find?_append, hfresh]

def job? (m : MockState) (id : String) : Option StoredJob := m.jobs.find? (·.job.id == id)

/-- A listing of `c` as it changes the jobs: each job of `c` polled, the others as they were. -/
def pollJobs (c : CorrelationId) (js : List StoredJob) : List StoredJob :=
  js.map fun j => if j.correlation == c then Mock.StoredJob.poll j else j

theorem job?_of_jobs {m m' : MockState} (h : m'.jobs = m.jobs) (id : String) :
    m'.job? id = m.job? id := by
  simp [job?, h]

theorem find?_pollJobs (c : CorrelationId) (js : List StoredJob) (id : String) :
    (pollJobs c js).find? (·.job.id == id) =
      (js.find? (·.job.id == id)).map fun j => if j.correlation == c then Mock.StoredJob.poll j else j := by
  rw [pollJobs, List.find?_map]
  congr 2
  funext j
  by_cases hc : j.correlation = c <;> simp [hc]

theorem length_pollJobs (c : CorrelationId) (js : List StoredJob) :
    (pollJobs c js).length = js.length :=
  List.length_map _

theorem ids_pollJobs (c : CorrelationId) (js : List StoredJob) :
    (pollJobs c js).map (·.job.id) = js.map (·.job.id) := by
  simp only [pollJobs, List.map_map]
  refine List.map_congr_left fun j _ => ?_
  by_cases hc : j.correlation = c <;> simp [hc]

theorem filter_pollJobs (c : CorrelationId) (js : List StoredJob) :
    (pollJobs c js).filter (·.correlation != c) = js.filter (·.correlation != c) := by
  induction js with
  | nil => rfl
  | cons j js ih =>
    by_cases hc : j.correlation = c
    · simpa [pollJobs, hc] using ih
    · simpa [pollJobs, hc] using ih

theorem find?_listed {js : List StoredJob} {id : String} {x : StoredJob} {c : CorrelationId}
    (hx : js.find? (·.job.id == id) = some x) (hc : x.correlation = c) :
    ((js.filter (·.correlation == c)).map (·.job)).find? (·.id == id) = some x.job := by
  induction js with
  | nil => simp at hx
  | cons y ys ih =>
    by_cases hy : y.job.id = id
    · have hxy : y = x := by simpa [hy] using hx
      subst hxy
      simp [hc, hy]
    · have hys : ys.find? (·.job.id == id) = some x := by simpa [hy] using hx
      by_cases hyc : y.correlation = c
      · simpa [hyc, hy] using ih hys
      · simpa [hyc] using ih hys

/-- What a call does to the jobs: nothing, a listing's polls, or a job started under one of the
fresh ids it took, running for the behaviour's listings. -/
theorem jobs_work (r : EngineRequest) :
    (m.work b n r).2.1.jobs = m.jobs ∨
      (∃ c, r = .listJobs c ∧ (m.work b n r).2.1.jobs = pollJobs c m.jobs) ∨
      ∃ i < (m.work b n r).2.2, ∃ x : StoredJob, (m.work b n r).2.1.jobs = m.jobs ++ [x] ∧
        x.job.id = uuidOf (n + i) ∧ x.RunsFor b.runningJobPolls := by
  cases r with
  | createDisk p c =>
    exact .inr (.inr ⟨1, by simp [work], _, rfl, rfl, Mock.startedJob_runsFor b c _ _⟩)
  | getDisk i => exact .inl (by cases hd : m.disk? i <;> simp [work, hd])
  | removeDisk i => exact .inl (by cases hd : m.disk? i <;> simp [work, hd])
  | createTransfer d dir c => exact .inl (by cases hd : m.disk? d <;> simp [work, hd])
  | getTransfer i => exact .inl (by cases ht : m.transfer? i <;> simp [work, ht])
  | finalizeTransfer i c =>
    cases ht : m.transfer? i with
    | none => exact .inl (by simp [work, ht])
    | some t =>
      simp only [work, ht]
      exact .inr (.inr ⟨0, by simp, _, rfl, rfl, Mock.startedJob_runsFor b c _ _⟩)
  | cancelTransfer i => exact .inl (by cases ht : m.transfer? i <;> simp [work, ht])
  | listJobs c => exact .inr (.inl ⟨c, rfl, rfl⟩)

end MockState

theorem uuidOf_ne_of_lt {k n : Nat} (hk : k < n) (hn : n < 16 ^ 12) : uuidOf k ≠ uuidOf n := by
  intro h
  have := uuidOf_inj (by omega) hn h
  omega

namespace MockStep

variable (b : MockBehavior) (n : Nat) (m : MockState)

theorem taken_apply_le (s : MockStep) : (s.apply b m n).2.2 ≤ 2 := by
  cases s with
  | call r =>
    rcases MockState.answer_cases b n (m := m) r with ⟨e, he⟩ | he
    · simp [apply, he]
    · simpa [apply, he] using MockState.taken_work_le b n (m := (m.enter r.call).2) r
  | _ => simp [apply]

theorem idsIn_apply (s : MockStep) :
    (s.apply b m n).2.1.idsIn ⊆ m.idsIn ++ freshIds n (s.apply b m n).2.2 := by
  cases s with
  | call r =>
    rcases MockState.answer_cases b n (m := m) r with ⟨e, he⟩ | he
    · simp [apply, he]
    · simpa [apply, he] using MockState.idsIn_work b n (m := (m.enter r.call).2) r
  | insertDisk a size f =>
    intro x hx
    simp [apply, MockState.insertDisk, MockState.idsIn, freshIds] at hx ⊢
    grind
  | _ => simp [apply, MockState.idsIn, MockState.fail, MockState.failTimes, MockState.inject,
      MockState.forcePhase, MockState.setStatusAfterFinalize]

theorem run_world (s : MockStep) (w : World MockState) :
    ((s.run b).run w).2 = { w with
      state := (s.apply b w.state w.serial).2.1
      serial := w.serial + (s.apply b w.state w.serial).2.2 } := by
  rw [run_apply]

end MockStep

namespace MockState

open MockStep

variable {b : MockBehavior} {n : Nat} {m : MockState}

theorem IdsBelow.apply (hm : m.IdsBelow n) (s : MockStep) :
    (s.apply b m n).2.1.IdsBelow (n + (s.apply b m n).2.2) := by
  intro x hx
  rcases List.mem_append.1 (idsIn_apply b n m s hx) with hold | hnew
  · obtain ⟨k, hk, rfl⟩ := hm x hold
    exact ⟨k, by omega, rfl⟩
  · obtain ⟨i, hi, rfl⟩ := mem_freshIds.1 hnew
    exact ⟨n + i, by omega, rfl⟩

/-- Along any run, the engine holds only ids handed out before the timeline's serial, which
moves by at most two ids a step. -/
theorem IdsBelow.after {w : World MockState} (hw : w.state.IdsBelow w.serial) (ss : List MockStep) :
    (after b ss w).state.IdsBelow (after b ss w).serial ∧
      w.serial ≤ (after b ss w).serial ∧ (after b ss w).serial ≤ w.serial + 2 * ss.length := by
  induction ss generalizing w with
  | nil => simpa using hw
  | cons s ss ih =>
    have hk := taken_apply_le b w.serial w.state s
    obtain ⟨hids, hlo, hhi⟩ := ih (w := ((s.run b).run w).2) (by rw [run_world]; exact hw.apply s)
    simp only [after_cons, run_world, List.length_cons] at hids hlo hhi ⊢
    exact ⟨hids, by omega, by omega⟩

theorem IdsBelow.uuidOf_not_mem (hm : m.IdsBelow n) {i : Nat} (hi : n ≤ i) (hb : i < 16 ^ 12) :
    uuidOf i ∉ m.idsIn := by
  intro h
  obtain ⟨k, hk, he⟩ := hm _ h
  exact uuidOf_ne_of_lt (by omega : k < i) hb he.symm

theorem IdsBelow.disk?_fresh (hm : m.IdsBelow n) {i : Nat} (hi : n ≤ i) (hb : i < 16 ^ 12) :
    m.disk? (uuidOf i) = none :=
  Option.not_isSome_iff_eq_none.1 fun h => hm.uuidOf_not_mem hi hb (mem_idsIn_of_disk? h)

theorem IdsBelow.transfer?_fresh (hm : m.IdsBelow n) {i : Nat} (hi : n ≤ i) (hb : i < 16 ^ 12) :
    m.transfer? (uuidOf i) = none := by
  refine Option.not_isSome_iff_eq_none.1 fun h => hm.uuidOf_not_mem hi hb ?_
  obtain ⟨t, ht, hid⟩ := List.find?_isSome.1 h
  simp only [beq_iff_eq] at hid
  simp only [idsIn, List.mem_append, List.mem_map]
  exact .inl (.inl (.inr ⟨t, ht, hid⟩))

theorem IdsBelow.job?_fresh (hm : m.IdsBelow n) {i : Nat} (hi : n ≤ i) (hb : i < 16 ^ 12) :
    m.job? (uuidOf i) = none := by
  refine Option.not_isSome_iff_eq_none.1 fun h => hm.uuidOf_not_mem hi hb ?_
  obtain ⟨x, hx, hid⟩ := List.find?_isSome.1 h
  simp only [beq_iff_eq] at hid
  simp only [idsIn, List.mem_append, List.mem_map]
  exact .inr ⟨x, hx, hid⟩

theorem IdsBelow.diskId_mem (hm : m.IdsBelow n) {tid : String} {t : StoredTransfer}
    (ht : m.transfer? tid = some t) : ∃ k < n, t.transfer.diskId = uuidOf k := by
  refine hm _ ?_
  simp only [idsIn, List.mem_append, List.mem_map]
  exact .inl (.inr ⟨t, List.mem_of_find?_eq_some ht, rfl⟩)

end MockState

namespace MockStep

variable {b : MockBehavior} {n : Nat} {m : MockState} {id : String}

theorem disk?_apply_read {s : MockStep} (h : s.readsDisk id = true) :
    ((s.apply b m n).1.bind EngineReply.disk? = none ∧
        (s.apply b m n).2.1.disk? id = m.disk? id) ∨
      ∃ sd, m.disk? id = some sd ∧
        (s.apply b m n).1.bind EngineReply.disk? = some sd.polled.disk ∧
        (s.apply b m n).2.1.disk? id = some sd.polled := by
  cases s with
  | call r =>
    cases r with
    | getDisk i =>
      obtain rfl : i = id := by simpa [readsDisk] using h
      rcases MockState.answer_cases b n (m := m) (.getDisk i) with ⟨e, he⟩ | he
      · left
        simp [apply, he, EngineRequest.failed, EngineReply.disk?]
      · obtain ⟨hreply, hstate⟩ := MockState.disk?_work_read b n (m := (m.enter .getDisk).2) i
        simp only [EngineRequest.call] at he
        cases hd : m.disk? i with
        | none =>
          left
          simp_all [apply]
        | some sd =>
          right
          exact ⟨sd, rfl, by simp_all [apply], by simp_all [apply]⟩
    | _ => simp [readsDisk] at h
  | _ => simp [readsDisk] at h

theorem disk?_apply_other (hid : ∃ k < n, id = uuidOf k) (hn : n + 2 ≤ 16 ^ 12) {s : MockStep}
    (h : s.readsDisk id = false)
    (hr : (served (s.apply b m n).1 &&
      (s.finalized?.bind m.transfer?).any (·.transfer.diskId == id)) = false) :
    (s.apply b m n).2.1.disk? id = m.disk? id ∨ (s.apply b m n).2.1.disk? id = none := by
  have hnew : id ≠ uuidOf n := by
    obtain ⟨k, hk, rfl⟩ := hid
    exact uuidOf_ne_of_lt hk (by omega)
  cases s with
  | call r =>
    rcases MockState.answer_cases b n (m := m) r with ⟨e, he⟩ | he
    · left
      simp [apply, he]
    · have hr' : (((m.enter r.call).2.work b n r).1.fault?.isNone &&
          ((call r).finalized?.bind (m.enter r.call).2.transfer?).any
            (·.transfer.diskId == id)) = false := by
        simpa [apply, he, served] using hr
      simpa [apply, he] using MockState.disk?_work_other b n (m := (m.enter r.call).2) hnew r h hr'
  | insertDisk a size f => exact .inl (MockState.disk?_append (m := m) (Ne.symm hnew))
  | _ => exact .inl rfl

theorem transfer?_apply_read {s : MockStep} (h : s.readsTransfer id = true) :
    ((s.apply b m n).1.bind EngineReply.transfer? = none ∧
        (s.apply b m n).2.1.transfer? id = m.transfer? id) ∨
      ∃ st, m.transfer? id = some st ∧
        (s.apply b m n).1.bind EngineReply.transfer? = some (st.read m.forcedPhase).transfer ∧
        (s.apply b m n).2.1.transfer? id = some (st.read m.forcedPhase) := by
  cases s with
  | call r =>
    cases r with
    | getTransfer i =>
      obtain rfl : i = id := by simpa [readsTransfer] using h
      rcases MockState.answer_cases b n (m := m) (.getTransfer i) with ⟨e, he⟩ | he
      · left
        simp [apply, he, EngineRequest.failed, EngineReply.transfer?]
      · obtain ⟨hreply, hstate⟩ :=
          MockState.transfer?_work_read b n (m := (m.enter .getTransfer).2) i
        simp only [EngineRequest.call] at he
        cases ht : m.transfer? i with
        | none =>
          left
          simp_all [apply]
        | some st =>
          right
          exact ⟨st, rfl, by simp_all [apply], by simp_all [apply]⟩
    | _ => simp [readsTransfer] at h
  | _ => simp [readsTransfer] at h

theorem transfer?_apply_other (hheld : (m.transfer? id).isSome) {s : MockStep}
    (h : s.readsTransfer id = false)
    (hr : (served (s.apply b m n).1 && (s.finalized? == some id || s.cancelled? == some id)) = false) :
    (s.apply b m n).2.1.transfer? id = m.transfer? id := by
  cases s with
  | call r =>
    rcases MockState.answer_cases b n (m := m) r with ⟨e, he⟩ | he
    · simp [apply, he]
    · have hr' : (((m.enter r.call).2.work b n r).1.fault?.isNone &&
          ((call r).finalized? == some id || (call r).cancelled? == some id)) = false := by
        simpa [apply, he, served] using hr
      simpa [apply, he] using
        MockState.transfer?_work_other b n (m := (m.enter r.call).2) (by simpa using hheld) r h hr'
  | _ => rfl

theorem eq_of_listsFor {c : CorrelationId} {s : MockStep} (h : s.listsFor c = true) :
    s = call (.listJobs c) := by
  cases s with
  | call r =>
    cases r with
    | listJobs c' =>
      obtain rfl : c' = c := by simpa [listsFor] using h
      rfl
    | _ => simp [listsFor] at h
  | _ => simp [listsFor] at h

theorem listJobs_apply (c : CorrelationId) :
    (((call (.listJobs c)).apply b m n).1.bind EngineReply.jobs? = none ∧
        ((call (.listJobs c)).apply b m n).2.1.jobs = m.jobs) ∨
      (((call (.listJobs c)).apply b m n).1 =
          some (.jobs (.ok ((m.jobs.filter (·.correlation == c)).map (·.job)))) ∧
        ((call (.listJobs c)).apply b m n).2.1.jobs = MockState.pollJobs c m.jobs) := by
  rcases MockState.answer_cases b n (m := m) (.listJobs c) with ⟨e, he⟩ | he
  · left
    simp [apply, he, EngineRequest.failed, EngineReply.jobs?]
  · right
    simp only [EngineRequest.call] at he
    simp [apply, he, MockState.work, MockState.pollJobs]

theorem jobs_apply (s : MockStep) :
    (s.apply b m n).2.1.jobs = m.jobs ∨
      (∃ c, s = call (.listJobs c) ∧ (s.apply b m n).2.1.jobs = MockState.pollJobs c m.jobs) ∨
      ∃ i < (s.apply b m n).2.2, ∃ x : StoredJob, (s.apply b m n).2.1.jobs = m.jobs ++ [x] ∧
        x.job.id = uuidOf (n + i) ∧ x.RunsFor b.runningJobPolls := by
  cases s with
  | call r =>
    rcases MockState.answer_cases b n (m := m) r with ⟨e, he⟩ | he
    · left
      simp [apply, he]
    · rcases MockState.jobs_work b n (m := (m.enter r.call).2) r with
        hsame | ⟨c, rfl, hpoll⟩ | ⟨i, hi, x, hx, hid, hrun⟩
      · left
        simpa [apply, he] using hsame
      · right; left
        exact ⟨c, rfl, by simpa [apply, he] using hpoll⟩
      · right; right
        exact ⟨i, by simpa [apply, he] using hi, x, by simpa [apply, he] using hx, hid, hrun⟩
  | _ => exact .inl rfl

theorem job?_apply_other {y : StoredJob} (hy : m.job? id = some y) {s : MockStep}
    (h : s.listsFor y.correlation = false) : (s.apply b m n).2.1.job? id = some y := by
  rcases jobs_apply (b := b) (m := m) (n := n) s with hsame | ⟨c, rfl, hpoll⟩ | ⟨i, -, x, hx, -, -⟩
  · rw [MockState.job?_of_jobs hsame, hy]
  · have hc : c ≠ y.correlation := by simpa [listsFor] using h
    unfold MockState.job? at hy ⊢
    rw [hpoll, MockState.find?_pollJobs, hy]
    simp [Ne.symm hc]
  · unfold MockState.job? at hy ⊢
    rw [hx, List.find?_append, hy]
    rfl

theorem jobIds_apply (s : MockStep) :
    (m.jobs.map (·.job.id)).IsPrefix ((s.apply b m n).2.1.jobs.map (·.job.id)) := by
  rcases jobs_apply (b := b) (m := m) (n := n) s with hsame | ⟨c, -, hpoll⟩ | ⟨i, -, x, hx, -, -⟩
  · rw [hsame]
  · rw [hpoll, MockState.ids_pollJobs]
  · rw [hx, List.map_append]
    exact List.prefix_append _ _

theorem jobIds_after (ss : List MockStep) (w : World MockState) :
    (w.state.jobs.map (·.job.id)).IsPrefix ((after b ss w).state.jobs.map (·.job.id)) := by
  induction ss generalizing w with
  | nil => exact List.prefix_refl _
  | cons s ss ih =>
    have hstep := jobIds_apply (b := b) (m := w.state) (n := w.serial) s
    have hrest := ih ((s.run b).run w).2
    rw [run_world] at hrest
    rw [after_cons, run_world]
    exact hstep.trans hrest

theorem createDisk_reply {p : DiskCreation} {c : CorrelationId} {d : Disk}
    (h : ((call (.createDisk p c)).apply b m n).1 = some (.disk (.ok d))) :
    d = Mock.createdDisk b p (uuidOf n) ∧ ((call (.createDisk p c)).apply b m n).2.2 = 2 := by
  have hw := MockState.answer_of_served b n m (r := .createDisk p c)
    (by simp_all [apply, EngineReply.fault?])
  refine ⟨?_, by simp [apply, hw, MockState.work]⟩
  simpa [apply, hw, MockState.work, eq_comm] using h

theorem createDisk_apply (hm : m.IdsBelow n) (hn : n < 16 ^ 12) {p : DiskCreation}
    {c : CorrelationId} {d : Disk}
    (h : ((call (.createDisk p c)).apply b m n).1 = some (.disk (.ok d))) :
    ((call (.createDisk p c)).apply b m n).2.1.disk? d.id = some ⟨d, b.lockedPolls, none⟩ := by
  have hw := MockState.answer_of_served b n m (r := .createDisk p c)
    (by simp_all [apply, EngineReply.fault?])
  obtain ⟨rfl, -⟩ := createDisk_reply h
  have hfresh : (m.enter .createDisk).2.disk? (uuidOf n) = none := by
    simpa using hm.disk?_fresh (le_refl n) hn
  simpa [apply, hw, EngineRequest.call] using MockState.disk?_work_create b n hfresh p c

theorem finalizeTransfer_apply {tid : String} {c : CorrelationId} {t : StoredTransfer}
    (ht : m.transfer? tid = some t)
    (h : ((call (.finalizeTransfer tid c)).apply b m n).1 = some (.done (.ok ()))) :
    ((call (.finalizeTransfer tid c)).apply b m n).2.1.disk? t.transfer.diskId =
      (m.disk? t.transfer.diskId).map fun d =>
        { d with lockedLeft := b.lockedPolls, statusOverride := m.statusAfterFinalize } := by
  have hw := MockState.answer_of_served b n m (r := .finalizeTransfer tid c)
    (by simp_all [apply, EngineReply.fault?])
  have ht' : (m.enter .finalizeTransfer).2.transfer? tid = some t := by simpa using ht
  simpa [apply, hw, EngineRequest.call] using MockState.disk?_work_finalize b n (c := c) ht'

theorem createTransfer_apply (hm : m.IdsBelow n) (hn : n < 16 ^ 12) {d : String} {dir : Direction}
    {c : CorrelationId} {t : Transfer}
    (h : ((call (.createTransfer d dir c)).apply b m n).1 = some (.transfer (.ok t))) :
    t.phase = .initializing ∧
      ((call (.createTransfer d dir c)).apply b m n).2.1.transfer? t.id =
        some ⟨t, b.initializingPolls⟩ := by
  have hw := MockState.answer_of_served b n m (r := .createTransfer d dir c)
    (by simp_all [apply, EngineReply.fault?])
  -- the answer is a transfer, so the disk it goes into was held
  cases hd : (m.disk? d).isSome with
  | false => simp [apply, hw, EngineRequest.call, MockState.work, hd] at h
  | true =>
    have hd' : ((m.enter .createTransfer).2.disk? d).isSome := by simpa using hd
    simp only [apply, hw, EngineRequest.call, MockState.work, hd', if_true, Option.some.injEq,
      EngineReply.transfer.injEq, Except.ok.injEq] at h
    subst h
    have hfresh : (m.enter .createTransfer).2.transfer? (uuidOf n) = none := by
      simpa using hm.transfer?_fresh (le_refl n) hn
    exact ⟨rfl, by
      simpa [apply, hw, EngineRequest.call] using MockState.transfer?_work_create b n hfresh hd' dir c⟩

theorem job?_started (hm : m.IdsBelow n) (hn : n + 2 ≤ 16 ^ 12) {s : MockStep} {x : StoredJob}
    (hx : (s.apply b m n).2.1.jobs = m.jobs ++ [x]) :
    x.RunsFor b.runningJobPolls ∧ (s.apply b m n).2.1.job? x.job.id = some x := by
  have hk := taken_apply_le b n m s
  rcases jobs_apply (b := b) (m := m) (n := n) s with hsame | ⟨c, -, hpoll⟩ | ⟨i, hi, y, hy, hid, hrun⟩
  · have := congrArg List.length (hsame.symm.trans hx)
    simp at this
  · have := congrArg List.length (hpoll.symm.trans hx)
    simp [MockState.length_pollJobs] at this
  · obtain rfl : y = x := by simpa [hy] using hx
    refine ⟨hrun, ?_⟩
    have hfresh := hm.job?_fresh (Nat.le_add_right n i) (by omega)
    unfold MockState.job? at hfresh ⊢
    rw [hy, List.find?_append, hid, hfresh]
    simp [hid]

end MockStep

end DiskUploader
