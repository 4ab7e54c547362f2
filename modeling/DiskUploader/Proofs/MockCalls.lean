import DiskUploader.Proofs.PollCountdown
import DiskUploader.Upload.Pipeline

/-!
# The in-memory engine, call by call

With no fault injected, every call of the in-memory engine takes no time, is never interrupted
and does to the engine's part of a rehearsal exactly what it says: it is counted, and it creates,
reads or changes the entries its arguments name. A read of a disk uses up one poll of its lock,
a read of a transfer one poll of its initialization, a listing of jobs one poll of every job of
the correlation id.

Followed poll after poll, each countdown is an orbit of engine states. A disk locked for `L`
polls is read locked `L` times and then ok; a job running for `R` listings is listed running `R`
times and then finished. So the engine's waits are countdowns in the sense of the retry engine,
and a wait ends as its plan allows.
-/

namespace DiskUploader

namespace MockState

variable (m : MockState) (c : EngineCall)

def counted : MockState :=
  { m with calls := (m.calls.filter fun p => p.1 != c) ++ [(c, m.callCount c + 1)] }

@[simp] theorem disk?_counted (id : String) : (m.counted c).disk? id = m.disk? id := rfl
@[simp] theorem transfer?_counted (id : String) : (m.counted c).transfer? id = m.transfer? id := rfl
@[simp] theorem faults_counted : (m.counted c).faults = m.faults := rfl
@[simp] theorem disks_counted : (m.counted c).disks = m.disks := rfl
@[simp] theorem transfers_counted : (m.counted c).transfers = m.transfers := rfl
@[simp] theorem jobs_counted : (m.counted c).jobs = m.jobs := rfl
@[simp] theorem removed_counted : (m.counted c).removed = m.removed := rfl
@[simp] theorem cancelled_counted : (m.counted c).cancelled = m.cancelled := rfl
@[simp] theorem finalized_counted : (m.counted c).finalized = m.finalized := rfl
@[simp] theorem forcedPhase_counted : (m.counted c).forcedPhase = m.forcedPhase := rfl

@[simp] theorem statusAfterFinalize_counted :
    (m.counted c).statusAfterFinalize = m.statusAfterFinalize := rfl

/-- What polls and creations leave alone: the injected faults, the forced phase, the status after
finalization, and the records of removed, cancelled and finalized entries. -/
structure Frame (m m' : MockState) : Prop where
  faults : m'.faults = m.faults
  forcedPhase : m'.forcedPhase = m.forcedPhase
  statusAfterFinalize : m'.statusAfterFinalize = m.statusAfterFinalize
  removed : m'.removed = m.removed
  cancelled : m'.cancelled = m.cancelled
  finalized : m'.finalized = m.finalized

theorem Frame.refl (m : MockState) : Frame m m := ⟨rfl, rfl, rfl, rfl, rfl, rfl⟩

theorem Frame.trans {m₁ m₂ m₃ : MockState} (h₁ : Frame m₁ m₂) (h₂ : Frame m₂ m₃) : Frame m₁ m₃ :=
  ⟨h₂.faults.trans h₁.faults, h₂.forcedPhase.trans h₁.forcedPhase,
    h₂.statusAfterFinalize.trans h₁.statusAfterFinalize, h₂.removed.trans h₁.removed,
    h₂.cancelled.trans h₁.cancelled, h₂.finalized.trans h₁.finalized⟩

section Updates

variable (id : String) (fd : StoredDisk → StoredDisk) (ft : StoredTransfer → StoredTransfer)

@[simp] theorem faults_updateDisk : (m.updateDisk id fd).faults = m.faults := rfl
@[simp] theorem transfers_updateDisk : (m.updateDisk id fd).transfers = m.transfers := rfl
@[simp] theorem jobs_updateDisk : (m.updateDisk id fd).jobs = m.jobs := rfl
@[simp] theorem finalized_updateDisk : (m.updateDisk id fd).finalized = m.finalized := rfl
@[simp] theorem removed_updateDisk : (m.updateDisk id fd).removed = m.removed := rfl
@[simp] theorem cancelled_updateDisk : (m.updateDisk id fd).cancelled = m.cancelled := rfl
@[simp] theorem forcedPhase_updateDisk : (m.updateDisk id fd).forcedPhase = m.forcedPhase := rfl
@[simp] theorem callCount_updateDisk : (m.updateDisk id fd).callCount c = m.callCount c := rfl

@[simp] theorem transfer?_updateDisk (i : String) :
    (m.updateDisk id fd).transfer? i = m.transfer? i := rfl

@[simp] theorem statusAfterFinalize_updateDisk :
    (m.updateDisk id fd).statusAfterFinalize = m.statusAfterFinalize := rfl

@[simp] theorem faults_updateTransfer : (m.updateTransfer id ft).faults = m.faults := rfl
@[simp] theorem disks_updateTransfer : (m.updateTransfer id ft).disks = m.disks := rfl
@[simp] theorem jobs_updateTransfer : (m.updateTransfer id ft).jobs = m.jobs := rfl
@[simp] theorem finalized_updateTransfer : (m.updateTransfer id ft).finalized = m.finalized := rfl
@[simp] theorem removed_updateTransfer : (m.updateTransfer id ft).removed = m.removed := rfl
@[simp] theorem cancelled_updateTransfer : (m.updateTransfer id ft).cancelled = m.cancelled := rfl
@[simp] theorem callCount_updateTransfer : (m.updateTransfer id ft).callCount c = m.callCount c := rfl

@[simp] theorem disk?_updateTransfer (i : String) :
    (m.updateTransfer id ft).disk? i = m.disk? i := rfl

@[simp] theorem forcedPhase_updateTransfer :
    (m.updateTransfer id ft).forcedPhase = m.forcedPhase := rfl

@[simp] theorem statusAfterFinalize_updateTransfer :
    (m.updateTransfer id ft).statusAfterFinalize = m.statusAfterFinalize := rfl

end Updates

theorem callCount_counted (c' : EngineCall) :
    (m.counted c).callCount c' = m.callCount c' + if c' = c then 1 else 0 := by
  by_cases h : c' = c
  · subst h
    -- the counted call's old entry is filtered out, so the new one is found
    have hnone : (m.calls.filter fun p => p.1 != c').find? (·.1 == c') = none := by
      rw [List.find?_eq_none]
      intro x hx
      simp only [List.mem_filter, bne_iff_ne, ne_eq] at hx
      simpa using hx.2
    simp [counted, callCount, List.find?_append, hnone]
  · have hsame : (m.calls.filter fun p => p.1 != c).find? (·.1 == c') = m.calls.find? (·.1 == c') := by
      rw [List.find?_filter]
      congr 1
      funext p
      by_cases hp : p.1 = c' <;> simp [hp, h]
    simp [counted, callCount, List.find?_append, hsame, h, Ne.symm h]

/-- Changing the entries a test picks, in a way the test still sees, changes what a search by
that test finds in the same way. -/
private theorem find?_map_picked {β : Type} (p : β → Bool) (f : β → β)
    (hf : ∀ x, p x = true → p (f x) = true) (l : List β) :
    (l.map fun x => if p x then f x else x).find? p = (l.find? p).map f := by
  induction l with
  | nil => rfl
  | cons x xs ih =>
    by_cases hx : p x
    · simp [hx, hf x hx]
    · simp [hx, ih]

theorem disk?_updateDisk {id : String} {f : StoredDisk → StoredDisk}
    (hf : ∀ d, d.disk.id = id → (f d).disk.id = id) :
    (m.updateDisk id f).disk? id = (m.disk? id).map f := by
  unfold disk? updateDisk
  exact find?_map_picked (fun d : StoredDisk => d.disk.id == id) f
    (fun d hd => by simpa using hf d (by simpa using hd)) m.disks

theorem transfer?_updateTransfer {id : String} {f : StoredTransfer → StoredTransfer}
    (hf : ∀ t, t.transfer.id = id → (f t).transfer.id = id) :
    (m.updateTransfer id f).transfer? id = (m.transfer? id).map f := by
  unfold transfer? updateTransfer
  exact find?_map_picked (fun t : StoredTransfer => t.transfer.id == id) f
    (fun t ht => by simpa using hf t (by simpa using ht)) m.transfers

/-- The engine once the transfer `id` into the disk `diskId` is finalized: the call counted, the
transfer marked finalizing, the disk locked again for `L` polls and pinned to the status after
finalization, the transfer recorded, and `job` started. -/
def finalizing (id diskId : String) (L : Nat) (job : StoredJob) : MockState :=
  let m' := ((m.counted .finalizeTransfer).updateTransfer id fun t =>
      { t with transfer := { t.transfer with phase := .other "finalizing_success" } }).updateDisk
    diskId fun d => { d with lockedLeft := L, statusOverride := m.statusAfterFinalize }
  { m' with finalized := m'.finalized ++ [id], jobs := m'.jobs ++ [job] }

def creating (d : Disk) (L : Nat) (job : StoredJob) : MockState :=
  { m.counted .createDisk with disks := m.disks ++ [⟨d, L, none⟩], jobs := m.jobs ++ [job] }

def opening (t : Transfer) (I : Nat) : MockState :=
  { m.counted .createTransfer with transfers := m.transfers ++ [⟨t, I⟩] }

section Creations

variable (d : Disk) (L : Nat) (job : StoredJob) (t : Transfer) (I : Nat)

theorem frame_creating : Frame m (m.creating d L job) := ⟨rfl, rfl, rfl, rfl, rfl, rfl⟩
theorem frame_opening : Frame m (m.opening t I) := ⟨rfl, rfl, rfl, rfl, rfl, rfl⟩

@[simp] theorem disks_creating : (m.creating d L job).disks = m.disks ++ [⟨d, L, none⟩] := rfl
@[simp] theorem jobs_creating : (m.creating d L job).jobs = m.jobs ++ [job] := rfl
@[simp] theorem transfers_creating : (m.creating d L job).transfers = m.transfers := rfl
@[simp] theorem disks_opening : (m.opening t I).disks = m.disks := rfl
@[simp] theorem jobs_opening : (m.opening t I).jobs = m.jobs := rfl
@[simp] theorem transfers_opening : (m.opening t I).transfers = m.transfers ++ [⟨t, I⟩] := rfl

theorem callCount_creating (c' : EngineCall) :
    (m.creating d L job).callCount c' = m.callCount c' + if c' = .createDisk then 1 else 0 :=
  callCount_counted m _ c'

theorem callCount_opening (c' : EngineCall) :
    (m.opening t I).callCount c' = m.callCount c' + if c' = .createTransfer then 1 else 0 :=
  callCount_counted m _ c'

end Creations

section Finalizing

variable (id diskId : String) (L : Nat) (job : StoredJob)

@[simp] theorem faults_finalizing : (m.finalizing id diskId L job).faults = m.faults := rfl
@[simp] theorem jobs_finalizing : (m.finalizing id diskId L job).jobs = m.jobs ++ [job] := rfl
@[simp] theorem finalized_finalizing :
    (m.finalizing id diskId L job).finalized = m.finalized ++ [id] := rfl
@[simp] theorem removed_finalizing : (m.finalizing id diskId L job).removed = m.removed := rfl
@[simp] theorem cancelled_finalizing : (m.finalizing id diskId L job).cancelled = m.cancelled := rfl
@[simp] theorem statusAfterFinalize_finalizing :
    (m.finalizing id diskId L job).statusAfterFinalize = m.statusAfterFinalize := rfl

theorem callCount_finalizing (c' : EngineCall) :
    (m.finalizing id diskId L job).callCount c' = m.callCount c' + if c' = .finalizeTransfer then 1 else 0 :=
  callCount_counted m _ c'

variable {m id diskId L}

/-- The disk of a finalized transfer is locked again for `L` polls, and pinned to the status
after finalization. -/
theorem disk?_finalizing {d : StoredDisk} (hd : m.disk? diskId = some d) :
    (m.finalizing id diskId L job).disk? diskId =
      some { d with lockedLeft := L, statusOverride := m.statusAfterFinalize } := by
  show (MockState.updateDisk _ diskId _).disk? diskId = _
  rw [disk?_updateDisk, disk?_updateTransfer, disk?_counted, hd]
  · rfl
  · exact fun _ h => h

theorem disks_finalizing {d : StoredDisk} (hd : m.disks = [d]) (hid : d.disk.id = diskId) :
    (m.finalizing id diskId L job).disks =
      [{ d with lockedLeft := L, statusOverride := m.statusAfterFinalize }] := by
  simp [finalizing, updateDisk, hd, hid]

end Finalizing

end MockState

/-- A disk as one read leaves it: pinned to its status, or locked while polls are left, or ok. -/
def StoredDisk.polled (d : StoredDisk) : StoredDisk :=
  match d.statusOverride with
  | some s => { d with disk := { d.disk with status := s } }
  | none =>
    if d.lockedLeft > 0 then
      { d with lockedLeft := d.lockedLeft - 1, disk := { d.disk with status := .locked } }
    else { d with disk := { d.disk with status := .ok } }

/-- A transfer as one read leaves it, when no phase is forced: initializing while polls are
left, then transferring. -/
def StoredTransfer.polled (t : StoredTransfer) : StoredTransfer :=
  if t.transfer.phase = .initializing then
    if t.initializingLeft > 0 then { t with initializingLeft := t.initializingLeft - 1 }
    else { t with transfer := { t.transfer with phase := .transferring } }
  else t

namespace Mock

def createdDisk (b : MockBehavior) (p : DiskCreation) (id : String) : Disk :=
  { id, aliasName := p.aliasName, status := if b.lockedPolls > 0 then .locked else .ok,
    format := p.format, provisionedSize := p.provisionedSize, totalSize := p.initialSize,
    storageDomainIds := [p.storageDomainId] }

def startedJob (b : MockBehavior) (c : CorrelationId) (id description : String) : StoredJob :=
  ⟨⟨id, description, if b.runningJobPolls > 0 then .started else .finished⟩, c, b.runningJobPolls⟩

def openedTransfer (diskId id : String) : Transfer :=
  { id, diskId, phase := .initializing,
    transferUrl := some s!"https://host.mock:54322/images/{id}",
    proxyUrl := some s!"https://engine.mock:54323/images/{id}" }

/-- The endpoints of a transfer the engine opened, whatever its phase: the direct one first, then
the proxy. -/
theorem candidateUrls_openedTransfer (diskId id : String) (p : TransferPhase) :
    { openedTransfer diskId id with phase := p }.candidateUrls =
      [s!"https://host.mock:54322/images/{id}", s!"https://engine.mock:54323/images/{id}"] := by
  -- both endpoints start with their scheme, so neither is dropped as empty
  have hne : ∀ host : String, host ≠ "" → s!"{host}{id}" ≠ "" := fun host h h' => by
    simp only [String.append_eq_empty_iff] at h'
    exact h h'.1
  simp [Transfer.candidateUrls, openedTransfer, Option.filter,
    hne "https://host.mock:54322/images/" (by decide), hne "https://engine.mock:54323/images/" (by decide)]

section Calls

variable (b : MockBehavior) (w : World Rehearsal) (hf : w.state.engine.faults = [])
include hf

theorem entered_run {α : Type} (c : EngineCall) (k : Timed Rehearsal (Except Fault α)) :
    (entered Rehearsal.engineLens c k).run w =
      k.run { w with state := { w.state with engine := w.state.engine.counted c } } := by
  simp [entered, enter, view, store, MockState.enter, MockState.counted, hf, Rehearsal.engineLens]

theorem getDisk_run {id : String} {d : StoredDisk} (hd : w.state.engine.disk? id = some d) :
    (getDisk Rehearsal.engineLens id).run w =
      (.ok (.ok d.polled.disk), { w with state := { w.state with
        engine := (w.state.engine.counted .getDisk).updateDisk id fun _ => d.polled } }) := by
  rw [getDisk, entered_run w hf]
  simp [view, store, Rehearsal.engineLens, hd]
  exact ⟨rfl, rfl⟩

theorem getTransfer_run (hp : w.state.engine.forcedPhase = none) {id : String}
    {t : StoredTransfer} (ht : w.state.engine.transfer? id = some t) :
    (getTransfer Rehearsal.engineLens id).run w =
      (.ok (.ok t.polled.transfer), { w with state := { w.state with
        engine := (w.state.engine.counted .getTransfer).updateTransfer id fun _ => t.polled } }) := by
  rw [getTransfer, entered_run w hf]
  simp [view, store, Rehearsal.engineLens, ht, hp]
  exact ⟨rfl, rfl⟩

theorem listJobs_run (c : CorrelationId) :
    (listJobs Rehearsal.engineLens c).run w =
      (.ok (.ok ((w.state.engine.jobs.filter (·.correlation == c)).map (·.job))),
        { w with state := { w.state with engine := { w.state.engine.counted .listJobs with
          jobs := w.state.engine.jobs.map fun j =>
            if j.correlation == c then StoredJob.poll j else j } } }) := by
  rw [listJobs, entered_run w hf]
  simp [view, store, Rehearsal.engineLens]

/-- A creation stores the disk, locked for the first polls, and starts a job for it; the disk
and the job take the next two ids. -/
theorem createDisk_run (p : DiskCreation) (c : CorrelationId) :
    (createDisk b Rehearsal.engineLens p c).run w =
      (.ok (.ok (createdDisk b p (uuidOf w.serial))), { w with
        serial := w.serial + 2
        state := { w.state with
          engine := w.state.engine.creating (createdDisk b p (uuidOf w.serial)) b.lockedPolls
            (startedJob b c (uuidOf (w.serial + 1)) s!"Adding disk {p.aliasName}") } }) := by
  rw [createDisk, entered_run w hf]
  simp [view, store, startJob, freshId, Rehearsal.engineLens, createdDisk, startedJob]
  rfl

theorem createTransfer_run {diskId : String} (hd : (w.state.engine.disk? diskId).isSome)
    (dir : Direction) (c : CorrelationId) :
    (createTransfer b Rehearsal.engineLens diskId dir c).run w =
      (.ok (.ok (openedTransfer diskId (uuidOf w.serial))), { w with
        serial := w.serial + 1
        state := { w.state with
          engine := w.state.engine.opening (openedTransfer diskId (uuidOf w.serial)) b.initializingPolls } }) := by
  have hd' : w.state.engine.disk? diskId ≠ none := Option.isSome_iff_ne_none.1 hd
  rw [createTransfer, entered_run w hf]
  simp [view, store, freshId, Rehearsal.engineLens, hd', openedTransfer]
  rfl

/-- Finalizing a stored transfer marks it finalizing, locks its disk again for as many polls
and pins it to the status after finalization, records it, and starts a job under the next id. -/
theorem finalizeTransfer_run {id : String} {t : StoredTransfer}
    (ht : w.state.engine.transfer? id = some t) (c : CorrelationId) :
    (finalizeTransfer b Rehearsal.engineLens id c).run w =
      (.ok (.ok ()), { w with
        serial := w.serial + 1
        state := { w.state with
          engine := w.state.engine.finalizing id t.transfer.diskId b.lockedPolls
            (startedJob b c (uuidOf w.serial) s!"Finalizing transfer {id}") } }) := by
  rw [finalizeTransfer, entered_run w hf]
  simp [view, store, startJob, freshId, Rehearsal.engineLens, ht, startedJob]
  rfl

/-- The answer of a call that undoes something: done, or a permanent failure when there is
nothing to undo. -/
def Undoes (r : Except Fault Unit) : Prop := ∀ e, r = .error e → e.classified.permanent = true

omit hf in
theorem notFound_permanent (kind id : String) : (notFound kind id).classified.permanent = true := by
  simp [notFound, Fault.new, Fault.classified, Fault.permanent, Code.permanent]

theorem cancelTransfer_run (id : String) :
    ∃ r m, (cancelTransfer Rehearsal.engineLens id).run w =
      (.ok r, { w with state := { w.state with engine := m } }) ∧ m.faults = [] ∧ Undoes r := by
  rw [cancelTransfer, entered_run w hf]
  cases ht : w.state.engine.transfer? id with
  | none =>
    refine ⟨.error (notFound "image transfer" id), w.state.engine.counted .cancelTransfer,
      by simp [view, Rehearsal.engineLens, ht], hf, ?_⟩
    rintro e ⟨⟩
    exact notFound_permanent _ _
  | some t =>
    refine ⟨.ok (), _, by simp [view, store, Rehearsal.engineLens, ht]; rfl, ?_, by rintro e ⟨⟩⟩
    simp [hf]

theorem removeDisk_run (id : String) :
    ∃ r m, (removeDisk Rehearsal.engineLens id).run w =
      (.ok r, { w with state := { w.state with engine := m } }) ∧ m.faults = [] ∧ Undoes r := by
  rw [removeDisk, entered_run w hf]
  cases hd : w.state.engine.disk? id with
  | none =>
    refine ⟨.error (notFound "disk" id), w.state.engine.counted .removeDisk,
      by simp [view, Rehearsal.engineLens, hd], hf, ?_⟩
    rintro e ⟨⟩
    exact notFound_permanent _ _
  | some d =>
    refine ⟨.ok (), _, by simp [view, store, Rehearsal.engineLens, hd]; rfl, by simpa using hf,
      by rintro e ⟨⟩⟩

end Calls

end Mock

end DiskUploader
