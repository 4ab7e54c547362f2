import DiskUploader.Proofs.SessionSteps
import DiskUploader.Proofs.UploadFrame

/-!
# The walk through the phases

What holds of an upload at every point where the pipeline can stop. The upload keeps its target
and options, its session grows by the changes of `Session.Step` and stays open, and the record
of what compensation must undo names exactly the transfer the session holds and, for an upload
into a new disk, the disk the session holds; an upload into an existing disk records no disk.

A phase stage starts from an upload that reached the phase before and attempts nothing. It ends
having reached its phase, or it stops while attempting it: with a fault, which is final when the
cancellation reaches the phase and the token has fired, or interrupted.
-/

namespace DiskUploader

variable {σ : Type}

def Target.isNew : Target → Bool
  | .newDisk _ => true
  | .existing _ => false

/-- The phases an upload goes through, in order; only an upload into a new disk requests one. -/
def Target.path (t : Target) : List Phase :=
  (if t.isNew then [.diskRequested] else []) ++
    [.diskUnlocked, .transferNegotiated, .transferReady, .urlVerified, .bytesSent, .finalized,
      .diskStable]

theorem Target.follows_path (t : Target) : Phase.Follows t.isNew none t.path := by
  cases t <;> simp [Target.path, Target.isNew, Phase.Follows, Phase.after]

theorem Target.path_getLast (t : Target) : t.path.getLast? = some .diskStable := by
  cases t <;> rfl

namespace Session

/-- What a session carries once its upload has gone through the phase of index `n`: a transfer
from the negotiation on, every byte from the sending on, and the stable disk at the end. -/
def Carries (n : Nat) (s : Session) : Prop :=
  (Phase.transferNegotiated.index ≤ n → s.transferId.isSome) ∧
    (Phase.bytesSent.index ≤ n → s.uploaded = s.total) ∧
    (Phase.diskStable.index ≤ n → s.disk.isSome)

theorem carries_early (s : Session) {n : Nat} (h : n < Phase.transferNegotiated.index) :
    s.Carries n := by
  simp only [Carries, Phase.index] at h ⊢
  omega

end Session

namespace UploadRun

/-- An upload as the pipeline leaves it at any point: grown out of `r0` by the pipeline's
changes, still open, and with a record of creations that names the transfer and the new disk
the session holds. -/
structure Underway (r0 r : UploadRun) : Prop where
  target : r.target = r0.target
  options : r.options = r0.options
  steps : Relation.ReflTransGen (Session.Step r0.target.isNew) r0.session r.session
  live : r.session.done = false
  transfer : r.createdTransfer = r.session.transferId
  disk : r.createdDisk = if r0.target.isNew then r.session.diskId else none

/-- The upload has reached `q` (`none` before the first phase) and attempts nothing. -/
structure At (r0 : UploadRun) (q : Option Phase) (r : UploadRun) : Prop where
  underway : Underway r0 r
  phase : r.session.phase = q
  idle : r.session.attempting = none

/-- The upload attempts `p`, the phase that follows the last one it reached. -/
structure Attempting (r0 r : UploadRun) (p : Phase) : Prop where
  underway : Underway r0 r
  attempting : r.session.attempting = some p
  next : Phase.after r0.target.isNew r.session.phase = some p

/-- How reading the body changes an upload: only the body, the bytes read, and the session's
sent bytes and truncation point, where sent bytes within the total stay within it and never
shrink. -/
structure Reads (r r' : UploadRun) : Prop where
  target : r'.target = r.target
  options : r'.options = r.options
  createdDisk : r'.createdDisk = r.createdDisk
  createdTransfer : r'.createdTransfer = r.createdTransfer
  session : r'.session =
    { r.session with uploaded := r'.session.uploaded, truncatedAt := r'.session.truncatedAt }
  grows : r.session.uploaded ≤ r.session.total →
    r.session.uploaded ≤ r'.session.uploaded ∧ r'.session.uploaded ≤ r'.session.total

/-- The upload has gone through every phase: it reached the last one, holds the disk and the
transfer, and sent every byte. -/
structure Complete (r0 r : UploadRun) : Prop where
  reached : At r0 (some .diskStable) r
  disk : r.session.disk.isSome
  transfer : r.session.transferId.isSome
  sent : r.session.uploaded = r.session.total

/-- The upload the pipeline starts from: a fresh session and nothing created. -/
structure Fresh (r : UploadRun) : Prop where
  session : r.session.Fresh
  createdDisk : r.createdDisk = none
  createdTransfer : r.createdTransfer = none

/-- The upload has reached `q` and carries what the phases up to it handed out. -/
structure Reached (r0 : UploadRun) (q : Option Phase) (r : UploadRun) : Prop extends At r0 q r where
  carries : r.session.Carries (q.getD .created).index

variable {r0 r r' : UploadRun} {p : Phase} {q : Option Phase}

theorem Fresh.at (h : Fresh r) : At r none r where
  underway := ⟨rfl, rfl, .refl, h.session.done, by rw [h.createdTransfer, h.session.transferId],
    by rw [h.createdDisk, h.session.diskId]; split <;> rfl⟩
  phase := h.session.phase
  idle := h.session.attempting

theorem Underway.error (h : Underway r0 r) (h0 : Fresh r0) : r.session.error = none :=
  (Session.steps_error h.steps h.live).trans h0.session.error

theorem Underway.bounded (h : Underway r0 r) (h0 : Fresh r0) :
    r.session.uploaded ≤ r.session.total :=
  Session.steps_uploaded_le_total h.steps (by rw [h0.session.uploaded]; exact Nat.zero_le _)

/-- A change that only notes what the engine handed out: the disk, transfer, URL and disk record
of the session. -/
def Noted (r r' : UploadRun) : Prop :=
  r'.target = r.target ∧ r'.options = r.options ∧
    r'.session =
      { r.session with
        diskId := r'.session.diskId
        transferId := r'.session.transferId
        url := r'.session.url
        disk := r'.session.disk }

theorem Underway.noted (h : Underway r0 r) (hn : Noted r r')
    (ht : r'.createdTransfer = r'.session.transferId)
    (hd : r'.createdDisk = if r0.target.isNew then r'.session.diskId else none) : Underway r0 r' where
  target := hn.1.trans h.target
  options := hn.2.1.trans h.options
  steps := by
    rw [hn.2.2]
    exact h.steps.tail (.note _ _ _ _)
  live := by rw [hn.2.2]; exact h.live
  transfer := ht
  disk := hd

theorem At.begin (h : At r0 q r) (hp : Phase.after r0.target.isNew q = some p) :
    Attempting r0 { r with session := r.session.begin p } p where
  underway :=
    { h.underway with
      steps := h.underway.steps.tail (.begin h.idle (h.phase ▸ hp))
      transfer := h.underway.transfer
      disk := h.underway.disk }
  attempting := rfl
  next := h.phase ▸ hp

theorem Attempting.reach (h : Attempting r0 r p) : At r0 (some p) { r with session := r.session.reach p } where
  underway :=
    { h.underway with
      steps := h.underway.steps.tail (.reach h.attempting h.next)
      transfer := h.underway.transfer
      disk := h.underway.disk }
  phase := rfl
  idle := rfl

/-- Reaching the phase it attempts, an upload that carries what that phase hands out has reached
it. -/
theorem Attempting.reached (h : Attempting r0 r p) (hc : r.session.Carries p.index) :
    Reached r0 (some p) { r with session := r.session.reach p } :=
  ⟨h.reach, hc⟩

theorem Fresh.reached (h : Fresh r) : Reached r none r :=
  ⟨h.at, Session.carries_early _ (by decide)⟩

theorem Reached.complete (h : Reached r0 (some .diskStable) r) : Complete r0 r :=
  ⟨h.toAt, h.carries.2.2 le_rfl, h.carries.1 (by decide), h.carries.2.1 (by decide)⟩

theorem At.noted (h : At r0 q r) (hn : Noted r r') (ht : r'.createdTransfer = r'.session.transferId)
    (hd : r'.createdDisk = if r0.target.isNew then r'.session.diskId else none) : At r0 q r' where
  underway := h.underway.noted hn ht hd
  phase := by rw [hn.2.2]; exact h.phase
  idle := by rw [hn.2.2]; exact h.idle

theorem Attempting.noted (h : Attempting r0 r p) (hn : Noted r r')
    (ht : r'.createdTransfer = r'.session.transferId)
    (hd : r'.createdDisk = if r0.target.isNew then r'.session.diskId else none) :
    Attempting r0 r' p where
  underway := h.underway.noted hn ht hd
  attempting := by rw [hn.2.2]; exact h.attempting
  next := by rw [hn.2.2]; exact h.next

theorem Attempting.reads (h : Attempting r0 r p) (hr : Reads r r') (hb : r.session.uploaded ≤ r.session.total) :
    Attempting r0 r' p := by
  obtain ⟨more, bounded⟩ := hr.grows hb
  have hs := hr.session
  refine ⟨⟨hr.target.trans h.underway.target, hr.options.trans h.underway.options, ?_, ?_, ?_, ?_⟩,
    ?_, ?_⟩
  · rw [hs]
    exact h.underway.steps.tail (.count _ _ more (hs ▸ bounded))
  · rw [hs]; exact h.underway.live
  · rw [hr.createdTransfer, hs]; exact h.underway.transfer
  · rw [hr.createdDisk, hs]; exact h.underway.disk
  · rw [hs]; exact h.attempting
  · rw [hs]; exact h.next

theorem Reads.transferId (h : Reads r r') : r'.session.transferId = r.session.transferId := by
  rw [h.session]

theorem Reads.total (h : Reads r r') : r'.session.total = r.session.total := by
  rw [h.session]
  rfl

theorem Reads.refl (r : UploadRun) : Reads r r :=
  ⟨rfl, rfl, rfl, rfl, rfl, fun h => ⟨le_rfl, h⟩⟩

theorem Reads.trans {r'' : UploadRun} (h₁ : Reads r r') (h₂ : Reads r' r'') : Reads r r'' where
  target := h₂.target.trans h₁.target
  options := h₂.options.trans h₁.options
  createdDisk := h₂.createdDisk.trans h₁.createdDisk
  createdTransfer := h₂.createdTransfer.trans h₁.createdTransfer
  session := by rw [h₂.session, h₁.session]
  grows hb := by
    obtain ⟨m₁, b₁⟩ := h₁.grows hb
    obtain ⟨m₂, b₂⟩ := h₂.grows b₁
    exact ⟨m₁.trans m₂, b₂⟩

end UploadRun

/-- What the pipeline holds as it goes through the phases: the disk it writes into, the transfer
and the endpoint, as far as it has them. -/
structure Progress where
  diskId : String := ""
  transfer : Transfer := default
  url : String := ""

namespace Uploader

open UploadRun Stage

section Walk

variable (u : Uploader σ)

def phaseWork (r : UploadRun) (p : Phase) (a : Progress) : Stage σ Progress :=
  let o := r.options
  let corr := r.session.correlation
  match p with
  | .diskRequested =>
    match r.target with
    | .newDisk c => do
      let disk ← Stage.call (retry s!"create disk {c.aliasName}" (o.strategies u.policies.write .diskRequested)
        (u.api.createDisk c corr))
      u.change ({ · with createdDisk := some disk.id })
      u.changeSession ({ · with diskId := some disk.id })
      pure { a with diskId := disk.id }
    | .existing _ => pure a
  | .diskUnlocked =>
    match r.target with
    | .newDisk _ => do
      let _ ← Stage.call (waitForDiskStable u.api a.diskId corr
        (o.strategies u.policies.read .diskUnlocked) (o.strategies u.policies.pending .diskUnlocked))
      pure a
    | .existing _ => do
      let _ ← Stage.call (waitForDiskOk u.api a.diskId
        (o.strategies u.policies.read .diskUnlocked) (o.strategies u.policies.pending .diskUnlocked))
      pure a
  | .transferNegotiated => do
    let t ← Stage.call (retry s!"create image transfer for disk {a.diskId}"
      (o.strategies u.policies.write .transferNegotiated) (u.api.createTransfer a.diskId .upload corr))
    u.change ({ · with createdTransfer := some t.id })
    u.changeSession ({ · with transferId := some t.id })
    pure { a with transfer := t }
  | .transferReady => do
    let t ← u.waitForTransfer o a.transfer.id
    pure { a with transfer := t }
  | .urlVerified => do
    let url ← u.verifyUrl o a.transfer
    u.changeSession ({ · with url := some url })
    pure { a with url }
  | .bytesSent => do
    u.sendBytes o a.url
    pure a
  | .finalized => do
    Stage.call (retry s!"finalize image transfer {a.transfer.id}" (o.strategies u.policies.write .finalized)
      (u.api.finalizeTransfer a.transfer.id corr))
    pure a
  | .diskStable => do
    let disk ← Stage.call (waitForDiskStable u.api a.diskId corr
      (o.strategies u.policies.read .diskStable) (o.strategies u.policies.pending .diskStable))
    u.changeSession ({ · with disk := some disk })
    pure a
  | _ => pure a

/-- One phase: begun, worked through and reached. -/
def phaseRun (r : UploadRun) (p : Phase) (a : Progress) : Stage σ Progress := do
  u.begin r.options p
  let a ← u.phaseWork r p a
  u.reach p
  pure a

def walk (r : UploadRun) : List Phase → Progress → Stage σ Progress
  | [], a => pure a
  | p :: ps, a => do
    let a ← u.phaseRun r p a
    walk r ps a

/-- What the pipeline holds before its first phase: an existing disk, noted in the session. -/
def setOut (r : UploadRun) : Stage σ Progress :=
  match r.target with
  | .newDisk _ => pure {}
  | .existing id => do
    u.changeSession ({ · with diskId := some id })
    pure { diskId := id }

theorem execute_eq_walk : u.execute = (do
    let r ← u.current
    let _ ← u.setOut r >>= u.walk r r.target.path
    pure ()) := by
  simp only [execute, bind_assoc]
  refine bind_congr fun r => ?_
  cases ht : r.target <;>
    simp only [acquireDisk, openTransfer, deliver, settle, setOut, Target.path, Target.isNew, walk,
      phaseRun, phaseWork, ht, bind_assoc, pure_bind, bind_pure_unit, ↓reduceIte,
      Bool.false_eq_true, List.cons_append, List.nil_append]

theorem walk_append (r : UploadRun) (l₁ l₂ : List Phase) (a : Progress) :
    u.walk r (l₁ ++ l₂) a = u.walk r l₁ a >>= u.walk r l₂ := by
  induction l₁ generalizing a with
  | nil => simp [walk]
  | cons p l ih => simp only [List.cons_append, walk, ih, bind_assoc]

end Walk

variable {u : Uploader σ}

/-- The pipeline stopped with a fault while attempting a phase; the fault is final when the
cancellation reaches that phase and the token has fired. -/
def Failed (u : Uploader σ) (r0 : UploadRun) (e : Fault) (w : World σ) : Prop :=
  ∃ p, Attempting r0 (u.runOf w) p ∧
    (r0.options.reaches p = true → w.hasFired r0.options.cancel = true → e.Final)

def Stopped (u : Uploader σ) (r0 : UploadRun) (_ : Interrupt) (w : World σ) : Prop :=
  ∃ p, Attempting r0 (u.runOf w) p

variable {r0 : UploadRun} {w w' : World σ} {p : Phase} {q : Option Phase} {α : Type}
  {Q : α → World σ → Prop} {E : Fault → World σ → Prop} {I : Interrupt → World σ → Prop}

theorem failed_of_quiet (h : Attempting r0 (u.runOf w) p) (hw : u.runOf w' = u.runOf w) {e : Fault}
    (he : e.Final) : u.Failed r0 e w' :=
  ⟨p, hw ▸ h, fun _ _ => he⟩

theorem stopped_of_quiet (h : Attempting r0 (u.runOf w) p) (hw : u.runOf w' = u.runOf w)
    (i : Interrupt) : u.Stopped r0 i w' :=
  ⟨p, hw ▸ h⟩

/-- A call made while attempting a phase that leaves the upload alone and ends with a value or a
final fault: whatever stops it leaves the upload attempting that phase. -/
theorem ends_call (ha : Attempting r0 (u.runOf w) p) {x : Stage σ α} (hq : u.Quiet x.run)
    (hy : Timed.Yields Concluded x.run) (hQ : ∀ a w', u.runOf w' = u.runOf w → Q a w') :
    Ends Q (u.Failed r0) (u.Stopped r0) (x.run.run w) :=
  ends_of_keeps w hq hy hQ (fun _ _ h he => failed_of_quiet ha h he)
    fun i _ h => stopped_of_quiet ha h i

theorem ends_begin (hl : u.run.Lawful) (h : At r0 q (u.runOf w))
    (hp : Phase.after r0.target.isNew q = some p) {K : Unit → World σ → Prop}
    (hk : Attempting r0 (u.runOf (u.updated w fun r => { r with session := r.session.begin p })) p →
      (r0.options.reaches p && w.hasFired r0.options.cancel) = false →
      K () (u.updated w fun r => { r with session := r.session.begin p })) :
    Ends K (u.Failed r0) I ((u.begin r0.options p).run.run w) := by
  have ha : Attempting r0 (u.runOf (u.updated w fun r => { r with session := r.session.begin p })) p := by
    rw [runOf_updated _ _ hl]
    exact h.begin hp
  simp only [Uploader.begin, ends_bind, ends_changeSession, ends_cancelled, ends_ite, ends_throw,
    ends_pure]
  split_ifs with hc
  · exact ⟨p, ha, fun _ _ => .inl rfl⟩
  · exact hk ha (Bool.eq_false_iff.2 hc)

theorem ends_verifyUrl (hu : u.Framed) (o : UploadOptions) (t : Transfer) {r : UploadRun}
    (hr : u.runOf w = r) (hc : (o.reaches .urlVerified && w.hasFired o.cancel) = false) :
    Ends (fun _ w' => u.runOf w' = r)
      (fun e w' => u.runOf w' = r ∧ (o.reaches .urlVerified = true → w'.hasFired o.cancel = true → e.Final))
      (fun _ w' => u.runOf w' = r) ((u.verifyUrl o t).run.run w) := by
  simp only [verifyUrl, ends_bind]
  refine ends_forIn _ (fun _ w' => u.runOf w' = r ∧ (o.reaches .urlVerified && w'.hasFired o.cancel) = false)
    (fun b w' h => ?_) (fun url b w' h => ?_) _ _ w ⟨hr, hc⟩
  · -- after the loop: the endpoint found, or no usable endpoint while the token has not fired
    have hnot : o.reaches .urlVerified = true → w'.hasFired o.cancel = true → False := fun h₁ h₂ => by
      simp [h₁, h₂] at h
    rcases b with ⟨_ | url, last⟩
    · rcases last with _ | e
      · exact ⟨h.1, fun h₁ h₂ => (hnot h₁ h₂).elim⟩
      · exact ⟨h.1, fun h₁ h₂ => (hnot h₁ h₂).elim⟩
    · exact h.1
  · rw [ends_bind]
    refine ends_lift_of_keeps _ (Quiet.probeUrl hu o url) (Timed.Yields.retry _ _ _)
      (fun res w₁ h₁ hres => ?_) (fun i w₁ h₁ => h₁.trans h.1)
    rcases res with err | ⟨⟩
    · simp only [ends_bind, ends_cancelled, ends_ite, ends_throw, ends_pure, lift_eq, ends_log]
      split_ifs with hc₁
      · exact ⟨h₁.trans h.1, fun _ _ => concluded_error.1 hres⟩
      · refine ⟨h₁.trans h.1, ?_⟩
        simpa [Bool.and_comm] using hc₁
    · exact h₁.trans h.1

theorem reads_countingRead (hl : u.run.Lawful) (o : UploadOptions) (check : Bool) (want : Nat) :
    Timed.Keeps (u.Lifted Reads) (u.countingRead o check want) := by
  intro w
  simp only [Lifted]
  cases hc : check && w.hasFired o.cancel
  case true =>
    rw [u.run_countingRead_stopped w hc]
    exact Reads.refl _
  rcases hb : (u.runOf w).body.read want with ⟨bs, body⟩
  rw [u.run_countingRead w hc hb]
  split_ifs with hs ht
  · simp only [runOf_updated _ _ hl]
    refine ⟨rfl, rfl, rfl, rfl, rfl, fun h => ?_⟩
    simp only [Session.addUploaded, Session.total] at h ⊢
    omega
  · simp only [runOf_updated _ _ hl]
    exact ⟨rfl, rfl, rfl, rfl, rfl, fun h => ⟨le_rfl, h⟩⟩
  · simp only [runOf_updated _ _ hl]
    exact ⟨rfl, rfl, rfl, rfl, rfl, fun h => ⟨le_rfl, h⟩⟩

theorem ends_sendBytes (hu : u.Framed) (h0 : Fresh r0) (url : String)
    (ha : Attempting r0 (u.runOf w) .bytesSent) :
    Ends (fun _ w' => Attempting r0 (u.runOf w') .bytesSent ∧ Reads (u.runOf w) (u.runOf w') ∧
        (u.runOf w').session.uploaded = (u.runOf w').session.total)
      (u.Failed r0) (u.Stopped r0) ((u.sendBytes r0.options url).run.run w) := by
  have hl := hu.lawful
  have hb := ha.underway.bounded h0
  simp only [sendBytes, lift_eq, ends_bind, ends_current, ends_log]
  refine ends_lift_of_keeps _ (hu.put url _ _ Reads Reads.refl (fun h₁ h₂ => h₁.trans h₂)
    (reads_countingRead hl _ _)) (Timed.Yields.top _) ?_ ?_
  rotate_left
  · intro i w₁ h₁
    exact ⟨_, ha.reads h₁ hb⟩
  intro res w₁ h₁ _
  have ha₁ : Attempting r0 (u.runOf w₁) .bytesSent := ha.reads h₁ hb
  rcases res with err | ⟨⟩
  · simp only [ends_bind, ends_cancelled, ends_current, ends_ite, ends_throw]
    split_ifs with hcheck
    · exact ⟨_, ha₁, fun _ _ => .inl (Fault.wrap_code_of_ne (by decide) _)⟩
    · rcases (u.runOf w₁).session.truncatedAt with _ | read
      · refine ⟨_, ha₁, fun h₁ h₂ => absurd ?_ hcheck⟩
        simp [h₁, h₂]
      · exact ⟨_, ha₁, fun _ _ => .inr (by rw [Fault.wrap_code_of_ne (by decide)]; rfl)⟩
  · simp only [ends_bind, ends_current, ends_ite, ends_throw, ends_pure]
    split_ifs with hlt
    · exact ⟨_, ha₁, fun _ _ => .inr rfl⟩
    · refine ⟨ha₁, h₁, ?_⟩
      have hle := (h₁.grows hb).2
      rw [h₁.total] at hle ⊢
      simp only [runOf_log] at hle ⊢
      omega


theorem ends_setOut (hu : u.Framed) (h0 : Fresh r0) (hw : u.runOf w = r0) :
    Ends (fun _ w' => Reached r0 none (u.runOf w')) E I ((u.setOut r0).run.run w) := by
  have hl := hu.lawful
  have h₀ : Reached r0 none (u.runOf w) := hw ▸ h0.reached
  cases ht : r0.target with
  | newDisk c =>
    simp only [setOut, ht, ends_pure]
    exact h₀
  | existing id =>
    simp only [setOut, ht, ends_bind, ends_changeSession, ends_pure]
    rw [runOf_updated _ _ hl]
    -- noting the existing disk records no creation
    refine ⟨h₀.toAt.noted ⟨rfl, rfl, rfl⟩ ?_ ?_, Session.carries_early _ (by decide)⟩
    · simp [hw, h0.createdTransfer, h0.session.transferId]
    · simp [ht, Target.isNew, hw, h0.createdDisk]

/-- The work of a phase, begun while the token has not cancelled it, leaves the upload attempting
the phase and carrying what it hands out, or stops it there. -/
theorem ends_phaseWork (hu : u.Framed) (h0 : Fresh r0) (ha : Attempting r0 (u.runOf w) p)
    (hc : (u.runOf w).session.Carries (q.getD .created).index)
    (hp : Phase.after r0.target.isNew q = some p)
    (hf : (r0.options.reaches p && w.hasFired r0.options.cancel) = false) (a : Progress) :
    Ends (fun _ w' => Attempting r0 (u.runOf w') p ∧ (u.runOf w').session.Carries p.index)
      (u.Failed r0) (u.Stopped r0) ((u.phaseWork r0 p a).run.run w) := by
  have hl := hu.lawful
  have hprev := Phase.index_before hp
  cases p with
  | created | done | aborted =>
    exact absurd hp (by rcases q with _ | q <;> [cases r0.target.isNew; cases q] <;> simp [Phase.after])
  | diskRequested =>
    cases ht : r0.target with
    | newDisk c =>
      simp only [phaseWork, ht, ends_bind]
      refine ends_call ha (Quiet.retry _ _ (hu.createDisk _ _)) (Timed.Yields.retry _ _ _)
        fun d w₂ h₂ => ?_
      simp only [ends_change, ends_changeSession, ends_pure]
      rw [runOf_updated _ _ hl, runOf_updated _ _ hl, h₂]
      exact ⟨ha.noted ⟨rfl, rfl, rfl⟩ ha.underway.transfer (by simp [ht, Target.isNew]),
        Session.carries_early _ (by decide)⟩
    | existing id => exact absurd (Phase.after_diskRequested hp) (by simp [ht, Target.isNew])
  | diskUnlocked =>
    cases ht : r0.target with
    | newDisk c =>
      simp only [phaseWork, ht, ends_bind]
      refine ends_call ha (Quiet.waitForDiskStable hu _ _ _ _)
        (Timed.Yields.waitForDiskStable _ _ _ _ _) fun _ w₂ h₂ => ?_
      rw [ends_pure, h₂]
      exact ⟨ha, Session.carries_early _ (by decide)⟩
    | existing id =>
      simp only [phaseWork, ht, ends_bind]
      refine ends_call ha (Quiet.waitForDiskOk hu _ _ _) (Timed.Yields.retry _ _ _)
        fun _ w₂ h₂ => ?_
      rw [ends_pure, h₂]
      exact ⟨ha, Session.carries_early _ (by decide)⟩
  | transferNegotiated =>
    simp only [phaseWork, ends_bind]
    refine ends_call ha (Quiet.retry _ _ (hu.createTransfer _ _ _)) (Timed.Yields.retry _ _ _)
      fun t w₂ h₂ => ?_
    simp only [ends_change, ends_changeSession, ends_pure]
    rw [runOf_updated _ _ hl, runOf_updated _ _ hl, h₂]
    exact ⟨ha.noted ⟨rfl, rfl, rfl⟩ rfl ha.underway.disk, fun _ => rfl,
      fun h => absurd h (by decide), fun h => absurd h (by decide)⟩
  | transferReady =>
    rw [hprev (by decide)] at hc
    simp only [phaseWork, ends_bind]
    refine ends_call ha (Quiet.waitForTransfer hu _ _) (Timed.Yields.retry _ _ _)
      fun _ w₂ h₂ => ?_
    rw [ends_pure, h₂]
    exact ⟨ha, fun _ => hc.1 (by decide), fun h => absurd h (by decide),
      fun h => absurd h (by decide)⟩
  | urlVerified =>
    rw [hprev (by decide)] at hc
    simp only [phaseWork, ends_bind, ends_changeSession, ends_pure]
    refine (ends_verifyUrl hu r0.options a.transfer rfl (by exact hf)).mono (fun url w₂ h₂ => ?_)
      (fun e w₂ h₂ => ⟨_, h₂.1 ▸ ha, h₂.2⟩) (fun i w₂ h₂ => ⟨_, h₂ ▸ ha⟩)
    rw [runOf_updated _ _ hl, h₂]
    exact ⟨ha.noted ⟨rfl, rfl, rfl⟩ ha.underway.transfer ha.underway.disk,
      fun _ => hc.1 (by decide), fun h => absurd h (by decide), fun h => absurd h (by decide)⟩
  | bytesSent =>
    rw [hprev (by decide)] at hc
    simp only [phaseWork, ends_bind, ends_pure]
    refine (ends_sendBytes hu h0 a.url ha).mono (fun _ w₂ h₂ => ?_) (fun _ _ he => he)
      fun _ _ hi => hi
    obtain ⟨ha₂, hr, hs⟩ := h₂
    refine ⟨ha₂, fun _ => ?_, fun _ => hs, fun h => absurd h (by decide)⟩
    rw [hr.transferId]
    exact hc.1 (by decide)
  | finalized =>
    rw [hprev (by decide)] at hc
    simp only [phaseWork, ends_bind]
    refine ends_call ha (Quiet.retry _ _ (hu.finalizeTransfer _ _)) (Timed.Yields.retry _ _ _)
      fun _ w₂ h₂ => ?_
    rw [ends_pure, h₂]
    exact ⟨ha, fun _ => hc.1 (by decide), fun _ => hc.2.1 (by decide),
      fun h => absurd h (by decide)⟩
  | diskStable =>
    rw [hprev (by decide)] at hc
    simp only [phaseWork, ends_bind, ends_changeSession, ends_pure]
    refine ends_call ha (Quiet.waitForDiskStable hu _ _ _ _)
      (Timed.Yields.waitForDiskStable _ _ _ _ _) fun d w₂ h₂ => ?_
    rw [runOf_updated _ _ hl, h₂]
    exact ⟨ha.noted ⟨rfl, rfl, rfl⟩ ha.underway.transfer ha.underway.disk,
      fun _ => hc.1 (by decide), fun _ => hc.2.1 (by decide), fun _ => rfl⟩

theorem ends_phaseRun (hu : u.Framed) (h0 : Fresh r0) (h : Reached r0 q (u.runOf w))
    (hp : Phase.after r0.target.isNew q = some p) (a : Progress) :
    Ends (fun _ w' => Reached r0 (some p) (u.runOf w')) (u.Failed r0) (u.Stopped r0)
      ((u.phaseRun r0 p a).run.run w) := by
  have hl := hu.lawful
  simp only [phaseRun, ends_bind]
  refine ends_begin hl h.toAt hp fun ha hf => ?_
  have hc : (u.runOf (u.updated w fun r => { r with session := r.session.begin p })).session.Carries
      (q.getD .created).index := by
    rw [runOf_updated _ _ hl]
    exact h.carries
  refine (ends_phaseWork hu h0 ha hc hp (by exact hf) a).mono (fun _ w₂ h₂ => ?_)
    (fun _ _ he => he) fun _ _ hi => hi
  simp only [Uploader.reach, ends_changeSession, ends_pure]
  rw [runOf_updated _ _ hl]
  exact h₂.1.reached h₂.2

/-- A walk through phases that follow one another reaches the last of them, or stops while
attempting one. -/
theorem ends_walk (hu : u.Framed) (h0 : Fresh r0) {ps : List Phase}
    (hf : Phase.Follows r0.target.isNew q ps) (h : Reached r0 q (u.runOf w)) (a : Progress) :
    Ends (fun _ w' => Reached r0 (ps.getLast?.or q) (u.runOf w')) (u.Failed r0) (u.Stopped r0)
      ((u.walk r0 ps a).run.run w) := by
  induction ps generalizing q a w with
  | nil => exact h
  | cons p ps ih =>
    rw [walk, ends_bind]
    refine (ends_phaseRun hu h0 h hf.1 a).mono (fun a' w' h' => ?_) (fun _ _ he => he)
      fun _ _ hi => hi
    rw [List.getLast?_cons, Option.some_or, ← Option.or_some]
    exact ih hf.2 h' a'

/-- The phases of a path from its start: the upload reaches the last of them, or stops while
attempting one. -/
theorem ends_walked (hu : u.Framed) (h0 : Fresh (u.runOf w)) {ps : List Phase}
    (hf : Phase.Follows (u.runOf w).target.isNew none ps) :
    Ends (fun _ w' => Reached (u.runOf w) ps.getLast? (u.runOf w')) (u.Failed (u.runOf w))
      (u.Stopped (u.runOf w)) ((u.setOut (u.runOf w) >>= u.walk (u.runOf w) ps).run.run w) := by
  rw [ends_bind]
  refine (ends_setOut hu h0 rfl).mono (fun a w₁ h₁ => ?_) (fun _ _ he => he) fun _ _ hi => hi
  simpa only [Option.or_none] using ends_walk hu h0 hf h₁ a

theorem ends_execute (hu : u.Framed) (h0 : Fresh (u.runOf w)) :
    Ends (fun _ w' => Complete (u.runOf w) (u.runOf w')) (u.Failed (u.runOf w)) (u.Stopped (u.runOf w))
      (u.execute.run.run w) := by
  rw [execute_eq_walk, ends_bind, ends_current, ends_bind]
  refine (ends_walked hu h0 (Target.follows_path _)).mono (fun _ w' h' => ?_) (fun _ _ he => he)
    fun _ _ hi => hi
  rw [Target.path_getLast] at h'
  exact h'.complete

end Uploader

end DiskUploader
