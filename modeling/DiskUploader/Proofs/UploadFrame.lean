import DiskUploader.Proofs.StageSpec

/-!
# What the engine and the transport may touch

The pipeline keeps the upload in progress inside the state of the world, through a lens, and
every other party lives in the same state: the engine, the transport, whatever records them.
The pipeline's guarantees hold when those parties leave the upload alone: no engine call and
no probe changes it, and a transport sending a body changes it only through the body reader it
was handed. An uploader whose parties behave so is framed.

Under that frame every engine call the pipeline makes, with its retries and waits, leaves the
upload as it was, and ends with a value or a final fault.
-/

namespace DiskUploader

variable {σ α β : Type}

def Lens.Lawful {τ : Type} (l : Lens σ τ) : Prop := ∀ f s, l.view (l.update f s) = f (l.view s)

/-- Whether the token with index `i` has cancelled in a world; unknown tokens never cancel. -/
def World.hasFired (w : World σ) (i : Nat) : Bool := (w.tokens[i]?.map w.fired).getD false

@[simp] theorem World.hasFired_state (w : World σ) (s : σ) (i : Nat) :
    ({ w with state := s } : World σ).hasFired i = w.hasFired i := rfl

@[simp] theorem World.hasFired_log (w : World σ) (e : LogEvent) (i : Nat) :
    ({ w with log := w.log.push e } : World σ).hasFired i = w.hasFired i := rfl

namespace Uploader

variable (u : Uploader σ)

def runOf (w : World σ) : UploadRun := u.run.view w.state

def Quiet (x : Timed σ α) : Prop := Timed.Keeps (fun w w' => u.runOf w' = u.runOf w) x

def Lifted (R : UploadRun → UploadRun → Prop) (w w' : World σ) : Prop := R (u.runOf w) (u.runOf w')

/-- An engine and a transport that touch the upload in progress only where the pipeline lets
them: no engine call and no probe changes it, and sending a body changes it only as the body
reader does. -/
structure Framed : Prop where
  lawful : u.run.Lawful
  createDisk : ∀ c k, u.Quiet (u.api.createDisk c k)
  getDisk : ∀ id, u.Quiet (u.api.getDisk id)
  removeDisk : ∀ id, u.Quiet (u.api.removeDisk id)
  createTransfer : ∀ id d k, u.Quiet (u.api.createTransfer id d k)
  getTransfer : ∀ id, u.Quiet (u.api.getTransfer id)
  finalizeTransfer : ∀ id k, u.Quiet (u.api.finalizeTransfer id k)
  cancelTransfer : ∀ id, u.Quiet (u.api.cancelTransfer id)
  listJobs : ∀ k, u.Quiet (u.api.listJobs k)
  probe : ∀ url, u.Quiet (u.transport.probe url)
  put : ∀ url n (read : BodyReader σ) (R : UploadRun → UploadRun → Prop), (∀ r, R r r) →
    (∀ {a b c}, R a b → R b c → R a c) → (∀ k, Timed.Keeps (u.Lifted R) (read k)) →
    Timed.Keeps (u.Lifted R) (u.transport.put url n read)

def updated (w : World σ) (f : UploadRun → UploadRun) : World σ :=
  { w with state := u.run.update f w.state }

section Runs

variable (w : World σ)

@[simp] theorem run_current : u.current.run w = (.ok (u.runOf w), w) := rfl

@[simp] theorem run_change (f : UploadRun → UploadRun) :
    (u.change f).run w = (.ok (), u.updated w f) := rfl

@[simp] theorem run_changeSession (f : Session → Session) :
    (u.changeSession f).run w = (.ok (), u.updated w fun r => { r with session := f r.session }) :=
  rfl

@[simp] theorem run_cancelled (o : UploadOptions) :
    (cancelled o : Timed σ Bool).run w = (.ok (w.hasFired o.cancel), w) := rfl

@[simp] theorem run_log (l : Level) (m : String) (fs : List (String × FieldValue)) :
    (log l m fs : Timed σ Unit).run w = (.ok (), { w with log := w.log.push (uploadEvent l m fs) }) :=
  rfl

@[simp] theorem runOf_log (e : LogEvent) : u.runOf { w with log := w.log.push e } = u.runOf w := rfl

@[simp] theorem hasFired_updated (f : UploadRun → UploadRun) (i : Nat) :
    (u.updated w f).hasFired i = w.hasFired i := rfl

theorem runOf_updated (hl : u.run.Lawful) (f : UploadRun → UploadRun) :
    u.runOf (u.updated w f) = f (u.runOf w) := hl f w.state

/-- A read that checks a token that has cancelled fails with the cancellation and changes
nothing. -/
theorem run_countingRead_stopped {o : UploadOptions} {check : Bool} {want : Nat}
    (hc : (check && w.hasFired o.cancel) = true) :
    (u.countingRead o check want).run w = (.ok (.error cancelledFault.throughIo), w) := by
  simp only [countingRead, Timed.run_bind, run_cancelled, hc, if_true, Timed.run_pure]

/-- A read that no cancellation stops takes what the body hands out: bytes handed over are
counted into the upload; an empty read that asked for bytes short of the total records the
truncation where the counting stopped and fails with it; any other read only moves the body on. -/
theorem run_countingRead {o : UploadOptions} {check : Bool} {want : Nat} {bs : ByteArray}
    {body : Body} (hc : (check && w.hasFired o.cancel) = false)
    (hp : (u.runOf w).body.read want = (bs, body)) :
    (u.countingRead o check want).run w =
      if 0 < bs.size then
        (.ok (.ok bs), u.updated w fun r => { r with body, counted := r.counted + bs.size,
                                                     session := r.session.addUploaded bs.size })
      else if 0 < want ∧ (u.runOf w).counted < (u.runOf w).session.total then
        (.ok (.error (truncatedFault (u.runOf w).counted (u.runOf w).session.total).throughIo),
          u.updated (u.updated w ({ · with body })) fun r =>
            { r with session := { r.session with truncatedAt := some (u.runOf w).counted } })
      else (.ok (.ok bs), u.updated w ({ · with body })) := by
  simp only [countingRead, Timed.run_bind, run_cancelled, hc, Bool.false_eq_true, if_false,
    run_current, hp, gt_iff_lt]
  by_cases hbs : 0 < bs.size
  · simp only [if_pos hbs, Timed.run_bind, run_change, Timed.run_pure]
  · by_cases hmore : 0 < want ∧ (u.runOf w).counted < (u.runOf w).session.total
    · simp [if_neg hbs, hmore]
    · simp only [if_neg hbs, if_neg hmore, run_change, Timed.run_bind]
      simp [hmore]

variable {α : Type} {K : α → World σ → Prop} {E : Fault → World σ → Prop}
  {I : Interrupt → World σ → Prop}

@[simp] theorem ends_current {K : UploadRun → World σ → Prop} :
    Stage.Ends K E I ((monadLift u.current : Stage σ UploadRun).run.run w) = K (u.runOf w) w := by
  rw [Stage.ends_lift, run_current]

@[simp] theorem ends_change {K : Unit → World σ → Prop} (f : UploadRun → UploadRun) :
    Stage.Ends K E I ((monadLift (u.change f) : Stage σ Unit).run.run w) = K () (u.updated w f) := by
  rw [Stage.ends_lift, run_change]

@[simp] theorem ends_changeSession {K : Unit → World σ → Prop} (f : Session → Session) :
    Stage.Ends K E I ((monadLift (u.changeSession f) : Stage σ Unit).run.run w) =
      K () (u.updated w fun r => { r with session := f r.session }) := by
  rw [Stage.ends_lift, run_changeSession]

@[simp] theorem ends_cancelled {K : Bool → World σ → Prop} (o : UploadOptions) :
    Stage.Ends K E I ((monadLift (cancelled o : Timed σ Bool) : Stage σ Bool).run.run w) =
      K (w.hasFired o.cancel) w := by
  rw [Stage.ends_lift, run_cancelled]

@[simp] theorem ends_log {K : Unit → World σ → Prop} (l : Level) (m : String)
    (fs : List (String × FieldValue)) :
    Stage.Ends K E I ((monadLift (log l m fs : Timed σ Unit) : Stage σ Unit).run.run w) =
      K () { w with log := w.log.push (uploadEvent l m fs) } := by
  rw [Stage.ends_lift, run_log]

end Runs

variable {u}

theorem quiet_frame : Timed.Frame (fun w w' : World σ => u.runOf w' = u.runOf w) where
  trans h₁ h₂ := h₂.trans h₁
  timeline h := by simp only [runOf, h]

theorem lifted_frame {R : UploadRun → UploadRun → Prop} (refl : ∀ r, R r r)
    (trans : ∀ {a b c}, R a b → R b c → R a c) : Timed.Frame (u.Lifted R) where
  trans := trans
  timeline h := by simp only [Lifted, runOf, h]; exact refl _

theorem Quiet.keeps {R : UploadRun → UploadRun → Prop} (refl : ∀ r, R r r) {x : Timed σ α}
    (hx : u.Quiet x) : Timed.Keeps (u.Lifted R) x := fun w => by
  simp only [Lifted, hx w]
  exact refl _

theorem Quiet.runOf_eq {x : Timed σ α} (hx : u.Quiet x) (w : World σ) :
    u.runOf (x.run w).2 = u.runOf w := hx w

theorem Quiet.log (l : Level) (m : String) (fs : List (String × FieldValue)) :
    u.Quiet (log l m fs : Timed σ Unit) := fun _ => rfl

theorem Quiet.bind {x : Timed σ α} {f : α → Timed σ β} (hx : u.Quiet x) (hf : ∀ a, u.Quiet (f a)) :
    u.Quiet (x >>= f) :=
  Timed.Keeps.bind quiet_frame hx hf

theorem Quiet.pure (a : α) : u.Quiet (pure a : Timed σ α) :=
  Timed.Keeps.of_stateless quiet_frame (Timed.Stateless.pure a)

theorem Quiet.retry (desc : String) (ss : List Strategy) {action : Timed σ (Except Fault α)}
    (ha : u.Quiet action) : u.Quiet (retry desc ss action) :=
  Timed.Keeps.retry quiet_frame desc ss ha

theorem Quiet.waitForJobs (hu : u.Framed) (c : CorrelationId) (read wait : List Strategy) :
    u.Quiet (waitForJobs u.api c read wait) := by
  refine .retry _ _ (.bind (.retry _ _ (hu.listJobs c)) fun r => ?_)
  rcases r with e | jobs
  · exact .pure _
  · dsimp only
    split
    · exact .pure _
    · split <;> exact .pure _

theorem Quiet.waitForDiskOk (hu : u.Framed) (id : String) (read wait : List Strategy) :
    u.Quiet (waitForDiskOk u.api id read wait) := by
  refine .retry _ _ (.bind (.retry _ _ (hu.getDisk id)) fun r => ?_)
  rcases r with e | d
  · exact .pure _
  · dsimp only
    split <;> exact .pure _

theorem Quiet.waitForDiskStable (hu : u.Framed) (id : String) (c : CorrelationId)
    (read wait : List Strategy) : u.Quiet (waitForDiskStable u.api id c read wait) := by
  refine .bind (.waitForDiskOk hu id read wait) fun r => ?_
  rcases r with e | d
  · exact .pure _
  · refine .bind (.waitForJobs hu c read wait) fun r => ?_
    rcases r with e | _ <;> exact .pure _

theorem Quiet.probeUrl (hu : u.Framed) (o : UploadOptions) (url : String) :
    u.Quiet (u.probeUrl o url) := by
  refine .retry _ _ (.bind (hu.probe url) fun r => ?_)
  rcases r with e | status
  · exact .pure _
  · dsimp only
    split <;> exact .pure _

theorem Quiet.waitForTransfer (hu : u.Framed) (o : UploadOptions) (id : String) :
    u.Quiet (u.waitForTransfer o id).run := by
  refine .retry _ _ (.bind (.retry _ _ (hu.getTransfer id)) fun r => ?_)
  rcases r with e | t
  · exact .pure _
  · dsimp only
    split <;> exact .pure _

end Uploader

namespace Timed

theorem Yields.waitForDiskStable (api : Engine σ) (id : String) (c : CorrelationId)
    (read wait : List Strategy) : Yields Concluded (waitForDiskStable api id c read wait) := by
  refine Yields.bind (Yields.retry _ _ _) fun r hr => ?_
  rcases r with e | d
  · exact Yields.pure (concluded_error.2 (concluded_error.1 hr))
  · refine Yields.bind (Yields.retry _ _ _) fun r hr => ?_
    rcases r with e | _
    · exact Yields.pure (concluded_error.2 (concluded_error.1 hr))
    · exact Yields.pure (concluded_ok d)

end Timed

end DiskUploader
