import DiskUploader.Proofs.MockCalls
import DiskUploader.Engine.Waits

/-!
# Waits that poll retried reads

A wait of the engine is two retries, one inside the other. The outer one polls under the `wait`
strategies; each poll is an inner retry of one engine read under the `read` strategies, and a
verdict on what the read answered: the disk's status, or the statuses of the listed jobs.

What the inner retry ends with reaches the outer loop as it is. A value is judged. A failure is a
timeout or a permanent fault, since a retry ends with no other: the outer loop tries again after a
timeout and stops at once at a permanent fault. A verdict fails transiently while the resource is
in transition (`diskLocked`, `pending`) and permanently once it ended badly (`unexpectedStatus`).

The number of engine reads is bounded by the two attempt counts. This is stated with a tally: a
function of the state that each read raises by at most `k` is raised by a whole wait by at most
`Mw * Mr * k`, where `Mw` and `Mr` are the attempt counts of the two lists. Every part of a retry
other than its attempts leaves the state alone, so a tally of the reads made counts them.
-/

namespace DiskUploader

variable {σ α β : Type}

namespace Fault

theorem classified_of_ne {f : Fault} (h : f.code ≠ .unidentified) : f.classified = f := by
  simp [classified, h]

/-- A final fault is already classified, and the retry engine tries it again exactly when it is
a timeout. -/
theorem Final.classified {e : Fault} (he : e.Final) :
    e.classified = e ∧ (e.classified.permanent = false ↔ e.code = .timeout) := by
  have hne : e.code ≠ .unidentified := by
    rcases he with h | h
    · rw [h]
      decide
    · exact Code.ne_unidentified_of_permanent h
  rw [classified_of_ne hne]
  refine ⟨rfl, ?_⟩
  rcases he with h | h
  · simp [permanent, h, Code.permanent]
  · have ht : e.code ≠ .timeout := fun ht => by
      rw [ht] at h
      cases h
    simp [permanent, h, ht]

end Fault

/-- A list with attempt counts folds into a plan that counts attempts up to the least of them,
which is at least one. -/
theorem Plan.maxAttempts_of_budget {ss : List Strategy} {M : Nat}
    (h : (ss.filterMap Strategy.attemptBudget).min? = some M) :
    (Plan.ofStrategies ss).maxAttempts = some M ∧ 0 < M := by
  have hne : ss ≠ [] := by
    rintro rfl
    simp at h
  refine ⟨?_, ?_⟩
  · rw [(Plan.ofStrategies_ofList ss).maxAttempts, Strategy.effective, if_neg hne, h]
  · obtain ⟨s, -, hs⟩ := List.mem_filterMap.1 (List.min?_mem h)
    cases s with
    | maxAttempts m =>
      simp only [Strategy.attemptBudget, Option.some.injEq] at hs
      omega
    | _ => cases hs

namespace Timed

def Raises (n : σ → Nat) (k : Nat) (x : Timed σ α) : Prop :=
  ∀ w, n (x.run w).2.state ≤ n w.state + k

variable {n : σ → Nat} {a b k : Nat}

theorem Raises.of_stateless {x : Timed σ α} (hx : Stateless x) (k : Nat) : Raises n k x :=
  fun w => by
    rw [hx w]
    exact Nat.le_add_right _ _

theorem Raises.mono {x : Timed σ α} (hx : Raises n a x) (h : a ≤ b) : Raises n b x :=
  fun w => (hx w).trans (Nat.add_le_add_left h _)

theorem Raises.bind {x : Timed σ α} {f : α → Timed σ β} (hx : Raises n a x)
    (hf : ∀ v, Raises n b (f v)) : Raises n (a + b) (x >>= f) := by
  intro w
  rw [run_bind]
  rcases h : x.run w with ⟨i | v, w₁⟩
  · exact (by simpa [h] using hx w : n w₁.state ≤ n w.state + a).trans (by omega)
  · have h₁ : n w₁.state ≤ n w.state + a := by simpa [h] using hx w
    have h₂ := hf v w₁
    dsimp only
    omega

/-- Work after a stateless step that yields `Q` raises the tally as the work for values with `Q`
does. -/
theorem Raises.stateless_bind_yields {Q : α → Prop} {x : Timed σ α} {f : α → Timed σ β}
    (hx : Stateless x) (hy : Yields Q x) (hf : ∀ v, Q v → Raises n b (f v)) :
    Raises n b (x >>= f) := by
  intro w
  rw [run_bind]
  rcases h : x.run w with ⟨i | v, w₁⟩
  · have : w₁.state = w.state := by simpa [h] using hx w
    simp [this]
  · have : w₁.state = w.state := by simpa [h] using hx w
    simpa [this] using hf v (hy w v w₁ h) w₁

theorem Raises.stateless_bind {x : Timed σ α} {f : α → Timed σ β} (hx : Stateless x)
    (hf : ∀ v, Raises n b (f v)) : Raises n b (x >>= f) :=
  Raises.stateless_bind_yields hx (Yields.top x) fun v _ => hf v

theorem Raises.map {x : Timed σ α} (f : α → β) (hx : Raises n k x) : Raises n k (f <$> x) := by
  intro w
  rw [run_map]
  rcases h : x.run w with ⟨i | v, w₁⟩ <;> simpa [h] using hx w

theorem withLimit_state (ms : Nat) (act : Timed σ α) (w : World σ) :
    ((withLimit ms act).run w).2.state =
      (act.run { w with cutoffs := (w.now + ms) :: w.cutoffs }).2.state := by
  rw [withLimit_run]
  rcases act.run { w with cutoffs := (w.now + ms) :: w.cutoffs } with ⟨e | v, w₁⟩
  · cases e with
    | cut i => by_cases hi : i = w.now + ms <;> simp [hi]
    | _ => rfl
  · rfl

theorem Raises.attempt (p : Plan) (j : Nat) {action : Timed σ (Except Fault α)}
    (ha : Raises n k action) : Raises n k (p.attempt j action) := by
  unfold Plan.attempt
  split
  · refine (Raises.bind (a := k) (b := 0) (fun w => ?_) fun r => ?_).mono (Nat.add_zero k).le
    · rw [withLimit_state]
      exact ha _
    · cases r <;> exact Raises.of_stateless (Stateless.pure _) 0
  · exact ha

theorem Yields.stopReason (p : Plan) (deadline : Option Nat) (j : Nat) :
    Yields (fun r => r = none → ∀ m ∈ p.maxAttempts, j < m)
      (p.stopReason deadline j : Timed σ (Option StopReason)) := by
  intro w r w' hr hnone m hm
  subst hnone
  rw [Option.mem_def] at hm
  by_contra hle
  simp only [Plan.stopReason, run_bind, run_anyCancelled] at hr
  split at hr
  · cases hr
  · simp [hm, Nat.le_of_not_lt hle] at hr

/-- A loop whose plan counts attempts up to `M` makes no attempt after the `M`-th, so from
attempt `j` on it raises the tally at most `M - j + 1` times as far as one attempt. -/
theorem Raises.retryFrom {p : Plan} {M : Nat} (hM : p.maxAttempts = some M) (desc : String)
    (deadline : Option Nat) {action : Timed σ (Except Fault α)} (ha : Raises n k action) :
    ∀ fuel j, Raises n ((M - j + 1) * k) (DiskUploader.retryFrom desc p deadline action fuel j)
  | 0, _ => Raises.of_stateless (Stateless.throw _) _
  | fuel + 1, j => by
    have hgive : ∀ r e, Raises n ((M - j) * k) (giveUp desc j r e >>= fun f =>
        (pure (Except.error f) : Timed σ (Except Fault α))) := fun r e =>
      Raises.of_stateless (Stateless.bind (Stateless.giveUp _ _ _ _) fun _ => Stateless.pure _) _
    simp only [DiskUploader.retryFrom]
    refine (Raises.bind (Raises.attempt p j ha) fun r => (?_ : Raises n ((M - j) * k) _)).mono
      (by rw [Nat.add_mul, Nat.one_mul, Nat.add_comm])
    rcases r with e | v
    · dsimp only
      split
      · exact Raises.of_stateless (Stateless.pure _) _
      · refine Raises.stateless_bind_yields (Stateless.stopReason p deadline j)
          (Yields.stopReason p deadline j) fun r hr => ?_
        rcases r with _ | r
        · -- the loop goes on only while attempts are left
          have hj : j < M := hr rfl M hM
          refine Raises.stateless_bind (Stateless.pause _ _ _) fun _ => ?_
          refine Raises.stateless_bind (Stateless.stopReason p deadline j) fun r => ?_
          rcases r with _ | r
          · exact (Raises.retryFrom hM desc deadline ha fuel (j + 1)).mono
              (by rw [show M - (j + 1) + 1 = M - j by omega])
          · exact hgive r _
        · exact hgive r _
    · exact Raises.of_stateless (Stateless.pure _) _

/-- A retry whose list counts attempts up to `M` raises the tally at most `M` times as far as
one attempt. -/
theorem Raises.retry {ss : List Strategy} {M : Nat}
    (hM : (ss.filterMap Strategy.attemptBudget).min? = some M) (desc : String)
    {action : Timed σ (Except Fault α)} (ha : Raises n k action) :
    Raises n (M * k) (DiskUploader.retry desc ss action) := by
  obtain ⟨hmax, hpos⟩ := Plan.maxAttempts_of_budget hM
  -- the loop starts at attempt one, whatever the deadline
  have hloop : ∀ deadline, Raises n (M * k) (get >>= fun w : World σ =>
      DiskUploader.retryFrom desc (Plan.ofStrategies ss) deadline action w.attemptCap 1) :=
    fun deadline => Raises.stateless_bind (fun _ => rfl) fun w =>
      (Raises.retryFrom hmax desc deadline ha w.attemptCap 1).mono
        (by rw [Nat.sub_add_cancel hpos])
  unfold DiskUploader.retry
  refine Raises.stateless_bind (fun _ => rfl) fun start => ?_
  dsimp only
  split
  · split
    · exact Raises.stateless_bind (Stateless.panic _) fun _ => hloop _
    · exact Raises.stateless_bind (Stateless.pure _) fun _ => hloop _
  · exact Raises.stateless_bind (Stateless.pure _) fun _ => hloop _

theorem Yields.map {Q : β → Prop} {x : Timed σ α} (f : α → β)
    (hx : Yields (fun a => Q (f a)) x) : Yields Q (f <$> x) := by
  intro w b w' hr
  rw [run_map] at hr
  rcases h : x.run w with ⟨i | a, w₁⟩ <;> rw [h] at hr
  · cases hr
  · cases hr
    exact hx _ _ _ h

/-- A retry's failures are final, so they are classified already, and a loop around the retry
tries one again exactly when it is a timeout. -/
theorem Yields.retry_final (desc : String) (ss : List Strategy)
    (action : Timed σ (Except Fault α)) :
    Yields (fun r => ∀ e, r = .error e → e.classified = e ∧ e.Final)
      (DiskUploader.retry desc ss action) :=
  (Yields.retry desc ss action).imp fun _ hr e he =>
    ⟨(Fault.Final.classified (hr e he)).1, hr e he⟩

end Timed

theorem Plan.stopReason_reads (p : Plan) (deadline : Option Nat) (j : Nat) (w : World σ) :
    ∃ r, (p.stopReason deadline j).run w = (.ok r, w) := by
  simp only [Plan.stopReason, Timed.run_bind, Timed.run_anyCancelled]
  split
  · exact ⟨_, rfl⟩
  · split
    · split
      · exact ⟨_, rfl⟩
      · split
        · simp only [Timed.run_bind, Timed.run_now]
          split <;> exact ⟨_, rfl⟩
        · exact ⟨_, rfl⟩
    · split
      · simp only [Timed.run_bind, Timed.run_now]
        split <;> exact ⟨_, rfl⟩
      · exact ⟨_, rfl⟩

section Steps

variable {p : Plan} {desc : String} {deadline : Option Nat} {action : Timed σ (Except Fault α)}
  {fuel j : Nat} {w w₁ : World σ}

theorem retryFrom_answered {v : α} (hrun : (p.attempt j action).run w = (.ok (.ok v), w₁)) :
    (retryFrom desc p deadline action (fuel + 1) j).run w = (.ok (.ok v), w₁) := by
  simp [retryFrom, hrun]

theorem retryFrom_stops {e : Fault} (hrun : (p.attempt j action).run w = (.ok (.error e), w₁))
    (hperm : e.classified.permanent = true) :
    (retryFrom desc p deadline action (fuel + 1) j).run w =
      (.ok (.error (Fault.wrap e.classified.chain e.classified.code s!"failed to {desc}")), w₁) := by
  simp [retryFrom, hrun, hperm]

/-- Any other failure is tried again: the loop goes on to the next attempt, gives up with a
timeout caused by the failure, or is cut off while it pauses, with the state the failed attempt
left. -/
theorem retryFrom_retries {e : Fault} (hrun : (p.attempt j action).run w = (.ok (.error e), w₁))
    (hperm : e.classified.permanent = false) :
    ∃ w₂, w₂.state = w₁.state ∧
      ((retryFrom desc p deadline action (fuel + 1) j).run w =
          (retryFrom desc p deadline action fuel (j + 1)).run w₂ ∨
        (∃ f, (retryFrom desc p deadline action (fuel + 1) j).run w = (.ok (.error f), w₂) ∧
          f.code = .timeout ∧ f.cause = e.classified.chain) ∨
        ∃ i, (retryFrom desc p deadline action (fuel + 1) j).run w = (.error i, w₂)) := by
  -- giving up after either check logs a timeout caused by the failure
  have hgive : ∀ (r : StopReason) (w₂ : World σ), ∃ f w₃,
      (giveUp desc j r e.classified >>= fun f =>
          (pure (Except.error f) : Timed σ (Except Fault α))).run w₂ = (.ok (.error f), w₃) ∧
        w₃.state = w₂.state ∧ f.code = .timeout ∧ f.cause = e.classified.chain :=
    fun r w₂ => by
      obtain ⟨ev, hg⟩ := giveUp_run desc j r e.classified w₂
      simp only [Timed.run_bind, hg, Timed.run_pure]
      exact ⟨_, _, rfl, rfl, rfl, rfl⟩
  simp only [retryFrom, Timed.run_bind, hrun]
  simp only [hperm, Bool.false_eq_true, ↓reduceIte]
  obtain ⟨r₁, h₁⟩ := Plan.stopReason_reads p deadline j w₁
  rw [Timed.run_bind, h₁]
  rcases r₁ with _ | r
  · -- the pause, then the second check
    dsimp only
    rw [Timed.run_bind]
    have hpause := Timed.Stateless.pause (clockMillis (p.delay j)) deadline p.tokens w₁
    rcases h₂ : (Timed.pause (clockMillis (p.delay j)) deadline p.tokens).run w₁ with ⟨i | u, w₂⟩
    · have hs : w₂.state = w₁.state := by simpa [h₂] using hpause
      exact ⟨w₂, hs, .inr (.inr ⟨i, rfl⟩)⟩
    · have hs : w₂.state = w₁.state := by simpa [h₂] using hpause
      obtain ⟨r₂, h₃⟩ := Plan.stopReason_reads p deadline j w₂
      dsimp only
      rw [Timed.run_bind, h₃]
      rcases r₂ with _ | r
      · exact ⟨w₂, hs, .inl rfl⟩
      · obtain ⟨f, w₃, hg, hs₃, hf⟩ := hgive r w₂
        exact ⟨w₃, hs₃.trans hs, .inr (.inl ⟨f, hg, hf⟩)⟩
  · obtain ⟨f, w₃, hg, hs₃, hf⟩ := hgive r w₁
    exact ⟨w₃, hs₃, .inr (.inl ⟨f, hg, hf⟩)⟩

end Steps

/-- A poll: the engine read `call`, retried under `read`, and `judge`'s verdict on its answer. -/
def judgedRead (desc : String) (read : List Strategy) (call : Timed σ (Except Fault α))
    (judge : α → Except Fault β) : Timed σ (Except Fault β) :=
  (·.bind judge) <$> retry desc read call

/-- The verdict on a disk: the disk when it is ok, a `diskLocked` fault while it is locked, an
`unexpectedStatus` fault for any other status. -/
def diskVerdict (id : String) (d : Disk) : Except Fault Disk :=
  match d.status with
  | .ok => .ok d
  | .locked => .error (Fault.new .diskLocked s!"disk {id} is locked")
  | s => .error (Fault.new .unexpectedStatus s!"disk {id} is in unexpected status {s.text}")

/-- The verdict on a listing of jobs: an `unexpectedStatus` fault for the first job that failed
or was aborted, else a `pending` fault while a job runs, else done. -/
def jobsVerdict (jobs : List Job) : Except Fault Unit :=
  match jobs.find? fun j => j.status = .failed || j.status = .aborted with
  | some j =>
    .error (Fault.new .unexpectedStatus s!"job {j.id} ({j.description}) ended as {j.status.title}")
  | none =>
    let running := (jobs.filter (·.status = .started)).length
    if running > 0 then .error (Fault.new .pending s!"{running} job(s) still running") else .ok ()

theorem waitForDiskOk_eq (api : Engine σ) (id : String) (read wait : List Strategy) :
    waitForDiskOk api id read wait = retry s!"wait for disk {id} to become ok" wait
      (judgedRead s!"get disk {id}" read (api.getDisk id) (diskVerdict id)) := by
  unfold waitForDiskOk judgedRead
  rw [map_eq_pure_bind]
  congr 1
  congr 1
  funext r
  rcases r with e | d
  · rfl
  · dsimp only [Except.bind, Function.comp]
    unfold diskVerdict
    cases d.status <;> rfl

theorem waitForJobs_eq (api : Engine σ) (c : CorrelationId) (read wait : List Strategy) :
    waitForJobs api c read wait = retry s!"wait for jobs with correlation id {c.text}" wait
      (judgedRead s!"list jobs with correlation id {c.text}" read (api.listJobs c)
        jobsVerdict) := by
  unfold waitForJobs judgedRead
  rw [map_eq_pure_bind]
  congr 1
  congr 1
  funext r
  rcases r with e | jobs
  · rfl
  · dsimp only [Except.bind, Function.comp]
    unfold jobsVerdict
    cases List.find? (fun j => j.status = .failed || j.status = .aborted) jobs with
    | some j => rfl
    | none => exact (apply_ite pure _ _ _).symm

def FailsWith (c : Code) (r : Except Fault α) : Prop := ∃ e, r = .error e ∧ e.classified.code = c

theorem failsWith_new {c : Code} (h : c ≠ .unidentified) (m : String) :
    FailsWith c (.error (Fault.new c m) : Except Fault α) :=
  ⟨_, rfl, by rw [Fault.classified_of_ne h]; rfl⟩

section Verdicts

variable {id : String} {d : Disk}

theorem diskVerdict_of_ok (h : d.status = .ok) : diskVerdict id d = .ok d := by
  unfold diskVerdict
  rw [h]

theorem diskVerdict_of_locked (h : d.status = .locked) :
    FailsWith .diskLocked (diskVerdict id d) := by
  unfold diskVerdict
  rw [h]
  exact failsWith_new (by decide) _

theorem diskVerdict_of_other (hok : d.status ≠ .ok) (hlocked : d.status ≠ .locked) :
    FailsWith .unexpectedStatus (diskVerdict id d) := by
  unfold diskVerdict
  cases hs : d.status with
  | ok => exact absurd hs hok
  | locked => exact absurd hs hlocked
  | _ => exact failsWith_new (by decide) _

theorem diskVerdict_eq_ok {d' : Disk} (h : diskVerdict id d = .ok d') :
    d' = d ∧ d'.status = .ok := by
  unfold diskVerdict at h
  split at h
  · rename_i hs
    cases h
    exact ⟨rfl, hs⟩
  all_goals cases h

variable {jobs : List Job}

theorem jobsVerdict_of_ended (h : ∃ j ∈ jobs, j.status = .failed ∨ j.status = .aborted) :
    FailsWith .unexpectedStatus (jobsVerdict jobs) := by
  obtain ⟨j, hj, hs⟩ := h
  unfold jobsVerdict
  cases hf : jobs.find? (fun j => j.status = .failed || j.status = .aborted) with
  | none =>
    have := List.find?_eq_none.1 hf j hj
    rcases hs with hs | hs <;> simp [hs] at this
  | some j' => exact failsWith_new (by decide) _

theorem jobsVerdict_of_running (h : ∀ j ∈ jobs, j.status ≠ .failed ∧ j.status ≠ .aborted)
    (hrun : ∃ j ∈ jobs, j.status = .started) : FailsWith .pending (jobsVerdict jobs) := by
  have hnone : jobs.find? (fun j => j.status = .failed || j.status = .aborted) = none :=
    List.find?_eq_none.2 fun j hj => by simp [(h j hj).1, (h j hj).2]
  obtain ⟨j, hj, hs⟩ := hrun
  have hpos : (jobs.filter (·.status = .started)).length > 0 :=
    List.length_pos_of_mem (List.mem_filter.2 ⟨hj, by simp [hs]⟩)
  unfold jobsVerdict
  rw [hnone]
  dsimp only
  rw [if_pos hpos]
  exact failsWith_new (by decide) _

theorem jobsVerdict_of_settled
    (h : ∀ j ∈ jobs, j.status ≠ .failed ∧ j.status ≠ .aborted ∧ j.status ≠ .started) :
    jobsVerdict jobs = .ok () := by
  have hnone : jobs.find? (fun j => j.status = .failed || j.status = .aborted) = none :=
    List.find?_eq_none.2 fun j hj => by simp [(h j hj).1, (h j hj).2.1]
  have hzero : (jobs.filter (·.status = .started)).length = 0 := by
    rw [List.length_eq_zero_iff, List.filter_eq_nil_iff]
    intro j hj
    simp [(h j hj).2.2]
  unfold jobsVerdict
  rw [hnone]
  dsimp only
  rw [hzero, if_neg (Nat.lt_irrefl 0)]

end Verdicts

section Polls

variable {desc waitDesc : String} {read wait : List Strategy} {call : Timed σ (Except Fault α)}
  {judge : α → Except Fault β} {w w' : World σ}

theorem judgedRead_failed {e : Fault} (h : (retry desc read call).run w = (.ok (.error e), w')) :
    (judgedRead desc read call judge).run w = (.ok (.error e), w') := by
  simp [judgedRead, h, Except.bind]

theorem Timed.Yields.judgedRead :
    Timed.Yields (Answers fun b => ∃ a, judge a = .ok b) (judgedRead desc read call judge) :=
  Timed.Yields.map _ ((Timed.Yields.top _).imp fun r _ b hb => by
    rcases r with e | a
    · cases hb
    · exact ⟨a, hb⟩)

/-- A wait of polls answers only what a verdict passed, and fails only with a timeout or a
permanent fault. -/
theorem Timed.Yields.judgedWait :
    Timed.Yields (fun r => Concluded r ∧ Answers (fun b => ∃ a, judge a = .ok b) r)
      (DiskUploader.retry waitDesc wait (DiskUploader.judgedRead desc read call judge)) :=
  Timed.Yields.retry_answers _ _ Timed.Yields.judgedRead

/-- With attempt counts `Mw` and `Mr` in the two lists, a wait of polls raises a tally that each
read raises by at most `k` by at most `Mw * Mr * k`. -/
theorem Timed.Raises.judgedWait {n : σ → Nat} {k Mw Mr : Nat}
    (hw : (wait.filterMap Strategy.attemptBudget).min? = some Mw)
    (hr : (read.filterMap Strategy.attemptBudget).min? = some Mr) (hc : Timed.Raises n k call) :
    Timed.Raises n (Mw * Mr * k)
      (DiskUploader.retry waitDesc wait (DiskUploader.judgedRead desc read call judge)) := by
  rw [Nat.mul_assoc]
  exact Timed.Raises.retry hw _ (Timed.Raises.map _ (Timed.Raises.retry hr _ hc))

end Polls

section Stable

variable (api : Engine σ) (id : String) (c : CorrelationId) (read wait : List Strategy)
  {w w₁ : World σ}

theorem waitForDiskStable_of_no_disk {o : Except Interrupt (Except Fault Disk)}
    (h : (waitForDiskOk api id read wait).run w = (o, w₁)) (ho : ∀ d, o ≠ .ok (.ok d)) :
    (waitForDiskStable api id c read wait).run w = (o, w₁) := by
  unfold waitForDiskStable
  rw [Timed.run_bind, h]
  rcases o with i | r
  · rfl
  · rcases r with e | d
    · rfl
    · exact absurd rfl (ho d)

theorem waitForDiskStable_of_disk {d : Disk}
    (h : (waitForDiskOk api id read wait).run w = (.ok (.ok d), w₁)) :
    (waitForDiskStable api id c read wait).run w =
      (Except.map (fun _ => d) <$> waitForJobs api c read wait).run w₁ := by
  unfold waitForDiskStable
  rw [Timed.run_bind, h]
  dsimp only
  rw [Timed.run_bind, Timed.run_map]
  rcases (waitForJobs api c read wait).run w₁ with ⟨i | r, w₂⟩
  · rfl
  · rcases r with e | u <;> rfl

theorem Timed.Raises.waitForDiskStable {n : σ → Nat} {a b Mw Mr : Nat}
    (hw : (wait.filterMap Strategy.attemptBudget).min? = some Mw)
    (hr : (read.filterMap Strategy.attemptBudget).min? = some Mr)
    (hg : Timed.Raises n a (api.getDisk id)) (hl : Timed.Raises n b (api.listJobs c)) :
    Timed.Raises n (Mw * Mr * a + Mw * Mr * b) (waitForDiskStable api id c read wait) := by
  have hdisk : Timed.Raises n (Mw * Mr * a) (waitForDiskOk api id read wait) := by
    rw [waitForDiskOk_eq]
    exact Timed.Raises.judgedWait hw hr hg
  have hjobs : Timed.Raises n (Mw * Mr * b) (waitForJobs api c read wait) := by
    rw [waitForJobs_eq]
    exact Timed.Raises.judgedWait hw hr hl
  unfold DiskUploader.waitForDiskStable
  refine Timed.Raises.bind hdisk fun r => ?_
  rcases r with e | d
  · exact Timed.Raises.of_stateless (Timed.Stateless.pure _) _
  · refine (Timed.Raises.bind hjobs fun r => ?_).mono (Nat.add_zero _).le
    rcases r with e | u <;> exact Timed.Raises.of_stateless (Timed.Stateless.pure _) 0

end Stable

/-- How the engine's waits go, for every engine and every pair of strategy lists. The disk wait
and the jobs wait poll under `wait`; a poll retries one read under `read` and judges what it
answered. What the read ends with reaches the poll as it is, so a read that gave up is a timeout
that the wait tries again, and a read that failed permanently ends the wait at once. With
attempt counts in both lists a wait makes at most `Mw * Mr` reads, and the stable wait lists
jobs only once the disk wait has answered a disk. -/
theorem waits_nest_retries (api : Engine σ) (id : String) (c : CorrelationId)
    (read wait : List Strategy) :
    -- each wait polls under `wait`; a poll retries one read under `read` and judges its answer
    waitForDiskOk api id read wait = retry s!"wait for disk {id} to become ok" wait
        (judgedRead s!"get disk {id}" read (api.getDisk id) (diskVerdict id)) ∧
      waitForJobs api c read wait = retry s!"wait for jobs with correlation id {c.text}" wait
        (judgedRead s!"list jobs with correlation id {c.text}" read (api.listJobs c) jobsVerdict) ∧
      -- an ok disk passes; a locked one fails as `diskLocked`, any other as `unexpectedStatus`
      (∀ d : Disk, (d.status = .ok → diskVerdict id d = .ok d) ∧
        (d.status = .locked → FailsWith .diskLocked (diskVerdict id d)) ∧
        (d.status ≠ .ok → d.status ≠ .locked →
          FailsWith .unexpectedStatus (diskVerdict id d))) ∧
      -- a failed or aborted job fails a listing as `unexpectedStatus`, running jobs beside it or
      -- not; else a running job fails it as `pending`; else it passes
      (∀ jobs : List Job,
        ((∃ j ∈ jobs, j.status = .failed ∨ j.status = .aborted) →
          FailsWith .unexpectedStatus (jobsVerdict jobs)) ∧
        ((∀ j ∈ jobs, j.status ≠ .failed ∧ j.status ≠ .aborted) →
          (∃ j ∈ jobs, j.status = .started) → FailsWith .pending (jobsVerdict jobs)) ∧
        ((∀ j ∈ jobs, j.status ≠ .failed ∧ j.status ≠ .aborted ∧ j.status ≠ .started) →
          jobsVerdict jobs = .ok ())) ∧
      -- a retry loop tries `diskLocked` and `pending` again and stops at `unexpectedStatus`
      (Code.diskLocked.permanent = false ∧ Code.pending.permanent = false ∧
        Code.unexpectedStatus.permanent = true) ∧
      -- a read's failure reaches its poll as it is: classified already, a timeout or permanent
      (∀ {γ δ : Type} (desc : String) (call : Timed σ (Except Fault γ))
        (judge : γ → Except Fault δ) (w : World σ) (e : Fault) (w' : World σ),
        (retry desc read call).run w = (.ok (.error e), w') →
          (judgedRead desc read call judge).run w = (.ok (.error e), w') ∧ e.classified = e ∧
            e.Final) ∧
      -- a retry loop ends at an answer or at a permanent failure, and tries any other again
      (∀ {γ : Type} (desc : String) (p : Plan) (deadline : Option Nat)
        (poll : Timed σ (Except Fault γ)) (fuel j : Nat) (w : World σ) (r : Except Fault γ)
        (w₁ : World σ), (p.attempt j poll).run w = (.ok r, w₁) →
          (∀ v, r = .ok v →
            (retryFrom desc p deadline poll (fuel + 1) j).run w = (.ok (.ok v), w₁)) ∧
          (∀ e, r = .error e → e.classified.permanent = true →
            (retryFrom desc p deadline poll (fuel + 1) j).run w = (.ok (.error
              (Fault.wrap e.classified.chain e.classified.code s!"failed to {desc}")), w₁)) ∧
          (∀ e, r = .error e → e.classified.permanent = false →
            ∃ w₂, w₂.state = w₁.state ∧
            ((retryFrom desc p deadline poll (fuel + 1) j).run w =
                (retryFrom desc p deadline poll fuel (j + 1)).run w₂ ∨
              (∃ f, (retryFrom desc p deadline poll (fuel + 1) j).run w = (.ok (.error f), w₂) ∧
                f.code = .timeout ∧ f.cause = e.classified.chain) ∨
              ∃ i, (retryFrom desc p deadline poll (fuel + 1) j).run w = (.error i, w₂)))) ∧
      -- with attempt counts in both lists, a wait makes at most `Mw * Mr` reads
      (∀ (n : σ → Nat) (a b Mw Mr : Nat),
        (wait.filterMap Strategy.attemptBudget).min? = some Mw →
        (read.filterMap Strategy.attemptBudget).min? = some Mr →
        (Timed.Raises n a (api.getDisk id) →
          Timed.Raises n (Mw * Mr * a) (waitForDiskOk api id read wait)) ∧
        (Timed.Raises n b (api.listJobs c) →
          Timed.Raises n (Mw * Mr * b) (waitForJobs api c read wait)) ∧
        (Timed.Raises n a (api.getDisk id) → Timed.Raises n b (api.listJobs c) →
          Timed.Raises n (Mw * Mr * a + Mw * Mr * b) (waitForDiskStable api id c read wait))) ∧
      -- a wait fails only with a timeout or a permanent fault, and answers only an ok disk
      Timed.Yields (fun r => Concluded r ∧ Answers (·.status = .ok) r)
        (waitForDiskOk api id read wait) ∧
      Timed.Yields Concluded (waitForJobs api c read wait) ∧
      -- jobs are listed only once the disk wait has answered a disk, which is then answered
      (∀ (w : World σ) o w₁, (waitForDiskOk api id read wait).run w = (o, w₁) →
        (∀ d, o ≠ .ok (.ok d)) → (waitForDiskStable api id c read wait).run w = (o, w₁)) ∧
      (∀ (w : World σ) d w₁, (waitForDiskOk api id read wait).run w = (.ok (.ok d), w₁) →
        (waitForDiskStable api id c read wait).run w =
          (Except.map (fun _ => d) <$> waitForJobs api c read wait).run w₁) := by
  have hdisk : Timed.Yields (fun r => Concluded r ∧ Answers (·.status = .ok) r)
      (waitForDiskOk api id read wait) := by
    rw [waitForDiskOk_eq]
    refine Timed.Yields.judgedWait.imp fun r hr => ⟨hr.1, fun d hd => ?_⟩
    obtain ⟨d₀, hv⟩ := hr.2 d hd
    exact (diskVerdict_eq_ok hv).2
  refine ⟨waitForDiskOk_eq api id read wait, waitForJobs_eq api c read wait,
    fun d => ⟨diskVerdict_of_ok, diskVerdict_of_locked, diskVerdict_of_other⟩,
    fun jobs => ⟨jobsVerdict_of_ended, jobsVerdict_of_running, jobsVerdict_of_settled⟩,
    ⟨rfl, rfl, rfl⟩, fun desc call judge w e w' h => ?_,
    fun desc p deadline poll fuel j w r w₁ h =>
      ⟨fun v hv => retryFrom_answered (hv ▸ h), fun e he hp => retryFrom_stops (he ▸ h) hp,
        fun e he hp => retryFrom_retries (he ▸ h) hp⟩,
    fun n a b Mw Mr hw hr => ⟨fun hg => ?_, fun hl => ?_,
      Timed.Raises.waitForDiskStable api id c read wait hw hr⟩,
    hdisk, Timed.Yields.retry _ _ _,
    fun w o w₁ h ho => waitForDiskStable_of_no_disk api id c read wait h ho,
    fun w d w₁ h => waitForDiskStable_of_disk api id c read wait h⟩
  · exact ⟨judgedRead_failed h, Timed.Yields.retry_final desc read call w _ w' h e rfl⟩
  · rw [waitForDiskOk_eq]
    exact Timed.Raises.judgedWait hw hr hg
  · rw [waitForJobs_eq]
    exact Timed.Raises.judgedWait hw hr hl

theorem MockState.enter_callCount (m : MockState) (c c' : EngineCall) :
    (m.enter c).2.callCount c' = m.callCount c' + if c' = c then 1 else 0 := by
  rw [← MockState.callCount_counted m c c']
  unfold MockState.enter
  dsimp only
  split
  · rfl
  · split <;> rfl

/-- Each read of a disk counts one `get_disk` call, whether it finds the disk or not and
whether an injected fault fails it or not. -/
theorem Mock.getDisk_counted (b : MockBehavior) (id : String) :
    Timed.Raises (·.callCount .getDisk) 1 ((Mock.engine b (Lens.id MockState)).getDisk id) := by
  intro w
  have hc := MockState.enter_callCount w.state .getDisk .getDisk
  simp only [Mock.engine, Mock.getDisk, Mock.entered, Mock.enter, Mock.view, Mock.store,
    Timed.run_bind, Timed.run_state, Timed.run_pure, Timed.run_modifyState, Lens.id,
    if_pos] at hc ⊢
  generalize w.state.enter .getDisk = em at hc ⊢
  rcases em with ⟨e | u, m⟩
  · simp [hc]
  · dsimp only at hc ⊢
    cases hd : m.disk? id <;> simp [hd, Timed.run_map, hc]

/-- On the in-memory engine, waiting for a disk with three polls of at most two reads each makes
at most six reads; a listing with a failed job beside a running one fails as
`unexpectedStatus`. -/
theorem mock_disk_wait_six_reads :
    ([Strategy.maxAttempts 3].filterMap Strategy.attemptBudget).min? = some 3 ∧
      ([Strategy.maxAttempts 2].filterMap Strategy.attemptBudget).min? = some 2 ∧
      Timed.Raises (·.callCount .getDisk) 1 ((Mock.engine {} (Lens.id MockState)).getDisk "d") ∧
      Timed.Raises (·.callCount .getDisk) (3 * 2 * 1)
        (waitForDiskOk (Mock.engine {} (Lens.id MockState)) "d" [.maxAttempts 2]
          [.maxAttempts 3]) ∧
      FailsWith .unexpectedStatus
        (jobsVerdict [⟨"1", "copy", .started⟩, ⟨"2", "move", .failed⟩]) := by
  obtain ⟨-, -, -, hjobs, -, -, -, hreads, -⟩ := waits_nest_retries
    (Mock.engine {} (Lens.id MockState)) "d" ⟨"c"⟩ [.maxAttempts 2] [.maxAttempts 3]
  have hw : ([Strategy.maxAttempts 3].filterMap Strategy.attemptBudget).min? = some 3 := by decide
  have hr : ([Strategy.maxAttempts 2].filterMap Strategy.attemptBudget).min? = some 2 := by decide
  have hg := Mock.getDisk_counted {} "d"
  refine ⟨hw, hr, hg, (hreads _ 1 0 3 2 hw hr).1 hg,
    (hjobs _).1 ⟨⟨"2", "move", .failed⟩, ?_, .inl rfl⟩⟩
  simp

end DiskUploader
