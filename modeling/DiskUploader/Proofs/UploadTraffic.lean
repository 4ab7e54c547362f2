import DiskUploader.Proofs.MockIsolation
import DiskUploader.Proofs.NestedWaits
import DiskUploader.Proofs.UploadOutcome

/-!
# What an upload tells the engine

An upload names to the engine only what the engine handed it, and its own correlation id. Every
request of the upload task, in the pipeline, in its compensation and in the recovery from a
panic, names disks and transfers that an earlier answer handed out, or the existing disk the
upload writes into, and no correlation id but the upload's own. So the traffic of an upload into
a new disk is that of a keyed client, which the in-memory engine serves beside any other client
as it would serve it alone.

The traffic is recorded by an engine that notes every request it answers, with the answer, over
an engine that leaves the record alone. An upload knows the ids of its target and those the
recorded answers handed out. Every call names what the upload knew when it was made, a retry
answers what one of its attempts was answered, and the record only grows.

Every rehearsal, its in-memory engine recorded beside it, is such an uploader, so each rehearsed
upload into a new disk is a keyed client of its own correlation id (`Rehearsal.recorded_keyed`).
-/

namespace DiskUploader

variable {σ α : Type}

abbrev Traffic := List (EngineRequest × EngineReply)

namespace Traffic

def handed (L : Traffic) : List String := L.flatMap (·.2.ids)

@[simp] theorem handed_append (L M : Traffic) : handed (L ++ M) = handed L ++ handed M :=
  List.flatMap_append

/-- Requests after `L` that each name only ids of `K` or ids handed out before them, and only
correlation ids of `cs`. -/
def Named (K : List String) (cs : List CorrelationId) : Traffic → Traffic → Prop
  | _, [] => True
  | L, (r, a) :: M => ((∀ k ∈ r.ids, k ∈ K ∨ k ∈ handed L) ∧ ∀ c ∈ r.correlations, c ∈ cs) ∧
      Named K cs (L ++ [(r, a)]) M

theorem Named.append {K : List String} {cs : List CorrelationId} :
    ∀ {L M₁ M₂ : Traffic}, Named K cs L M₁ → Named K cs (L ++ M₁) M₂ → Named K cs L (M₁ ++ M₂)
  | _, [], _, _, h₂ => by simpa using h₂
  | _, (_, _) :: _, _, ⟨hr, h₁⟩, h₂ => ⟨hr, Named.append h₁ (by simpa using h₂)⟩

/-- Each request of traffic named after `L` names what `K` or the answers before it gave, and
correlation ids of `cs`. -/
theorem Named.getElem {K : List String} {cs : List CorrelationId} :
    ∀ {L M : Traffic}, Named K cs L M → ∀ n (hn : n < M.length),
      (∀ k ∈ M[n].1.ids, k ∈ K ∨ k ∈ handed (L ++ M.take n)) ∧
        ∀ c ∈ M[n].1.correlations, c ∈ cs
  | _, [], _, _, hn => absurd hn (Nat.not_lt_zero _)
  | _, (_, _) :: _, ⟨hr, _⟩, 0, _ => by simpa using hr
  | _, (_, _) :: _, ⟨_, h⟩, n + 1, hn => by simpa using h.getElem n (by simpa using hn)

def replay (L : Traffic) : Client where
  next h := if h = (L.take h.length).map (·.2) then L[h.length]?.map (·.1) else none

theorem replay_next {L : Traffic} {h : List EngineReply} {r : EngineRequest}
    (hr : (replay L).next h = some r) :
    ∃ hn : h.length < L.length, h = (L.take h.length).map (·.2) ∧ L[h.length].1 = r := by
  simp only [replay] at hr
  split_ifs at hr with hh
  obtain ⟨p, hp, rfl⟩ := Option.map_eq_some_iff.1 hr
  obtain ⟨hn, rfl⟩ := List.getElem?_eq_some_iff.1 hp
  exact ⟨hn, hh, rfl⟩

/-- Traffic that names only what its answers handed out, and correlation ids of `cs`, replays
as a keyed client. -/
theorem replay_keyed {cs : List CorrelationId} {L : Traffic} (hL : Named [] cs [] L) :
    (replay L).Keyed cs := by
  refine ⟨fun h r hr k hk => ?_, fun h r hr c hc => ?_⟩
  · obtain ⟨hn, hh, rfl⟩ := replay_next hr
    rcases (hL.getElem _ hn).1 k hk with hk | hk
    · exact absurd hk List.not_mem_nil
    · rw [hh, List.flatMap_map]
      simpa [handed] using hk
  · obtain ⟨hn, -, rfl⟩ := replay_next hr
    exact (hL.getElem _ hn).2 c hc

end Traffic

def recordedCall (log : Lens σ Traffic) (r : EngineRequest) (reply : Except Fault α → EngineReply)
    (x : Call σ α) : Timed σ (Except Fault α) := do
  let v ← x
  Timed.modifyState (log.update (· ++ [(r, reply v)]))
  pure v

def Engine.recorded (e : Engine σ) (log : Lens σ Traffic) : Engine σ where
  createDisk p c := recordedCall log (.createDisk p c) .disk (e.createDisk p c)
  getDisk id := recordedCall log (.getDisk id) .disk (e.getDisk id)
  removeDisk id := recordedCall log (.removeDisk id) .done (e.removeDisk id)
  createTransfer d dir c :=
    recordedCall log (.createTransfer d dir c) .transfer (e.createTransfer d dir c)
  getTransfer id := recordedCall log (.getTransfer id) .transfer (e.getTransfer id)
  finalizeTransfer id c := recordedCall log (.finalizeTransfer id c) .done (e.finalizeTransfer id c)
  cancelTransfer id := recordedCall log (.cancelTransfer id) .done (e.cancelTransfer id)
  listJobs c := recordedCall log (.listJobs c) .jobs (e.listJobs c)
  name := e.name

def Target.ids : Target → List String
  | .newDisk _ => []
  | .existing id => [id]

section Record

variable (log : Lens σ Traffic) (K : List String) (cs : List CorrelationId)

def Unrecorded (x : Timed σ α) : Prop :=
  Timed.Keeps (fun w w' => log.view w'.state = log.view w.state) x

/-- What is known in a world: the ids of `K` and those the recorded answers handed out. -/
def Knows (w : World σ) (k : String) : Prop := k ∈ K ∨ k ∈ Traffic.handed (log.view w.state)

def Grows (w w' : World σ) : Prop :=
  ∃ M, log.view w'.state = log.view w.state ++ M ∧ Traffic.Named K cs (log.view w.state) M

def Tells (S : List String) (w w' : World σ) : Prop :=
  (∀ k ∈ S, Knows log K w k) → Grows log K cs w w'

def Hands (ids : α → List String) (x : Call σ α) : Prop :=
  ∀ w v w', x.run w = (.ok (.ok v), w') → ∀ k ∈ ids v, k ∈ Traffic.handed (log.view w'.state)

variable {log K cs} {w₁ w₂ w₃ : World σ}

theorem Grows.of_eq (h : log.view w₂.state = log.view w₁.state) : Grows log K cs w₁ w₂ :=
  ⟨[], by rw [h, List.append_nil], trivial⟩

theorem Grows.trans (h₁ : Grows log K cs w₁ w₂) (h₂ : Grows log K cs w₂ w₃) :
    Grows log K cs w₁ w₃ := by
  obtain ⟨M₁, e₁, n₁⟩ := h₁
  obtain ⟨M₂, e₂, n₂⟩ := h₂
  exact ⟨M₁ ++ M₂, by rw [e₂, e₁, List.append_assoc], n₁.append (e₁ ▸ n₂)⟩

theorem Grows.then {P : Prop} (h₁ : Grows log K cs w₁ w₂) (h₂ : Grows log K cs w₂ w₃ ∧ P) :
    Grows log K cs w₁ w₃ ∧ P :=
  ⟨h₁.trans h₂.1, h₂.2⟩

theorem Knows.mono {k : String} (h : Grows log K cs w₁ w₂) (hk : Knows log K w₁ k) :
    Knows log K w₂ k := by
  obtain ⟨M, e, -⟩ := h
  rcases hk with hk | hk
  · exact .inl hk
  · exact .inr (by rw [e, Traffic.handed_append]; exact List.mem_append_left _ hk)

theorem tells_frame (S : List String) : Timed.Frame (Tells log K cs S) where
  trans h₁ h₂ hS := (h₁ hS).trans (h₂ fun k hk => (hS k hk).mono (h₁ hS))
  timeline h _ := Grows.of_eq (by rw [h])

theorem tells_recordedCall (hl : log.Lawful) {r : EngineRequest}
    {reply : Except Fault α → EngineReply} {x : Call σ α} (hx : Unrecorded log x) {S : List String}
    (hS : ∀ k ∈ r.ids, k ∈ S) (hc : ∀ c ∈ r.correlations, c ∈ cs) :
    Timed.Keeps (Tells log K cs S) (recordedCall log r reply x) := by
  intro w hknown
  have hw := hx w
  simp only [recordedCall, Timed.run_bind]
  rcases h : x.run w with ⟨i | v, w₁⟩ <;> rw [h] at hw
  · exact Grows.of_eq hw
  · simp only [Timed.run_modifyState, Timed.run_pure]
    exact ⟨[(r, reply v)], by rw [hl, hw], ⟨fun k hk => hknown k (hS k hk), hc⟩, trivial⟩

theorem hands_recordedCall (hl : log.Lawful) {r : EngineRequest}
    {reply : Except Fault α → EngineReply} {ids : α → List String}
    (hr : ∀ v, ∀ k ∈ ids v, k ∈ (reply (.ok v)).ids) (x : Call σ α) :
    Hands log ids (recordedCall log r reply x) := by
  intro w v w' hrun k hk
  simp only [recordedCall, Timed.run_bind] at hrun
  rcases h : x.run w with ⟨i | v', w₁⟩ <;> rw [h] at hrun
  · cases hrun
  · simp only [Timed.run_modifyState, Timed.run_pure, Prod.mk.injEq] at hrun
    obtain ⟨hv, rfl⟩ := hrun
    cases hv
    rw [hl, Traffic.handed_append]
    exact List.mem_append_right _ (by simpa [Traffic.handed] using hr _ k hk)

end Record

section Values

variable {p : Plan} {desc : String} {deadline : Option Nat} {x : Timed σ (Except Fault α)}
  {v : α} {w w' : World σ}

theorem attempt_value {n : Nat} (h : (p.attempt n x).run w = (.ok (.ok v), w')) :
    ∃ w₁ w₁', x.run w₁ = (.ok (.ok v), w₁') ∧ w'.state = w₁'.state := by
  unfold Plan.attempt at h
  split at h
  · rename_i l _
    rw [Timed.run_bind, Timed.withLimit_run] at h
    rcases hx : x.run { w with cutoffs := (w.now + clockMillis l) :: w.cutoffs } with ⟨e | r, w₁⟩ <;>
      rw [hx] at h
    · cases e with
      | cut i => by_cases hi : i = w.now + clockMillis l <;> simp [hi] at h
      | _ => simp at h
    · simp only [Timed.run_pure, Prod.mk.injEq] at h
      obtain ⟨hr, rfl⟩ := h
      cases hr
      exact ⟨_, _, hx, rfl⟩
  · exact ⟨w, w', h, rfl⟩

theorem retryFrom_value :
    ∀ fuel n (w w' : World σ), (retryFrom desc p deadline x fuel n).run w = (.ok (.ok v), w') →
      ∃ w₁ w₁', x.run w₁ = (.ok (.ok v), w₁') ∧ w'.state = w₁'.state
  | 0, _, _, _, h => by cases h
  | fuel + 1, n, w, w', h => by
    rcases ha : (p.attempt n x).run w with ⟨i | e | v', w₁⟩
    · simp [retryFrom, ha] at h
    · by_cases hperm : e.classified.permanent = true
      · rw [retryFrom_stops ha hperm] at h
        cases h
      · obtain ⟨w₂, -, hgo | ⟨f, hf, -⟩ | ⟨i, hi⟩⟩ :=
          @retryFrom_retries _ _ _ desc deadline _ fuel _ _ _ _ ha (Bool.eq_false_iff.2 hperm)
        · exact retryFrom_value fuel (n + 1) w₂ w' (hgo ▸ h)
        · rw [hf] at h
          cases h
        · rw [hi] at h
          cases h
    · rw [retryFrom_answered ha] at h
      cases h
      exact attempt_value ha

theorem retry_value {ss : List Strategy} (h : (retry desc ss x).run w = (.ok (.ok v), w')) :
    ∃ w₁ w₁', x.run w₁ = (.ok (.ok v), w₁') ∧ w'.state = w₁'.state := by
  unfold retry at h
  simp only [Timed.run_bind, Timed.run_now] at h
  split at h
  · split at h
    · simp [Timed.panic] at h
    · simp only [Timed.run_pure, Timed.run_bind, Timed.run_get] at h
      exact retryFrom_value _ _ _ _ h
  · simp only [Timed.run_pure, Timed.run_bind, Timed.run_get] at h
    exact retryFrom_value _ _ _ _ h

theorem Hands.retry {log : Lens σ Traffic} {ids : α → List String} {ss : List Strategy}
    (hx : Hands log ids x) : Hands log ids (retry desc ss x) := by
  intro w v w' h
  obtain ⟨w₁, w₁', h₁, hs⟩ := retry_value h
  rw [hs]
  exact hx w₁ v w₁' h₁

end Values

namespace Uploader

open UploadRun Stage

/-- An uploader whose engine is `e` recording into `log`, where `e`, the transport and every
change of the upload in progress leave the record alone. -/
structure Records (u : Uploader σ) (e : Engine σ) (log : Lens σ Traffic) : Prop where
  api : u.api = e.recorded log
  lawful : log.Lawful
  engine : e.Keeps fun w w' => log.view w'.state = log.view w.state
  probe : ∀ url, Unrecorded log (u.transport.probe url)
  put : ∀ url n (read : BodyReader σ), (∀ k, Unrecorded log (read k)) →
    Unrecorded log (u.transport.put url n read)
  update : ∀ f s, log.view (u.run.update f s) = log.view s

variable {u : Uploader σ} {e : Engine σ} {log : Lens σ Traffic} {K : List String}
  {cs : List CorrelationId} {S : List String}

section Calls

variable (hr : u.Records e log)
include hr

theorem Records.getDisk_tells {id : String} (h : id ∈ S) :
    Timed.Keeps (Tells log K cs S) (u.api.getDisk id) := by
  rw [hr.api]
  exact tells_recordedCall hr.lawful (hr.engine.getDisk id) (by simpa [EngineRequest.ids] using h)
    (by simp [EngineRequest.correlations])

theorem Records.removeDisk_tells {id : String} (h : id ∈ S) :
    Timed.Keeps (Tells log K cs S) (u.api.removeDisk id) := by
  rw [hr.api]
  exact tells_recordedCall hr.lawful (hr.engine.removeDisk id) (by simpa [EngineRequest.ids] using h)
    (by simp [EngineRequest.correlations])

theorem Records.getTransfer_tells {id : String} (h : id ∈ S) :
    Timed.Keeps (Tells log K cs S) (u.api.getTransfer id) := by
  rw [hr.api]
  exact tells_recordedCall hr.lawful (hr.engine.getTransfer id) (by simpa [EngineRequest.ids] using h)
    (by simp [EngineRequest.correlations])

theorem Records.cancelTransfer_tells {id : String} (h : id ∈ S) :
    Timed.Keeps (Tells log K cs S) (u.api.cancelTransfer id) := by
  rw [hr.api]
  exact tells_recordedCall hr.lawful (hr.engine.cancelTransfer id) (by simpa [EngineRequest.ids] using h)
    (by simp [EngineRequest.correlations])

theorem Records.createDisk_tells (p : DiskCreation) {c : CorrelationId} (hc : c ∈ cs) :
    Timed.Keeps (Tells log K cs S) (u.api.createDisk p c) := by
  rw [hr.api]
  exact tells_recordedCall hr.lawful (hr.engine.createDisk p c) (by simp [EngineRequest.ids])
    (by simpa [EngineRequest.correlations] using hc)

theorem Records.createTransfer_tells {d : String} (h : d ∈ S) (dir : Direction) {c : CorrelationId}
    (hc : c ∈ cs) : Timed.Keeps (Tells log K cs S) (u.api.createTransfer d dir c) := by
  rw [hr.api]
  exact tells_recordedCall hr.lawful (hr.engine.createTransfer d dir c)
    (by simpa [EngineRequest.ids] using h) (by simpa [EngineRequest.correlations] using hc)

theorem Records.finalizeTransfer_tells {id : String} (h : id ∈ S) {c : CorrelationId}
    (hc : c ∈ cs) : Timed.Keeps (Tells log K cs S) (u.api.finalizeTransfer id c) := by
  rw [hr.api]
  exact tells_recordedCall hr.lawful (hr.engine.finalizeTransfer id c)
    (by simpa [EngineRequest.ids] using h) (by simpa [EngineRequest.correlations] using hc)

theorem Records.listJobs_tells {c : CorrelationId} (hc : c ∈ cs) :
    Timed.Keeps (Tells log K cs S) (u.api.listJobs c) := by
  rw [hr.api]
  exact tells_recordedCall hr.lawful (hr.engine.listJobs c) (by simp [EngineRequest.ids])
    (by simpa [EngineRequest.correlations] using hc)

theorem Records.createDisk_hands (p : DiskCreation) (c : CorrelationId) :
    Hands log (fun d => [d.id]) (u.api.createDisk p c) := by
  rw [hr.api]
  exact hands_recordedCall hr.lawful (by simp [EngineReply.ids]) _

theorem Records.createTransfer_hands (d : String) (dir : Direction) (c : CorrelationId) :
    Hands log (fun t => [t.id]) (u.api.createTransfer d dir c) := by
  rw [hr.api]
  exact hands_recordedCall hr.lawful (by simp [EngineReply.ids]) _

theorem Records.getTransfer_hands (id : String) :
    Hands log (fun t => [t.id]) (u.api.getTransfer id) := by
  rw [hr.api]
  exact hands_recordedCall hr.lawful (by simp [EngineReply.ids]) _

theorem Records.waitForJobs_tells {c : CorrelationId} (hc : c ∈ cs) (read wait : List Strategy) :
    Timed.Keeps (Tells log K cs S) (waitForJobs u.api c read wait) := by
  have hR : Timed.Frame (Tells log K cs S) := tells_frame S
  refine Timed.Keeps.retry hR _ _ (Timed.Keeps.bind hR (Timed.Keeps.retry hR _ _
    (hr.listJobs_tells hc)) fun r => ?_)
  rcases r with _ | jobs
  · exact Timed.Keeps.pure hR _
  · dsimp only
    split
    · exact Timed.Keeps.pure hR _
    · split <;> exact Timed.Keeps.pure hR _

theorem Records.waitForDiskOk_tells {id : String} (h : id ∈ S) (read wait : List Strategy) :
    Timed.Keeps (Tells log K cs S) (waitForDiskOk u.api id read wait) := by
  have hR : Timed.Frame (Tells log K cs S) := tells_frame S
  refine Timed.Keeps.retry hR _ _ (Timed.Keeps.bind hR (Timed.Keeps.retry hR _ _
    (hr.getDisk_tells h)) fun r => ?_)
  rcases r with _ | d
  · exact Timed.Keeps.pure hR _
  · dsimp only
    split <;> exact Timed.Keeps.pure hR _

theorem Records.waitForDiskStable_tells {id : String} (h : id ∈ S) {c : CorrelationId}
    (hc : c ∈ cs) (read wait : List Strategy) :
    Timed.Keeps (Tells log K cs S) (waitForDiskStable u.api id c read wait) := by
  have hR : Timed.Frame (Tells log K cs S) := tells_frame S
  refine Timed.Keeps.bind hR (hr.waitForDiskOk_tells h read wait) fun r => ?_
  rcases r with _ | d
  · exact Timed.Keeps.pure hR _
  · refine Timed.Keeps.bind hR (hr.waitForJobs_tells hc read wait) fun r => ?_
    rcases r with _ | _ <;> exact Timed.Keeps.pure hR _

theorem Records.waitForTransfer_tells (o : UploadOptions) {id : String} (h : id ∈ S) :
    Timed.Keeps (Tells log K cs S) (u.waitForTransfer o id).run := by
  have hR : Timed.Frame (Tells log K cs S) := tells_frame S
  refine Timed.Keeps.retry hR _ _ (Timed.Keeps.bind hR (Timed.Keeps.retry hR _ _
    (hr.getTransfer_tells h)) fun r => ?_)
  rcases r with _ | t
  · exact Timed.Keeps.pure hR _
  · dsimp only
    split <;> exact Timed.Keeps.pure hR _

theorem Records.waitForTransfer_hands (o : UploadOptions) (id : String) :
    Hands log (fun t => [t.id]) (u.waitForTransfer o id).run := by
  refine Hands.retry fun w t w' hrun => ?_
  rw [Timed.run_bind] at hrun
  rcases h : (retry s!"get image transfer {id}" (o.strategies u.policies.read .transferReady)
    (u.api.getTransfer id)).run w with ⟨i | f | t', w₁⟩ <;> rw [h] at hrun
  · cases hrun
  · cases hrun
  · dsimp only at hrun
    split at hrun <;> simp only [Timed.run_pure, Prod.mk.injEq, Except.ok.injEq,
      reduceCtorEq, false_and] at hrun
    obtain ⟨rfl, rfl⟩ := hrun
    exact (hr.getTransfer_hands id).retry w _ _ h

end Calls

def Calm (u : Uploader σ) (log : Lens σ Traffic) (w w' : World σ) : Prop :=
  log.view w'.state = log.view w.state ∧ Reads (u.runOf w) (u.runOf w')

theorem calm_frame : Timed.Frame (u.Calm log) where
  trans h₁ h₂ := ⟨h₂.1.trans h₁.1, h₁.2.trans h₂.2⟩
  timeline h := ⟨by rw [h], by simp only [runOf, h]; exact Reads.refl _⟩

theorem Calm.grows {w w' : World σ} (h : u.Calm log w w') : Grows log K cs w w' := Grows.of_eq h.1

theorem Calm.knows {w w' : World σ} {k : String} (h : u.Calm log w w') (hk : Knows log K w k) :
    Knows log K w' k := by
  unfold Knows at hk ⊢
  rw [h.1]
  exact hk

section Steps

variable (hu : u.Framed) (hr : u.Records e log)
include hu hr

omit hu in
theorem Records.unrecorded_countingRead (o : UploadOptions) (check : Bool) (want : Nat) :
    Unrecorded log (u.countingRead o check want) := by
  intro w
  cases hc : check && w.hasFired o.cancel
  case true => rw [u.run_countingRead_stopped w hc]
  rcases hb : (u.runOf w).body.read want with ⟨bs, body⟩
  rw [u.run_countingRead w hc hb]
  split_ifs <;> simp only [updated, hr.update]

theorem Records.calm_put (o : UploadOptions) (check : Bool) (url : String) (n : Nat) :
    Timed.Keeps (u.Calm log) (u.transport.put url n (u.countingRead o check)) := fun w =>
  ⟨hr.put url n _ (hr.unrecorded_countingRead o check) w,
    hu.put url n _ Reads Reads.refl (fun h₁ h₂ => h₁.trans h₂) (reads_countingRead hu.lawful o check) w⟩

theorem Records.calm_probeUrl (o : UploadOptions) (url : String) :
    Timed.Keeps (u.Calm log) (u.probeUrl o url) := by
  refine Timed.Keeps.retry calm_frame _ _ (Timed.Keeps.bind calm_frame
    (fun w => ⟨hr.probe url w, by rw [hu.probe url w]; exact Reads.refl _⟩) fun r => ?_)
  rcases r with _ | status
  · exact Timed.Keeps.of_stateless calm_frame (Timed.Stateless.pure _)
  · dsimp only
    split <;> exact Timed.Keeps.of_stateless calm_frame (Timed.Stateless.pure _)

/-- Verifying an endpoint probes the transport only: it leaves the record and the upload
alone. -/
theorem ends_verifyUrl_calm (o : UploadOptions) (t : Transfer) (w : World σ) :
    Ends (fun _ w' => u.Calm log w w') (fun _ w' => u.Calm log w w') (fun _ w' => u.Calm log w w')
      ((u.verifyUrl o t).run.run w) := by
  simp only [verifyUrl, ends_bind]
  refine ends_forIn _ (fun _ w' => u.Calm log w w') (fun b w' h => ?_) (fun url b w' h => ?_) _ _ w
    (calm_frame.refl w)
  · rcases b with ⟨_ | url, last⟩
    · rcases last with _ | e <;> exact h
    · exact h
  · rw [ends_bind]
    refine ends_lift_of_keeps _ (hr.calm_probeUrl hu o url) (Timed.Yields.top _)
      (fun res w₁ h₁ _ => ?_) (fun i w₁ h₁ => calm_frame.trans h h₁)
    have h₂ := calm_frame.trans h h₁
    rcases res with err | ⟨⟩
    · simp only [ends_bind, ends_cancelled, ends_ite, ends_throw, ends_pure, lift_eq, ends_log]
      split_ifs
      · exact h₂
      · exact calm_frame.trans h₂ (calm_frame.timeline rfl)
    · exact h₂

/-- Sending the body reads it through the transport: the record stays as it is and the upload
changes as reading does. -/
theorem ends_sendBytes_calm (o : UploadOptions) (url : String) (w : World σ) :
    Ends (fun _ w' => u.Calm log w w') (fun _ w' => u.Calm log w w') (fun _ w' => u.Calm log w w')
      ((u.sendBytes o url).run.run w) := by
  simp only [sendBytes, lift_eq, ends_bind, ends_current, ends_log]
  have h₀ : ∀ ev, u.Calm log w { w with log := w.log.push ev } := fun _ => calm_frame.timeline rfl
  refine ends_lift_of_keeps _ (hr.calm_put hu o _ url _) (Timed.Yields.top _) ?_
    fun i w₁ h₁ => calm_frame.trans (h₀ _) h₁
  intro res w₁ h₁ _
  have h₂ := calm_frame.trans (h₀ _) h₁
  rcases res with err | ⟨⟩
  · simp only [ends_bind, ends_cancelled, ends_current, ends_ite, ends_throw]
    split_ifs
    · exact h₂
    · rcases (u.runOf w₁).session.truncatedAt with _ | read <;> exact h₂
  · simp only [ends_bind, ends_current, ends_ite, ends_throw, ends_pure]
    split_ifs <;> exact h₂

end Steps

end Uploader

/-- The phase after `q` is the request of a disk, unless the upload already reached a phase or
writes into an existing disk. -/
theorem Phase.reached_or_existing {isNew : Bool} {q : Option Phase} {p : Phase}
    (h : Phase.after isNew q = some p) (hp : p ≠ .diskRequested) : q.isSome ∨ isNew = false := by
  rcases q with _ | q
  · cases isNew
    · exact .inr rfl
    · simp only [Phase.after, if_true, Option.some.injEq] at h
      exact absurd h.symm hp
  · exact .inl rfl

namespace Uploader

open UploadRun Stage

variable {u : Uploader σ} {e : Engine σ} {log : Lens σ Traffic} {K : List String}
  {cs : List CorrelationId} {S : List String}

def Accounted (u : Uploader σ) (log : Lens σ Traffic) (K : List String) (w : World σ) : Prop :=
  (∀ k ∈ (u.runOf w).createdDisk, Knows log K w k) ∧
    ∀ k ∈ (u.runOf w).createdTransfer, Knows log K w k

/-- What the pipeline knows when it has reached `q` holding the progress `a`: its disk once it
reached a phase, and from the start for an existing disk; its transfer from the negotiation on;
and what compensation would undo. -/
structure Informed (u : Uploader σ) (log : Lens σ Traffic) (K : List String) (isNew : Bool)
    (q : Option Phase) (a : Progress) (w : World σ) : Prop where
  disk : q.isSome ∨ isNew = false → Knows log K w a.diskId
  transfer : Phase.transferNegotiated.index ≤ (q.getD .created).index → Knows log K w a.transfer.id
  accounted : u.Accounted log K w

variable {isNew : Bool} {q : Option Phase} {a : Progress} {w w' : World σ}

theorem Accounted.grow (h : u.Accounted log K w) (hg : Grows log K cs w w')
    (hd : (u.runOf w').createdDisk = (u.runOf w).createdDisk)
    (ht : (u.runOf w').createdTransfer = (u.runOf w).createdTransfer) : u.Accounted log K w' :=
  ⟨fun k hk => (h.1 k (hd ▸ hk)).mono hg, fun k hk => (h.2 k (ht ▸ hk)).mono hg⟩

theorem Accounted.calm (h : u.Accounted log K w) (hc : u.Calm log w w') : u.Accounted log K w' :=
  ⟨fun k hk => hc.knows (h.1 k (hc.2.createdDisk ▸ hk)),
    fun k hk => hc.knows (h.2 k (hc.2.createdTransfer ▸ hk))⟩

theorem Informed.disk_after (h : u.Informed log K isNew q a w) {p : Phase}
    (hp : Phase.after isNew q = some p) (hne : p ≠ .diskRequested) : Knows log K w a.diskId :=
  h.disk (Phase.reached_or_existing hp hne)

theorem Informed.transfer_after (h : u.Informed log K isNew q a w) {p : Phase}
    (hp : Phase.after isNew q = some p) (hlt : Phase.transferNegotiated.index < p.index) :
    Knows log K w a.transfer.id :=
  h.transfer (by rw [Phase.index_before hp hlt.le]; omega)

section Changes

variable (hu : u.Framed) (hr : u.Records e log)
include hr

omit hu in
theorem Records.knows_updated (f : UploadRun → UploadRun) (k : String) :
    Knows log K (u.updated w f) k ↔ Knows log K w k := by
  simp only [Knows, updated, hr.update]

omit hu in
theorem Records.grows_updated (f : UploadRun → UploadRun) : Grows log K cs w (u.updated w f) :=
  Grows.of_eq (hr.update _ _)

include hu

theorem Records.accounted_updated (h : u.Accounted log K w) (f : UploadRun → UploadRun)
    (hd : ∀ k ∈ (f (u.runOf w)).createdDisk, k ∈ (u.runOf w).createdDisk ∨ Knows log K w k)
    (ht : ∀ k ∈ (f (u.runOf w)).createdTransfer, k ∈ (u.runOf w).createdTransfer ∨ Knows log K w k) :
    u.Accounted log K (u.updated w f) := by
  simp only [Accounted, runOf_updated _ _ hu.lawful, hr.knows_updated]
  refine ⟨fun k hk => ?_, fun k hk => ?_⟩
  · exact (hd k hk).elim (h.1 k) id
  · exact (ht k hk).elim (h.2 k) id

theorem Records.informed_updated (h : u.Informed log K isNew q a w) (f : UploadRun → UploadRun)
    (hd : ∀ k ∈ (f (u.runOf w)).createdDisk, k ∈ (u.runOf w).createdDisk ∨ Knows log K w k)
    (ht : ∀ k ∈ (f (u.runOf w)).createdTransfer, k ∈ (u.runOf w).createdTransfer ∨ Knows log K w k) :
    u.Informed log K isNew q a (u.updated w f) :=
  ⟨fun hq => (hr.knows_updated _ _).2 (h.disk hq), fun hq => (hr.knows_updated _ _).2 (h.transfer hq),
    hr.accounted_updated hu h.accounted f hd ht⟩

theorem Records.informed_keep (h : u.Informed log K isNew q a w) {f : UploadRun → UploadRun}
    (hf : ∀ r, (f r).createdDisk = r.createdDisk ∧ (f r).createdTransfer = r.createdTransfer) :
    u.Informed log K isNew q a (u.updated w f) :=
  hr.informed_updated hu h f (fun _ hk => .inl ((hf _).1 ▸ hk)) fun _ hk => .inl ((hf _).2 ▸ hk)

theorem Records.informed_createdDisk (h : u.Informed log K isNew q a w) {d : String}
    (hd : Knows log K w d) :
    u.Informed log K isNew q a (u.updated w fun r => { r with createdDisk := some d }) :=
  hr.informed_updated hu h _ (fun _ hk => .inr (Option.mem_some_iff.1 hk ▸ hd)) fun _ hk => .inl hk

theorem Records.informed_createdTransfer (h : u.Informed log K isNew q a w) {t : String}
    (ht : Knows log K w t) :
    u.Informed log K isNew q a (u.updated w fun r => { r with createdTransfer := some t }) :=
  hr.informed_updated hu h _ (fun _ hk => .inl hk) fun _ hk => .inr (Option.mem_some_iff.1 hk ▸ ht)

end Changes

/-- A call that grows the record from what is known and leaves the upload alone: each way it
ends is met from every world it may end in. -/
theorem ends_told {x : Stage σ α} {Q : α → World σ → Prop} {E : Fault → World σ → Prop}
    {I : Interrupt → World σ → Prop} (hS : ∀ k ∈ S, Knows log K w k)
    (hk : Timed.Keeps (Tells log K cs S) x.run) (hq : u.Quiet x.run)
    (hQ : ∀ a w', Grows log K cs w w' → u.runOf w' = u.runOf w →
      x.run.run w = (.ok (.ok a), w') → Q a w')
    (hE : ∀ f w', Grows log K cs w w' → u.runOf w' = u.runOf w → E f w')
    (hI : ∀ i w', Grows log K cs w w' → u.runOf w' = u.runOf w → I i w') :
    Ends Q E I (x.run.run w) := by
  have hg := hk w hS
  have hw := hq w
  rcases h : x.run.run w with ⟨i | f | a, w'⟩ <;> rw [h] at hg hw
  · exact hI i w' hg hw
  · exact hE f w' hg hw
  · exact hQ a w' hg hw h

end Uploader

namespace Uploader

open UploadRun Stage

variable {u : Uploader σ} {e : Engine σ} {log : Lens σ Traffic} {K : List String}
  {cs : List CorrelationId} {isNew : Bool} {q : Option Phase} {a : Progress} {w : World σ}

section Walk

variable (hu : u.Framed) (hr : u.Records e log) {r0 : UploadRun}
  (hc : r0.session.correlation ∈ cs)
include hu hr hc

/-- The work of a phase names what the pipeline knows, and leaves it knowing the disk, the
transfer once negotiated, and what compensation would undo. -/
theorem ends_phaseWork_told {p : Phase} (hp : Phase.after r0.target.isNew q = some p)
    (hi : u.Informed log K r0.target.isNew q a w) :
    Ends (fun a' w' => Grows log K cs w w' ∧ u.Informed log K r0.target.isNew (some p) a' w')
      (fun _ w' => Grows log K cs w w' ∧ u.Accounted log K w')
      (fun _ w' => Grows log K cs w w' ∧ u.Accounted log K w') ((u.phaseWork r0 p a).run.run w) := by
  -- a call that leaves the upload alone leaves its creations accounted for
  have hacc : ∀ w', Grows log K cs w w' → u.runOf w' = u.runOf w → u.Accounted log K w' :=
    fun w' hg hw => hi.accounted.grow hg (by rw [hw]) (by rw [hw])
  have hstop : ∀ {β : Type} (_ : β) w', Grows log K cs w w' → u.runOf w' = u.runOf w →
      Grows log K cs w w' ∧ u.Accounted log K w' := fun _ w' hg hw => ⟨hg, hacc w' hg hw⟩
  cases p with
  | created | done | aborted =>
    exact absurd hp (by rcases q with _ | q <;> [cases r0.target.isNew; cases q] <;> simp [Phase.after])
  | diskRequested =>
    cases ht : r0.target with
    | newDisk c =>
      simp only [phaseWork, ht, ends_bind]
      refine ends_told (List.forall_mem_nil _)
        (Timed.Keeps.retry (tells_frame []) _ _ (hr.createDisk_tells c hc))
        (Quiet.retry _ _ (hu.createDisk _ _)) (fun d w₂ hg hw h₂ => ?_) hstop hstop
      simp only [ends_change, ends_changeSession, ends_pure]
      have hd : Knows log K w₂ d.id :=
        .inr ((hr.createDisk_hands c _).retry w d w₂ h₂ d.id (List.mem_singleton_self _))
      have hi₂ : u.Informed log K (Target.newDisk c).isNew (some .diskRequested)
          { a with diskId := d.id } w₂ := ⟨fun _ => hd, fun h => absurd h (by decide), hacc w₂ hg hw⟩
      exact ⟨hg.trans ((hr.grows_updated _).trans (hr.grows_updated _)),
        hr.informed_keep hu (hr.informed_createdDisk hu hi₂ hd) fun _ => ⟨rfl, rfl⟩⟩
    | existing id => exact absurd (Phase.after_diskRequested hp) (by simp [ht, Target.isNew])
  | diskUnlocked =>
    have hkd := hi.disk_after hp (by decide)
    have hpost : ∀ {n} w', Grows log K cs w w' → u.runOf w' = u.runOf w →
        u.Informed log K n (some .diskUnlocked) a w' := fun w' hg hw =>
      ⟨fun _ => hkd.mono hg, fun h => absurd h (by decide), hacc w' hg hw⟩
    cases ht : r0.target with
    | newDisk c =>
      simp only [phaseWork, ht, ends_bind]
      refine ends_told (List.forall_mem_singleton.2 hkd)
        (hr.waitForDiskStable_tells (List.mem_singleton_self _) hc _ _)
        (Quiet.waitForDiskStable hu _ _ _ _) (fun _ w₂ hg hw _ => ?_) hstop hstop
      rw [ends_pure]
      exact ⟨hg, hpost w₂ hg hw⟩
    | existing id =>
      simp only [phaseWork, ht, ends_bind]
      refine ends_told (List.forall_mem_singleton.2 hkd)
        (hr.waitForDiskOk_tells (List.mem_singleton_self _) _ _)
        (Quiet.waitForDiskOk hu _ _ _) (fun _ w₂ hg hw _ => ?_) hstop hstop
      rw [ends_pure]
      exact ⟨hg, hpost w₂ hg hw⟩
  | transferNegotiated =>
    have hkd := hi.disk_after hp (by decide)
    simp only [phaseWork, ends_bind]
    refine ends_told (List.forall_mem_singleton.2 hkd)
      (Timed.Keeps.retry (tells_frame _) _ _
        (hr.createTransfer_tells (List.mem_singleton_self _) _ hc))
      (Quiet.retry _ _ (hu.createTransfer _ _ _)) (fun t w₂ hg hw h₂ => ?_) hstop hstop
    simp only [ends_change, ends_changeSession, ends_pure]
    have htk : Knows log K w₂ t.id :=
      .inr ((hr.createTransfer_hands _ _ _).retry w t w₂ h₂ t.id (List.mem_singleton_self _))
    have hi₂ : u.Informed log K r0.target.isNew (some .transferNegotiated) { a with transfer := t }
        w₂ := ⟨fun _ => hkd.mono hg, fun _ => htk, hacc w₂ hg hw⟩
    exact ⟨hg.trans ((hr.grows_updated _).trans (hr.grows_updated _)),
      hr.informed_keep hu (hr.informed_createdTransfer hu hi₂ htk) fun _ => ⟨rfl, rfl⟩⟩
  | transferReady =>
    have hkd := hi.disk_after hp (by decide)
    have htr := hi.transfer_after hp (by decide)
    simp only [phaseWork, ends_bind]
    refine ends_told (List.forall_mem_singleton.2 htr)
      (hr.waitForTransfer_tells _ (List.mem_singleton_self _)) (Quiet.waitForTransfer hu _ _)
      (fun t w₂ hg hw h₂ => ?_) hstop hstop
    rw [ends_pure]
    exact ⟨hg, fun _ => hkd.mono hg,
      fun _ => .inr ((hr.waitForTransfer_hands _ _) w t w₂ h₂ t.id (List.mem_singleton_self _)),
      hacc w₂ hg hw⟩
  | urlVerified =>
    have hkd := hi.disk_after hp (by decide)
    have htr := hi.transfer_after hp (by decide)
    simp only [phaseWork, ends_bind, ends_changeSession, ends_pure]
    refine (ends_verifyUrl_calm hu hr r0.options a.transfer w).mono (fun url w₂ h₂ => ?_)
      (fun _ w₂ h₂ => ⟨h₂.grows, hi.accounted.calm h₂⟩)
      fun _ w₂ h₂ => ⟨h₂.grows, hi.accounted.calm h₂⟩
    have hi₂ : u.Informed log K r0.target.isNew (some .urlVerified) { a with url := url } w₂ :=
      ⟨fun _ => h₂.knows hkd, fun _ => h₂.knows htr, hi.accounted.calm h₂⟩
    exact ⟨h₂.grows.trans (hr.grows_updated _), hr.informed_keep hu hi₂ fun _ => ⟨rfl, rfl⟩⟩
  | bytesSent =>
    have hkd := hi.disk_after hp (by decide)
    have htr := hi.transfer_after hp (by decide)
    simp only [phaseWork, ends_bind, ends_pure]
    refine (ends_sendBytes_calm hu hr r0.options a.url w).mono (fun _ w₂ h₂ => ?_)
      (fun _ w₂ h₂ => ⟨h₂.grows, hi.accounted.calm h₂⟩)
      fun _ w₂ h₂ => ⟨h₂.grows, hi.accounted.calm h₂⟩
    exact ⟨h₂.grows, fun _ => h₂.knows hkd, fun _ => h₂.knows htr,
      hi.accounted.calm h₂⟩
  | finalized =>
    have hkd := hi.disk_after hp (by decide)
    have htr := hi.transfer_after hp (by decide)
    simp only [phaseWork, ends_bind]
    refine ends_told (List.forall_mem_singleton.2 htr)
      (Timed.Keeps.retry (tells_frame _) _ _
        (hr.finalizeTransfer_tells (List.mem_singleton_self _) hc))
      (Quiet.retry _ _ (hu.finalizeTransfer _ _)) (fun _ w₂ hg hw _ => ?_) hstop hstop
    rw [ends_pure]
    exact ⟨hg, fun _ => hkd.mono hg, fun _ => htr.mono hg, hacc w₂ hg hw⟩
  | diskStable =>
    have hkd := hi.disk_after hp (by decide)
    have htr := hi.transfer_after hp (by decide)
    simp only [phaseWork, ends_bind, ends_changeSession, ends_pure]
    refine ends_told (List.forall_mem_singleton.2 hkd)
      (hr.waitForDiskStable_tells (List.mem_singleton_self _) hc _ _)
      (Quiet.waitForDiskStable hu _ _ _ _) (fun _ w₂ hg hw _ => ?_) hstop hstop
    exact ⟨hg.trans (hr.grows_updated _), hr.informed_keep hu
      ⟨fun _ => hkd.mono hg, fun _ => htr.mono hg, hacc w₂ hg hw⟩ fun _ => ⟨rfl, rfl⟩⟩

/-- A phase begun and reached: its work, unless the token stops it first, and the session marks
around it. -/
theorem ends_phaseRun_told {p : Phase} (hp : Phase.after r0.target.isNew q = some p)
    (hi : u.Informed log K r0.target.isNew q a w) :
    Ends (fun a' w' => Grows log K cs w w' ∧ u.Informed log K r0.target.isNew (some p) a' w')
      (fun _ w' => Grows log K cs w w' ∧ u.Accounted log K w')
      (fun _ w' => Grows log K cs w w' ∧ u.Accounted log K w') ((u.phaseRun r0 p a).run.run w) := by
  have hg₁ : Grows log K cs w (u.updated w fun r => { r with session := r.session.begin p }) :=
    hr.grows_updated _
  have hi₁ : u.Informed log K r0.target.isNew q a
      (u.updated w fun r => { r with session := r.session.begin p }) :=
    hr.informed_keep hu hi fun _ => ⟨rfl, rfl⟩
  simp only [phaseRun, Uploader.begin, ends_bind, ends_changeSession, ends_cancelled, ends_ite,
    ends_throw]
  split_ifs
  · exact ⟨hg₁, hi₁.accounted⟩
  · refine (ends_phaseWork_told hu hr hc hp hi₁).mono (fun a' w₂ h₂ => ?_) (fun _ _ => hg₁.then)
      fun _ _ => hg₁.then
    simp only [Uploader.reach, ends_changeSession, ends_pure]
    exact ⟨hg₁.trans (h₂.1.trans (hr.grows_updated _)), hr.informed_keep hu h₂.2 fun _ => ⟨rfl, rfl⟩⟩

theorem ends_walk_told {ps : List Phase} (hf : Phase.Follows r0.target.isNew q ps)
    (hi : u.Informed log K r0.target.isNew q a w) :
    Ends (fun a' w' => Grows log K cs w w' ∧
        u.Informed log K r0.target.isNew (ps.getLast?.or q) a' w')
      (fun _ w' => Grows log K cs w w' ∧ u.Accounted log K w')
      (fun _ w' => Grows log K cs w w' ∧ u.Accounted log K w') ((u.walk r0 ps a).run.run w) := by
  induction ps generalizing q a w with
  | nil => exact ⟨Grows.of_eq rfl, hi⟩
  | cons p ps ih =>
    rw [walk, ends_bind]
    refine (ends_phaseRun_told hu hr hc hf.1 hi).mono (fun a' w' h' => ?_) (fun _ _ he => he)
      fun _ _ hi => hi
    rw [List.getLast?_cons, Option.some_or, ← Option.or_some]
    exact (ih hf.2 h'.2).mono (fun _ _ => h'.1.then) (fun _ _ => h'.1.then) fun _ _ => h'.1.then

omit hc in
/-- Before its first phase the pipeline knows the disk it writes into, if it exists, and
records nothing. -/
theorem ends_setOut_told {E : Fault → World σ → Prop} {I : Interrupt → World σ → Prop}
    (hK : ∀ k ∈ r0.target.ids, k ∈ K) (h0 : u.Accounted log K w) :
    Ends (fun a' w' => log.view w'.state = log.view w.state ∧
        u.Informed log K r0.target.isNew none a' w') E I ((u.setOut r0).run.run w) := by
  cases ht : r0.target with
  | newDisk c =>
    simp only [setOut, ht, ends_pure]
    exact ⟨trivial, fun h => absurd h (by simp [Target.isNew]), fun h => absurd h (by decide), h0⟩
  | existing id =>
    simp only [setOut, ht, ends_bind, ends_changeSession, ends_pure]
    have hi : u.Informed log K (Target.existing id).isNew none { diskId := id } w :=
      ⟨fun _ => .inl (hK id (by simp [ht, Target.ids])), fun h => absurd h (by decide), h0⟩
    exact ⟨hr.update _ _, hr.informed_keep hu hi fun _ => ⟨rfl, rfl⟩⟩

end Walk


section Task

variable (hu : u.Framed) (hr : u.Records e log)
include hr

include hu in
theorem ends_execute_told (hK : ∀ k ∈ (u.runOf w).target.ids, k ∈ K)
    (hc : (u.runOf w).session.correlation ∈ cs) (h0 : u.Accounted log K w) :
    Ends (fun _ w' => Grows log K cs w w') (fun _ w' => Grows log K cs w w' ∧ u.Accounted log K w')
      (fun _ w' => Grows log K cs w w' ∧ u.Accounted log K w') (u.execute.run.run w) := by
  rw [execute_eq_walk, ends_bind, ends_current, ends_bind, ends_bind]
  refine (ends_setOut_told hu hr hK h0).mono (fun a w₁ h₁ => ?_) (fun _ _ h => h) fun _ _ h => h
  have hg₁ : Grows log K cs w w₁ := Grows.of_eq h₁.1
  exact (ends_walk_told hu hr hc (Target.follows_path _) h₁.2).mono (fun _ _ h₂ => hg₁.trans h₂.1)
    (fun _ _ => hg₁.then) fun _ _ => hg₁.then

omit hu in
theorem Records.compensate_grows (h : u.Accounted log K w) :
    Grows log K cs w (u.compensate.run w).2 := by
  have hk : ∀ k ∈ (u.runOf w).createdTransfer.toList ++ (u.runOf w).createdDisk.toList,
      Knows log K w k := by
    simp only [List.mem_append, Option.mem_toList]
    rintro k (hk | hk)
    exacts [h.2 k hk, h.1 k hk]
  simp only [compensate, Timed.run_bind, run_current, run_change]
  refine (hr.grows_updated _).trans
    ((?_ : Timed.Keeps (Tells log K cs ((u.runOf w).createdTransfer.toList ++
      (u.runOf w).createdDisk.toList)) _) _ fun k hk' => (hr.knows_updated _ _).2 (hk k hk'))
  -- one case per recorded creation, as compensation tests them
  rcases (u.runOf w).createdTransfer with _ | t <;> rcases (u.runOf w).createdDisk with _ | d
  · exact Timed.Keeps.pure (tells_frame _) _
  · refine Timed.Keeps.bind (tells_frame _)
      (Timed.Keeps.retry (tells_frame _) _ _ (hr.removeDisk_tells (by simp))) fun r => ?_
    rcases r with _ | _ <;> exact Timed.Keeps.of_stateless (tells_frame _) fun _ => rfl
  · refine Timed.Keeps.bind (tells_frame _)
      (Timed.Keeps.retry (tells_frame _) _ _ (hr.cancelTransfer_tells (by simp))) fun r => ?_
    rcases r with _ | _ <;> exact Timed.Keeps.of_stateless (tells_frame _) fun _ => rfl
  · refine Timed.Keeps.bind (tells_frame _)
      (Timed.Keeps.retry (tells_frame _) _ _ (hr.cancelTransfer_tells (by simp))) fun r => ?_
    have hrm : Timed.Keeps (Tells log K cs ((some t).toList ++ (some d).toList))
        (retry s!"remove disk {d}" u.policies.write.strategies (u.api.removeDisk d)) :=
      Timed.Keeps.retry (tells_frame _) _ _ (hr.removeDisk_tells (by simp))
    rcases r with _ | _
    · refine Timed.Keeps.bind (tells_frame _) (Timed.Keeps.of_stateless (tells_frame _) fun _ => rfl)
        fun _ => Timed.Keeps.bind (tells_frame _) hrm fun r => ?_
      rcases r with _ | _ <;> exact Timed.Keeps.of_stateless (tells_frame _) fun _ => rfl
    · refine Timed.Keeps.bind (tells_frame _) hrm fun r => ?_
      rcases r with _ | _ <;> exact Timed.Keeps.of_stateless (tells_frame _) fun _ => rfl

include hu

theorem Records.fail_grows (h : u.Accounted log K w) (err : Fault) :
    Grows log K cs w ((u.fail err).run w).2 := by
  simp only [fail]
  rw [Timed.run_bind, run_changeSession]
  dsimp only
  rw [Timed.run_bind, run_current]
  dsimp only
  rw [Timed.run_bind, run_log]
  dsimp only
  rw [Timed.run_bind]
  generalize hW : ({ (u.updated w _) with log := _ } : World σ) = W
  -- aborting the session records nothing and keeps the creations accounted for
  have hg : Grows log K cs w W := by
    rw [← hW]
    exact hr.grows_updated _
  have ha : u.Accounted log K W := by
    rw [← hW]
    exact hr.accounted_updated hu h _ (fun _ hk => .inl hk) fun _ hk => .inl hk
  have hc : Grows log K cs W (u.compensate.run W).2 := hr.compensate_grows ha
  rcases hx : u.compensate.run W with ⟨_ | i, W'⟩ <;> rw [hx] at hc <;> dsimp only
  · exact hg.trans hc
  · simp only [Timed.run_bind, Timed.run_now, run_changeSession]
    exact hg.trans (hc.trans ((Grows.of_eq rfl).trans (hr.grows_updated _)))

theorem Records.recover_grows (h : u.Accounted log K w) (i : Interrupt) :
    Grows log K cs w ((u.recover i).run w).2 := by
  cases i with
  | panic m =>
    cases hd : (u.runOf w).session.done
    · rw [run_recover_panic m hd]
      exact hr.fail_grows hu h _
    · have hrun : (u.recover (.panic m)).run w = (.ok (), w) := by simp [recover, hd]
      rw [hrun]
      exact Grows.of_eq rfl
  | _ => exact Grows.of_eq rfl

/-- Every request of an upload task names its target's disk or what an earlier answer handed
out, and its own correlation id. -/
theorem Records.runTask_grows (hK : ∀ k ∈ (u.runOf w).target.ids, k ∈ K)
    (hc : (u.runOf w).session.correlation ∈ cs) (h0 : u.Accounted log K w) :
    Grows log K cs w (u.runTask.run w).2 := by
  have hx := ends_execute_told hu hr hK hc h0
  simp only [runTask, Timed.run_tryCatch]
  rcases hrun : u.execute.run.run w with ⟨i | err | _, w₁⟩ <;> rw [hrun] at hx
  · rw [run_pipeline_stopped hrun]
    exact hx.1.trans (hr.recover_grows hu hx.2 i)
  · rw [run_pipeline_failed hrun]
    have hf : Grows log K cs w₁ ((u.fail err).run w₁).2 := hr.fail_grows hu hx.2 err
    have hcl := fail_clears hu err w₁
    rcases hfr : (u.fail err).run w₁ with ⟨i | _, w₂⟩ <;> rw [hfr] at hf hcl <;> dsimp only
    · -- a failure stopped while compensating has nothing left to undo
      have ha : u.Accounted log K w₂ := ⟨by simp [hcl.2], by simp [hcl.1]⟩
      exact hx.1.trans (hf.trans (hr.recover_grows hu ha i))
    · exact hx.1.trans hf
  · simp only [pipeline, Timed.run_bind, hrun, run_current, run_log, Timed.run_now,
      run_changeSession]
    exact hx.trans ((Grows.of_eq rfl).trans (hr.grows_updated _))

/-- Every request of an upload task from a fresh start names the disk it writes into or what an
earlier answer handed out, and no correlation id but the upload's own. -/
theorem Records.runTask_named (h0 : Fresh (u.runOf w)) :
    ∃ M, log.view (u.runTask.run w).2.state = log.view w.state ++ M ∧
      Traffic.Named (u.runOf w).target.ids [(u.runOf w).session.correlation] (log.view w.state) M :=
  hr.runTask_grows hu (fun _ hk => hk) (List.mem_singleton_self _)
    ⟨fun _ hk => by simp [h0.createdDisk] at hk, fun _ hk => by simp [h0.createdTransfer] at hk⟩

/-- An upload into a new disk, recorded from an empty record, talks to the engine as a keyed
client of its own correlation id: the in-memory engine serves it beside any other keyed client
as it would serve it alone. -/
theorem Records.runTask_keyed (h0 : Fresh (u.runOf w)) (hnew : (u.runOf w).target.isNew = true)
    (hempty : log.view w.state = []) :
    (Traffic.replay (log.view (u.runTask.run w).2.state)).Keyed
      [(u.runOf w).session.correlation] := by
  obtain ⟨M, hM, hN⟩ := hr.runTask_named hu h0
  have hK : (u.runOf w).target.ids = [] := by
    cases ht : (u.runOf w).target with
    | newDisk _ => rfl
    | existing _ => simp [ht, Target.isNew] at hnew
  rw [hK, hempty] at hN
  rw [hM, hempty, List.nil_append]
  exact Traffic.replay_keyed hN

end Task

end Uploader

theorem Engine.Keeps.recorded {R : World σ → World σ → Prop} (hR : Timed.Frame R) {e : Engine σ}
    (he : e.Keeps R) {log : Lens σ Traffic}
    (hl : ∀ f, Timed.Keeps R (Timed.modifyState (log.update f))) : (e.recorded log).Keeps R := by
  have hc : ∀ {β : Type} {x : Call σ β} (r : EngineRequest) (reply : Except Fault β → EngineReply),
      Timed.Keeps R x → Timed.Keeps R (recordedCall log r reply x) := fun _ _ hx =>
    .bind hR hx fun _ => .bind hR (hl _) fun _ => .pure hR _
  exact ⟨fun p c => hc _ _ (he.createDisk p c), fun id => hc _ _ (he.getDisk id),
    fun id => hc _ _ (he.removeDisk id), fun d dir c => hc _ _ (he.createTransfer d dir c),
    fun id => hc _ _ (he.getTransfer id), fun id c => hc _ _ (he.finalizeTransfer id c),
    fun id => hc _ _ (he.cancelTransfer id), fun c => hc _ _ (he.listJobs c)⟩

namespace Rehearsal

variable {b : MockBehavior} {t : TransportScript} {policies : RetryDefaults} {sparse : Bool}

def trafficLens : Lens (Rehearsal × Traffic) Traffic := ⟨(·.2), fun f s => (s.1, f s.2)⟩

def besideTraffic {τ : Type} (l : Lens Rehearsal τ) : Lens (Rehearsal × Traffic) τ :=
  ⟨fun s => l.view s.1, fun f s => (l.update f s.1, s.2)⟩

def recordedUploader (b : MockBehavior) (t : TransportScript) (policies : RetryDefaults)
    (sparse : Bool) : Uploader (Rehearsal × Traffic) where
  api := (Mock.engine b (besideTraffic engineLens)).recorded trafficLens
  transport := t.transport (besideTraffic transportLens)
  policies
  sparse
  run := besideTraffic runLens

theorem recordedUploader_framed : (recordedUploader b t policies sparse).Framed :=
  have he := (Mock.engine_keeps (b := b) Uploader.quiet_frame fun _ _ => rfl).recorded
    Uploader.quiet_frame fun _ _ => rfl
  { lawful := fun _ _ => rfl
    createDisk := he.createDisk
    getDisk := he.getDisk
    removeDisk := he.removeDisk
    createTransfer := he.createTransfer
    getTransfer := he.getTransfer
    finalizeTransfer := he.finalizeTransfer
    cancelTransfer := he.cancelTransfer
    listJobs := he.listJobs
    probe := TransportScript.keeps_probe Uploader.quiet_frame fun _ _ => rfl
    put := fun url n _ _ refl trans hread =>
      TransportScript.keeps_put (Uploader.lifted_frame refl trans)
        (fun _ => Uploader.Quiet.keeps refl fun _ => rfl) hread url n }

theorem recordedUploader_records :
    (recordedUploader b t policies sparse).Records (Mock.engine b (besideTraffic engineLens))
      trafficLens where
  api := rfl
  lawful := fun _ _ => rfl
  engine := Mock.engine_keeps (Timed.unchanged_frame _) fun _ _ => rfl
  probe := TransportScript.keeps_probe (Timed.unchanged_frame _) fun _ _ => rfl
  put _ _ _ hread := TransportScript.keeps_put (Timed.unchanged_frame _) (fun _ _ => rfl) hread _ _
  update _ _ := rfl

/-- Every rehearsed upload into a new disk, its traffic recorded from nothing, talks to the
in-memory engine as a keyed client of its own correlation id. -/
theorem recorded_keyed {w : World (Rehearsal × Traffic)} (h0 : UploadRun.Fresh w.state.1.run)
    (hnew : w.state.1.run.target.isNew = true) (hempty : w.state.2 = []) :
    (Traffic.replay ((recordedUploader b t policies sparse).runTask.run w).2.state.2).Keyed
      [w.state.1.run.session.correlation] :=
  recordedUploader_records.runTask_keyed recordedUploader_framed h0 hnew hempty

example : UploadRun.Fresh (default : Rehearsal).run ∧ (default : Rehearsal).run.target.isNew = true :=
  ⟨Rehearsal.fresh_default, rfl⟩

end Rehearsal

end DiskUploader
