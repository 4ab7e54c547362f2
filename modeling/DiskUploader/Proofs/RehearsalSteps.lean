import DiskUploader.Proofs.MockWaits
import DiskUploader.Proofs.ImageBody
import DiskUploader.Proofs.StageSpec
import DiskUploader.Proofs.UploadFrame
import DiskUploader.Proofs.LateCancel

/-!
# The steps of a rehearsed upload

The steps of an upload rehearsed on a fresh in-memory engine, each stated as how it settles: under
a condition on the retry plans it ends with a value where the world lands at a known instant,
serial and state; otherwise it ends with a fault in a world from which the upload can still be
failed and compensated. Bookkeeping steps, creations and the probe always land; the waits land
exactly when the plan of their phase lets the countdown run out.

The retry plans of an upload never limit single attempts, and watch no token but the upload's
own, so a token that never cancels leaves every retry to its attempts and its deadline.
-/

namespace DiskUploader

namespace Plan

theorem foldl_attemptLimit :
    ∀ (L : List Strategy) (p : Plan), (∀ s ∈ L, ∀ t, s ≠ .attemptLimit t) →
      (L.foldl add p).attemptLimit = p.attemptLimit
  | [], _, _ => rfl
  | s :: L, p, h => by
    rw [List.foldl_cons, foldl_attemptLimit L _ fun s' hs' => h s' (List.mem_cons_of_mem _ hs')]
    cases s with
    | attemptLimit t => exact absurd rfl (h _ List.mem_cons_self t)
    | _ => rfl

theorem ofStrategies_attemptLimit {ss : List Strategy} (h : ∀ s ∈ ss, ∀ t, s ≠ .attemptLimit t) :
    (ofStrategies ss).attemptLimit = none := by
  have hd : ∀ s ∈ Strategy.defaults, ∀ t, s ≠ .attemptLimit t := by simp [Strategy.defaults]
  have hf : ((if ss.isEmpty then Strategy.defaults else ss).foldl add {}).attemptLimit = none := by
    split
    · exact foldl_attemptLimit _ _ hd
    · exact foldl_attemptLimit _ _ h
  unfold ofStrategies
  generalize (if ss.isEmpty then Strategy.defaults else ss).foldl add {} = q at hf
  dsimp only
  split <;> exact hf

end Plan

theorem RetryPolicy.strategies_ne_attemptLimit (p : RetryPolicy) :
    ∀ s ∈ p.strategies, ∀ t, s ≠ .attemptLimit t := by
  intro s hs t
  cases s with
  | attemptLimit t' => simp [RetryPolicy.strategies] at hs
  | _ => simp

namespace UploadOptions

variable (o : UploadOptions) (policy : RetryPolicy) (p : Phase)

theorem strategies_attemptLimit : (Plan.ofStrategies (o.strategies policy p)).attemptLimit = none := by
  refine Plan.ofStrategies_attemptLimit fun s hs t => ?_
  simp only [strategies, List.mem_append] at hs
  rcases hs with hs | hs
  · exact policy.strategies_ne_attemptLimit s hs t
  · split at hs <;> simp_all

theorem strategies_tokens_mem : ∀ i ∈ (Plan.ofStrategies (o.strategies policy p)).tokens,
    i = o.cancel := by
  intro i hi
  cases hr : o.reaches p
  · rw [strategies_tokens hr] at hi
    cases hi
  · -- with the cancellation the list is not empty, so it stands for itself
    have hne : o.strategies policy p ≠ [] := by simp [strategies, hr]
    rw [(Plan.ofStrategies_ofList _).tokens, Strategy.effective, if_neg hne] at hi
    simp only [strategies, hr, if_true, List.filterMap_append, List.mem_append] at hi
    rcases hi with hi | hi
    · -- a policy's own strategies watch no token
      obtain ⟨s, hs, htok⟩ := List.mem_filterMap.1 hi
      cases s with
      | cancellation j => simp [RetryPolicy.strategies] at hs
      | _ => cases htok
    · simpa [Strategy.token?] using hi

theorem strategies_silent {σ : Type} {w : World σ} (hs : w.Silent o.cancel) :
    ∀ i ∈ (Plan.ofStrategies (o.strategies policy p)).tokens, w.Silent i := by
  intro i hi
  rw [strategies_tokens_mem o policy p i hi]
  exact hs

end UploadOptions

namespace World

variable {σ : Type} {w₀ w : World σ} {t k : Nat} {s : σ}

theorem Lands.with_state (h : w₀.Lands t k s w) (s' : σ) : w₀.Lands t k s' { w with state := s' } :=
  ⟨h.now, h.serial, rfl, h.tokens, h.cutoffs, h.attemptCap, h.precedence⟩

theorem Lands.with_log (h : w₀.Lands t k s w) (e : LogEvent) :
    w₀.Lands t k s { w with log := w.log.push e } :=
  ⟨h.now, h.serial, h.state, h.tokens, h.cutoffs, h.attemptCap, h.precedence⟩

theorem Lands.moved (h : w₀.Lands t k s w) (k' : Nat) (s' : σ) :
    w₀.Lands t k' s' { w with serial := k', state := s' } :=
  ⟨h.now, rfl, rfl, h.tokens, h.cutoffs, h.attemptCap, h.precedence⟩

theorem hasFired_silent {i : Nat} (hi : w.Silent i) : w.hasFired i = false := by
  unfold hasFired
  cases ht : w.tokens[i]? with
  | none => rfl
  | some tk => simp [fired_silent hi ht]

end World

namespace Stage

variable {σ α β : Type} (w₀ : World σ)

/-- From every world of the timeline of `w₀` at the instant `t`, serial `k` and state `s`, the
stage ends with `a` at `t'` and `k'` in a state that `S` admits. -/
def Goes (x : Stage σ α) (t k : Nat) (s : σ) (a : α) (t' k' : Nat) (S : σ → Prop) : Prop :=
  ∀ w, w₀.Lands t k s w → ∃ w' s', x.run.run w = (.ok (.ok a), w') ∧ S s' ∧ w₀.Lands t' k' s' w'

/-- From every world of the timeline of `w₀` at `t`, `k`, `s`: when `C` holds the stage goes to
`t'`, `k'` and a state that `S` admits, with `a`; otherwise it ends with a fault in a world where
`P` holds. It is never interrupted. -/
def Settles (x : Stage σ α) (t k : Nat) (s : σ) (C : Prop) (a : α) (t' k' : Nat) (S : σ → Prop)
    (P : World σ → Prop) : Prop :=
  ∀ w, w₀.Lands t k s w →
    Ends (fun b w' => C ∧ b = a ∧ ∃ s', S s' ∧ w₀.Lands t' k' s' w') (fun _ w' => ¬ C ∧ P w')
      (fun _ _ => False) (x.run.run w)

variable {w₀} {x : Stage σ α} {f : α → Stage σ β} {t k t₁ k₁ t₂ k₂ : Nat} {s : σ} {a : α} {b : β}
  {S₁ S₂ : σ → Prop} {C C₂ : Prop} {P : World σ → Prop}

theorem Goes.bind (hx : Goes w₀ x t k s a t₁ k₁ S₁)
    (hf : ∀ s₁, S₁ s₁ → Goes w₀ (f a) t₁ k₁ s₁ b t₂ k₂ S₂) : Goes w₀ (x >>= f) t k s b t₂ k₂ S₂ := by
  intro w hw
  obtain ⟨w₁, s₁, h₁, hs₁, hl₁⟩ := hx w hw
  obtain ⟨w₂, s₂, h₂, hs₂, hl₂⟩ := hf s₁ hs₁ w₁ hl₁
  exact ⟨w₂, s₂, by rw [run_bind, h₁]; exact h₂, hs₂, hl₂⟩

theorem Goes.settles (hx : Goes w₀ x t k s a t₁ k₁ S₁) : Settles w₀ x t k s True a t₁ k₁ S₁ P := by
  intro w hw
  obtain ⟨w₁, s₁, h₁, hs₁, hl₁⟩ := hx w hw
  rw [h₁]
  exact ⟨trivial, rfl, s₁, hs₁, hl₁⟩

theorem Goes.bind_settles (hx : Goes w₀ x t k s a t₁ k₁ S₁)
    (hf : ∀ s₁, S₁ s₁ → Settles w₀ (f a) t₁ k₁ s₁ C b t₂ k₂ S₂ P) :
    Settles w₀ (x >>= f) t k s C b t₂ k₂ S₂ P := by
  intro w hw
  obtain ⟨w₁, s₁, h₁, hs₁, hl₁⟩ := hx w hw
  rw [run_bind, h₁]
  exact hf s₁ hs₁ w₁ hl₁

/-- A stage that settles, followed by one that settles from wherever the first went: the two
conditions together decide how the whole settles. -/
theorem Settles.bind (hx : Settles w₀ x t k s C a t₁ k₁ S₁ P)
    (hf : C → ∀ s₁, S₁ s₁ → Settles w₀ (f a) t₁ k₁ s₁ C₂ b t₂ k₂ S₂ P) :
    Settles w₀ (x >>= f) t k s (C ∧ C₂) b t₂ k₂ S₂ P := by
  intro w hw
  rw [ends_bind]
  refine (hx w hw).mono ?_ (fun _ _ h => ⟨fun hc => h.1 hc.1, h.2⟩) (fun _ _ h => h)
  rintro _ w₁ ⟨hc, rfl, s₁, hs₁, hl₁⟩
  exact (hf hc s₁ hs₁ w₁ hl₁).mono (fun _ _ h => ⟨⟨hc, h.1⟩, h.2⟩)
    (fun _ _ h => ⟨fun hc' => h.1 hc'.2, h.2⟩) (fun _ _ h => h)

theorem Settles.congr_cond {C' : Prop} (hx : Settles w₀ x t k s C a t₁ k₁ S₁ P) (h : C ↔ C') :
    Settles w₀ x t k s C' a t₁ k₁ S₁ P := by
  intro w hw
  exact (hx w hw).mono (fun _ _ hq => ⟨h.1 hq.1, hq.2⟩) (fun _ _ he => ⟨fun hc => he.1 (h.2 hc), he.2⟩)
    (fun _ _ hi => hi)

theorem Settles.bind_goes (hx : Settles w₀ x t k s C a t₁ k₁ S₁ P)
    (hf : ∀ s₁, S₁ s₁ → Goes w₀ (f a) t₁ k₁ s₁ b t₂ k₂ S₂) :
    Settles w₀ (x >>= f) t k s C b t₂ k₂ S₂ P := by
  intro w hw
  rw [ends_bind]
  refine (hx w hw).mono ?_ (fun _ _ h => h) (fun _ _ h => h)
  rintro _ w₁ ⟨hc, rfl, s₁, hs₁, hl₁⟩
  obtain ⟨w₂, s₂, h₂, hs₂, hl₂⟩ := hf s₁ hs₁ w₁ hl₁
  rw [h₂]
  exact ⟨hc, rfl, s₂, hs₂, hl₂⟩

theorem Goes.bind_eq {s₁ : σ} (hx : Goes w₀ x t k s a t₁ k₁ (· = s₁))
    (hf : Goes w₀ (f a) t₁ k₁ s₁ b t₂ k₂ S₂) : Goes w₀ (x >>= f) t k s b t₂ k₂ S₂ :=
  hx.bind fun _ h => h ▸ hf

theorem Goes.bind_settles_eq {s₁ : σ} (hx : Goes w₀ x t k s a t₁ k₁ (· = s₁))
    (hf : Settles w₀ (f a) t₁ k₁ s₁ C b t₂ k₂ S₂ P) : Settles w₀ (x >>= f) t k s C b t₂ k₂ S₂ P :=
  hx.bind_settles fun _ h => h ▸ hf

theorem Settles.bind_goes_eq {s₁ : σ} (hx : Settles w₀ x t k s C a t₁ k₁ (· = s₁) P)
    (hf : Goes w₀ (f a) t₁ k₁ s₁ b t₂ k₂ S₂) : Settles w₀ (x >>= f) t k s C b t₂ k₂ S₂ P :=
  hx.bind_goes fun _ h => h ▸ hf

theorem Settles.cast_end {t₁' k₁' : Nat} (hx : Settles w₀ x t k s C a t₁ k₁ S₁ P) (ht : t₁ = t₁')
    (hk : k₁ = k₁') : Settles w₀ x t k s C a t₁' k₁' S₁ P :=
  ht ▸ hk ▸ hx

theorem Goes.imp (hx : Goes w₀ x t k s a t₁ k₁ S₁) (h : ∀ s', S₁ s' → S₂ s') :
    Goes w₀ x t k s a t₁ k₁ S₂ := by
  intro w hw
  obtain ⟨w', s', hrun, hs', hl⟩ := hx w hw
  exact ⟨w', s', hrun, h s' hs', hl⟩

theorem Settles.imp (hx : Settles w₀ x t k s C a t₁ k₁ S₁ P) (h : ∀ s', S₁ s' → S₂ s') :
    Settles w₀ x t k s C a t₁ k₁ S₂ P := by
  intro w hw
  refine (hx w hw).mono ?_ (fun _ _ he => he) (fun _ _ hi => hi)
  rintro _ _ ⟨hc, rfl, s', hs', hl⟩
  exact ⟨hc, rfl, s', h s' hs', hl⟩

theorem goes_lift {m : Timed σ α}
    (hm : ∀ w, w₀.Lands t k s w → ∃ w' s', m.run w = (.ok a, w') ∧ S₁ s' ∧ w₀.Lands t₁ k₁ s' w') :
    Goes w₀ (monadLift m : Stage σ α) t k s a t₁ k₁ S₁ := by
  intro w hw
  obtain ⟨w', s', h, hs, hl⟩ := hm w hw
  exact ⟨w', s', by rw [run_lift, h], hs, hl⟩

theorem goes_pure : Goes w₀ (pure a : Stage σ α) t k s a t k (· = s) :=
  fun w hw => ⟨w, s, rfl, rfl, hw⟩

section Countdown

variable {desc : String} {ss : List Strategy} {latest K : Nat} {poll : Timed σ (Except Fault α)}
  {orbit : Nat → σ} {v : α}

/-- A retried countdown as a stage: it goes to the end of the countdown when its plan allows the
attempts, and otherwise fails on the way, by the instant the countdown would have ended. -/
theorem settles_countdown (hc : Timed.Countdown latest poll orbit K v)
    (hl : (Plan.ofStrategies ss).attemptLimit = none) (hfit : (Plan.ofStrategies ss).FitsBy t)
    (hlate : t + (Plan.ofStrategies ss).waited K ≤ latest) (hcut : w₀.cutoffs = [])
    (hcap : K < w₀.attemptCap) (hq : ∀ i ∈ (Plan.ofStrategies ss).tokens, w₀.Silent i)
    (hP : ∀ t' i w', t' ≤ t + (Plan.ofStrategies ss).waited K → w₀.Lands t' k (orbit i) w' → P w') :
    Settles w₀ (Stage.call (retry desc ss poll)) t k (orbit 0) ((Plan.ofStrategies ss).Allows (K + 1))
      v (t + (Plan.ofStrategies ss).waited K) k (· = orbit (K + 1)) P := by
  intro w hw
  have hnow := hw.now
  have hfit' : (Plan.ofStrategies ss).FitsBy w.now := hnow ▸ hfit
  have hlate' : w.now + (Plan.ofStrategies ss).waited K ≤ latest := hnow ▸ hlate
  have hq' : ∀ i ∈ (Plan.ofStrategies ss).tokens, w.Silent i := fun i hi => hw.silent (hq i hi)
  have hcut' : w.cutoffs = [] := hw.cutoffs.trans hcut
  have hcap' : K < w.attemptCap := hw.attemptCap ▸ hcap
  rw [run_call]
  by_cases hA : (Plan.ofStrategies ss).Allows (K + 1)
  · obtain ⟨w', hrun, hl'⟩ :=
      retry_countdown_ok desc hl hfit' hc hw.state hlate' hcut' hcap' hq' hA
    rw [hrun]
    refine ⟨hA, rfl, _, rfl, ?_⟩
    have := hw.trans hl'
    rwa [hnow, hw.serial] at this
  · obtain ⟨f, w', i, hrun, hl', hle⟩ :=
      retry_countdown_error desc hl hfit' hc hw.state hlate' hcut' hcap' hq' hA
    rw [hrun]
    refine ⟨hA, hP w'.now i w' (hnow ▸ hle) ?_⟩
    have := hw.trans hl'
    rwa [hw.serial] at this

end Countdown

theorem call_waitForDiskStable (api : Engine σ) (id : String) (c : CorrelationId)
    (read wait : List Strategy) :
    Stage.call (waitForDiskStable api id c read wait) = (do
      let d ← Stage.call (waitForDiskOk api id read wait)
      let _ ← Stage.call (waitForJobs api c read wait)
      pure d : Stage σ Disk) := by
  apply ExceptT.ext
  simp only [Stage.call, waitForDiskStable, ExceptT.run_mk, ExceptT.run_bind]
  congr 1
  funext r
  rcases r with e | d
  · rfl
  · dsimp only
    congr 1
    funext r
    rcases r with e | _ <;> rfl

end Stage

namespace Rehearsal

/-- A world of the timeline of `w₀`, by `latest`, where the engine injects no fault and the
upload's session is open: an upload can still be failed and compensated from there. -/
def Recoverable (w₀ : World Rehearsal) (latest : Nat) (w : World Rehearsal) : Prop :=
  ∃ t k s, t ≤ latest ∧ s.engine.faults = [] ∧ s.run.session.done = false ∧ w₀.Lands t k s w

section Uploader

variable {b : MockBehavior} {tr : TransportScript} {policies : RetryDefaults} {sparse : Bool}

@[simp] theorem uploader_view (st : Rehearsal) :
    (uploader b tr policies sparse).run.view st = st.run := rfl

@[simp] theorem uploader_updated (w : World Rehearsal) (f : UploadRun → UploadRun) :
    (uploader b tr policies sparse).updated w f = { w with state := { w.state with run := f w.state.run } } :=
  rfl

@[simp] theorem uploader_policies : (uploader b tr policies sparse).policies = policies := rfl

@[simp] theorem uploader_sparse : (uploader b tr policies sparse).sparse = sparse := rfl

end Uploader

section Steps

variable {b : MockBehavior} {tr : TransportScript} {policies : RetryDefaults} {sparse : Bool}
  {o : UploadOptions} {w₀ : World Rehearsal} {t k : Nat} {s : Rehearsal}

theorem current_goes :
    Stage.Goes w₀ (monadLift (uploader b tr policies sparse).current : Stage Rehearsal UploadRun)
      t k s s.run t k (· = s) :=
  Stage.goes_lift fun w hw =>
    ⟨w, s, by rw [Uploader.run_current, Uploader.runOf, uploader_view, hw.state], rfl, hw⟩

theorem change_goes (f : UploadRun → UploadRun) :
    Stage.Goes w₀ (monadLift ((uploader b tr policies sparse).change f) : Stage Rehearsal Unit)
      t k s () t k (· = { s with run := f s.run }) := by
  refine Stage.goes_lift fun w hw => ⟨_, _, ?_, rfl, hw.with_state { s with run := f s.run }⟩
  rw [Uploader.run_change, ← hw.state]
  rfl

theorem changeSession_goes (f : Session → Session) :
    Stage.Goes w₀ (monadLift ((uploader b tr policies sparse).changeSession f) : Stage Rehearsal Unit)
      t k s () t k (· = { s with run := { s.run with session := f s.run.session } }) :=
  change_goes _

theorem reach_goes (p : Phase) :
    Stage.Goes w₀ ((uploader b tr policies sparse).reach p) t k s () t k
      (· = { s with run := { s.run with session := s.run.session.reach p } }) :=
  changeSession_goes _

theorem begin_goes (hs : w₀.Silent o.cancel) (p : Phase) :
    Stage.Goes w₀ ((uploader b tr policies sparse).begin o p) t k s () t k
      (· = { s with run := { s.run with session := s.run.session.begin p } }) := by
  intro w hw
  have hf : w.hasFired o.cancel = false := World.hasFired_silent (hw.silent hs)
  refine ⟨_, _, ?_, rfl, hw.with_state _⟩
  simp only [Uploader.begin, Stage.run_bind, Stage.run_lift, Uploader.run_changeSession,
    Uploader.run_cancelled, Uploader.hasFired_updated, hf, Bool.and_false]
  rw [← hw.state]
  rfl

section Calls

variable (hcap : 0 < w₀.attemptCap) (hf : s.engine.faults = [])
include hcap hf

/-- A creation of a disk lands at once, with the disk under the next id and its job under the
one after. -/
theorem createDisk_goes
    (hfit : (Plan.ofStrategies (o.strategies policies.write .diskRequested)).FitsBy t)
    (c : DiskCreation) (corr : CorrelationId) :
    Stage.Goes w₀ (Stage.call (retry s!"create disk {c.aliasName}"
        (o.strategies policies.write .diskRequested)
        ((uploader b tr policies sparse).api.createDisk c corr))) t k s
      (Mock.createdDisk b c (uuidOf k)) t (k + 2)
      (· = { s with
        engine := s.engine.creating (Mock.createdDisk b c (uuidOf k)) b.lockedPolls
          (Mock.startedJob b corr (uuidOf (k + 1)) s!"Adding disk {c.aliasName}") }) := by
  intro w hw
  have h := retry_first s!"create disk {c.aliasName}" (o.strategies_attemptLimit _ _)
    (hw.now ▸ hfit) (hw.attemptCap ▸ hcap) (Mock.createDisk_run b w (hw.state ▸ hf) c corr)
  rw [hw.serial, hw.state] at h
  exact ⟨_, _, h, rfl, hw.moved _ _⟩

theorem createTransfer_goes
    (hfit : (Plan.ofStrategies (o.strategies policies.write .transferNegotiated)).FitsBy t)
    {diskId : String} (hd : (s.engine.disk? diskId).isSome) (corr : CorrelationId) :
    Stage.Goes w₀ (Stage.call (retry s!"create image transfer for disk {diskId}"
        (o.strategies policies.write .transferNegotiated)
        ((uploader b tr policies sparse).api.createTransfer diskId .upload corr))) t k s
      (Mock.openedTransfer diskId (uuidOf k)) t (k + 1)
      (· = { s with
        engine := s.engine.opening (Mock.openedTransfer diskId (uuidOf k)) b.initializingPolls }) := by
  intro w hw
  have h := retry_first s!"create image transfer for disk {diskId}"
    (o.strategies_attemptLimit _ _) (hw.now ▸ hfit) (hw.attemptCap ▸ hcap) (Mock.createTransfer_run b w (hw.state ▸ hf) (hw.state ▸ hd) .upload corr)
  rw [hw.serial, hw.state] at h
  exact ⟨_, _, h, rfl, hw.moved _ _⟩

theorem finalizeTransfer_goes
    (hfit : (Plan.ofStrategies (o.strategies policies.write .finalized)).FitsBy t)
    {id : String} {st : StoredTransfer} (ht : s.engine.transfer? id = some st) (corr : CorrelationId) :
    Stage.Goes w₀ (Stage.call (retry s!"finalize image transfer {id}"
        (o.strategies policies.write .finalized)
        ((uploader b tr policies sparse).api.finalizeTransfer id corr))) t k s () t (k + 1)
      (· = { s with
        engine := s.engine.finalizing id st.transfer.diskId b.lockedPolls
          (Mock.startedJob b corr (uuidOf k) s!"Finalizing transfer {id}") }) := by
  intro w hw
  have h := retry_first s!"finalize image transfer {id}" (o.strategies_attemptLimit _ _)
    (hw.now ▸ hfit) (hw.attemptCap ▸ hcap) (Mock.finalizeTransfer_run b w (hw.state ▸ hf) (hw.state ▸ ht) corr)
  rw [hw.serial, hw.state] at h
  exact ⟨_, _, h, rfl, hw.moved _ _⟩

end Calls

section Waits

variable {latest : Nat} {read wait : List Strategy}
  (hread : (Plan.ofStrategies read).attemptLimit = none)
  (hrfit : (Plan.ofStrategies read).FitsBy latest)
  (hwait : (Plan.ofStrategies wait).attemptLimit = none)
  (hcut : w₀.cutoffs = []) (hq : ∀ i ∈ (Plan.ofStrategies wait).tokens, w₀.Silent i)
  (hf : s.engine.faults = []) (hdone : s.run.session.done = false)
include hread hrfit hwait hcut hq hf hdone

/-- Waiting for a disk stored as `⟨d, L, none⟩` settles after `L + 1` reads when the wait's plan
allows them, and fails on the way otherwise. -/
theorem diskOk_settles (hwfit : (Plan.ofStrategies wait).FitsBy t) {id : String} {d : Disk}
    {L : Nat} (hd : s.engine.disk? id = some ⟨d, L, none⟩) (hid : d.id = id)
    (hlate : t + (Plan.ofStrategies wait).waited L ≤ latest) (hcap : L < w₀.attemptCap) :
    Stage.Settles w₀ (Stage.call (waitForDiskOk (uploader b tr policies sparse).api id read wait))
      t k s ((Plan.ofStrategies wait).Allows (L + 1)) { d with status := .ok }
      (t + (Plan.ofStrategies wait).waited L) k
      (· = { s with engine := s.engine.diskReads id d L (L + 1) }) (Recoverable w₀ latest) := by
  obtain ⟨poll, heq, hc⟩ := Mock.waitForDiskOk_countdown b hread hrfit wait hf hd hid
  rw [show (uploader b tr policies sparse).api = Mock.engine b engineLens from rfl, heq]
  refine Stage.settles_countdown hc hwait hwfit hlate hcut hcap hq fun t' i w' ht' hl => ?_
  -- the disk's reads leave the faults and the session alone
  exact ⟨t', k, { s with engine := s.engine.diskReads id d L i }, ht'.trans hlate,
    (MockState.frame_diskReads _ _ _ _ _).faults.trans hf, hdone, hl⟩

/-- Waiting for the jobs of `c`, each running for at most `R` more listings and one for exactly
`R`, settles after `R + 1` listings when the wait's plan allows them. -/
theorem jobs_settles (hwfit : (Plan.ofStrategies wait).FitsBy t) {c : CorrelationId} {R : Nat}
    (hjobs : ∀ x ∈ s.engine.jobs, x.correlation = c → ∃ n ≤ R, x.RunsFor n)
    (hlong : 0 < R → ∃ x ∈ s.engine.jobs, x.correlation = c ∧ x.RunsFor R)
    (hlate : t + (Plan.ofStrategies wait).waited R ≤ latest) (hcap : R < w₀.attemptCap) :
    Stage.Settles w₀ (Stage.call (waitForJobs (uploader b tr policies sparse).api c read wait))
      t k s ((Plan.ofStrategies wait).Allows (R + 1)) () (t + (Plan.ofStrategies wait).waited R) k
      (· = { s with engine := s.engine.listings c (R + 1) }) (Recoverable w₀ latest) := by
  obtain ⟨poll, heq, hc⟩ := Mock.waitForJobs_countdown b hread hrfit wait hf hjobs hlong
  rw [show (uploader b tr policies sparse).api = Mock.engine b engineLens from rfl, heq]
  refine Stage.settles_countdown hc hwait hwfit hlate hcut hcap hq fun t' i w' ht' hl => ?_
  exact ⟨t', k, { s with engine := s.engine.listings c i }, ht'.trans hlate,
    (MockState.frame_listings _ _ _).faults.trans hf, hdone, hl⟩

theorem diskStable_settles {id : String} {d : Disk} {L : Nat} {c : CorrelationId} {R : Nat}
    (hd : s.engine.disk? id = some ⟨d, L, none⟩) (hid : d.id = id)
    (hjobs : ∀ x ∈ s.engine.jobs, x.correlation = c → ∃ n ≤ R, x.RunsFor n)
    (hlong : 0 < R → ∃ x ∈ s.engine.jobs, x.correlation = c ∧ x.RunsFor R)
    (hwfit : (Plan.ofStrategies wait).FitsBy latest)
    (hlate : t + (Plan.ofStrategies wait).waited L + (Plan.ofStrategies wait).waited R ≤ latest)
    (hcapL : L < w₀.attemptCap) (hcapR : R < w₀.attemptCap) :
    Stage.Settles w₀
      (Stage.call (waitForDiskStable (uploader b tr policies sparse).api id c read wait)) t k s
      ((Plan.ofStrategies wait).Allows (L + 1) ∧ (Plan.ofStrategies wait).Allows (R + 1))
      { d with status := .ok }
      (t + (Plan.ofStrategies wait).waited L + (Plan.ofStrategies wait).waited R) k
      (· = { s with engine := s.engine.stabilized id d L c R }) (Recoverable w₀ latest) := by
  rw [Stage.call_waitForDiskStable]
  have hdisk : Stage.Settles w₀
      (Stage.call (waitForDiskOk (uploader b tr policies sparse).api id read wait)) t k s
      _ _ _ _ _ _ :=
    diskOk_settles hread hrfit hwait hcut hq hf hdone (hwfit.mono (by omega)) hd hid (by omega) hcapL
  refine (hdisk.bind fun _ s₁ hs₁ => ?_).congr_cond (and_congr_right' (and_true _).to_iff)
  subst hs₁
  have hjobs' := MockState.jobs_diskReads s.engine id d L (L + 1)
  have hjob : Stage.Settles w₀
      (Stage.call (waitForJobs (uploader b tr policies sparse).api c read wait))
      (t + (Plan.ofStrategies wait).waited L) k { s with engine := s.engine.diskReads id d L (L + 1) }
      _ _ _ _ _ _ :=
    jobs_settles (s := { s with engine := s.engine.diskReads id d L (L + 1) }) hread hrfit hwait hcut
      hq ((MockState.frame_diskReads _ _ _ _ _).faults.trans hf) hdone
      (hwfit.mono (by omega)) (by rw [hjobs']; exact hjobs) (by rw [hjobs']; exact hlong) hlate hcapR
  refine hjob.bind fun _ s₂ hs₂ => ?_
  subst hs₂
  exact Stage.goes_pure.settles

end Waits

/-- Waiting for a transfer stored as `⟨tx, I⟩`, initializing, settles after `I + 1` reads when
the plan of the transfer's phase allows them. -/
theorem transfer_settles (hsil : w₀.Silent o.cancel) (hcut : w₀.cutoffs = []) {latest : Nat}
    (hrfit : (Plan.ofStrategies (o.strategies policies.read .transferReady)).FitsBy latest)
    (hwfit : (Plan.ofStrategies (o.strategies policies.pending .transferReady)).FitsBy t)
    (hf : s.engine.faults = []) (hp : s.engine.forcedPhase = none)
    (hdone : s.run.session.done = false) {id : String} {tx : Transfer} {I : Nat}
    (ht : s.engine.transfer? id = some ⟨tx, I⟩) (hid : tx.id = id)
    (hphase : tx.phase = .initializing)
    (hlate : t + (Plan.ofStrategies (o.strategies policies.pending .transferReady)).waited I ≤ latest)
    (hcap : I < w₀.attemptCap) :
    Stage.Settles w₀ ((uploader b tr policies sparse).waitForTransfer o id) t k s
      ((Plan.ofStrategies (o.strategies policies.pending .transferReady)).Allows (I + 1))
      { tx with phase := .transferring }
      (t + (Plan.ofStrategies (o.strategies policies.pending .transferReady)).waited I) k
      (· = { s with engine := s.engine.transferReads id tx I (I + 1) }) (Recoverable w₀ latest) := by
  obtain ⟨poll, heq, hc⟩ := Mock.waitForTransfer_countdown (u := uploader b tr policies sparse) rfl o
    (o.strategies_attemptLimit _ _) hrfit hf hp ht hid hphase
  rw [heq]
  refine Stage.settles_countdown hc (o.strategies_attemptLimit _ _) hwfit hlate hcut hcap
    (o.strategies_silent _ _ hsil) fun t' i w' ht' hl => ?_
  exact ⟨t', k, { s with engine := s.engine.transferReads id tx I i }, ht'.trans hlate,
    (MockState.frame_transferReads _ _ _ _ _).faults.trans hf, hdone, hl⟩

end Steps

end Rehearsal

/-- A scripted transport that sends a body as it is read: in pieces of at least one byte, never
panicking, failing or cancelling on the way, and comparing the body with `image`. -/
structure TransportScript.Sends (t : TransportScript) (image : ByteArray) : Prop where
  noPanic : t.putPanic = none
  noFailure : t.putFailure = none
  chunked : 0 < t.readChunk
  noCancel : t.cancelOnBytes = none
  source : t.source = image

def TransportScript.Accepts (t : TransportScript) (url : String) : Prop :=
  ∀ log, ∀ ia ∈ t.answerFor log url, ∃ st, ia.2.outcome = .ok st ∧ st < 400

namespace Rehearsal

variable {b : MockBehavior} {tr : TransportScript} {policies : RetryDefaults} {sparse : Bool}
  {o : UploadOptions} {w₀ : World Rehearsal} {t k : Nat} {s : Rehearsal}

theorem probe_run (hno : tr.cancelOnProbe = none) {url : String} (hacc : tr.Accepts url)
    (w : World Rehearsal) :
    ∃ st used, (tr.probe transportLens url).run w = (.ok (.ok st), { w with state := { w.state with
      transport := { w.state.transport with probes := w.state.transport.probes ++ [url], used } } })
      ∧ st < 400 := by
  simp only [TransportScript.probe, Timed.run_bind, Timed.run_state, hno, reduceCtorEq, if_false]
  generalize hlog : ({ transportLens.view w.state with
    probes := (transportLens.view w.state).probes ++ [url] } : TransportLog) = log
  cases ha : tr.answerFor log url with
  | none => exact ⟨200, log.used, by simp [← hlog, transportLens], by decide⟩
  | some ia =>
    obtain ⟨st, hst, hlt⟩ := hacc log ia (by simp [ha])
    obtain ⟨i, a⟩ := ia
    refine ⟨st, ?used, ?run, hlt⟩
    case run =>
      dsimp only at hst
      simp only [Timed.run_bind, Timed.run_modifyState, hst]
      rfl

theorem probeUrl_run (hno : tr.cancelOnProbe = none) {url : String} (hacc : tr.Accepts url)
    (hcap : 0 < w₀.attemptCap)
    (hfit : (Plan.ofStrategies (o.strategies policies.probe .urlVerified)).FitsBy t)
    {w : World Rehearsal} (hw : w₀.Lands t k s w) :
    ∃ used, ((uploader b tr policies sparse).probeUrl o url).run w = (.ok (.ok ()), { w with
      state := { s with transport := { s.transport with
        probes := s.transport.probes ++ [url], used } } }) := by
  obtain ⟨st, used, hrun, hlt⟩ := probe_run hno hacc w
  refine ⟨used, ?_⟩
  rw [← hw.state]
  -- the first attempt is accepted, so the retry answers at once
  refine retry_first s!"probe {url}" (o.strategies_attemptLimit _ _) (hw.now ▸ hfit)
    (hw.attemptCap ▸ hcap) ?_
  rw [Timed.run_bind]
  erw [hrun]
  simp [hlt]

/-- Verifying the endpoints of a transfer whose first candidate is accepted lands at once on
that candidate, with one probe recorded. -/
theorem verifyUrl_goes (hno : tr.cancelOnProbe = none) {tx : Transfer} {url : String}
    {rest : List String} (hc : tx.candidateUrls = url :: rest) (hacc : tr.Accepts url)
    (hcap : 0 < w₀.attemptCap)
    (hfit : (Plan.ofStrategies (o.strategies policies.probe .urlVerified)).FitsBy t) :
    Stage.Goes w₀ ((uploader b tr policies sparse).verifyUrl o tx) t k s url t k
      (fun s' => ∃ used, s' = { s with transport := { s.transport with
        probes := s.transport.probes ++ [url], used } }) := by
  intro w hw
  obtain ⟨used, hp⟩ := probeUrl_run hno hacc hcap hfit hw
  refine ⟨_, _, ?_, ⟨used, rfl⟩, hw.with_state _⟩
  simp only [Uploader.verifyUrl, hc, List.forIn_cons, Stage.run_bind, Stage.lift_eq,
    Stage.run_lift]
  rw [hp]
  rfl

theorem UploadRun.eq_reading {r : UploadRun} (hc : r.counted = 0) (hu : r.session.uploaded = 0) :
    r = { r with body := r.body, counted := 0, session := { r.session with uploaded := 0 } } := by
  obtain ⟨⟨⟩, _, _, _, _, _, _⟩ := r
  simp_all

section Body

variable {B : ByteArray} {n : Nat} {r₀ : UploadRun} (htotal : r₀.session.total = n)
include htotal

theorem countingRead_more {w : World Rehearsal} (hs : w.Silent o.cancel) {bd : Body} {k want : Nat}
    (hw : w.state.run = { r₀ with body := bd, counted := k, session := { r₀.session with uploaded := k } })
    (hb : bd.At B n k) (hk : k < n) (hwant : 0 < want) (check : Bool) :
    ∃ m bd', 0 < m ∧ bd'.At B n (k + m) ∧
      ((uploader b tr policies sparse).countingRead o check want).run w =
        (.ok (.ok (B.extract k (k + m))), { w with state := { w.state with run :=
          { r₀ with body := bd', counted := k + m,
                    session := { r₀.session with uploaded := k + m } } } }) := by
  obtain ⟨m, hm, -, hbs, hat⟩ := Body.read_at hb hk hwant
  refine ⟨m, _, hm, hat, ?_⟩
  have hsize : (B.extract k (k + m)).size = m := by
    have := hat.le
    have := hb.within
    simp only [ByteArray.size_extract]
    omega
  have hc : (check && w.hasFired o.cancel) = false := by
    rw [World.hasFired_silent hs, Bool.and_false]
  have hread : ((uploader b tr policies sparse).runOf w).body.read want =
      (B.extract k (k + m), (bd.read want).2) := by
    rw [Uploader.runOf, uploader_view, hw, ← hbs]
  rw [Uploader.run_countingRead _ w hc hread,
    if_pos (show 0 < (B.extract k (k + m)).size by omega)]
  simp only [uploader_updated, hsize]
  -- the count stays within the total, so it is not clipped
  have hclip : min (k + m) r₀.session.total = k + m := Nat.min_eq_left (htotal ▸ hat.le)
  rw [hw]
  simp only [Session.addUploaded, Session.total] at hclip ⊢
  rw [hclip]

theorem countingRead_end {w : World Rehearsal} (hs : w.Silent o.cancel) {bd : Body} {want : Nat}
    (hw : w.state.run = { r₀ with body := bd, counted := n, session := { r₀.session with uploaded := n } })
    (hb : bd.At B n n) (check : Bool) :
    ((uploader b tr policies sparse).countingRead o check want).run w =
      (.ok (.ok ByteArray.empty), { w with state := { w.state with run :=
        { r₀ with body := bd, counted := n, session := { r₀.session with uploaded := n } } } }) := by
  have hc : (check && w.hasFired o.cancel) = false := by
    rw [World.hasFired_silent hs, Bool.and_false]
  have hread : ((uploader b tr policies sparse).runOf w).body.read want = (ByteArray.empty, bd) := by
    rw [Uploader.runOf, uploader_view, hw]
    exact Body.read_at_end hb
  -- the count has reached the total, so the empty read is no truncation
  have hcount : ¬ (0 < want ∧ ((uploader b tr policies sparse).runOf w).counted <
      ((uploader b tr policies sparse).runOf w).session.total) := by
    rw [Uploader.runOf, uploader_view, hw]
    simp only [Session.total] at htotal ⊢
    omega
  rw [Uploader.run_countingRead _ w hc hread, if_neg (show ¬ 0 < ByteArray.empty.size by simp),
    if_neg hcount, uploader_updated, hw]

/-- Reading the body to its end in pieces of `chunk > 0` bytes hands over the bytes of `B` up to
`n`, however they are split, and leaves the body at its end. -/
theorem receive_counted (hno : tr.cancelOnBytes = none) (hchunk : 0 < tr.readChunk) (check : Bool) :
    ∀ (fuel k : Nat) (bd : Body) (w : World Rehearsal), w.Silent o.cancel →
      w.state.run = { r₀ with body := bd, counted := k, session := { r₀.session with uploaded := k } } →
      bd.At B n k → n - k < fuel →
      ∃ bd', bd'.At B n n ∧ (tr.receive ((uploader b tr policies sparse).countingRead o check) fuel
          (B.extract 0 k) false).run w =
        (.ok (.ok (B.extract 0 n)), { w with state := { w.state with run :=
          { r₀ with body := bd', counted := n, session := { r₀.session with uploaded := n } } } })
  | 0, _, _, _, _, _, _, hf => absurd hf (Nat.not_lt_zero _)
  | fuel + 1, k, bd, w, hs, hw, hb, hf => by
    by_cases hk : k < n
    · -- a read takes at least one more byte; the rest follows from there
      obtain ⟨m, bd', hm, hat, hrun⟩ := countingRead_more htotal hs hw hb hk hchunk check
      have hsize : (B.extract k (k + m)).size ≠ 0 := by
        have := hat.le
        have := hb.within
        simp only [ByteArray.size_extract]
        omega
      have hacc : B.extract 0 k ++ B.extract k (k + m) = B.extract 0 (k + m) := by
        rw [ByteArray.extract_append_extract, Nat.min_eq_left (Nat.zero_le _),
          Nat.max_eq_right (Nat.le_add_right _ _)]
      obtain ⟨bd'', hend, hrest⟩ := receive_counted hno hchunk check fuel (k + m) bd'
        { w with state := { w.state with run :=
          { r₀ with body := bd', counted := k + m, session := { r₀.session with uploaded := k + m } } } }
        hs rfl hat (by omega)
      refine ⟨bd'', hend, ?_⟩
      rw [TransportScript.receive, Timed.run_bind, hrun]
      simp only [hsize, if_false, hacc, hno, Option.any_none, Bool.and_false, Bool.or_false,
        Bool.false_eq_true]
      exact hrest
    · obtain rfl : k = n := Nat.le_antisymm hb.le (Nat.le_of_not_lt hk)
      refine ⟨bd, hb, ?_⟩
      rw [TransportScript.receive, Timed.run_bind, countingRead_end htotal hs hw hb check]
      simp [ByteArray.size_empty]

/-- Sending a body of `n` bytes of `B` through a transport that sends as it reads delivers
exactly those bytes and counts them all. -/
theorem put_counted (hsend : tr.Sends B) {w : World Rehearsal} (hs : w.Silent o.cancel) {bd : Body}
    (hw : w.state.run = { r₀ with body := bd, counted := 0, session := { r₀.session with uploaded := 0 } })
    (hb : bd.At B n 0) (url : String) (check : Bool) :
    ∃ bd', bd'.At B n n ∧
      (tr.put transportLens url n ((uploader b tr policies sparse).countingRead o check)).run w =
        (.ok (.ok ()), { w with state := { w.state with
          run := { r₀ with body := bd', counted := n, session := { r₀.session with uploaded := n } }
          transport := { w.state.transport with
            deliveries := w.state.transport.deliveries ++ [⟨url, n, true⟩] } } }) := by
  obtain ⟨bd', hend, hrecv⟩ := receive_counted htotal hsend.noCancel hsend.chunked check (n + 1) 0 bd
    w hs hw hb (by omega)
  rw [ByteArray.extract_same] at hrecv
  have hsize : (B.extract 0 n).size = n := by
    have := hb.within
    simp only [ByteArray.size_extract]
    omega
  have hsame : (B.extract 0 n == tr.source.extract 0 n) = true := by
    rw [hsend.source]
    show (B.extract 0 n).data == (B.extract 0 n).data
    exact beq_self_eq_true _
  refine ⟨bd', hend, ?_⟩
  simp only [TransportScript.put, hsend.noPanic, Timed.run_bind]
  rw [hrecv]
  simp only [hsend.noFailure, hsize, ne_eq, not_true_eq_false, if_false, hsame,
    Timed.run_bind, Timed.run_modifyState]
  rfl

end Body

section Send

variable {B : ByteArray} {n : Nat}

/-- Sending the body from its start through a transport that sends as it reads delivers exactly
the first `n` bytes of `B`, all counted. -/
theorem sendBytes_goes (hsend : tr.Sends B) (hsil : w₀.Silent o.cancel) (url : String)
    (htotal : s.run.session.total = n) (hc : s.run.counted = 0) (hu : s.run.session.uploaded = 0)
    (hb : s.run.body.At B n 0) :
    Stage.Goes w₀ ((uploader b tr policies sparse).sendBytes o url) t k s () t k
      (fun s' => ∃ bd', s' = { s with
        run := { s.run with body := bd', counted := n, session := { s.run.session with uploaded := n } }
        transport := { s.transport with
          deliveries := s.transport.deliveries ++ [⟨url, n, true⟩] } }) := by
  intro w hw
  -- the body is put from the world where the streaming has been logged
  let e := uploadEvent .info "streaming image" [("url", .quoted url), ("bytes", .shown (toString n))]
  obtain ⟨bd', -, hput⟩ := put_counted htotal hsend (w := { w with log := w.log.push e, state := s })
    (hw.silent hsil) (UploadRun.eq_reading hc hu) hb url (o.reaches .bytesSent)
  refine ⟨_, _, ?_, ⟨bd', rfl⟩, (hw.with_log e).with_state _⟩
  simp only [Uploader.sendBytes, Stage.run_bind, Stage.lift_eq, Stage.run_lift, Uploader.run_current,
    Uploader.runOf, uploader_view, hw.state, htotal, Uploader.run_log]
  erw [hput]
  simp [Uploader.runOf]

end Send


end Rehearsal

end DiskUploader
