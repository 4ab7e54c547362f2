import DiskUploader.Proofs.MockScript
import DiskUploader.Proofs.NestedWaits

/-!
# Injected faults of the in-memory engine

A fault set on an operation with `fail` fails every later call of it. One set with `failTimes`
for `t` calls fails the next `t` calls; the call after them clears it and goes ahead as if no
fault had been set. A call meets only the fault of its own operation, and neither reads nor
changes the others. Every call is counted, failed or not, and a call that fails, by its fault
or because what it names is missing, changes nothing but the counts and its own fault.

The fault of an operation evolves by `InjectedFault.tick`, one tick per call of the operation,
whatever else a test does in between as long as it does not set that fault again; the main
statement is `MockStep.faults_contract`.
-/

namespace DiskUploader

namespace MockState

def faultOf (m : MockState) (c : EngineCall) : Option InjectedFault :=
  (m.faults.find? (·.1 == c)).map (·.2)

def clear (m : MockState) (c : EngineCall) : MockState :=
  { m with faults := m.faults.filter (·.1 != c) }

def injected (code : Code) (c : EngineCall) : Fault :=
  Fault.new code s!"injected {code.name} failure in {c.title}"

end MockState

namespace InjectedFault

/-- Whether a call meeting the fault fails: always, or while failures are left. -/
def fires : Option InjectedFault → Bool
  | some ⟨_, none⟩ | some ⟨_, some (_ + 1)⟩ => true
  | _ => false

/-- The fault once one more call of its operation was made: one failure fewer left, and gone
after the call that found none left. -/
def tick : Option InjectedFault → Option InjectedFault
  | some ⟨code, some (n + 1)⟩ => some ⟨code, some n⟩
  | some ⟨_, some 0⟩ => none
  | f => f

theorem tick_iterate_limited (code : Code) (t j : Nat) :
    tick^[j] (some ⟨code, some t⟩) = if j ≤ t then some ⟨code, some (t - j)⟩ else none := by
  induction j generalizing t with
  | zero => simp
  | succ j ih =>
    rw [Function.iterate_succ_apply]
    cases t with
    | zero =>
      -- the call that found no failure left cleared the fault for good
      have hnone : ∀ k, tick^[k] none = none := fun k => Function.iterate_fixed rfl k
      simp [tick, hnone]
    | succ t => simp [tick, ih]

@[simp] theorem fires_limited (code : Code) (k : Nat) :
    fires (some ⟨code, some k⟩) = decide (0 < k) := by
  cases k <;> rfl

theorem tick_iterate_always (code : Code) (j : Nat) :
    tick^[j] (some ⟨code, none⟩) = some ⟨code, none⟩ :=
  Function.iterate_fixed rfl j

end InjectedFault

namespace MockState

variable (m : MockState)

@[simp] theorem faultOf_counted (c c' : EngineCall) : (m.counted c).faultOf c' = m.faultOf c' :=
  rfl

theorem faultOf_clear (c c' : EngineCall) :
    (m.clear c).faultOf c' = if c' = c then none else m.faultOf c' := by
  unfold faultOf clear
  rw [List.find?_filter]
  split
  · subst c'
    simp
  · congr 2
    funext p
    by_cases hp : p.1 = c' <;> simp [*]

theorem faultOf_inject (c : EngineCall) (f : InjectedFault) (c' : EngineCall) :
    (m.inject c f).faultOf c' = if c' = c then some f else m.faultOf c' := by
  have hclear := faultOf_clear m c c'
  unfold faultOf clear at hclear
  unfold faultOf inject
  rw [List.find?_append, Option.map_or, hclear]
  split
  · simp [*]
  · simp [Ne.symm ‹c' ≠ c›]

section Enter

variable {m} {c : EngineCall} {code : Code}

theorem enter_none (h : m.faultOf c = none) : m.enter c = (.ok (), m.counted c) := by
  simp only [faultOf, Option.map_eq_none_iff] at h
  simp [enter, counted, h]

theorem enter_last (h : m.faultOf c = some ⟨code, some 0⟩) :
    m.enter c = (.ok (), (m.counted c).clear c) := by
  obtain ⟨⟨c', f⟩, hp, rfl⟩ := Option.map_eq_some_iff.1 h
  simp [enter, counted, clear, hp]

theorem enter_failing {n : Nat} (h : m.faultOf c = some ⟨code, some (n + 1)⟩) :
    m.enter c = (.error (injected code c), (m.counted c).inject c ⟨code, some n⟩) := by
  obtain ⟨⟨c', f⟩, hp, rfl⟩ := Option.map_eq_some_iff.1 h
  simp [enter, counted, inject, injected, hp]

theorem enter_always (h : m.faultOf c = some ⟨code, none⟩) :
    m.enter c = (.error (injected code c), m.counted c) := by
  obtain ⟨⟨c', f⟩, hp, rfl⟩ := Option.map_eq_some_iff.1 h
  simp [enter, counted, injected, hp]

end Enter

theorem clear_of_none {c : EngineCall} (h : m.faultOf c = none) : m.clear c = m := by
  simp only [faultOf, Option.map_eq_none_iff, List.find?_eq_none] at h
  have hkeep : m.faults.filter (·.1 != c) = m.faults :=
    List.filter_eq_self.2 fun p hp => by simpa using h p hp
  simp only [clear, hkeep]

theorem faultOf_enter (c c' : EngineCall) :
    (m.enter c).2.faultOf c' = if c' = c then InjectedFault.tick (m.faultOf c) else m.faultOf c' := by
  rcases hf : m.faultOf c with _ | ⟨code, _ | _ | n⟩
  · rw [enter_none hf]
    split <;> simp_all [InjectedFault.tick]
  · rw [enter_always hf]
    split <;> simp_all [InjectedFault.tick]
  · rw [enter_last hf, faultOf_clear]
    split <;> simp [InjectedFault.tick]
  · rw [enter_failing hf, faultOf_inject]
    split <;> simp [InjectedFault.tick]

theorem enter_frame (c : EngineCall) :
    { (m.enter c).2 with calls := m.calls, faults := m.faults } = m := by
  rcases hf : m.faultOf c with _ | ⟨code, _ | _ | n⟩
  · rw [enter_none hf]
    rfl
  · rw [enter_always hf]
    rfl
  · rw [enter_last hf]
    rfl
  · rw [enter_failing hf]
    rfl

theorem enter_passes {c : EngineCall} (h : InjectedFault.fires (m.faultOf c) = false) :
    m.enter c = (.ok (), (m.clear c).counted c) := by
  rcases hf : m.faultOf c with _ | ⟨code, _ | _ | n⟩
  · rw [enter_none hf, clear_of_none m hf]
  · simp [hf, InjectedFault.fires] at h
  · rw [enter_last hf]
    rfl
  · simp [hf, InjectedFault.fires] at h

theorem enter_fails {c : EngineCall} {f : InjectedFault} (hf : m.faultOf c = some f)
    (h : InjectedFault.fires (m.faultOf c) = true) : (m.enter c).1 = .error (injected f.code c) := by
  obtain ⟨code, _ | _ | n⟩ := f
  · rw [enter_always hf]
  · simp [hf, InjectedFault.fires] at h
  · rw [enter_failing hf]

theorem clear_comm (c c' : EngineCall) : (m.clear c).clear c' = (m.clear c').clear c := by
  simp only [clear, List.filter_filter, Bool.and_comm]

theorem enter_clear {c c' : EngineCall} (hc : c' ≠ c) :
    (m.clear c).enter c' = ((m.enter c').1, (m.enter c').2.clear c) := by
  have hsame : (m.clear c).faultOf c' = m.faultOf c' := by simp [faultOf_clear, hc]
  rcases hf : m.faultOf c' with _ | ⟨code, _ | _ | n⟩
  · rw [enter_none (hsame.trans hf), enter_none hf]
    rfl
  · rw [enter_always (hsame.trans hf), enter_always hf]
    rfl
  · rw [enter_last (hsame.trans hf), enter_last hf]
    exact congrArg (Prod.mk _) (clear_comm (m.counted c') c c')
  · rw [enter_failing (hsame.trans hf), enter_failing hf]
    -- the re-injected fault of `c'` is not among those clearing `c` removes
    simp [inject, clear, counted, callCount, List.filter_filter, Bool.and_comm, hc]

variable (b : MockBehavior) (n : Nat)

section Faults

variable (fs : List (EngineCall × InjectedFault)) (id : String)

@[simp] theorem disk?_withFaults : ({ m with faults := fs }).disk? id = m.disk? id := rfl
@[simp] theorem transfer?_withFaults : ({ m with faults := fs }).transfer? id = m.transfer? id := rfl

theorem work_faults (r : EngineRequest) :
    ({ m with faults := fs }).work b n r =
      ((m.work b n r).1, { (m.work b n r).2.1 with faults := fs }, (m.work b n r).2.2) := by
  -- each call's work branches on the entry it names, which the faults do not change
  cases r with
  | createDisk p c => rfl
  | getDisk id | removeDisk id | createTransfer id _ _ =>
    cases h : m.disk? id <;>
      simp only [work, h, disk?_withFaults, updateDisk, Option.isSome_none, Option.isSome_some,
        Bool.false_eq_true, ↓reduceIte]
  | getTransfer id | finalizeTransfer id _ | cancelTransfer id =>
    cases h : m.transfer? id <;> simp only [work, h, transfer?_withFaults, updateTransfer, updateDisk]
  | listJobs c => rfl

end Faults

theorem faults_work (r : EngineRequest) : (m.work b n r).2.1.faults = m.faults :=
  congrArg (·.2.1.faults) (work_faults m b n m.faults r)

theorem calls_work (r : EngineRequest) : (m.work b n r).2.1.calls = m.calls := by
  cases r with
  | createDisk p c => rfl
  | getDisk id => cases h : m.disk? id <;> simp [work, h, updateDisk]
  | removeDisk id => cases h : m.disk? id <;> simp [work, h]
  | createTransfer d dir c => cases h : m.disk? d <;> simp [work, h]
  | getTransfer id => cases h : m.transfer? id <;> simp [work, h, updateTransfer]
  | finalizeTransfer id c => cases h : m.transfer? id <;> simp [work, h, updateTransfer, updateDisk]
  | cancelTransfer id => cases h : m.transfer? id <;> simp [work, h, updateTransfer]
  | listJobs c => rfl

/-- Work that ends in a failure leaves the engine as it found it: only a missing disk or
transfer fails a call's work. -/
theorem work_failed {r : EngineRequest} {e : Fault} (h : (m.work b n r).1.fault? = some e) :
    (m.work b n r).2.1 = m := by
  cases r with
  | createDisk p c => simp [work, EngineReply.fault?] at h
  | getDisk id => cases hd : m.disk? id <;> simp_all [work, EngineReply.fault?]
  | removeDisk id => cases hd : m.disk? id <;> simp_all [work, EngineReply.fault?]
  | createTransfer d dir c => cases hd : m.disk? d <;> simp_all [work, EngineReply.fault?]
  | getTransfer id => cases ht : m.transfer? id <;> simp_all [work, EngineReply.fault?]
  | finalizeTransfer id c => cases ht : m.transfer? id <;> simp_all [work, EngineReply.fault?]
  | cancelTransfer id => cases ht : m.transfer? id <;> simp_all [work, EngineReply.fault?]
  | listJobs c => simp [work, EngineReply.fault?] at h

theorem callCount_answer (r : EngineRequest) (c : EngineCall) :
    (m.answer b n r).2.1.callCount c = m.callCount c + if c = r.call then 1 else 0 := by
  rw [← enter_callCount m r.call c]
  unfold answer
  rcases m.enter r.call with ⟨_ | _, m'⟩
  · rfl
  · simp [callCount, calls_work]

theorem faultOf_answer (r : EngineRequest) (c : EngineCall) :
    (m.answer b n r).2.1.faultOf c =
      if c = r.call then InjectedFault.tick (m.faultOf r.call) else m.faultOf c := by
  rw [← faultOf_enter m r.call c]
  unfold answer
  rcases m.enter r.call with ⟨_ | _, m'⟩
  · rfl
  · simp [faultOf, faults_work]

theorem answer_passes {r : EngineRequest} (h : InjectedFault.fires (m.faultOf r.call) = false) :
    m.answer b n r = (m.clear r.call).answer b n r := by
  have hclear : InjectedFault.fires ((m.clear r.call).faultOf r.call) = false := by simp [faultOf_clear,
    InjectedFault.fires]
  unfold answer
  rw [enter_passes m h, enter_passes _ hclear, clear_comm, show (m.clear r.call).clear r.call =
    m.clear r.call from by simp [clear, List.filter_filter]]

theorem answer_fails {r : EngineRequest} {f : InjectedFault} (hf : m.faultOf r.call = some f)
    (h : InjectedFault.fires (m.faultOf r.call) = true) :
    (m.answer b n r).1 = r.failed (injected f.code r.call) := by
  unfold answer
  rcases he : m.enter r.call with ⟨_ | _, m'⟩
  · have := enter_fails m hf h
    simp_all
  · have := enter_fails m hf h
    simp_all

theorem answer_clear {r : EngineRequest} {c : EngineCall} (hc : r.call ≠ c) :
    (m.clear c).answer b n r =
      ((m.answer b n r).1, (m.answer b n r).2.1.clear c, (m.answer b n r).2.2) := by
  unfold answer
  rw [enter_clear m hc]
  rcases m.enter r.call with ⟨_ | u, m'⟩
  · rfl
  · cases u
    dsimp only
    rw [show m'.clear c = { m' with faults := m'.faults.filter (·.1 != c) } from rfl, work_faults,
      clear, faults_work]

theorem answer_failed {r : EngineRequest} {e : Fault} (h : (m.answer b n r).1.fault? = some e) :
    { (m.answer b n r).2.1 with calls := m.calls, faults := m.faults } = m := by
  have hframe := enter_frame m r.call
  unfold answer at h ⊢
  rcases he : m.enter r.call with ⟨_ | _, m'⟩
  · simpa [he] using hframe
  · rw [he] at h hframe
    rw [work_failed m' b n h]
    exact hframe

end MockState

namespace MockStep

def isCallOf (op : EngineCall) : MockStep → Bool
  | call r => r.call == op
  | _ => false

def configures (op : EngineCall) : MockStep → Bool
  | fail c _ | failTimes c _ _ => c == op
  | _ => false

variable (b : MockBehavior) (op : EngineCall)

theorem callCount_apply (s : MockStep) (m : MockState) (n : Nat) :
    (s.apply b m n).2.1.callCount op = m.callCount op + if s.isCallOf op then 1 else 0 := by
  cases s with
  | call r =>
    by_cases hr : r.call = op
    · simp [apply, isCallOf, MockState.callCount_answer, hr]
    · simp [apply, isCallOf, MockState.callCount_answer, hr, Ne.symm hr]
  | _ => rfl

theorem faultOf_apply {s : MockStep} (hs : s.configures op = false) (m : MockState) (n : Nat) :
    (s.apply b m n).2.1.faultOf op =
      if s.isCallOf op then InjectedFault.tick (m.faultOf op) else m.faultOf op := by
  cases s with
  | call r =>
    by_cases hr : r.call = op
    · simp [apply, isCallOf, MockState.faultOf_answer, hr]
    · simp [apply, isCallOf, MockState.faultOf_answer, hr, Ne.symm hr]
  | fail c code =>
    have hc : op ≠ c := fun h => by simp [configures, h] at hs
    simp [apply, isCallOf, MockState.fail, MockState.faultOf_inject, hc]
  | failTimes c code t =>
    have hc : op ≠ c := fun h => by simp [configures, h] at hs
    simp [apply, isCallOf, MockState.failTimes, MockState.faultOf_inject, hc]
  | _ => rfl

theorem callCount_after (steps : List MockStep) (w : World MockState) :
    (after b steps w).state.callCount op = w.state.callCount op + steps.countP (·.isCallOf op) := by
  induction steps generalizing w with
  | nil => rfl
  | cons s ss ih =>
    rw [after_cons, ih, run_apply, List.countP_cons]
    simp only [callCount_apply]
    omega

theorem faultOf_after (steps : List MockStep) (w : World MockState)
    (hs : ∀ s ∈ steps, s.configures op = false) :
    (after b steps w).state.faultOf op =
      InjectedFault.tick^[steps.countP (·.isCallOf op)] (w.state.faultOf op) := by
  induction steps generalizing w with
  | nil => rfl
  | cons s ss ih =>
    rw [after_cons, ih _ fun s' h => hs s' (List.mem_cons_of_mem s h), run_apply, List.countP_cons]
    simp only [faultOf_apply b op (hs s List.mem_cons_self)]
    split
    · rw [Function.iterate_add_apply, Function.iterate_one]
    · rfl

/-- The reply of a call of `op` after a fault set for `t` calls and `pre`: a failure while
failures are left, else the call goes ahead as on the engine without that fault. -/
theorem failTimes_call (w : World MockState) (code : Code) (t : Nat) (pre : List MockStep)
    (r : EngineRequest) (hpre : ∀ s ∈ pre, s.configures op = false) (hr : r.call = op) :
    let w' := after b (failTimes op code t :: pre) w
    (pre.countP (·.isCallOf op) < t →
      ((r.send (Mock.engine b (Lens.id MockState))).run w').1 =
        .ok (r.failed (MockState.injected code op))) ∧
    (t ≤ pre.countP (·.isCallOf op) →
      (r.send (Mock.engine b (Lens.id MockState))).run w' =
        (r.send (Mock.engine b (Lens.id MockState))).run { w' with state := w'.state.clear op }) := by
  intro w'
  have hfault : w'.state.faultOf op =
      InjectedFault.tick^[pre.countP (·.isCallOf op)] (some ⟨code, some t⟩) := by
    simp only [w', after_cons, run_apply, faultOf_after b op pre _ hpre]
    simp [apply, MockState.failTimes, MockState.faultOf_inject]
  rw [InjectedFault.tick_iterate_limited] at hfault
  subst hr
  constructor
  · intro hlt
    rw [if_pos hlt.le] at hfault
    have hfires : InjectedFault.fires (w'.state.faultOf r.call) = true := by
      simp only [hfault, InjectedFault.fires_limited, decide_eq_true_eq]
      omega
    rw [Mock.send_answer, MockState.answer_fails _ b _ hfault hfires]
  · intro hle
    have hfires : InjectedFault.fires (w'.state.faultOf r.call) = false := by
      split at hfault
      · simp only [hfault, InjectedFault.fires_limited, decide_eq_false_iff_not]
        omega
      · rw [hfault]
        rfl
    rw [Mock.send_answer, Mock.send_answer, MockState.answer_passes _ b _ hfires]

theorem fail_call (w : World MockState) (code : Code) (pre : List MockStep) (r : EngineRequest)
    (hpre : ∀ s ∈ pre, s.configures op = false) (hr : r.call = op) :
    ((r.send (Mock.engine b (Lens.id MockState))).run (after b (fail op code :: pre) w)).1 =
      .ok (r.failed (MockState.injected code op)) := by
  have hfault : (after b (fail op code :: pre) w).state.faultOf op = some ⟨code, none⟩ := by
    simp only [after_cons, run_apply, faultOf_after b op pre _ hpre]
    simp [apply, MockState.fail, MockState.faultOf_inject, InjectedFault.tick_iterate_always]
  subst hr
  rw [Mock.send_answer, MockState.answer_fails _ b _ hfault (by rw [hfault]; rfl)]

end MockStep

end DiskUploader
