import DiskUploader.Proofs.MockCalls

/-!
# Two clients of one in-memory engine

Two clients talk to one in-memory engine, one request at a time, in any order. Each names only
the disks and transfers the engine created for it, and its own correlation ids, which the other
never uses. Then each client gets the answers it would get talking to a fresh engine alone, on
which the ids the other took are handed out elsewhere; and the engine ends up holding the disks,
transfers and jobs of the two lone engines together.

The reason is that every call reads and changes only the entries its arguments name: the disk or
transfer of its id, the jobs of its correlation id, and the entries it creates under fresh ids.
The shared parts, the call counts and the records of removed, cancelled and finalized entries,
answer nothing.

Every call is a function of the engine's state and of the next fresh id: the call is counted,
its injected fault may fail it, and otherwise it does its work on the entries its arguments name.
`MockState.answer` says so in one function, and `Mock.send_answer` proves that this is what the
engine's calls do on their own timeline. With no fault injected and no phase forced it is
`MockState.serve`, which the isolation argument follows.
-/

namespace DiskUploader

/-- A call to the engine with its arguments. -/
inductive EngineRequest where
  | createDisk (p : DiskCreation) (c : CorrelationId)
  | getDisk (id : String)
  | removeDisk (id : String)
  | createTransfer (diskId : String) (dir : Direction) (c : CorrelationId)
  | getTransfer (id : String)
  | finalizeTransfer (id : String) (c : CorrelationId)
  | cancelTransfer (id : String)
  | listJobs (c : CorrelationId)

/-- The engine's answer to a request. -/
inductive EngineReply where
  | disk (r : Except Fault Disk)
  | transfer (r : Except Fault Transfer)
  | done (r : Except Fault Unit)
  | jobs (r : Except Fault (List Job))
  deriving DecidableEq

namespace EngineRequest

def send {σ : Type} (e : Engine σ) : EngineRequest → Timed σ EngineReply
  | .createDisk p c => EngineReply.disk <$> e.createDisk p c
  | .getDisk id => EngineReply.disk <$> e.getDisk id
  | .removeDisk id => EngineReply.done <$> e.removeDisk id
  | .createTransfer d dir c => EngineReply.transfer <$> e.createTransfer d dir c
  | .getTransfer id => EngineReply.transfer <$> e.getTransfer id
  | .finalizeTransfer id c => EngineReply.done <$> e.finalizeTransfer id c
  | .cancelTransfer id => EngineReply.done <$> e.cancelTransfer id
  | .listJobs c => EngineReply.jobs <$> e.listJobs c

def ids : EngineRequest → List String
  | .createDisk _ _ | .listJobs _ => []
  | .getDisk id | .removeDisk id | .getTransfer id | .finalizeTransfer id _
  | .cancelTransfer id => [id]
  | .createTransfer d _ _ => [d]

def correlations : EngineRequest → List CorrelationId
  | .createDisk _ c | .createTransfer _ _ c | .finalizeTransfer _ c | .listJobs c => [c]
  | _ => []

end EngineRequest

/-- The ids an answer names: of the disk, of the transfer and its disk, of the jobs. -/
def EngineReply.ids : EngineReply → List String
  | .disk (.ok d) => [d.id]
  | .transfer (.ok t) => [t.id, t.diskId]
  | .jobs (.ok js) => js.map (·.id)
  | _ => []

namespace MockState

/-- What the engine answers a request when no fault is injected and no phase forced, with the
fresh ids numbered from `n`: the answer, the engine after it, and how many ids it took. -/
def serve (b : MockBehavior) (n : Nat) (m : MockState) : EngineRequest → EngineReply × MockState × Nat
  | .createDisk p c =>
    (.disk (.ok (Mock.createdDisk b p (uuidOf n))),
      m.creating (Mock.createdDisk b p (uuidOf n)) b.lockedPolls
        (Mock.startedJob b c (uuidOf (n + 1)) s!"Adding disk {p.aliasName}"), 2)
  | .getDisk id =>
    match m.disk? id with
    | none => (.disk (.error (notFound "disk" id)), m.counted .getDisk, 0)
    | some d => (.disk (.ok d.polled.disk), (m.counted .getDisk).updateDisk id fun _ => d.polled, 0)
  | .removeDisk id =>
    match m.disk? id with
    | none => (.done (.error (notFound "disk" id)), m.counted .removeDisk, 0)
    | some _ =>
      (.done (.ok ()), { m.counted .removeDisk with
        disks := m.disks.filter (·.disk.id != id)
        removed := m.removed ++ [id] }, 0)
  | .createTransfer d _ _ =>
    if (m.disk? d).isSome then
      (.transfer (.ok (Mock.openedTransfer d (uuidOf n))),
        m.opening (Mock.openedTransfer d (uuidOf n)) b.initializingPolls, 1)
    else (.transfer (.error (notFound "disk" d)), m.counted .createTransfer, 0)
  | .getTransfer id =>
    match m.transfer? id with
    | none => (.transfer (.error (notFound "image transfer" id)), m.counted .getTransfer, 0)
    | some t =>
      (.transfer (.ok t.polled.transfer),
        (m.counted .getTransfer).updateTransfer id fun _ => t.polled, 0)
  | .finalizeTransfer id c =>
    match m.transfer? id with
    | none => (.done (.error (notFound "image transfer" id)), m.counted .finalizeTransfer, 0)
    | some t =>
      (.done (.ok ()), m.finalizing id t.transfer.diskId b.lockedPolls
        (Mock.startedJob b c (uuidOf n) s!"Finalizing transfer {id}"), 1)
  | .cancelTransfer id =>
    match m.transfer? id with
    | none => (.done (.error (notFound "image transfer" id)), m.counted .cancelTransfer, 0)
    | some _ =>
      (.done (.ok ()), { (m.counted .cancelTransfer).updateTransfer id
          (fun t => { t with transfer := { t.transfer with phase := .other "cancelled" } }) with
        cancelled := m.cancelled ++ [id] }, 0)
  | .listJobs c =>
    (.jobs (.ok ((m.jobs.filter (·.correlation == c)).map (·.job))),
      { m.counted .listJobs with
        jobs := m.jobs.map fun j => if j.correlation == c then Mock.StoredJob.poll j else j }, 0)

end MockState

namespace EngineRequest

def call : EngineRequest → EngineCall
  | .createDisk .. => .createDisk
  | .getDisk _ => .getDisk
  | .removeDisk _ => .removeDisk
  | .createTransfer .. => .createTransfer
  | .getTransfer _ => .getTransfer
  | .finalizeTransfer .. => .finalizeTransfer
  | .cancelTransfer _ => .cancelTransfer
  | .listJobs _ => .listJobs

def failed (e : Fault) : EngineRequest → EngineReply
  | .createDisk .. | .getDisk _ => .disk (.error e)
  | .createTransfer .. | .getTransfer _ => .transfer (.error e)
  | .removeDisk _ | .finalizeTransfer .. | .cancelTransfer _ => .done (.error e)
  | .listJobs _ => .jobs (.error e)

end EngineRequest

def EngineReply.fault? : EngineReply → Option Fault
  | .disk (.error e) | .transfer (.error e) | .done (.error e) | .jobs (.error e) => some e
  | _ => none

@[simp] theorem EngineRequest.fault?_failed (e : Fault) (r : EngineRequest) :
    (r.failed e).fault? = some e := by
  cases r <;> rfl

/-- A transfer as one read leaves it: in the forced phase if one is set, else as a poll leaves
it. -/
def StoredTransfer.read (forced : Option TransferPhase) (t : StoredTransfer) : StoredTransfer :=
  match forced with
  | some p => { t with transfer := { t.transfer with phase := p } }
  | none => t.polled

namespace MockState

/-- What a call that no fault stopped does, on the engine that counted it, with the fresh ids
numbered from `n`: the answer, the engine after it, and how many ids it took. -/
def work (b : MockBehavior) (n : Nat) (m : MockState) :
    EngineRequest → EngineReply × MockState × Nat
  | .createDisk p c =>
    let d := Mock.createdDisk b p (uuidOf n)
    (.disk (.ok d), { m with
      disks := m.disks ++ [⟨d, b.lockedPolls, none⟩]
      jobs := m.jobs ++ [Mock.startedJob b c (uuidOf (n + 1)) s!"Adding disk {p.aliasName}"] }, 2)
  | .getDisk id =>
    match m.disk? id with
    | none => (.disk (.error (notFound "disk" id)), m, 0)
    | some d => (.disk (.ok d.polled.disk), m.updateDisk id fun _ => d.polled, 0)
  | .removeDisk id =>
    match m.disk? id with
    | none => (.done (.error (notFound "disk" id)), m, 0)
    | some _ =>
      (.done (.ok ()), { m with
        disks := m.disks.filter (·.disk.id != id)
        removed := m.removed ++ [id] }, 0)
  | .createTransfer d _ _ =>
    if (m.disk? d).isSome then
      let t := Mock.openedTransfer d (uuidOf n)
      (.transfer (.ok t), { m with transfers := m.transfers ++ [⟨t, b.initializingPolls⟩] }, 1)
    else (.transfer (.error (notFound "disk" d)), m, 0)
  | .getTransfer id =>
    match m.transfer? id with
    | none => (.transfer (.error (notFound "image transfer" id)), m, 0)
    | some t =>
      (.transfer (.ok (t.read m.forcedPhase).transfer),
        m.updateTransfer id fun _ => t.read m.forcedPhase, 0)
  | .finalizeTransfer id c =>
    match m.transfer? id with
    | none => (.done (.error (notFound "image transfer" id)), m, 0)
    | some t =>
      let m' := (m.updateTransfer id fun t =>
          { t with transfer := { t.transfer with phase := .other "finalizing_success" } }).updateDisk
        t.transfer.diskId fun d =>
          { d with lockedLeft := b.lockedPolls, statusOverride := m.statusAfterFinalize }
      (.done (.ok ()), { m' with
        finalized := m'.finalized ++ [id]
        jobs := m'.jobs ++ [Mock.startedJob b c (uuidOf n) s!"Finalizing transfer {id}"] }, 1)
  | .cancelTransfer id =>
    match m.transfer? id with
    | none => (.done (.error (notFound "image transfer" id)), m, 0)
    | some _ =>
      let m' := m.updateTransfer id fun t =>
        { t with transfer := { t.transfer with phase := .other "cancelled" } }
      (.done (.ok ()), { m' with cancelled := m'.cancelled ++ [id] }, 0)
  | .listJobs c =>
    (.jobs (.ok ((m.jobs.filter (·.correlation == c)).map (·.job))),
      { m with jobs := m.jobs.map fun j => if j.correlation == c then Mock.StoredJob.poll j else j },
      0)

/-- What the engine answers a request, with the fresh ids numbered from `n`: the call is
counted, its injected fault may fail it, and otherwise it does its work. -/
def answer (b : MockBehavior) (n : Nat) (m : MockState) (r : EngineRequest) :
    EngineReply × MockState × Nat :=
  match m.enter r.call with
  | (.error e, m') => (r.failed e, m', 0)
  | (.ok (), m') => m'.work b n r

end MockState

namespace Mock

variable (b : MockBehavior) (w : World MockState)

theorem entered_id_enter {α : Type} (c : EngineCall) (k : Timed MockState (Except Fault α)) :
    (entered (Lens.id MockState) c k).run w =
      match w.state.enter c with
      | (.error e, m) => (.ok (.error e), { w with state := m })
      | (.ok (), m) => k.run { w with state := m } := by
  rcases h : w.state.enter c with ⟨_ | _, m⟩ <;> simp [entered, enter, view, store, Lens.id, h]

/-- The engine on its own timeline answers a request as `answer` says, taking its fresh ids
from the timeline. -/
theorem send_answer (r : EngineRequest) :
    (r.send (engine b (Lens.id MockState))).run w =
      (.ok (w.state.answer b w.serial r).1,
        { w with
          state := (w.state.answer b w.serial r).2.1
          serial := w.serial + (w.state.answer b w.serial r).2.2 }) := by
  unfold MockState.answer
  -- the fault, if any, fails the call; otherwise the call's work runs on the counted engine
  cases r with
  | createDisk p c =>
    simp only [EngineRequest.send, engine, createDisk, Timed.run_map, entered_id_enter,
      EngineRequest.call]
    rcases w.state.enter .createDisk with ⟨_ | _, m⟩
    · simp [EngineRequest.failed]
    · simp [MockState.work, view, store, startJob, freshId, Timed.fresh, Lens.id, createdDisk,
        startedJob]
  | getDisk id =>
    simp only [EngineRequest.send, engine, getDisk, Timed.run_map, entered_id_enter,
      EngineRequest.call]
    rcases w.state.enter .getDisk with ⟨_ | _, m⟩
    · simp [EngineRequest.failed]
    · cases hd : m.disk? id with
      | none => simp [MockState.work, view, Lens.id, hd]
      | some d =>
        simp [MockState.work, view, store, Lens.id, hd]
        exact ⟨rfl, rfl⟩
  | removeDisk id =>
    simp only [EngineRequest.send, engine, removeDisk, Timed.run_map, entered_id_enter,
      EngineRequest.call]
    rcases w.state.enter .removeDisk with ⟨_ | _, m⟩
    · simp [EngineRequest.failed]
    · cases hd : m.disk? id <;> simp [MockState.work, view, store, Lens.id, hd]
  | createTransfer d dir c =>
    simp only [EngineRequest.send, engine, createTransfer, Timed.run_map, entered_id_enter,
      EngineRequest.call]
    rcases w.state.enter .createTransfer with ⟨_ | _, m⟩
    · simp [EngineRequest.failed]
    · cases hd : m.disk? d <;>
        simp [MockState.work, view, store, freshId, Timed.fresh, Lens.id, hd, openedTransfer]
  | getTransfer id =>
    simp only [EngineRequest.send, engine, getTransfer, Timed.run_map, entered_id_enter,
      EngineRequest.call]
    rcases w.state.enter .getTransfer with ⟨_ | _, m⟩
    · simp [EngineRequest.failed]
    · cases ht : m.transfer? id with
      | none => simp [MockState.work, view, Lens.id, ht]
      | some t =>
        cases hp : m.forcedPhase with
        | none =>
          simp [MockState.work, view, store, Lens.id, ht, hp, StoredTransfer.read]
          exact ⟨rfl, rfl⟩
        | some p => simp [MockState.work, view, store, Lens.id, ht, hp, StoredTransfer.read]
  | finalizeTransfer id c =>
    simp only [EngineRequest.send, engine, finalizeTransfer, Timed.run_map, entered_id_enter,
      EngineRequest.call]
    rcases w.state.enter .finalizeTransfer with ⟨_ | _, m⟩
    · simp [EngineRequest.failed]
    · cases ht : m.transfer? id <;>
        simp [MockState.work, view, store, startJob, freshId, Timed.fresh, Lens.id, ht, startedJob]
  | cancelTransfer id =>
    simp only [EngineRequest.send, engine, cancelTransfer, Timed.run_map, entered_id_enter,
      EngineRequest.call]
    rcases w.state.enter .cancelTransfer with ⟨_ | _, m⟩
    · simp [EngineRequest.failed]
    · cases ht : m.transfer? id <;> simp [MockState.work, view, store, Lens.id, ht]
  | listJobs c =>
    simp only [EngineRequest.send, engine, listJobs, Timed.run_map, entered_id_enter,
      EngineRequest.call]
    rcases w.state.enter .listJobs with ⟨_ | _, m⟩
    · simp [EngineRequest.failed]
    · simp [MockState.work, view, store, Lens.id]

end Mock

namespace MockState

theorem answer_eq_serve (b : MockBehavior) (n : Nat) {m : MockState} (hf : m.faults = [])
    (hp : m.forcedPhase = none) (r : EngineRequest) : m.answer b n r = m.serve b n r := by
  have he : m.enter r.call = (.ok (), m.counted r.call) := by simp [enter, counted, hf]
  unfold answer
  rw [he]
  -- the work on the counted engine is what `serve` does, the forced phase aside
  cases r with
  | getTransfer id =>
    cases ht : m.transfer? id <;>
      simp [work, serve, ht, hp, StoredTransfer.read, EngineRequest.call]
  | _ => rfl

end MockState

namespace Mock

variable (b : MockBehavior) (w : World MockState)

/-- The engine on its own timeline serves a request as `serve` says, taking its fresh ids from
the timeline. -/
theorem send_run (hf : w.state.faults = []) (hp : w.state.forcedPhase = none) (r : EngineRequest) :
    (r.send (engine b (Lens.id MockState))).run w =
      (.ok (w.state.serve b w.serial r).1,
        { w with
          state := (w.state.serve b w.serial r).2.1
          serial := w.serial + (w.state.serve b w.serial r).2.2 }) := by
  rw [send_answer, MockState.answer_eq_serve b w.serial hf hp r]

end Mock

section Ids

theorem hexDigit_toNat {a : Nat} (ha : a < 16) :
    (CorrelationId.hexDigit a).toNat = if a < 10 then 48 + a else 87 + a := by
  unfold CorrelationId.hexDigit
  split <;> simp [Char.toNat_ofNat, Nat.isValidChar] <;> omega

theorem hexDigit_inj {a c : Nat} (ha : a < 16) (hc : c < 16)
    (h : CorrelationId.hexDigit a = CorrelationId.hexDigit c) : a = c := by
  have hn := congrArg Char.toNat h
  rw [hexDigit_toNat ha, hexDigit_toNat hc] at hn
  split_ifs at hn <;> omega

theorem mod_eq_of_digits {s t : Nat} :
    ∀ k, (∀ i < k, s / 16 ^ i % 16 = t / 16 ^ i % 16) → s % 16 ^ k = t % 16 ^ k
  | 0, _ => by simp only [Nat.pow_zero, Nat.mod_one]
  | k + 1, h => by
    rw [Nat.mod_pow_succ, Nat.mod_pow_succ, mod_eq_of_digits k fun i hi => h i (by omega),
      h k (by omega)]

theorem digits_of_hexText {width s t : Nat} (h : hexText width s = hexText width t) :
    ∀ i < width, s / 16 ^ i % 16 = t / 16 ^ i % 16 := by
  intro i hi
  have hmap := List.map_inj_left.1 (String.ofList_injective h) i (by simpa using hi)
  simp only [Nat.pow_eq] at hmap
  exact hexDigit_inj (Nat.mod_lt _ (by decide)) (Nat.mod_lt _ (by decide)) hmap

theorem uuidOf_inj {s t : Nat} (hs : s < 16 ^ 12) (ht : t < 16 ^ 12) (h : uuidOf s = uuidOf t) :
    s = t := by
  have htext : hexText 12 s = hexText 12 t := (String.append_right_inj _).1 h
  have hmod := mod_eq_of_digits 12 (digits_of_hexText htext)
  rwa [Nat.mod_eq_of_lt hs, Nat.mod_eq_of_lt ht] at hmod

end Ids

/-- The entries of `l` fall to two owners by their keys: `l₁` are those whose key `p` owns and
`l₂` those `q` owns, and each entry's key has exactly one owner. -/
structure Split {α β : Type} (key : α → β) (p q : β → Bool) (l l₁ l₂ : List α) : Prop where
  left : l.filter (fun x => p (key x)) = l₁
  right : l.filter (fun x => q (key x)) = l₂
  one : ∀ x ∈ l, q (key x) = !p (key x)

namespace Split

variable {α β : Type} {key : α → β} {p q : β → Bool} {l l₁ l₂ : List α}

theorem nil : Split key p q [] [] [] := ⟨rfl, rfl, fun _ h => absurd h List.not_mem_nil⟩

theorem swap (h : Split key p q l l₁ l₂) : Split key q p l l₂ l₁ :=
  ⟨h.right, h.left, fun x hx => by simp [h.one x hx]⟩

theorem perm (h : Split key p q l l₁ l₂) : l.Perm (l₁ ++ l₂) := by
  have hq : l.filter (fun x => q (key x)) = l.filter (fun x => !p (key x)) :=
    List.filter_congr h.one
  rw [← h.left, ← h.right, hq]
  exact (List.filter_append_perm _ l).symm

theorem filter_eq (h : Split key p q l l₁ l₂) {r : α → Bool}
    (hr : ∀ x, r x = true → p (key x) = true) : l.filter r = l₁.filter r := by
  rw [← h.left, List.filter_filter]
  refine List.filter_congr fun x _ => ?_
  cases hrx : r x with
  | false => simp
  | true => simp [hr x hrx]

theorem find?_eq (h : Split key p q l l₁ l₂) {r : α → Bool}
    (hr : ∀ x, r x = true → p (key x) = true) : l.find? r = l₁.find? r := by
  rw [← h.left, List.find?_filter]
  congr 1
  funext x
  cases hrx : r x with
  | false => simp
  | true => simp [hr x hrx]

theorem map (h : Split key p q l l₁ l₂) (g : α → α) (hk : ∀ x, key (g x) = key x)
    (hg : ∀ x, q (key x) = true → g x = x) : Split key p q (l.map g) (l₁.map g) l₂ := by
  refine ⟨?_, ?_, fun x hx => ?_⟩
  · rw [List.filter_map, ← h.left]
    congr 2
    funext x
    simp [hk]
  · rw [List.filter_map, ← h.right]
    have hfun : ((fun x => q (key x)) ∘ g) = fun x => q (key x) := by
      funext x
      simp [hk]
    rw [hfun, List.map_congr_left fun x hx => hg x (by simpa using List.of_mem_filter hx), List.map_id']
  · obtain ⟨y, hy, rfl⟩ := List.mem_map.1 hx
    rw [hk]
    exact h.one y hy

theorem filter (h : Split key p q l l₁ l₂) (r : α → Bool)
    (hr : ∀ x, q (key x) = true → r x = true) : Split key p q (l.filter r) (l₁.filter r) l₂ := by
  refine ⟨?_, ?_, fun x hx => h.one x (List.mem_of_mem_filter hx)⟩
  · rw [← h.left, List.filter_filter, List.filter_filter]
    congr 1
    funext x
    exact Bool.and_comm _ _
  · rw [← h.right, List.filter_filter]
    refine List.filter_congr fun x _ => ?_
    cases hqx : q (key x) <;> simp [hr x, hqx]

theorem append (h : Split key p q l l₁ l₂) {x : α} (hp : p (key x) = true)
    (hq : q (key x) = false) : Split key p q (l ++ [x]) (l₁ ++ [x]) l₂ := by
  refine ⟨by simp [List.filter_append, h.left, hp], by simp [List.filter_append, h.right, hq],
    fun y hy => ?_⟩
  rcases List.mem_append.1 hy with hy | hy
  · exact h.one y hy
  · rw [List.mem_singleton.1 hy, hp, hq]
    rfl

theorem widen (h : Split key p q l l₁ l₂) {p' : β → Bool} (hp : ∀ x ∈ l, p' (key x) = p (key x)) :
    Split key p' q l l₁ l₂ :=
  ⟨by rw [← h.left]; exact List.filter_congr hp, h.right, fun x hx => by rw [hp x hx]; exact h.one x hx⟩

end Split

section Polls

@[simp] theorem StoredDisk.id_polled (d : StoredDisk) : d.polled.disk.id = d.disk.id := by
  unfold StoredDisk.polled
  split
  · rfl
  · split <;> rfl

@[simp] theorem StoredTransfer.id_polled (t : StoredTransfer) : t.polled.transfer.id = t.transfer.id := by
  unfold StoredTransfer.polled
  split
  · split <;> rfl
  · rfl

@[simp] theorem StoredTransfer.diskId_polled (t : StoredTransfer) :
    t.polled.transfer.diskId = t.transfer.diskId := by
  unfold StoredTransfer.polled
  split
  · split <;> rfl
  · rfl

@[simp] theorem Mock.StoredJob.correlation_poll (j : StoredJob) :
    (Mock.StoredJob.poll j).correlation = j.correlation := by
  unfold Mock.StoredJob.poll
  split <;> rfl

@[simp] theorem Mock.StoredJob.id_poll (j : StoredJob) : (Mock.StoredJob.poll j).job.id = j.job.id := by
  unfold Mock.StoredJob.poll
  split <;> rfl

end Polls

/-- The entries an engine holds. -/
structure Holdings where
  disks : List StoredDisk
  transfers : List StoredTransfer
  jobs : List StoredJob

def MockState.holdings (m : MockState) : Holdings := ⟨m.disks, m.transfers, m.jobs⟩

/-- A shared engine holds the entries `h` of two lone engines, `h₁` and `h₂`: the disks and
transfers under the ids handed to each, `ids₁` and `ids₂`, and the jobs of the correlation ids of
each, `cs₁` and `cs₂`. The transfers of a lone engine write into its own disks and its jobs carry
its own ids, and the two share no id and no correlation id. -/
structure Isolated (ids₁ ids₂ : List String) (cs₁ cs₂ : List CorrelationId) (h h₁ h₂ : Holdings) :
    Prop where
  disks : Split (·.disk.id) (fun k => decide (k ∈ ids₁)) (fun k => decide (k ∈ ids₂))
    h.disks h₁.disks h₂.disks
  transfers : Split (·.transfer.id) (fun k => decide (k ∈ ids₁)) (fun k => decide (k ∈ ids₂))
    h.transfers h₁.transfers h₂.transfers
  jobs : Split (·.correlation) (fun c => decide (c ∈ cs₁)) (fun c => decide (c ∈ cs₂))
    h.jobs h₁.jobs h₂.jobs
  diskIds₁ : ∀ t ∈ h₁.transfers, t.transfer.diskId ∈ ids₁
  diskIds₂ : ∀ t ∈ h₂.transfers, t.transfer.diskId ∈ ids₂
  jobIds₁ : ∀ j ∈ h₁.jobs, j.job.id ∈ ids₁
  jobIds₂ : ∀ j ∈ h₂.jobs, j.job.id ∈ ids₂
  apart : ∀ k ∈ ids₁, k ∉ ids₂
  apartCs : ∀ c ∈ cs₁, c ∉ cs₂

namespace Isolated

variable {ids₁ ids₂ : List String} {cs₁ cs₂ : List CorrelationId} {h h₁ h₂ : Holdings}

theorem swap (hI : Isolated ids₁ ids₂ cs₁ cs₂ h h₁ h₂) : Isolated ids₂ ids₁ cs₂ cs₁ h h₂ h₁ :=
  ⟨hI.disks.swap, hI.transfers.swap, hI.jobs.swap, hI.diskIds₂, hI.diskIds₁, hI.jobIds₂,
    hI.jobIds₁, fun k hk h₁ => hI.apart k h₁ hk, fun c hc h₁ => hI.apartCs c h₁ hc⟩

section Reads

variable (hI : Isolated ids₁ ids₂ cs₁ cs₂ h h₁ h₂)
include hI

theorem id_mem_of_disk {d : StoredDisk} (hd : d ∈ h₁.disks) : d.disk.id ∈ ids₁ := by
  rw [← hI.disks.left] at hd
  simpa using List.of_mem_filter hd

theorem find_disk {k : String} (hk : k ∈ ids₁) :
    h.disks.find? (·.disk.id == k) = h₁.disks.find? (·.disk.id == k) :=
  hI.disks.find?_eq fun x hx => by simpa [beq_iff_eq.1 hx] using hk

theorem find_transfer {k : String} (hk : k ∈ ids₁) :
    h.transfers.find? (·.transfer.id == k) = h₁.transfers.find? (·.transfer.id == k) :=
  hI.transfers.find?_eq fun x hx => by simpa [beq_iff_eq.1 hx] using hk

theorem jobs_of {c : CorrelationId} (hc : c ∈ cs₁) :
    h.jobs.filter (·.correlation == c) = h₁.jobs.filter (·.correlation == c) :=
  hI.jobs.filter_eq fun x hx => by simpa [beq_iff_eq.1 hx] using hc

end Reads

section Changes

variable (hI : Isolated ids₁ ids₂ cs₁ cs₂ h h₁ h₂)
include hI

theorem mapDisk {k : String} (hk : k ∈ ids₁) (f : StoredDisk → StoredDisk)
    (hf : ∀ d, d.disk.id = k → (f d).disk.id = k) :
    Isolated ids₁ ids₂ cs₁ cs₂
      { h with disks := h.disks.map fun d => if d.disk.id == k then f d else d }
      { h₁ with disks := h₁.disks.map fun d => if d.disk.id == k then f d else d } h₂ := by
  refine { hI with disks := hI.disks.map _ (fun d => ?_) (fun d hd => ?_) }
  · by_cases hdk : d.disk.id = k
    · simp [hdk, hf d hdk]
    · simp [hdk]
  · have hne : d.disk.id ≠ k := fun he => hI.apart k hk (by simpa [he] using hd)
    simp [hne]

theorem mapTransfer {k : String} (hk : k ∈ ids₁) (f : StoredTransfer → StoredTransfer)
    (hf : ∀ t, t.transfer.id = k → (f t).transfer.id = k)
    (hdisk : ∀ t ∈ h₁.transfers, t.transfer.id = k → (f t).transfer.diskId ∈ ids₁) :
    Isolated ids₁ ids₂ cs₁ cs₂
      { h with transfers := h.transfers.map fun t => if t.transfer.id == k then f t else t }
      { h₁ with transfers := h₁.transfers.map fun t => if t.transfer.id == k then f t else t }
      h₂ := by
  refine { hI with
    transfers := hI.transfers.map _ (fun t => ?_) (fun t ht => ?_)
    diskIds₁ := fun t ht => ?_ }
  · by_cases htk : t.transfer.id = k
    · simp [htk, hf t htk]
    · simp [htk]
  · have hne : t.transfer.id ≠ k := fun he => hI.apart k hk (by simpa [he] using ht)
    simp [hne]
  · obtain ⟨t₀, ht₀, rfl⟩ := List.mem_map.1 ht
    by_cases htk : t₀.transfer.id = k
    · simpa [htk] using hdisk t₀ ht₀ htk
    · simpa [htk] using hI.diskIds₁ t₀ ht₀

theorem dropDisk {k : String} (hk : k ∈ ids₁) :
    Isolated ids₁ ids₂ cs₁ cs₂ { h with disks := h.disks.filter (·.disk.id != k) }
      { h₁ with disks := h₁.disks.filter (·.disk.id != k) } h₂ :=
  { hI with
    disks := hI.disks.filter _ fun d hd => by
      have hne : d.disk.id ≠ k := fun he => hI.apart k hk (by simpa [he] using hd)
      simpa using hne }

theorem pollJobs {c : CorrelationId} (hc : c ∈ cs₁) :
    Isolated ids₁ ids₂ cs₁ cs₂
      { h with jobs := h.jobs.map fun j => if j.correlation == c then Mock.StoredJob.poll j else j }
      { h₁ with jobs := h₁.jobs.map fun j => if j.correlation == c then Mock.StoredJob.poll j else j }
      h₂ := by
  refine { hI with
    jobs := hI.jobs.map _ (fun j => ?_) (fun j hj => ?_)
    jobIds₁ := fun j hj => ?_ }
  · by_cases hjc : j.correlation = c <;> simp [hjc]
  · have hne : j.correlation ≠ c := fun he => hI.apartCs c hc (by simpa [he] using hj)
    simp [hne]
  · obtain ⟨j₀, hj₀, rfl⟩ := List.mem_map.1 hj
    by_cases hjc : j₀.correlation = c <;> simpa [hjc] using hI.jobIds₁ j₀ hj₀

theorem addDisk {d : StoredDisk} (hd : d.disk.id ∈ ids₁) :
    Isolated ids₁ ids₂ cs₁ cs₂ { h with disks := h.disks ++ [d] } { h₁ with disks := h₁.disks ++ [d] }
      h₂ :=
  { hI with disks := hI.disks.append (by simpa using hd) (by simpa using hI.apart _ hd) }

theorem addTransfer {t : StoredTransfer} (ht : t.transfer.id ∈ ids₁)
    (hdisk : t.transfer.diskId ∈ ids₁) :
    Isolated ids₁ ids₂ cs₁ cs₂ { h with transfers := h.transfers ++ [t] }
      { h₁ with transfers := h₁.transfers ++ [t] } h₂ :=
  { hI with
    transfers := hI.transfers.append (by simpa using ht) (by simpa using hI.apart _ ht)
    diskIds₁ := fun t' ht' => by
      rcases List.mem_append.1 ht' with ht' | ht'
      · exact hI.diskIds₁ t' ht'
      · rw [List.mem_singleton.1 ht']
        exact hdisk }

theorem addJob {j : StoredJob} (hc : j.correlation ∈ cs₁) (hj : j.job.id ∈ ids₁) :
    Isolated ids₁ ids₂ cs₁ cs₂ { h with jobs := h.jobs ++ [j] } { h₁ with jobs := h₁.jobs ++ [j] }
      h₂ :=
  { hI with
    jobs := hI.jobs.append (by simpa using hc) (by simpa using hI.apartCs _ hc)
    jobIds₁ := fun j' hj' => by
      rcases List.mem_append.1 hj' with hj' | hj'
      · exact hI.jobIds₁ j' hj'
      · rw [List.mem_singleton.1 hj']
        exact hj }

theorem widen {new : List String} (hnew : ∀ k ∈ new, k ∉ ids₁ ∧ k ∉ ids₂) :
    Isolated (ids₁ ++ new) ids₂ cs₁ cs₂ h h₁ h₂ := by
  -- a held key belongs to one of the owners, so it is none of the new ones
  have hheld : ∀ k, decide (k ∈ ids₂) = !decide (k ∈ ids₁) →
      decide (k ∈ ids₁ ++ new) = decide (k ∈ ids₁) := by
    intro k hk
    by_cases h1 : k ∈ ids₁
    · simp [h1]
    · have h2 : k ∈ ids₂ := by simpa [h1] using hk
      have hnot : k ∉ new := fun hn => (hnew k hn).2 h2
      simp [h1, hnot]
  refine
    { disks := hI.disks.widen fun d hd => hheld _ (hI.disks.one d hd)
      transfers := hI.transfers.widen fun t ht => hheld _ (hI.transfers.one t ht)
      jobs := hI.jobs
      diskIds₁ := fun t ht => List.mem_append_left _ (hI.diskIds₁ t ht)
      diskIds₂ := hI.diskIds₂
      jobIds₁ := fun j hj => List.mem_append_left _ (hI.jobIds₁ j hj)
      jobIds₂ := hI.jobIds₂
      apart := fun k hk => ?_
      apartCs := hI.apartCs }
  rcases List.mem_append.1 hk with hk | hk
  · exact hI.apart k hk
  · exact (hnew k hk).2

end Changes

end Isolated

namespace MockState

/-- No fault injected, no phase forced and no status set for after finalization. -/
structure Plain (m : MockState) : Prop where
  faults : m.faults = []
  forcedPhase : m.forcedPhase = none
  statusAfterFinalize : m.statusAfterFinalize = none

theorem Plain.serve {m : MockState} (hm : m.Plain) (b : MockBehavior) (n : Nat) (r : EngineRequest) :
    (m.serve b n r).2.1.Plain := by
  unfold MockState.serve
  split <;> (try split) <;> exact ⟨hm.faults, hm.forcedPhase, hm.statusAfterFinalize⟩

end MockState

def freshIds (n k : Nat) : List String := (List.range k).map fun i => uuidOf (n + i)

@[simp] theorem freshIds_zero (n : Nat) : freshIds n 0 = [] := rfl

theorem mem_freshIds {n c : Nat} {k : String} : k ∈ freshIds n c ↔ ∃ i < c, uuidOf (n + i) = k := by
  simp [freshIds]

theorem freshIds_mono {n c c' : Nat} (hc : c ≤ c') {k : String} (hk : k ∈ freshIds n c) :
    k ∈ freshIds n c' := by
  obtain ⟨i, hi, rfl⟩ := mem_freshIds.1 hk
  exact mem_freshIds.2 ⟨i, by omega, rfl⟩

theorem Isolated.widen_fresh {ids₁ ids₂ : List String} {cs₁ cs₂ : List CorrelationId}
    {h h₁ h₂ : Holdings} (hI : Isolated ids₁ ids₂ cs₁ cs₂ h h₁ h₂) {n c : Nat} (hc : c ≤ 2)
    (hfresh : ∀ k ∈ freshIds n 2, k ∉ ids₁ ∧ k ∉ ids₂) :
    Isolated (ids₁ ++ freshIds n c) ids₂ cs₁ cs₂ h h₁ h₂ :=
  hI.widen fun k hk => hfresh k (freshIds_mono hc hk)

theorem uuidOf_mem_freshIds (n : Nat) {c i : Nat} (hi : i < c) : uuidOf (n + i) ∈ freshIds n c :=
  mem_freshIds.2 ⟨i, hi, rfl⟩

theorem uuidOf_mem_freshIds_self (n : Nat) {c : Nat} (hc : 0 < c) : uuidOf n ∈ freshIds n c := by
  simpa using uuidOf_mem_freshIds n hc

theorem MockState.holdings_finalizing (m : MockState) (id diskId : String) (L : Nat)
    (job : StoredJob) :
    (m.finalizing id diskId L job).holdings =
      { disks := m.disks.map fun d => if d.disk.id == diskId then
          { d with lockedLeft := L, statusOverride := m.statusAfterFinalize } else d
        transfers := m.transfers.map fun t => if t.transfer.id == id then
          { t with transfer := { t.transfer with phase := .other "finalizing_success" } } else t
        jobs := m.jobs ++ [job] } := rfl

/-- The shared engine `m` and the first owner's lone engine `m₁` serve its request alike: the
same answer, the same number of fresh ids taken, at most two, and afterwards the shared engine
still holds what the two lone engines hold, the first owner holding the fresh ids too. The answer
names only the first owner's ids. -/
structure ServedAlike (b : MockBehavior) (n : Nat) (ids₁ ids₂ : List String)
    (cs₁ cs₂ : List CorrelationId) (m m₁ : MockState) (h₂ : Holdings) (r : EngineRequest) : Prop where
  answer : (m₁.serve b n r).1 = (m.serve b n r).1
  taken : (m₁.serve b n r).2.2 = (m.serve b n r).2.2
  taken_le : (m.serve b n r).2.2 ≤ 2
  isolated : Isolated (ids₁ ++ freshIds n (m.serve b n r).2.2) ids₂ cs₁ cs₂
    (m.serve b n r).2.1.holdings (m₁.serve b n r).2.1.holdings h₂
  named : ∀ k ∈ (m.serve b n r).1.ids, k ∈ ids₁ ++ freshIds n (m.serve b n r).2.2

namespace ServedAlike

variable {b : MockBehavior} {n : Nat} {ids₁ ids₂ : List String} {cs₁ cs₂ : List CorrelationId}
  {m m₁ : MockState} {h₂ : Holdings}
  (hI : Isolated ids₁ ids₂ cs₁ cs₂ m.holdings m₁.holdings h₂)
include hI

theorem createDisk (hfresh : ∀ k ∈ freshIds n 2, k ∉ ids₁ ∧ k ∉ ids₂) (p : DiskCreation)
    {c : CorrelationId} (hc : c ∈ cs₁) :
    ServedAlike b n ids₁ ids₂ cs₁ cs₂ m m₁ h₂ (.createDisk p c) := by
  have hd : uuidOf n ∈ ids₁ ++ freshIds n 2 :=
    List.mem_append_right _ (uuidOf_mem_freshIds_self n (show 0 < 2 by omega))
  have hj : uuidOf (n + 1) ∈ ids₁ ++ freshIds n 2 :=
    List.mem_append_right _ (uuidOf_mem_freshIds n (show 1 < 2 by omega))
  refine ⟨rfl, rfl, by simp [MockState.serve], ?_, ?_⟩
  · exact ((hI.widen_fresh le_rfl hfresh).addDisk hd).addJob hc hj
  · simpa [MockState.serve, EngineReply.ids, Mock.createdDisk] using hd

omit hI in
theorem of_serve {r : EngineRequest} {a : EngineReply} {m' m₁' : MockState} {k : Nat}
    (he : m.serve b n r = (a, m', k)) (he₁ : m₁.serve b n r = (a, m₁', k)) (hk : k ≤ 2)
    (hI' : Isolated (ids₁ ++ freshIds n k) ids₂ cs₁ cs₂ m'.holdings m₁'.holdings h₂)
    (ha : ∀ x ∈ a.ids, x ∈ ids₁ ++ freshIds n k) :
    ServedAlike b n ids₁ ids₂ cs₁ cs₂ m m₁ h₂ r :=
  ⟨by rw [he, he₁], by rw [he, he₁], by rw [he]; exact hk, by rw [he, he₁]; exact hI',
    by rw [he]; exact ha⟩

theorem of_miss {r : EngineRequest} {a : EngineReply} {c : EngineCall}
    (he : m.serve b n r = (a, m.counted c, 0)) (he₁ : m₁.serve b n r = (a, m₁.counted c, 0))
    (ha : a.ids = []) : ServedAlike b n ids₁ ids₂ cs₁ cs₂ m m₁ h₂ r :=
  of_serve he he₁ (Nat.zero_le 2) (by rw [freshIds_zero, List.append_nil]; exact hI)
    (by simp [ha])

theorem getDisk {k : String} (hk : k ∈ ids₁) :
    ServedAlike b n ids₁ ids₂ cs₁ cs₂ m m₁ h₂ (.getDisk k) := by
  have hd : m.disk? k = m₁.disk? k := hI.find_disk hk
  cases hfind : m₁.disk? k with
  | none =>
    exact of_miss hI (by simp only [MockState.serve, hd, hfind]; rfl)
      (by simp only [MockState.serve, hfind]) rfl
  | some d =>
    have hid : d.disk.id = k := by simpa using List.find?_some hfind
    have hmem : d.disk.id ∈ ids₁ := hI.id_mem_of_disk (List.mem_of_find?_eq_some hfind)
    refine of_serve (by simp only [MockState.serve, hd, hfind]; rfl)
      (by simp only [MockState.serve, hfind]; rfl) (Nat.zero_le 2) ?_
      (by simpa [EngineReply.ids] using hmem)
    rw [freshIds_zero, List.append_nil]
    exact hI.mapDisk hk (fun _ => d.polled) fun _ _ => by simp [hid]

theorem listJobs {c : CorrelationId} (hc : c ∈ cs₁) :
    ServedAlike b n ids₁ ids₂ cs₁ cs₂ m m₁ h₂ (.listJobs c) := by
  have hj : m.jobs.filter (·.correlation == c) = m₁.jobs.filter (·.correlation == c) :=
    hI.jobs_of hc
  refine ⟨?_, rfl, by simp [MockState.serve], ?_, ?_⟩
  · simp only [MockState.serve, hj]
  · rw [show (m.serve b n (.listJobs c)).2.2 = 0 from rfl, freshIds_zero, List.append_nil]
    exact hI.pollJobs hc
  · intro k hk
    simp only [MockState.serve, hj, EngineReply.ids, List.map_map, List.mem_map, Function.comp] at hk
    obtain ⟨j, hjm, rfl⟩ := hk
    exact List.mem_append_left _ (hI.jobIds₁ j (List.mem_of_mem_filter hjm))

theorem removeDisk {k : String} (hk : k ∈ ids₁) :
    ServedAlike b n ids₁ ids₂ cs₁ cs₂ m m₁ h₂ (.removeDisk k) := by
  have hd : m.disk? k = m₁.disk? k := hI.find_disk hk
  cases hfind : m₁.disk? k with
  | none =>
    exact of_miss hI (by simp only [MockState.serve, hd, hfind]; rfl)
      (by simp only [MockState.serve, hfind]) rfl
  | some d =>
    refine of_serve (by simp only [MockState.serve, hd, hfind]; rfl)
      (by simp only [MockState.serve, hfind]; rfl) (Nat.zero_le 2) ?_ (by simp [EngineReply.ids])
    rw [freshIds_zero, List.append_nil]
    exact hI.dropDisk hk

theorem createTransfer (hfresh : ∀ k ∈ freshIds n 2, k ∉ ids₁ ∧ k ∉ ids₂) {d : String}
    (hk : d ∈ ids₁) (dir : Direction) (c : CorrelationId) :
    ServedAlike b n ids₁ ids₂ cs₁ cs₂ m m₁ h₂ (.createTransfer d dir c) := by
  have hd : m.disk? d = m₁.disk? d := hI.find_disk hk
  cases hfind : m₁.disk? d with
  | none =>
    exact of_miss hI
      (by simp only [MockState.serve, hd, hfind, Option.isSome_none, Bool.false_eq_true,
        ↓reduceIte]; rfl)
      (by simp only [MockState.serve, hfind, Option.isSome_none, Bool.false_eq_true, ↓reduceIte])
      rfl
  | some sd =>
    -- the transfer takes the fresh id and writes into a disk of the owner
    have hW := hI.widen_fresh (show 1 ≤ 2 by omega) hfresh
    have ht : uuidOf n ∈ ids₁ ++ freshIds n 1 :=
      List.mem_append_right _ (uuidOf_mem_freshIds_self n (show 0 < 1 by omega))
    have hd' : d ∈ ids₁ ++ freshIds n 1 := List.mem_append_left _ hk
    refine of_serve (by simp only [MockState.serve, hd, hfind, Option.isSome_some, ↓reduceIte]; rfl)
      (by simp only [MockState.serve, hfind, Option.isSome_some, ↓reduceIte]; rfl) (by omega)
      (hW.addTransfer ht hd') ?_
    intro k hk
    simp only [EngineReply.ids, Mock.openedTransfer, List.mem_cons, List.not_mem_nil,
      or_false] at hk
    rcases hk with rfl | rfl
    · exact ht
    · exact hd'

theorem getTransfer {k : String} (hk : k ∈ ids₁) :
    ServedAlike b n ids₁ ids₂ cs₁ cs₂ m m₁ h₂ (.getTransfer k) := by
  have ht : m.transfer? k = m₁.transfer? k := hI.find_transfer hk
  cases hfind : m₁.transfer? k with
  | none =>
    exact of_miss hI (by simp only [MockState.serve, ht, hfind]; rfl)
      (by simp only [MockState.serve, hfind]) rfl
  | some t =>
    have hid : t.transfer.id = k := by simpa using List.find?_some hfind
    have hdisk : t.transfer.diskId ∈ ids₁ := hI.diskIds₁ t (List.mem_of_find?_eq_some hfind)
    refine of_serve (by simp only [MockState.serve, ht, hfind]; rfl)
      (by simp only [MockState.serve, hfind]; rfl) (Nat.zero_le 2) ?_ fun x hx => ?_
    · rw [freshIds_zero, List.append_nil]
      exact hI.mapTransfer hk (fun _ => t.polled) (fun _ _ => by simp [hid])
        fun _ _ _ => by simpa using hdisk
    · simp only [EngineReply.ids, StoredTransfer.id_polled, StoredTransfer.diskId_polled,
        List.mem_cons, List.not_mem_nil, or_false] at hx
      rcases hx with rfl | rfl
      · simpa [hid] using hk
      · simpa using hdisk

theorem finalizeTransfer (hfresh : ∀ k ∈ freshIds n 2, k ∉ ids₁ ∧ k ∉ ids₂) (hm : m.Plain)
    (hm₁ : m₁.Plain) {k : String} (hk : k ∈ ids₁) {c : CorrelationId} (hc : c ∈ cs₁) :
    ServedAlike b n ids₁ ids₂ cs₁ cs₂ m m₁ h₂ (.finalizeTransfer k c) := by
  have ht : m.transfer? k = m₁.transfer? k := hI.find_transfer hk
  cases hfind : m₁.transfer? k with
  | none =>
    exact of_miss hI (by simp only [MockState.serve, ht, hfind]; rfl)
      (by simp only [MockState.serve, hfind]) rfl
  | some t =>
    -- the fresh id goes to the finalization's job; the transfer writes into a disk of the owner
    have hW := hI.widen_fresh (show 1 ≤ 2 by omega) hfresh
    have hj : uuidOf n ∈ ids₁ ++ freshIds n 1 :=
      List.mem_append_right _ (uuidOf_mem_freshIds_self n (show 0 < 1 by omega))
    have hdisk : t.transfer.diskId ∈ ids₁ ++ freshIds n 1 :=
      List.mem_append_left _ (hI.diskIds₁ t (List.mem_of_find?_eq_some hfind))
    refine of_serve (by simp only [MockState.serve, ht, hfind]; rfl)
      (by simp only [MockState.serve, hfind]; rfl) (by omega) ?_ (by simp [EngineReply.ids])
    rw [MockState.holdings_finalizing, MockState.holdings_finalizing, hm.statusAfterFinalize,
      hm₁.statusAfterFinalize]
    exact ((hW.mapTransfer (List.mem_append_left _ hk)
      (fun t => { t with transfer := { t.transfer with phase := .other "finalizing_success" } })
      (fun _ h => h) fun t' ht' _ => hW.diskIds₁ t' ht').mapDisk hdisk
      (fun d => { d with lockedLeft := b.lockedPolls, statusOverride := none })
      fun _ h => h).addJob hc hj

theorem cancelTransfer {k : String} (hk : k ∈ ids₁) :
    ServedAlike b n ids₁ ids₂ cs₁ cs₂ m m₁ h₂ (.cancelTransfer k) := by
  have ht : m.transfer? k = m₁.transfer? k := hI.find_transfer hk
  cases hfind : m₁.transfer? k with
  | none =>
    exact of_miss hI (by simp only [MockState.serve, ht, hfind]; rfl)
      (by simp only [MockState.serve, hfind]) rfl
  | some t =>
    refine of_serve (by simp only [MockState.serve, ht, hfind]; rfl)
      (by simp only [MockState.serve, hfind]; rfl) (Nat.zero_le 2) ?_ (by simp [EngineReply.ids])
    rw [freshIds_zero, List.append_nil]
    exact hI.mapTransfer hk _ (fun _ h => h) fun t' ht' _ => hI.diskIds₁ t' ht'

/-- Every request of the first owner that names only its ids and correlation ids is served
alike, when the fresh ids are no one's yet. -/
theorem of_named (hm : m.Plain) (hm₁ : m₁.Plain)
    (hfresh : ∀ k ∈ freshIds n 2, k ∉ ids₁ ∧ k ∉ ids₂) {r : EngineRequest}
    (hr : ∀ k ∈ r.ids, k ∈ ids₁) (hc : ∀ c ∈ r.correlations, c ∈ cs₁) :
    ServedAlike b n ids₁ ids₂ cs₁ cs₂ m m₁ h₂ r := by
  cases r with
  | createDisk p c => exact createDisk hI hfresh p (hc c (by simp [EngineRequest.correlations]))
  | getDisk k => exact getDisk hI (hr k (by simp [EngineRequest.ids]))
  | removeDisk k => exact removeDisk hI (hr k (by simp [EngineRequest.ids]))
  | createTransfer d dir c => exact createTransfer hI hfresh (hr d (by simp [EngineRequest.ids])) dir c
  | getTransfer k => exact getTransfer hI (hr k (by simp [EngineRequest.ids]))
  | finalizeTransfer k c =>
    exact finalizeTransfer hI hfresh hm hm₁ (hr k (by simp [EngineRequest.ids]))
      (hc c (by simp [EngineRequest.correlations]))
  | cancelTransfer k => exact cancelTransfer hI (hr k (by simp [EngineRequest.ids]))
  | listJobs c => exact listJobs hI (hc c (by simp [EngineRequest.correlations]))

end ServedAlike

/-- A client of the engine: from the answers it has had, its next request, if any. -/
structure Client where
  next : List EngineReply → Option EngineRequest

namespace Client

/-- A client that names only ids the engine's answers gave it, and correlation ids of its own. -/
structure Keyed (A : Client) (cs : List CorrelationId) : Prop where
  ids : ∀ h r, A.next h = some r → ∀ k ∈ r.ids, k ∈ h.flatMap EngineReply.ids
  correlations : ∀ h r, A.next h = some r → ∀ c ∈ r.correlations, c ∈ cs

variable {σ : Type} (e : Engine σ)

/-- One turn of a client: its next request, if any, sent to the engine, and the answer kept. -/
def turn (A : Client) (h : List EngineReply) : Timed σ (List EngineReply) :=
  match A.next h with
  | none => pure h
  | some r => do
    let a ← r.send e
    return h ++ [a]

/-- Two clients served one request at a time, the schedule naming whose turn it is: `true` for
the first, `false` for the second. -/
def interleaved (A B : Client) : List Bool → List EngineReply → List EngineReply →
    Timed σ (List EngineReply × List EngineReply)
  | [], h₁, h₂ => pure (h₁, h₂)
  | true :: sch, h₁, h₂ => do interleaved A B sch (← turn e A h₁) h₂
  | false :: sch, h₁, h₂ => do interleaved A B sch h₁ (← turn e B h₂)

def alone (A : Client) : List Nat → List EngineReply → Timed σ (List EngineReply)
  | [], h => pure h
  | g :: gs, h => do
    modify fun w => { w with serial := w.serial + g }
    alone A gs (← turn e A h)

variable {e}

theorem turn_none {A : Client} {h : List EngineReply} (hA : A.next h = none) (w : World σ) :
    (A.turn e h).run w = (.ok h, w) := by
  simp [turn, hA]

/-- Alone, a client whose timeline skips to serial `t` and then takes its turn goes on from where
that turn leaves it. -/
theorem alone_skip {A : Client} {h h' : List EngineReply} {w₁ w₁' : World σ} {t : Nat}
    (hlag : w₁.serial ≤ t) (hturn : (A.turn e h).run { w₁ with serial := t } = (.ok h', w₁'))
    (gs : List Nat) : (A.alone e ((t - w₁.serial) :: gs) h).run w₁ = (A.alone e gs h').run w₁' := by
  have hskip : { w₁ with serial := w₁.serial + (t - w₁.serial) } = { w₁ with serial := t } := by
    rw [Nat.add_sub_cancel' hlag]
  simp only [alone, Timed.run_bind, Timed.run_modify, hskip, hturn]

end Client

/-- Two clients share the engine of the timeline `w` as if each had the engine of its own
timeline, `w₁` and `w₂`: the shared engine holds what the lone ones hold, none of the three is
set to fail, the ids handed to the clients were drawn from the shared timeline, the lone
timelines have drawn no more, and each client's answers name only its own ids. -/
structure Shares (ids₁ ids₂ : List String) (cs₁ cs₂ : List CorrelationId) (w w₁ w₂ : World MockState)
    (h₁ h₂ : List EngineReply) : Prop where
  isolated : Isolated ids₁ ids₂ cs₁ cs₂ w.state.holdings w₁.state.holdings w₂.state.holdings
  plain : w.state.Plain
  plain₁ : w₁.state.Plain
  plain₂ : w₂.state.Plain
  drawn : ∀ k ∈ ids₁ ++ ids₂, ∃ s < w.serial, k = uuidOf s
  lag₁ : w₁.serial ≤ w.serial
  lag₂ : w₂.serial ≤ w.serial
  named₁ : ∀ k ∈ h₁.flatMap EngineReply.ids, k ∈ ids₁
  named₂ : ∀ k ∈ h₂.flatMap EngineReply.ids, k ∈ ids₂

namespace Shares

variable {ids₁ ids₂ : List String} {cs₁ cs₂ : List CorrelationId} {w w₁ w₂ : World MockState}
  {h₁ h₂ : List EngineReply}

theorem swap (hS : Shares ids₁ ids₂ cs₁ cs₂ w w₁ w₂ h₁ h₂) : Shares ids₂ ids₁ cs₂ cs₁ w w₂ w₁ h₂ h₁ where
  isolated := hS.isolated.swap
  plain := hS.plain
  plain₁ := hS.plain₂
  plain₂ := hS.plain₁
  drawn k hk := hS.drawn k (List.mem_append.2 (List.mem_append.1 hk).symm)
  lag₁ := hS.lag₂
  lag₂ := hS.lag₁
  named₁ := hS.named₂
  named₂ := hS.named₁

theorem start {cs₁ cs₂ : List CorrelationId} (hcs : ∀ c ∈ cs₁, c ∉ cs₂) {w : World MockState}
    (hw : w.state = {}) : Shares [] [] cs₁ cs₂ w w w [] [] := by
  have hplain : w.state.Plain := by
    rw [hw]
    exact ⟨rfl, rfl, rfl⟩
  refine ⟨?_, hplain, hplain, hplain, by simp, le_rfl, le_rfl, by simp, by simp⟩
  simp only [MockState.holdings, hw]
  exact ⟨Split.nil, Split.nil, Split.nil, by simp, by simp, by simp, by simp, by simp, hcs⟩

theorem fresh (hS : Shares ids₁ ids₂ cs₁ cs₂ w w₁ w₂ h₁ h₂) (hs : w.serial + 2 ≤ 16 ^ 12) :
    ∀ k ∈ freshIds w.serial 2, k ∉ ids₁ ∧ k ∉ ids₂ := by
  intro k hk
  obtain ⟨i, hi, rfl⟩ := mem_freshIds.1 hk
  -- an id held is drawn below the serial, and ids below `16 ^ 12` differ
  have hnot : uuidOf (w.serial + i) ∉ ids₁ ++ ids₂ := fun hmem => by
    obtain ⟨s, hs', he⟩ := hS.drawn _ hmem
    have := uuidOf_inj (by omega) (by omega) he
    omega
  exact ⟨fun h => hnot (List.mem_append_left _ h), fun h => hnot (List.mem_append_right _ h)⟩

/-- One turn of the first client, on the shared timeline and on its own timeline once that has
skipped to the same serial: the same answer, and afterwards the two still share the engine. -/
theorem turn (b : MockBehavior) {A : Client} (hA : A.Keyed cs₁)
    (hS : Shares ids₁ ids₂ cs₁ cs₂ w w₁ w₂ h₁ h₂) (hs : w.serial + 2 ≤ 16 ^ 12) :
    ∃ h₁' ids₁' w' w₁', (A.turn (Mock.engine b (Lens.id MockState)) h₁).run w = (.ok h₁', w') ∧
      (A.turn (Mock.engine b (Lens.id MockState)) h₁).run { w₁ with serial := w.serial } =
        (.ok h₁', w₁') ∧
      w'.serial ≤ w.serial + 2 ∧ Shares ids₁' ids₂ cs₁ cs₂ w' w₁' w₂ h₁' h₂ := by
  cases hnext : A.next h₁ with
  | none =>
    exact ⟨h₁, ids₁, w, { w₁ with serial := w.serial }, Client.turn_none hnext w,
      Client.turn_none hnext _, by omega, { hS with lag₁ := le_rfl }⟩
  | some r =>
    have hr : ∀ k ∈ r.ids, k ∈ ids₁ := fun k hk => hS.named₁ k (hA.ids h₁ r hnext k hk)
    have hSA : ServedAlike b w.serial ids₁ ids₂ cs₁ cs₂ w.state w₁.state w₂.state.holdings r :=
      ServedAlike.of_named hS.isolated hS.plain hS.plain₁ (hS.fresh hs) hr
        (hA.correlations h₁ r hnext)
    have hrun := Mock.send_run b w hS.plain.faults hS.plain.forcedPhase r
    have hrun₁ := Mock.send_run b { w₁ with serial := w.serial } hS.plain₁.faults
      hS.plain₁.forcedPhase r
    refine ⟨_, ids₁ ++ freshIds w.serial (w.state.serve b w.serial r).2.2, _, _,
      by simp only [Client.turn, hnext, Timed.run_bind, hrun]; rfl,
      by simp only [Client.turn, hnext, Timed.run_bind, hrun₁, hSA.answer]; rfl,
      Nat.add_le_add_left hSA.taken_le _, ?_⟩
    refine
      { isolated := hSA.isolated
        plain := hS.plain.serve b w.serial r
        plain₁ := hS.plain₁.serve b w.serial r
        plain₂ := hS.plain₂
        drawn := fun k hk => ?_
        lag₁ := by simp [hSA.taken]
        lag₂ := Nat.le_trans hS.lag₂ (Nat.le_add_right _ _)
        named₁ := fun k hk => ?_
        named₂ := hS.named₂ }
    · -- an id drawn earlier is below the old serial, a fresh one below the new
      show ∃ s < w.serial + (w.state.serve b w.serial r).2.2, k = uuidOf s
      simp only [List.mem_append] at hk
      rcases hk with (hk | hk) | hk
      · obtain ⟨s, hs', rfl⟩ := hS.drawn k (List.mem_append_left _ hk)
        exact ⟨s, by omega, rfl⟩
      · obtain ⟨i, hi, rfl⟩ := mem_freshIds.1 hk
        exact ⟨w.serial + i, by omega, rfl⟩
      · obtain ⟨s, hs', rfl⟩ := hS.drawn k (List.mem_append_right _ hk)
        exact ⟨s, by omega, rfl⟩
    · simp only [List.flatMap_append, List.flatMap_singleton, List.mem_append] at hk
      rcases hk with hk | hk
      · exact List.mem_append_left _ (hS.named₁ k hk)
      · exact hSA.named k hk

/-- From two clients sharing the engine, a schedule runs each client as it runs alone on its own
timeline, skipping the ids the other drew, and afterwards the two still share the engine. By
induction on the schedule: each turn is `Shares.turn`, the second client's through `swap`. -/
theorem run (b : MockBehavior) {A B : Client} (hA : A.Keyed cs₁) (hB : B.Keyed cs₂)
    (sch : List Bool) (hS : Shares ids₁ ids₂ cs₁ cs₂ w w₁ w₂ h₁ h₂)
    (hs : w.serial + 2 * sch.length ≤ 16 ^ 12) :
    ∃ g₁ g₂ h₁' h₂' ids₁' ids₂' w' w₁' w₂', g₁.length = sch.count true ∧
      g₂.length = sch.count false ∧
      (Client.interleaved (Mock.engine b (Lens.id MockState)) A B sch h₁ h₂).run w =
        (.ok (h₁', h₂'), w') ∧
      (Client.alone (Mock.engine b (Lens.id MockState)) A g₁ h₁).run w₁ = (.ok h₁', w₁') ∧
      (Client.alone (Mock.engine b (Lens.id MockState)) B g₂ h₂).run w₂ = (.ok h₂', w₂') ∧
      Shares ids₁' ids₂' cs₁ cs₂ w' w₁' w₂' h₁' h₂' := by
  induction sch generalizing ids₁ ids₂ w w₁ w₂ h₁ h₂ with
  | nil => exact ⟨[], [], h₁, h₂, ids₁, ids₂, w, w₁, w₂, rfl, rfl, rfl, rfl, rfl, hS⟩
  | cons first sch ih =>
    simp only [List.length_cons] at hs
    cases first with
    | true =>
      obtain ⟨h₁', ids₁', w', w₁', hrun, hrun₁, hser, hS'⟩ := hS.turn b hA (by omega)
      obtain ⟨g₁, g₂, h₁'', h₂'', ids₁'', ids₂'', w'', w₁'', w₂'', hg₁, hg₂, hboth, hA', hB',
        hS''⟩ := ih hS' (by omega)
      -- alone, the first client's timeline skips to the shared serial before its turn
      refine ⟨(w.serial - w₁.serial) :: g₁, g₂, h₁'', h₂'', ids₁'', ids₂'', w'', w₁'', w₂'',
        by simp [hg₁], by simp [hg₂], ?_, by rw [Client.alone_skip hS.lag₁ hrun₁]; exact hA',
        hB', hS''⟩
      simp only [Client.interleaved, Timed.run_bind, hrun]
      exact hboth
    | false =>
      obtain ⟨h₂', ids₂', w', w₂', hrun, hrun₂, hser, hS'⟩ := hS.swap.turn b hB (by omega)
      obtain ⟨g₁, g₂, h₁'', h₂'', ids₁'', ids₂'', w'', w₁'', w₂'', hg₁, hg₂, hboth, hA', hB',
        hS''⟩ := ih hS'.swap (by omega)
      refine ⟨g₁, (w.serial - w₂.serial) :: g₂, h₁'', h₂'', ids₁'', ids₂'', w'', w₁'', w₂'',
        by simp [hg₁], by simp [hg₂], ?_, hA', by rw [Client.alone_skip hS.lag₂ hrun₂]; exact hB',
        hS''⟩
      simp only [Client.interleaved, Timed.run_bind, hrun]
      exact hboth

end Shares

/-- Two clients of one fresh in-memory engine, served one request at a time in any order. Each
names only the disks and transfers the engine created for it and correlation ids of its own, which
the other never names. Then each gets the answers it gets talking alone to a fresh engine whose
timeline hands out the ids the other drew elsewhere, takes as many turns, and the shared engine
ends up holding the disks, transfers and jobs of the two lone engines together. -/
theorem Client.interleaved_isolated (b : MockBehavior) {A B : Client} {cs₁ cs₂ : List CorrelationId}
    (hA : A.Keyed cs₁) (hB : B.Keyed cs₂) (hcs : ∀ c ∈ cs₁, c ∉ cs₂) (sch : List Bool)
    (w : World MockState) (hw : w.state = {}) (hs : w.serial + 2 * sch.length ≤ 16 ^ 12) :
    ∃ g₁ g₂ h₁ h₂ w' w₁ w₂, g₁.length = sch.count true ∧ g₂.length = sch.count false ∧
      (Client.interleaved (Mock.engine b (Lens.id MockState)) A B sch [] []).run w =
        (.ok (h₁, h₂), w') ∧
      (Client.alone (Mock.engine b (Lens.id MockState)) A g₁ []).run w = (.ok h₁, w₁) ∧
      (Client.alone (Mock.engine b (Lens.id MockState)) B g₂ []).run w = (.ok h₂, w₂) ∧
      w'.state.disks.Perm (w₁.state.disks ++ w₂.state.disks) ∧
      w'.state.transfers.Perm (w₁.state.transfers ++ w₂.state.transfers) ∧
      w'.state.jobs.Perm (w₁.state.jobs ++ w₂.state.jobs) := by
  obtain ⟨g₁, g₂, h₁, h₂, ids₁, ids₂, w', w₁, w₂, hg₁, hg₂, hboth, hA', hB', hS⟩ :=
    Shares.run b hA hB sch (Shares.start hcs hw) hs
  have hI := hS.isolated
  exact ⟨g₁, g₂, h₁, h₂, w', w₁, w₂, hg₁, hg₂, hboth, hA', hB', hI.disks.perm,
    hI.transfers.perm, hI.jobs.perm⟩

def Client.createAndRead (p : DiskCreation) (c : CorrelationId) : Client where
  next
    | [] => some (.createDisk p c)
    | [.disk (.ok d)] => some (.getDisk d.id)
    | [_, _] => some (.listJobs c)
    | _ => none

theorem Client.createAndRead_keyed (p : DiskCreation) (c : CorrelationId) :
    (Client.createAndRead p c).Keyed [c] where
  ids h r hr := by
    simp only [Client.createAndRead] at hr
    split at hr <;> cases hr <;> simp [EngineRequest.ids, EngineReply.ids]
  correlations h r hr := by
    simp only [Client.createAndRead] at hr
    split at hr <;> cases hr <;> simp [EngineRequest.correlations]

/-- Two uploads' worth of engine calls, taken in turns: each creates its disk, reads it and lists
its jobs, as it would alone. -/
theorem Client.two_creators_isolated :
    let A := Client.createAndRead
      ⟨"sd-1", "first", .raw, 4096, none, false⟩ ⟨"image_upload_first_0000000001"⟩
    let B := Client.createAndRead
      ⟨"sd-1", "second", .raw, 12288, none, false⟩ ⟨"image_upload_second_0000000002"⟩
    let w : World MockState := World.start .work {}
    let sch := [true, false, false, true, true, false]
    A.Keyed [⟨"image_upload_first_0000000001"⟩] ∧ B.Keyed [⟨"image_upload_second_0000000002"⟩] ∧
    (∀ c ∈ [(⟨"image_upload_first_0000000001"⟩ : CorrelationId)],
      c ∉ [(⟨"image_upload_second_0000000002"⟩ : CorrelationId)]) ∧
    w.state = {} ∧ w.serial + 2 * sch.length ≤ 16 ^ 12 ∧
    ∃ g₁ g₂ h₁ h₂ w' w₁ w₂, g₁.length = sch.count true ∧ g₂.length = sch.count false ∧
      (Client.interleaved (Mock.engine {} (Lens.id MockState)) A B sch [] []).run w =
        (.ok (h₁, h₂), w') ∧
      (Client.alone (Mock.engine {} (Lens.id MockState)) A g₁ []).run w = (.ok h₁, w₁) ∧
      (Client.alone (Mock.engine {} (Lens.id MockState)) B g₂ []).run w = (.ok h₂, w₂) ∧
      w'.state.disks.Perm (w₁.state.disks ++ w₂.state.disks) ∧
      w'.state.transfers.Perm (w₁.state.transfers ++ w₂.state.transfers) ∧
      w'.state.jobs.Perm (w₁.state.jobs ++ w₂.state.jobs) := by
  intro A B w sch
  have hcs : ∀ c ∈ [(⟨"image_upload_first_0000000001"⟩ : CorrelationId)],
      c ∉ [(⟨"image_upload_second_0000000002"⟩ : CorrelationId)] := by decide
  have hs : w.serial + 2 * sch.length ≤ 16 ^ 12 := by norm_num [w, sch, World.start]
  exact ⟨Client.createAndRead_keyed _ _, Client.createAndRead_keyed _ _, hcs, rfl, hs,
    Client.interleaved_isolated {} (Client.createAndRead_keyed _ _) (Client.createAndRead_keyed _ _)
      hcs sch w rfl hs⟩

end DiskUploader
