import DiskUploader.Proofs.ImageBody
import DiskUploader.Proofs.UploadWalk
import DiskUploader.Proofs.RehearsalFrame

/-!
# Streaming the image body

The transport pulls the body of an upload through the counting reader. The body yields the image
from its start, cut off at the declared size `n`: a read that asks for bytes while some are left
hands over the next ones, at least one, so reads of any sizes hand over exactly the image's first
`min n |B|` bytes in order. Once the image is used up short of `n`, every such read fails with
the truncation, which the session records; at `n` reads hand over nothing. When the cancel scope
reaches the phase, a read after the token has cancelled fails with the cancellation, hands over
nothing and changes nothing. Each byte handed over is counted into the session at once, so the
upload keeps `UploadRun.Streams`, with as many bytes sent as the body has yielded, through every
read and so through a transport that touches the upload only through the reader.

The phase succeeds exactly when the transport reports success after all `n` bytes were handed
over. A transport's failure becomes a timeout when the token cancelled in reach, else the
truncation when the image ran dry, else the failure under the phase's context; a success short of
`n` bytes becomes the truncation.
-/

namespace DiskUploader

variable {σ : Type}

/-- An upload streaming `n` bytes of `B`: its body has yielded exactly the bytes counted, the
session has as many sent, and a truncation it records lies where the counting stopped, at the end
of `B` and short of `n`. -/
structure UploadRun.Streams (B : ByteArray) (n : Nat) (r : UploadRun) : Prop where
  body : r.body.Holds B n r.counted
  uploaded : r.session.uploaded = r.counted
  total : r.session.total = n
  truncated : ∀ t ∈ r.session.truncatedAt, t = r.counted ∧ r.counted = B.size ∧ r.counted < n

/-- Streaming goes on: an upload that streams `B` is taken to one that still does, with no fewer
bytes counted. -/
def UploadRun.StreamsOn (B : ByteArray) (n : Nat) (r r' : UploadRun) : Prop :=
  r.Streams B n → r'.Streams B n ∧ r.counted ≤ r'.counted

theorem UploadRun.StreamsOn.refl {B : ByteArray} {n : Nat} (r : UploadRun) : r.StreamsOn B n r :=
  fun h => ⟨h, Nat.le_refl _⟩

theorem UploadRun.StreamsOn.trans {B : ByteArray} {n : Nat} {r r' r'' : UploadRun}
    (h₁ : r.StreamsOn B n r') (h₂ : r'.StreamsOn B n r'') : r.StreamsOn B n r'' := fun h =>
  ⟨(h₂ (h₁ h).1).1, Nat.le_trans (h₁ h).2 (h₂ (h₁ h).1).2⟩

def handedOver : List (Except (List Layer) ByteArray) → ByteArray
  | [] => ByteArray.empty
  | r :: rs => r.toOption.getD ByteArray.empty ++ handedOver rs

theorem UploadOptions.reaches_bytesSent (o : UploadOptions) :
    o.reaches .bytesSent = true ↔ o.scope = .full := by
  unfold UploadOptions.reaches
  cases o.scope <;> decide

theorem UploadOptions.reaches_bytesSent_and (o : UploadOptions) (b : Bool) :
    (o.reaches .bytesSent && b) = true ↔ o.scope = .full ∧ b = true := by
  rw [Bool.and_eq_true, o.reaches_bytesSent]

namespace Uploader

variable {u : Uploader σ} {o : UploadOptions} {check : Bool} {k : Nat} {w : World σ}
  {B : ByteArray} {n : Nat}

/-- Where a read leaves the world: the upload streams with `k` bytes counted, and every token is
as it was. -/
structure ReadTo (u : Uploader σ) (B : ByteArray) (n : Nat) (w : World σ) (k : Nat)
    (w' : World σ) : Prop where
  streams : (u.runOf w').Streams B n
  counted : (u.runOf w').counted = k
  fired : ∀ i, w'.hasFired i = w.hasFired i

/-- Once the token has cancelled, a read in reach of it hands over nothing, changes nothing and
fails with the cancellation. -/
theorem run_countingRead_cancelled (hf : w.hasFired o.cancel = true) (want : Nat) :
    (u.countingRead o true want).run w = (.ok (.error cancelledFault.throughIo), w) :=
  u.run_countingRead_stopped w (by rw [hf, Bool.and_self])

section Read

variable (hl : u.run.Lawful) (hc : (check && w.hasFired o.cancel) = false)
  (hs : (u.runOf w).Streams B n) (hk : (u.runOf w).counted = k)
include hl hc hs hk

/-- Short of the cut and of the end of the image, a read hands over the next bytes of the image,
at least one and at most those asked for, and counts them. -/
theorem run_countingRead_more {want : Nat} (hn : k < n) (hB : k < B.size) (hw : 0 < want) :
    ∃ m, 0 < m ∧ m ≤ want ∧
      ((u.countingRead o check want).run w).1 = .ok (.ok (B.extract k (k + m))) ∧
      u.ReadTo B n w (k + m) ((u.countingRead o check want).run w).2 := by
  obtain ⟨m, hm, hmw, hmn, hmB, hbs, hbody⟩ := Body.read_next (hk ▸ hs.body) hn hB hw
  have hsize : (B.extract k (k + m)).size = m := by
    simp only [ByteArray.size_extract]
    omega
  have hp : (u.runOf w).body.read want = (B.extract k (k + m), ((u.runOf w).body.read want).2) :=
    Prod.ext hbs rfl
  have hup := hs.uploaded
  have htot := hs.total
  rw [u.run_countingRead w hc hp, if_pos (show 0 < (B.extract k (k + m)).size by omega)]
  refine ⟨m, hm, hmw, rfl, ⟨?_, ?_, ?_, ?_⟩, ?_, fun i => hasFired_updated _ _ _ _⟩ <;>
    simp only [runOf_updated _ _ hl, Session.addUploaded, Session.total, hsize] at htot ⊢
  · rwa [hk]
  · omega
  · exact htot
  -- the image is not used up, so no truncation was recorded
  · intro t ht
    exact absurd (hs.truncated t ht).2.1 (by omega)
  · rw [hk]

/-- At the end of an image shorter than the cut, a read that asks for bytes fails with the
truncation at the end of the image and records it. -/
theorem run_countingRead_dry {want : Nat} (hB : k = B.size) (hn : k < n) (hw : 0 < want) :
    ((u.countingRead o check want).run w).1 = .ok (.error (truncatedFault k n).throughIo) ∧
      u.ReadTo B n w k ((u.countingRead o check want).run w).2 ∧
      (u.runOf ((u.countingRead o check want).run w).2).session.truncatedAt = some k := by
  obtain ⟨hbs, hbody⟩ := Body.read_nothing (hk ▸ hs.body) (.inr (.inl hB))
  have hp : (u.runOf w).body.read want = (ByteArray.empty, ((u.runOf w).body.read want).2) :=
    Prod.ext hbs rfl
  have hup := hs.uploaded
  have htot := hs.total
  -- the read asked for bytes short of the total, so the empty read is a truncation
  have hmore : 0 < want ∧ (u.runOf w).counted < (u.runOf w).session.total := by
    rw [hk, htot]
    exact ⟨hw, hn⟩
  rw [u.run_countingRead w hc hp, if_neg (show ¬ 0 < ByteArray.empty.size by simp), if_pos hmore,
    hk, htot]
  refine ⟨rfl, ?_, ?_⟩
  · refine ⟨⟨?_, ?_, ?_, ?_⟩, ?_, fun i => ?_⟩ <;>
      simp only [runOf_updated _ _ hl, hasFired_updated] at htot ⊢
    · rwa [hk]
    · exact hup
    · exact htot
    · intro t ht
      simp only [Option.mem_def, Option.some.injEq] at ht
      subst ht
      exact ⟨hk.symm, hk ▸ hB, hk ▸ hn⟩
    · exact hk
  · simp only [runOf_updated _ _ hl, hk]

theorem run_countingRead_nothing {want : Nat} (h : k = n ∨ want = 0) :
    ((u.countingRead o check want).run w).1 = .ok (.ok ByteArray.empty) ∧
      u.ReadTo B n w k ((u.countingRead o check want).run w).2 := by
  obtain ⟨hbs, hbody⟩ := Body.read_nothing (hk ▸ hs.body) (h.elim .inl (.inr ∘ .inr))
  have hp : (u.runOf w).body.read want = (ByteArray.empty, ((u.runOf w).body.read want).2) :=
    Prod.ext hbs rfl
  have hup := hs.uploaded
  have htot := hs.total
  -- the read stops here: either the count has reached the total or nothing was asked for
  have hstop : ¬ (0 < want ∧ (u.runOf w).counted < (u.runOf w).session.total) := by
    rw [hk, htot]
    omega
  rw [u.run_countingRead w hc hp, if_neg (show ¬ 0 < ByteArray.empty.size by simp), if_neg hstop]
  refine ⟨rfl, ⟨?_, ?_, ?_, ?_⟩, ?_, fun i => hasFired_updated _ _ _ _⟩ <;>
    simp only [runOf_updated _ _ hl] at htot ⊢
  · rwa [hk]
  · exact hup
  · exact htot
  · exact hs.truncated
  · exact hk

/-- A read that is not cancelled hands over the next `m` bytes of the image and counts them, with
`m` positive when bytes were asked for and some are left; a failed read hands over none. -/
theorem run_countingRead_step (want : Nat) :
    ∃ m res, ((u.countingRead o check want).run w).1 = .ok res ∧
      res.toOption.getD ByteArray.empty = B.extract k (k + m) ∧
      u.ReadTo B n w (k + m) ((u.countingRead o check want).run w).2 ∧
      (0 < want → k < n → k < B.size → 0 < m) := by
  by_cases hmore : 0 < want ∧ k < n ∧ k < B.size
  · obtain ⟨hw, hn, hB⟩ := hmore
    obtain ⟨m, hm, -, hres, hto⟩ := run_countingRead_more hl hc hs hk hn hB hw
    exact ⟨m, _, hres, rfl, hto, fun _ _ _ => hm⟩
  have hle : k ≤ B.size := hk ▸ hs.body.le_size
  by_cases hnone : k = n ∨ want = 0
  · obtain ⟨hres, hto⟩ := run_countingRead_nothing hl hc hs hk hnone
    exact ⟨0, _, hres, by rw [Nat.add_zero, ByteArray.extract_same]; rfl, hto, by omega⟩
  · -- bytes were asked for short of the cut, so the image has run dry
    have hn : k < n := by have := hk ▸ hs.body.le; omega
    obtain ⟨hres, hto, -⟩ := run_countingRead_dry hl hc hs hk (by omega) hn
      (show 0 < want by omega)
    exact ⟨0, _, hres, by rw [Nat.add_zero, ByteArray.extract_same]; rfl, hto, by omega⟩

end Read

theorem streamsOn_countingRead (hl : u.run.Lawful) (o : UploadOptions) (check : Bool)
    (want : Nat) : Timed.Keeps (u.Lifted (UploadRun.StreamsOn B n)) (u.countingRead o check want) := by
  intro w hs
  cases hcheck : check && w.hasFired o.cancel
  · obtain ⟨m, -, -, -, hto, -⟩ := run_countingRead_step hl hcheck hs rfl want
    exact ⟨hto.streams, hto.counted ▸ Nat.le_add_right _ _⟩
  · obtain ⟨rfl, hf⟩ := Bool.and_eq_true_iff.1 hcheck
    rw [run_countingRead_cancelled hf]
    exact ⟨hs, le_rfl⟩

/-- Reads of any positive sizes that are not cancelled hand over the image in order from where
the upload stands, each byte once, and at least one byte a read until the cut or the end of the
image; the upload keeps streaming and the tokens stay as they were. -/
theorem mapM_countingRead (hl : u.run.Lawful) (o : UploadOptions) (check : Bool) :
    ∀ (ws : List Nat) (w : World σ), (∀ want ∈ ws, 0 < want) →
      (check && w.hasFired o.cancel) = false → (u.runOf w).Streams B n →
      ∃ rs k', ((ws.mapM (u.countingRead o check)).run w).1 = .ok rs ∧
        handedOver rs = B.extract (u.runOf w).counted k' ∧
        u.ReadTo B n w k' ((ws.mapM (u.countingRead o check)).run w).2 ∧
        min (min n B.size) ((u.runOf w).counted + ws.length) ≤ k'
  | [], w, _, _, hs => ⟨[], (u.runOf w).counted, rfl, by simp [handedOver, ByteArray.extract_same],
      ⟨hs, rfl, fun _ => rfl⟩, by simp⟩
  | want :: ws, w, hpos, hc, hs => by
    obtain ⟨m, res, hres, hbytes, hto, hprog⟩ := run_countingRead_step hl hc hs rfl want
    generalize hx : (u.countingRead o check want).run w = x at hres hto
    obtain ⟨_, w₁⟩ := x
    dsimp only at hres hto
    subst hres
    -- the later reads start where this one left the upload
    obtain ⟨rs, k', hrs, hbytes', hto', hprog'⟩ := mapM_countingRead hl o check ws w₁
      (fun x hx => hpos x (List.mem_cons_of_mem _ hx)) (by rw [hto.fired]; exact hc) hto.streams
    generalize hy : (ws.mapM (u.countingRead o check)).run w₁ = y at hrs hto'
    obtain ⟨_, w₂⟩ := y
    dsimp only at hrs hto'
    subst hrs
    have hrun : ((want :: ws).mapM (u.countingRead o check)).run w = (.ok (res :: rs), w₂) := by
      simp [List.mapM_cons, hx, hy]
    rw [hto.counted] at hbytes' hprog'
    have hk0 := hs.body.le
    have hk1 := hs.body.le_size
    have hm0 : (u.runOf w).counted + m ≤ min n B.size := by
      have h₀ := hto.streams.body.le
      have h₁ := hto.streams.body.le_size
      rw [hto.counted] at h₀ h₁
      omega
    have hm : (u.runOf w).counted + m ≤ k' := by omega
    rw [hrun]
    refine ⟨res :: rs, k', rfl, ?_, ⟨hto'.streams, hto'.counted, fun i => ?_⟩, ?_⟩
    · simp only [handedOver, hbytes, hbytes', ByteArray.extract_append_extract]
      congr 1
      all_goals omega
    · rw [hto'.fired, hto.fired]
    · have := hprog (hpos want (List.mem_cons_self ..))
      simp only [List.length_cons] at hprog' ⊢
      omega

/-- From the start of the body, as many reads of positive sizes as there are bytes to send hand
over exactly the image up to the cut. -/
theorem mapM_countingRead_whole (hl : u.run.Lawful) (o : UploadOptions) (check : Bool)
    (hs : (u.runOf w).Streams B n) (h0 : (u.runOf w).counted = 0) {ws : List Nat}
    (hpos : ∀ want ∈ ws, 0 < want) (hlen : min n B.size ≤ ws.length)
    (hc : (check && w.hasFired o.cancel) = false) :
    ∃ rs, ((ws.mapM (u.countingRead o check)).run w).1 = .ok rs ∧
      handedOver rs = B.extract 0 (min n B.size) := by
  obtain ⟨rs, k', hrs, hbytes, hto, hprog⟩ := mapM_countingRead hl o check ws w hpos hc hs
  -- the reads reach the cut or the end of the image, and never go past either
  have h₁ := hto.streams.body.le
  have h₂ := hto.streams.body.le_size
  rw [hto.counted] at h₁ h₂
  rw [h0] at hbytes hprog
  have hk : k' = min n B.size := by omega
  exact ⟨rs, hrs, hk ▸ hbytes⟩

/-- The phase reads off the transport's answer: its world is where the transport left it; a success
stands only with every byte sent; a failure becomes a timeout when the token cancelled in reach,
the truncation when one was recorded, else the failure under the phase's context; an interruption
passes through. -/
theorem sendBytes_put (o : UploadOptions) (url : String) (htot : (u.runOf w).session.total = n)
    {res : Except Interrupt (Except Fault Unit)} {w₁ : World σ}
    (hp : (u.transport.put url n (u.countingRead o (o.reaches .bytesSent))).run
      { w with log := w.log.push (uploadEvent .info "streaming image"
        [("url", .quoted url), ("bytes", .shown (toString n))]) } = (res, w₁)) :
    ((u.sendBytes o url).run.run w).2 = w₁ ∧
      (res = .ok (.ok ()) → ((u.sendBytes o url).run.run w).1 =
        if (u.runOf w₁).session.uploaded < n then
          .ok (.error (truncatedFault (u.runOf w₁).session.uploaded n))
        else .ok (.ok ())) ∧
      (∀ err, res = .ok (.error err) → ((u.sendBytes o url).run.run w).1 = .ok (.error
        (if o.reaches .bytesSent && w₁.hasFired o.cancel then
          Fault.wrap err.chain .timeout "upload cancelled while streaming"
        else (u.runOf w₁).session.truncatedAt.elim (err.context s!"failed to upload image to {url}")
          fun r => Fault.wrap err.chain .badArgument (truncatedText r n)))) ∧
      (∀ i, res = .error i → ((u.sendBytes o url).run.run w).1 = .error i) := by
  simp only [sendBytes, Stage.run_bind, Stage.lift_eq, Stage.run_lift, run_current, run_log, htot]
  erw [hp]
  rcases res with i | err | ⟨⟩
  · simp
  · simp only [Except.ok.injEq, Except.error.injEq, reduceCtorEq, false_implies, implies_true,
      true_and, and_true, forall_eq']
    simp only [Stage.run_bind, liftM, Stage.run_lift, run_cancelled, Bool.and_eq_true]
    by_cases hc : o.reaches .bytesSent = true ∧ w₁.hasFired o.cancel = true
    · simp [if_pos hc]
    · rcases htr : (u.runOf w₁).session.truncatedAt with _ | r <;> simp [if_neg hc, htr]
  · simp only [Except.ok.injEq, reduceCtorEq, false_implies, implies_true, and_true,
      forall_const]
    by_cases hlt : (u.runOf w₁).session.uploaded < n <;> simp [hlt]

/-- Streaming an image to the transport. Reads of any positive sizes, as many as the bytes there
are to send, hand over exactly the image up to the declared size, in order; once an image shorter
than that is used up, every read for bytes fails with the truncation; with the full cancel scope
a read after the token has cancelled hands over nothing and changes nothing; and every read keeps
the upload streaming, with as many bytes sent as the body has yielded. So the upload still streams
wherever the transport leaves it, and the phase succeeds exactly when the transport succeeded
after all `n` bytes. Otherwise it fails with the truncation after a success short of `n` bytes,
and after a failure with a timeout when the token cancelled in reach, with the truncation where
the image ran dry, or with the failure under the phase's context. -/
theorem sendBytes_streams (hu : u.Framed) (hs : (u.runOf w).Streams B n)
    (h0 : (u.runOf w).counted = 0) (o : UploadOptions) (url : String) :
    let read := u.countingRead o (o.reaches .bytesSent)
    let w₀ : World σ := { w with log := w.log.push (uploadEvent .info "streaming image"
      [("url", .quoted url), ("bytes", .shown (toString n))]) }
    let x := (u.sendBytes o url).run.run w
    (∀ ws : List Nat, (∀ want ∈ ws, 0 < want) → min n B.size ≤ ws.length →
      (o.reaches .bytesSent && w.hasFired o.cancel) = false →
      ∃ rs, ((ws.mapM read).run w₀).1 = .ok rs ∧ handedOver rs = B.extract 0 (min n B.size)) ∧
    (∀ (w₁ : World σ) (want : Nat), (u.runOf w₁).Streams B n → (u.runOf w₁).counted = B.size →
      B.size < n → 0 < want → (o.reaches .bytesSent && w₁.hasFired o.cancel) = false →
      ((read want).run w₁).1 = .ok (.error (truncatedFault B.size n).throughIo)) ∧
    (o.scope = .full → ∀ (w₁ : World σ) (want : Nat), w₁.hasFired o.cancel = true →
      (read want).run w₁ = (.ok (.error cancelledFault.throughIo), w₁)) ∧
    (∀ want, Timed.Keeps (u.Lifted (UploadRun.StreamsOn B n)) (read want)) ∧
    ∀ res w₁, (u.transport.put url n read).run w₀ = (res, w₁) →
      (u.runOf w₁).Streams B n ∧ x.2 = w₁ ∧
      (x.1 = .ok (.ok ()) ↔ res = .ok (.ok ()) ∧ (u.runOf w₁).counted = n) ∧
      (res = .ok (.ok ()) → (u.runOf w₁).counted < n →
        x.1 = .ok (.error (truncatedFault (u.runOf w₁).counted n))) ∧
      (∀ err, res = .ok (.error err) →
        (o.scope = .full → w₁.hasFired o.cancel = true →
          x.1 = .ok (.error (Fault.wrap err.chain .timeout "upload cancelled while streaming"))) ∧
        (¬(o.scope = .full ∧ w₁.hasFired o.cancel = true) → ∀ r,
          (u.runOf w₁).session.truncatedAt = some r → r = B.size ∧ r < n ∧
            x.1 = .ok (.error (Fault.wrap err.chain .badArgument (truncatedText r n)))) ∧
        (¬(o.scope = .full ∧ w₁.hasFired o.cancel = true) →
          (u.runOf w₁).session.truncatedAt = none →
          x.1 = .ok (.error (err.context s!"failed to upload image to {url}")))) ∧
      (∀ i, res = .error i → x.1 = .error i) := by
  intro read w₀ x
  have hl := hu.lawful
  have hfull := o.reaches_bytesSent
  refine ⟨fun ws hpos hlen hc => ?_, fun w₁ want hs₁ hB hn hw hc => ?_, fun hf w₁ want hw => ?_,
    fun want => streamsOn_countingRead hl o _ want, fun res w₁ hp => ?_⟩
  · -- logging the streaming leaves the upload and the tokens as they were
    have hs₀ : (u.runOf w₀).Streams B n := hs
    exact mapM_countingRead_whole hl o _ hs₀ h0 hpos hlen hc
  · exact (run_countingRead_dry hl hc hs₁ hB rfl hn hw).1
  · show (u.countingRead o (o.reaches .bytesSent) want).run w₁ = _
    rw [hfull.2 hf]
    exact run_countingRead_cancelled hw want
  -- the transport touches the upload only through the reader, so it keeps the upload streaming
  have hs₁ : (u.runOf w₁).Streams B n := by
    have hkeep := hu.put url n read (UploadRun.StreamsOn B n) UploadRun.StreamsOn.refl
      (fun h₁ h₂ => h₁.trans h₂)
      (streamsOn_countingRead hl o _) w₀
    rw [hp] at hkeep
    exact (hkeep hs).1
  obtain ⟨hx, hok, herr, hint⟩ := sendBytes_put o url hs.total hp
  have hxe : x = (u.sendBytes o url).run.run w := rfl
  rw [← hxe] at hx hok herr hint
  have hsent := hs₁.uploaded
  have hle := hs₁.body.le
  -- outside the cancellation, the transport's failure is read off the recorded truncation
  have hcheck : ¬(o.scope = .full ∧ w₁.hasFired o.cancel = true) →
      (o.reaches .bytesSent && w₁.hasFired o.cancel) = false := fun hnot =>
    Bool.eq_false_iff.2 fun h => hnot ((o.reaches_bytesSent_and _).1 h)
  refine ⟨hs₁, hx, ⟨fun h => ?_, fun ⟨hres, hn⟩ => ?_⟩, fun hres hlt => ?_,
    fun err hres => ⟨fun hsc hf => ?_, fun hnot r htr => ?_, fun hnot htr => ?_⟩, hint⟩
  · rcases res with i | err | ⟨⟩
    · rw [hint i rfl] at h
      cases h
    · rw [herr err rfl] at h
      cases h
    · rw [hok rfl, hsent] at h
      refine ⟨rfl, Nat.le_antisymm hle (Nat.not_lt.1 fun hlt => ?_)⟩
      rw [if_pos hlt] at h
      cases h
  · rw [hok hres, hsent, hn, if_neg (Nat.lt_irrefl n)]
  · rw [hok hres, hsent, if_pos hlt]
  · rw [herr err hres, hfull.2 hsc, hf]
    rfl
  · -- a recorded truncation lies at the end of the image, where the counting stopped
    obtain ⟨hr, hB, hn⟩ := hs₁.truncated r htr
    refine ⟨hr.trans hB, hr ▸ hn, ?_⟩
    rw [herr err hres, hcheck hnot, htr]
    rfl
  · rw [herr err hres, hcheck hnot, htr]
    rfl

/-- A rehearsed upload of an 80-byte image declared as 100 bytes, handed out in pieces of one to
sixteen bytes as the position says, streams from its start, and as many reads as there are bytes
hand over the whole image. -/
theorem rehearsal_streams :
    let s : ImageSource := { bytes := ByteArray.mk (Array.replicate 80 7),
                             chunking := ⟨fun p => p % 16 + 1, fun _ => Nat.succ_pos _⟩ }
    let u := Rehearsal.uploader {} {} RetryDefaults.standard false
    let o : UploadOptions := { cancel := 0, scope := .full }
    let w := World.start .work
      { (default : Rehearsal) with run :=
          { (default : UploadRun) with
            session := { (default : Session) with
              image := { (default : ImageInfo) with declaredSize := 100 } }
            body := ⟨{ ahead := s.bytes.extract 0 qcowHeaderLength
                       source := { s with position := qcowHeaderLength } }, 100⟩ } }
    u.Framed ∧ (u.runOf w).Streams s.bytes 100 ∧ (u.runOf w).counted = 0 ∧
      ∀ ws : List Nat, (∀ want ∈ ws, 0 < want) → 80 ≤ ws.length →
        ∃ rs, ((ws.mapM (u.countingRead o true)).run
          { w with log := w.log.push (uploadEvent .info "streaming image"
            [("url", .quoted "https://engine/images/1"), ("bytes", .shown (toString 100))]) }).1 =
            .ok rs ∧ handedOver rs = s.bytes := by
  intro s u o w
  have hs : (u.runOf w).Streams s.bytes 100 :=
    ⟨Body.holds_start (by decide) 100, rfl, rfl, fun t ht => by cases ht⟩
  refine ⟨Rehearsal.framed, hs, rfl, fun ws hpos hlen => ?_⟩
  have hsize : s.bytes.size = 80 := by decide
  obtain ⟨rs, hrs, hbytes⟩ := (sendBytes_streams Rehearsal.framed hs rfl o "https://engine/images/1").1
    ws hpos (by rw [hsize]; exact hlen) rfl
  refine ⟨rs, hrs, ?_⟩
  rw [hbytes, hsize, show min 100 80 = s.bytes.size by rw [hsize]; rfl, ByteArray.extract_zero_size]

end Uploader

end DiskUploader
