import DiskUploader.Proofs.RehearsalSteps

/-!
# Searching the endpoints of a transfer

An image transfer offers up to two endpoints: a URL on the host serving the disk and a URL on
the engine's proxy. Verifying the transfer tries them in that order, absent and empty ones
skipped. Each is probed under its own retry, with the probe policy and the upload's token, which
every cancel scope lets reach this phase. A probe answered below 400 accepts the endpoint. A
client error (400 to 499) is permanent, so the endpoint fails after that one probe; any other
answer is a transient connection failure, retried as the policy allows.

`Searches` relates the world a search starts in and the candidates left to how it ends. An
accepted endpoint ends the search at once. A failed one ends it when the token has cancelled by
then, with the failure as it is; otherwise the failure is logged and the search goes on with the
next candidate. With none left the search fails with a connection fault that wraps the last
failure, or stands alone when there was no candidate.
-/

namespace DiskUploader

variable {σ : Type}

theorem UploadOptions.reaches_urlVerified (o : UploadOptions) : o.reaches .urlVerified = true := by
  cases h : o.scope <;> simp [UploadOptions.reaches, h, Phase.index]

theorem UploadOptions.strategies_urlVerified (o : UploadOptions) (policy : RetryPolicy) :
    o.strategies policy .urlVerified = policy.strategies ++ [.cancellation o.cancel] := by
  simp [UploadOptions.strategies, o.reaches_urlVerified]

/-- What one probe answer makes of an endpoint: accepted below 400, else failed with the code
of its status. -/
def probeVerdict (url : String) : Except Fault Nat → Except Fault Unit
  | .error e => .error e
  | .ok status =>
    if status < 400 then .ok ()
    else .error (Fault.new (statusCode status) s!"{url} answered OPTIONS with status {status}")

def noEndpoint (id : String) : Option Fault → Fault
  | some e => Fault.wrap e.chain .connection s!"no usable endpoint for image transfer {id}"
  | none => Fault.new .connection s!"no usable endpoint for image transfer {id}"

def unusableEvent (url : String) (e : Fault) : LogEvent :=
  uploadEvent .warn "transfer endpoint unusable" [("url", .shown url), ("error", .shown e.fullMessage)]

theorem Fault.classified_new {c : Code} (h : c ≠ .unidentified) (m : String) :
    (Fault.new c m).classified = Fault.new c m := by
  simp [Fault.classified, Fault.new, h]

theorem probeVerdict_client_error (url : String) {s : Nat} (h₁ : 400 ≤ s) (h₂ : s ≤ 499) :
    probeVerdict url (.ok s) =
        .error (Fault.new .permanentHttpError s!"{url} answered OPTIONS with status {s}") ∧
      (Fault.new .permanentHttpError s!"{url} answered OPTIONS with status {s}").classified.permanent =
        true := by
  refine ⟨?_, by rw [Fault.classified_new (by decide)]; rfl⟩
  simp [probeVerdict, Nat.not_lt.2 h₁, statusCode_client s h₁ h₂]

theorem probeVerdict_server_error (url : String) {s : Nat} (h : 499 < s) :
    Transient (probeVerdict url (.ok s)) := by
  have hc : statusCode s = .connection := by simp [statusCode]; omega
  refine ⟨Fault.new .connection s!"{url} answered OPTIONS with status {s}",
    by simp [probeVerdict, show ¬ s < 400 by omega, hc], ?_⟩
  rw [Fault.classified_new (by decide)]
  rfl

theorem noEndpoint_wraps (id : String) (e : Fault) :
    (noEndpoint id (some e)).code = .connection ∧ (noEndpoint id (some e)).cause = e.chain ∧
      ∀ c, e.has c = true → (noEndpoint id (some e)).has c = true := by
  refine ⟨Fault.wrap_code_of_ne (by decide) _, rfl, fun c hc => ?_⟩
  -- the wrapped fault heads the cause, so every code it has is seen below the wrapper
  have hcause : (noEndpoint id (some e)).cause = .fault e.code e.message :: e.cause := rfl
  simp only [Fault.has, Bool.or_eq_true, beq_iff_eq, List.any_eq_true] at hc ⊢
  right
  rw [hcause]
  rcases hc with h | ⟨x, hx, hxc⟩
  · exact ⟨_, List.mem_cons_self, by simp [Layer.code?, h]⟩
  · exact ⟨x, List.mem_cons_of_mem _ hx, hxc⟩

/-- A retry whose deadline lies beyond the clock's range panics before its first attempt, in
the world it started in. -/
theorem retry_overflow {α : Type} (desc : String) {ss : List Strategy}
    {action : Timed σ (Except Fault α)} {w : World σ} (h : ¬ (Plan.ofStrategies ss).FitsBy w.now) :
    (retry desc ss action).run w = (.error (.panic (some "overflow when adding duration to instant")), w) := by
  simp only [Plan.FitsBy, not_forall, Nat.not_le] at h
  obtain ⟨t, ht, hbig⟩ := h
  simp [retry, Option.mem_def.1 ht, hbig, Timed.panic]

namespace Uploader

variable (u : Uploader σ) (o : UploadOptions)

/-- Each endpoint is probed under its own retry, with the probe policy and the upload's token,
until an attempt's answer accepts it or fails it for good. -/
theorem probeUrl_eq (url : String) :
    u.probeUrl o url = retry s!"probe {url}" (u.policies.probe.strategies ++ [.cancellation o.cancel])
      (probeVerdict url <$> u.transport.probe url) := by
  rw [probeUrl, o.strategies_urlVerified, map_eq_pure_bind]
  refine congrArg (retry _ _ <| u.transport.probe url >>= ·) (funext fun r => ?_)
  rcases r with e | s
  · rfl
  · by_cases h : s < 400 <;> simp [probeVerdict, h]

variable (id : String)

/-- How a search through candidate endpoints runs from a world, with the failure of the
candidate tried last in hand: the result and the world it ends in. -/
inductive Searches : Option Fault → List String → World σ →
    Except Interrupt (Except Fault String) × World σ → Prop
  | exhausted (last : Option Fault) (w : World σ) :
      Searches last [] w (.ok (.error (noEndpoint id last)), w)
  | verified {url : String} {rest : List String} {last : Option Fault} {w w' : World σ}
      (h : (u.probeUrl o url).run w = (.ok (.ok ()), w')) :
      Searches last (url :: rest) w (.ok (.ok url), w')
  | cancelled {url : String} {rest : List String} {last : Option Fault} {w w' : World σ}
      {e : Fault} (h : (u.probeUrl o url).run w = (.ok (.error e), w'))
      (hc : w'.hasFired o.cancel = true) :
      Searches last (url :: rest) w (.ok (.error e), w')
  | next {url : String} {rest : List String} {last : Option Fault} {w w' : World σ} {e : Fault}
      {r : Except Interrupt (Except Fault String) × World σ}
      (h : (u.probeUrl o url).run w = (.ok (.error e), w')) (hc : w'.hasFired o.cancel = false)
      (hr : Searches (some e) rest { w' with log := w'.log.push (unusableEvent url e) } r) :
      Searches last (url :: rest) w r
  | interrupted {url : String} {rest : List String} {last : Option Fault} {w w' : World σ}
      {i : Interrupt} (h : (u.probeUrl o url).run w = (.error i, w')) :
      Searches last (url :: rest) w (.error i, w')

/-- The loop over candidates, whose body probes one candidate and decides on its answer, then
the step after the loop, runs as a search. By induction on the candidates left, with the
failure in hand generalised. -/
theorem forIn_searches
    {f : String → Option String × Option Fault → Stage σ (ForInStep (Option String × Option Fault))}
    (hok : ∀ url last w w', (u.probeUrl o url).run w = (.ok (.ok ()), w') →
      (f url (none, last)).run.run w = (.ok (.ok (.done (some url, last))), w'))
    (herr : ∀ url last w w' e, (u.probeUrl o url).run w = (.ok (.error e), w') →
      (f url (none, last)).run.run w = if w'.hasFired o.cancel then (.ok (.error e), w')
        else (.ok (.ok (.yield (none, some e))), { w' with log := w'.log.push (unusableEvent url e) }))
    (hint : ∀ url last w w' i, (u.probeUrl o url).run w = (.error i, w') →
      (f url (none, last)).run.run w = (.error i, w'))
    {post : Option String × Option Fault → Stage σ String}
    (hfound : ∀ url last w, (post (some url, last)).run.run w = (.ok (.ok url), w))
    (hnone : ∀ last w, (post (none, last)).run.run w = (.ok (.error (noEndpoint id last)), w)) :
    ∀ (l : List String) (last : Option Fault) (w : World σ),
      u.Searches o id last l w ((forIn l (none, last) f >>= post).run.run w)
  | [], last, w => by
    rw [List.forIn_nil, pure_bind, hnone]
    exact .exhausted last w
  | url :: rest, last, w => by
    rw [List.forIn_cons, bind_assoc, Stage.run_bind]
    rcases h : (u.probeUrl o url).run w with ⟨i | e | ⟨⟩, w'⟩
    · rw [hint url last w w' i h]
      exact .interrupted h
    · rw [herr url last w w' e h]
      by_cases hc : w'.hasFired o.cancel = true
      · simpa [hc] using Searches.cancelled h hc
      · -- the failure is logged and the search goes on with the rest
        simp only [hc, Bool.false_eq_true, if_false]
        exact .next h (by simpa using hc) (forIn_searches hok herr hint hfound hnone rest (some e) _)
    · simp only [hok url last w w' h, pure_bind, hfound]
      exact .verified h

theorem verifyUrl_searches (t : Transfer) (w : World σ) :
    u.Searches o t.id none t.candidateUrls w ((u.verifyUrl o t).run.run w) := by
  unfold verifyUrl
  refine u.forIn_searches o t.id (fun url last w w' h => ?_) (fun url last w w' e h => ?_)
    (fun url last w w' i h => ?_) (fun url last w => rfl) (fun last w => ?_) t.candidateUrls none w
  · simp only [Stage.lift_eq, Stage.run_bind, Stage.run_lift, h]
    rfl
  · simp only [Stage.lift_eq, Stage.run_bind, Stage.run_lift, h, liftM, run_cancelled,
      o.reaches_urlVerified, Bool.and_true]
    cases w'.hasFired o.cancel <;> rfl
  · simp only [Stage.lift_eq, Stage.run_bind, Stage.run_lift, h]
  · cases last <;> rfl

theorem Searches.unique {last : Option Fault} {l : List String} {w : World σ}
    {r r' : Except Interrupt (Except Fault String) × World σ} (h : u.Searches o id last l w r)
    (h' : u.Searches o id last l w r') : r = r' := by
  induction h generalizing r' with
  | exhausted => cases h'; rfl
  | verified h₁ => cases h' <;> simp_all
  | cancelled h₁ hc₁ => cases h' <;> simp_all
  | next h₁ hc₁ _ ih =>
    cases h' with
    | next h₂ hc₂ hr₂ =>
      obtain ⟨rfl, rfl⟩ : _ ∧ _ := by simpa [h₁] using h₂
      exact ih hr₂
    | _ => simp_all
  | interrupted h₁ => cases h' <;> simp_all

variable {o}

theorem probeUrl_accepted {url : String} {w w' : World σ} {s : Nat}
    (hp : (u.transport.probe url).run w = (.ok (.ok s), w')) (hs : s < 400)
    (hfit : (Plan.ofStrategies (o.strategies u.policies.probe .urlVerified)).FitsBy w.now)
    (hcap : 0 < w.attemptCap) :
    (u.probeUrl o url).run w = (.ok (.ok ()), w') := by
  refine retry_first _ (o.strategies_attemptLimit _ _) hfit hcap ?_
  rw [Timed.run_bind, hp]
  simp [hs]

/-- A first probe answered with a client error fails the endpoint after that one probe, in the
world it left, with a permanent fault over the probe's. -/
theorem probeUrl_client_error {url : String} {w w' : World σ} {s : Nat}
    (hp : (u.transport.probe url).run w = (.ok (.ok s), w')) (h₁ : 400 ≤ s) (h₂ : s ≤ 499)
    (hfit : (Plan.ofStrategies (o.strategies u.policies.probe .urlVerified)).FitsBy w.now)
    (hcap : 0 < w.attemptCap) :
    ∃ e, (u.probeUrl o url).run w = (.ok (.error e), w') ∧ e.code = .permanentHttpError ∧
      e.cause = (Fault.new .permanentHttpError s!"{url} answered OPTIONS with status {s}").chain := by
  have hperm := (probeVerdict_client_error url h₁ h₂).2
  rw [Fault.classified_new (by decide)] at hperm
  refine ⟨_, retry_permanent (e := Fault.new .permanentHttpError s!"{url} answered OPTIONS with status {s}")
    _ (o.strategies_attemptLimit _ _) hfit hcap ?_ ?_, ?_, ?_⟩
  · rw [Timed.run_bind, hp]
    simp [Nat.not_lt.2 h₁, statusCode_client s h₁ h₂]
  · rw [Fault.classified_new (by decide)]
    exact hperm
  · rw [Fault.classified_new (by decide)]
    exact Fault.wrap_code_of_ne (show Code.permanentHttpError ≠ .unidentified by decide) _
  · rw [Fault.classified_new (by decide)]
    rfl

theorem probeUrl_overflow {url : String} {w : World σ}
    (h : ¬ (Plan.ofStrategies (o.strategies u.policies.probe .urlVerified)).FitsBy w.now) :
    (u.probeUrl o url).run w = (.error (.panic (some "overflow when adding duration to instant")), w) :=
  retry_overflow _ h

variable (o) in
/-- Verifying the endpoint of a transfer searches its candidates in order, the host's URL before
the proxy's, absent and empty ones skipped, each probed under its own retry with the probe policy
and the upload's token. A first probe answered below 400 verifies the candidate at once; one
answered with a client error fails it after that probe, with a permanent fault; any other status,
like a failure of the transport itself, is a failure the retry judges as it is, a server error
being transient. With no candidate verified and the token not cancelled, the search fails with a
connection fault over the last candidate's failure, which keeps every code of it; with no
candidate at all, with a bare connection fault. A probe policy whose deadline lies beyond the
clock's range panics before any probe. -/
theorem verifyUrl_falls_back (t : Transfer) :
    (∀ w, u.Searches o t.id none t.candidateUrls w ((u.verifyUrl o t).run.run w)) ∧
    (∀ url, u.probeUrl o url = retry s!"probe {url}"
      (u.policies.probe.strategies ++ [.cancellation o.cancel])
      (probeVerdict url <$> u.transport.probe url)) ∧
    (∀ url w w' s, (u.transport.probe url).run w = (.ok (.ok s), w') → 0 < w.attemptCap →
      (Plan.ofStrategies (o.strategies u.policies.probe .urlVerified)).FitsBy w.now →
      (s < 400 → (u.probeUrl o url).run w = (.ok (.ok ()), w')) ∧
      (400 ≤ s → s ≤ 499 → ∃ e, (u.probeUrl o url).run w = (.ok (.error e), w') ∧
        e.code = .permanentHttpError ∧
        e.cause = (Fault.new .permanentHttpError s!"{url} answered OPTIONS with status {s}").chain)) ∧
    (∀ url s, 499 < s → Transient (probeVerdict url (.ok s))) ∧
    (∀ url e, probeVerdict url (.error e) = .error e) ∧
    (∀ url w, ¬ (Plan.ofStrategies (o.strategies u.policies.probe .urlVerified)).FitsBy w.now →
      (u.probeUrl o url).run w = (.error (.panic (some "overflow when adding duration to instant")), w)) ∧
    (∀ e, (noEndpoint t.id (some e)).code = .connection ∧ (noEndpoint t.id (some e)).cause = e.chain ∧
      ∀ c, e.has c = true → (noEndpoint t.id (some e)).has c = true) ∧
    (noEndpoint t.id none).code = .connection ∧ (noEndpoint t.id none).cause = [] :=
  ⟨u.verifyUrl_searches o t, u.probeUrl_eq o,
    fun _ _ _ _ hp hcap hfit => ⟨fun hs => u.probeUrl_accepted hp hs hfit hcap,
      fun h₁ h₂ => u.probeUrl_client_error hp h₁ h₂ hfit hcap⟩,
    fun url _ h => probeVerdict_server_error url h, fun _ _ => rfl,
    fun _ _ h => u.probeUrl_overflow h, noEndpoint_wraps t.id, rfl, rfl⟩

end Uploader

/-- The largest time limit a probe policy can name overflows the clock: verifying a transfer
that offers both endpoints panics before probing either, and the world is left as it was. -/
theorem verifyUrl_largest_probe_limit_probes_nothing :
    let u := Rehearsal.uploader {} {}
      { RetryDefaults.standard with
        probe := { maxAttempts := some 2, timeoutSecs := some 18446744073709551615 } } false
    let t : Transfer :=
      { id := "t", diskId := "d", phase := .transferring,
        transferUrl := some "https://host.mock:54322/images/t",
        proxyUrl := some "https://engine.mock:54323/images/t" }
    (u.verifyUrl ⟨0, .initialization⟩ t).run.run (World.start .work default) =
      (.error (.panic (some "overflow when adding duration to instant")), World.start .work default) := by
  intro u t
  have hov : ¬ (Plan.ofStrategies ((⟨0, .initialization⟩ : UploadOptions).strategies
      u.policies.probe .urlVerified)).FitsBy (World.start .work (default : Rehearsal)).now :=
    fun h => absurd (h _ rfl) (by decide)
  exact (u.verifyUrl_searches _ t _).unique _ _ _ (.interrupted (u.probeUrl_overflow hov))

end DiskUploader
