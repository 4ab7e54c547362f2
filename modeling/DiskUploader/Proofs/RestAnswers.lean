import DiskUploader.Proofs.MockScript
import DiskUploader.Engine.Rest

/-!
# What the REST client makes of a response

Every call of the REST engine is one exchange with the engine's API followed by a decoding of
the exchange's outcome: `EngineRequest.route` gives the method and path of the call,
`EngineRequest.decode` the decoding, and `RestClient.send_decode` proves that this is what each
call does. The exchange settles on its first response unless that is a 401, and then on the
response to the one retry.

A response settles a call as `EngineRequest.restAnswer` says. An unsuccessful status fails every
call with the status fault, whose code follows the status. A successful blank body is no body:
the calls that need one fail for a missing field and a listing of jobs finds none. A successful
body that is not JSON fails every call for a missing field. Entities decode exactly when their
identifier and their status (a transfer's phase) are texts, and one job that does not decode
fails the whole listing. The main statement is `EngineRequest.rest_answers`.
-/

namespace DiskUploader

namespace EngineRequest

def route : EngineRequest → Method × String
  | .createDisk .. => (.post, "/disks")
  | .getDisk id => (.get, s!"/disks/{id}")
  | .removeDisk id => (.delete, s!"/disks/{id}")
  | .createTransfer .. => (.post, "/imagetransfers")
  | .getTransfer id => (.get, s!"/imagetransfers/{id}")
  | .finalizeTransfer id _ => (.post, s!"/imagetransfers/{id}/finalize")
  | .cancelTransfer id => (.post, s!"/imagetransfers/{id}/cancel")
  | .listJobs _ => (.get, "/jobs")

def restQuery : EngineRequest → List (String × String)
  | .createDisk _ c | .createTransfer _ _ c | .finalizeTransfer _ c => [("correlation_id", c.text)]
  | .listJobs c => [("search", s!"correlation_id={c.text}")]
  | _ => []

def restBody : EngineRequest → Option Json
  | .createDisk p _ => some (RestClient.diskBody p)
  | .createTransfer id dir _ =>
    some (.obj [("direction", .str dir.name), ("disk", .obj [("id", .str id)])])
  | .finalizeTransfer .. | .cancelTransfer _ => some (.obj [])
  | _ => none

end EngineRequest

namespace RestClient

/-- The body a call needs from its exchange: a missing one is a missing field. -/
def required (m : Method) (path : String) : Except Fault (Option Json) → Except Fault Json
  | .error f => .error f
  | .ok (some j) => .ok j
  | .ok none => .error (Fault.new .fieldMissing s!"empty response body for {m.name} {path}")

/-- The jobs a listing answers: those of the body's `job` array, or none. -/
def listed : Except Fault (Option Json) → Except Fault (List Job)
  | .error f => .error f
  | .ok v =>
    match v.bind (·.get? "job") with
    | some (.arr jobs) => jobs.mapM Job.ofJson
    | _ => .ok []

/-- The engine's explanation in an unsuccessful response: its reason and detail when the body
is such a record, else its first 200 characters. -/
def statusDetail (body : String) : String :=
  match readTextRecord "Fault" ["reason", "detail"] body with
  | .ok [reason, detail] => (reason.getD "") ++ " " ++ (detail.getD "")
  | _ => String.ofList (body.toList.take 200)

end RestClient

namespace EngineRequest

def decode (q : EngineRequest) (o : Except Fault (Option Json)) : EngineReply :=
  match q with
  | .createDisk .. | .getDisk _ =>
    .disk ((RestClient.required q.route.1 q.route.2 o).bind Disk.ofJson)
  | .createTransfer .. | .getTransfer _ =>
    .transfer ((RestClient.required q.route.1 q.route.2 o).bind Transfer.ofJson)
  | .removeDisk _ | .finalizeTransfer .. | .cancelTransfer _ => .done (o.map fun _ => ())
  | .listJobs _ => .jobs (RestClient.listed o)

def restAnswer (q : EngineRequest) (r : Response) : EngineReply :=
  q.decode (RestClient.outcome q.route.1 q.route.2 r)

end EngineRequest

namespace RestClient

variable {σ : Type} (c : RestClient σ)

theorem send_decode (q : EngineRequest) :
    q.send c.engine = q.decode <$> c.send q.route.1 q.route.2 q.restQuery q.restBody := by
  -- a call that needs a body fetches it; the others take the exchange's outcome as it is
  have hfetch : ∀ (m : Method) (path : String) qy bd {α : Type} (f : Json → Except Fault α),
      (do return (← c.fetch m path qy bd).bind f) =
        (fun o => (required m path o).bind f) <$> c.send m path qy bd := by
    intro m path qy bd α f
    simp only [fetch, map_eq_bind_pure_comp, bind_assoc]
    congr 1
    funext o
    rcases o with e | _ | j <;> simp [required]
  cases q <;>
    simp only [EngineRequest.send, engine, createDisk, getDisk, createTransfer, getTransfer,
      removeDisk, finalizeTransfer, cancelTransfer, listJobs, EngineRequest.decode,
      EngineRequest.route, EngineRequest.restQuery, EngineRequest.restBody, hfetch,
      map_eq_bind_pure_comp, bind_assoc, Function.comp_def, pure_bind]
  all_goals (congr 1; funext o)
  -- a listing decodes the `job` array when there is one
  rcases o with e | v
  · rfl
  · simp only [listed]
    rcases v.bind (·.get? "job") with _ | ⟨_ | _ | _ | _ | jobs | _⟩ <;> simp

variable {m : Method} {path : String} {qy : List (String × String)} {bd : Option Json}
  {w w₁ w₂ : World σ} {r r' : Response}

theorem send_settled {x : Except Interrupt (Except Fault Response)}
    (h : (c.exchange m path qy bd).run w = (x, w₁)) (hx : ∀ r, x = .ok (.ok r) → r.status ≠ 401) :
    (c.send m path qy bd).run w = (x.map (·.bind (outcome m path)), w₁) := by
  rcases x with _ | _ | r
  · simp [send, h, Except.map]
  · simp [send, h, Except.map, Except.bind]
  · simp [send, h, hx r rfl, Except.map, Except.bind]

theorem send_retried {x : Except Interrupt (Except Fault Response)}
    (h : (c.exchange m path qy bd).run w = (.ok (.ok r), w₁)) (hr : r.status = 401)
    (h' : (c.exchange m path qy bd).run
      { w₁ with state := c.token.update (fun _ => none) w₁.state } = (x, w₂)) :
    (c.send m path qy bd).run w = (x.map (·.bind (outcome m path)), w₂) := by
  rcases x with _ | _ | r'
  all_goals simp [send, h, hr, h', Except.map, Except.bind]

theorem send_restAnswer (q : EngineRequest)
    (h : (c.exchange q.route.1 q.route.2 q.restQuery q.restBody).run w = (.ok (.ok r), w₁))
    (hr : r.status ≠ 401) :
    (q.send c.engine).run w = (.ok (q.restAnswer r), w₁) := by
  rw [send_decode, Timed.run_map, c.send_settled h fun _ hx => by cases hx; exact hr]
  rfl

theorem send_restAnswer_retry (q : EngineRequest)
    (h : (c.exchange q.route.1 q.route.2 q.restQuery q.restBody).run w = (.ok (.ok r), w₁))
    (hr : r.status = 401)
    (h' : (c.exchange q.route.1 q.route.2 q.restQuery q.restBody).run
      { w₁ with state := c.token.update (fun _ => none) w₁.state } = (.ok (.ok r'), w₂)) :
    (q.send c.engine).run w = (.ok (q.restAnswer r'), w₂) := by
  rw [send_decode, Timed.run_map, c.send_retried h hr h']
  rfl

def statusFaultCode (status : Nat) (detail : String) : Code :=
  if status = 401 ∨ status = 403 then .accessDenied
  else if status = 404 then .notFound
  else if status = 409 then
    (if Text.mentions (Text.fold detail) "locked" then .diskLocked else .conflict)
  else if 400 ≤ status ∧ status ≤ 499 then .permanentHttpError
  else .connection

theorem statusFault_eq (s : Nat) (m : Method) (path body : String) :
    statusFault s m path body = Fault.new (statusFaultCode s (statusDetail body))
      s!"{m.name} {path} returned {statusText s}: {Text.trimBlank (statusDetail body)}" := by
  -- the explanation's match and the status's match, each case read against the other
  unfold statusFault statusDetail
  split <;> split <;> simp_all [statusFaultCode]

theorem statusFault_code (s : Nat) (m : Method) (path body : String) :
    (statusFault s m path body).code = statusFaultCode s (statusDetail body) := by
  rw [statusFault_eq]
  rfl

variable {body : String}

theorem statusDetail_of_record {reason detail : Option String}
    (h : readTextRecord "Fault" ["reason", "detail"] body = .ok [reason, detail]) :
    statusDetail body = reason.getD "" ++ " " ++ detail.getD "" := by
  simp [statusDetail, h]

theorem statusDetail_of_error {e : String}
    (h : readTextRecord "Fault" ["reason", "detail"] body = .error e) :
    statusDetail body = String.ofList (body.toList.take 200) := by
  simp [statusDetail, h]

end RestClient

theorem Text.trimBlank_isEmpty (s : String) :
    (Text.trimBlank s).isEmpty = s.toList.all Text.isBlank := by
  -- once the leading blanks are gone, what is left starts with a character that is no blank
  have hrest : ∀ l : List Char, (∀ x ∈ l.dropWhile Text.isBlank, Text.isBlank x) →
      l.dropWhile Text.isBlank = [] := by
    intro l h
    by_contra hne
    have hhead := List.head_dropWhile_not Text.isBlank hne
    simp [h _ (List.head_mem hne)] at hhead
  rw [Bool.eq_iff_iff, String.isEmpty_iff]
  simp only [Text.trimBlank, String.ofList_eq_empty_iff, List.reverse_eq_nil_iff,
    List.dropWhile_eq_nil_iff, List.mem_reverse, List.all_eq_true]
  constructor
  · intro h
    exact List.dropWhile_eq_nil_iff.1 (hrest _ h)
  · intro h x hx
    exact h x ((List.dropWhile_sublist _).subset hx)

namespace RestClient

variable {s : Nat} {m : Method} {path body : String} {v : Json}

theorem outcome_unsuccessful (hs : isSuccess s = false) :
    outcome m path ⟨s, body⟩ = .error (statusFault s m path body) := by
  simp [outcome, hs]

theorem outcome_blank (hs : isSuccess s = true) (hb : body.toList.all Text.isBlank = true) :
    outcome m path ⟨s, body⟩ = .ok none := by
  simp [outcome, hs, Text.trimBlank_isEmpty, hb]

theorem outcome_unreadable {e : Json.ReadError} (hs : isSuccess s = true)
    (hb : body.toList.all Text.isBlank = false) (he : Json.read body = .error e) :
    outcome m path ⟨s, body⟩ =
      .error
        (Fault.wrap [Layer.text e.message] .fieldMissing "failed to decode engine response") := by
  simp [outcome, hs, Text.trimBlank_isEmpty, hb, he, Fault.ofJson]

theorem outcome_read (hs : isSuccess s = true) (hb : body.toList.all Text.isBlank = false)
    (hv : Json.read body = .ok v) :
    outcome m path ⟨s, body⟩ = .ok (some v) := by
  simp [outcome, hs, Text.trimBlank_isEmpty, hb, hv]

end RestClient

namespace EngineRequest

def fetches : EngineRequest → Bool
  | .createDisk .. | .getDisk _ | .createTransfer .. | .getTransfer _ => true
  | _ => false

theorem decode_error (q : EngineRequest) (f : Fault) : q.decode (.error f) = q.failed f := by
  cases q <;> rfl

theorem decode_none {q : EngineRequest} (h : q.fetches = true) :
    q.decode (.ok none) =
      q.failed
        (Fault.new .fieldMissing s!"empty response body for {q.route.1.name} {q.route.2}") := by
  cases q <;> first | rfl | cases h

end EngineRequest

def Json.HasText (v : Json) (field : String) : Prop := ∃ t, v.get? field = some (.str t)

theorem Except.bind_eq_error {ε α β : Type} {x : Except ε α} {f : α → Except ε β} {e : ε}
    (h : x >>= f = .error e) : x = .error e ∨ ∃ a, x = .ok a ∧ f a = .error e := by
  cases x with
  | error e' => exact .inl (by simpa [bind, Except.bind] using h)
  | ok a => exact .inr ⟨a, rfl, h⟩

variable {v : Json} {e : Fault}

theorem requiredText_isOk (v : Json) (field entity : String) :
    (∃ t, requiredText v field entity = .ok t) ↔ v.HasText field := by
  unfold requiredText Json.HasText
  split <;> simp_all

theorem requiredText_code {field entity : String} (h : requiredText v field entity = .error e) :
    e.code = .fieldMissing := by
  unfold requiredText at h
  split at h
  · cases h
  · cases h
    rfl

/-- A record read through two required text fields, in order, as the decoders of disks,
transfers and jobs are. -/
theorem pair_isOk {α : Type} (f₁ f₂ entity : String) (g : String → String → α) :
    (∃ x, ((requiredText v f₁ entity).bind fun a =>
      (requiredText v f₂ entity).bind fun b => Except.ok (g a b)) = .ok x) ↔
      v.HasText f₁ ∧ v.HasText f₂ := by
  rw [← requiredText_isOk v f₁ entity, ← requiredText_isOk v f₂ entity]
  cases requiredText v f₁ entity <;> cases requiredText v f₂ entity <;> simp [Except.bind]

theorem pair_code {α : Type} {f₁ f₂ entity : String} {g : String → String → α}
    (h : ((requiredText v f₁ entity).bind fun a =>
      (requiredText v f₂ entity).bind fun b => Except.ok (g a b)) = .error e) :
    e.code = .fieldMissing := by
  obtain h1 | ⟨_, -, h⟩ := Except.bind_eq_error h
  · exact requiredText_code h1
  obtain h2 | ⟨_, -, h⟩ := Except.bind_eq_error h
  · exact requiredText_code h2
  · cases h

theorem Disk.ofJson_isOk : (∃ d, Disk.ofJson v = .ok d) ↔ v.HasText "id" ∧ v.HasText "status" :=
  pair_isOk "id" "status" "disk" _

theorem Transfer.ofJson_isOk :
    (∃ t, Transfer.ofJson v = .ok t) ↔ v.HasText "id" ∧ v.HasText "phase" :=
  pair_isOk "id" "phase" "image transfer" _

theorem Job.ofJson_isOk : (∃ j, Job.ofJson v = .ok j) ↔ v.HasText "id" ∧ v.HasText "status" :=
  pair_isOk "id" "status" "job" _

theorem Disk.ofJson_code (h : Disk.ofJson v = .error e) : e.code = .fieldMissing := pair_code h

theorem Transfer.ofJson_code (h : Transfer.ofJson v = .error e) : e.code = .fieldMissing :=
  pair_code h

theorem Job.ofJson_code (h : Job.ofJson v = .error e) : e.code = .fieldMissing := pair_code h

theorem sizeField_eq_some {field : String} {n : Nat} :
    sizeField v field = some n ↔
      (∃ t, v.get? field = some (.str t) ∧ readSize t = some n) ∨
        (v.get? field = some (.num (.nat n)) ∧ n < 2 ^ 64) := by
  unfold sizeField
  split
  case h_2 k hk =>
    simp only [hk, Option.some.injEq, Json.num.injEq, JsonNumber.nat.injEq, Nat.pow_eq]
    constructor
    · intro h
      split at h <;> simp_all
    · rintro (⟨_, h, _⟩ | ⟨rfl, h⟩)
      · cases h
      · simpa using h
  all_goals simp_all

theorem Disk.ofJson_sizes {d : Disk} (h : Disk.ofJson v = .ok d) :
    d.provisionedSize = (sizeField v "provisioned_size").getD 0 ∧
      d.totalSize = sizeField v "total_size" := by
  cases h1 : requiredText v "id" "disk" <;> cases h2 : requiredText v "status" "disk" <;>
    simp [Disk.ofJson, h1, h2, bind, Except.bind, pure, Except.pure] at h
  subst h
  exact ⟨rfl, rfl⟩

theorem foldl_toDigits (n : Nat) :
    (Nat.toDigits 10 n).foldl (fun a c => a * 10 + (c.toNat - 48)) 0 = n := by
  have hdigit : ∀ k < 10, (Nat.digitChar k).toNat - 48 = k := by decide
  induction n using Nat.strong_induction_on with
  | _ n ih =>
    rw [Nat.toDigits_eq_if (by decide)]
    split
    case isTrue hn => simp [hdigit n hn]
    case isFalse hn =>
      rw [List.foldl_append, ih (n / 10) (by omega)]
      simp only [List.foldl_cons, List.foldl_nil, hdigit (n % 10) (Nat.mod_lt _ (by decide))]
      omega

theorem readSize_toString {n : Nat} (h : n < 2 ^ 64) : readSize (toString n) = some n := by
  have hdigits : ∀ c ∈ Nat.toDigits 10 n, c.isDigit = true := fun c hc =>
    Nat.isDigit_of_mem_toDigits (by decide) (by decide) hc
  unfold readSize
  rw [Nat.toString_eq_repr, Nat.repr, String.toList_ofList]
  split
  case h_1 rest heq =>
    -- a numeral never starts with a sign
    have := hdigits '+' (by simp [heq])
    exact absurd this (by decide)
  case h_2 =>
    simp [Nat.toDigits_ne_nil, foldl_toDigits]
    exact ⟨hdigits, h⟩

theorem mapM_error_of_mem {α β ε : Type} {f : α → Except ε β} {l : List α} {x : α} (hx : x ∈ l)
    (hf : ∀ b, f x ≠ .ok b) : ∃ e, l.mapM f = .error e ∧ ∃ y ∈ l, f y = .error e := by
  induction l with
  | nil => cases hx
  | cons y l ih =>
    rw [List.mapM_cons]
    cases hy : f y with
    | error e => exact ⟨e, by simp [bind, Except.bind], y, List.mem_cons_self, hy⟩
    | ok b =>
      -- `y` decodes, so the failing element is further on
      have hx' : x ∈ l := by
        rcases List.mem_cons.1 hx with rfl | hl
        · exact absurd hy (hf b)
        · exact hl
      obtain ⟨e, he, z, hz, hze⟩ := ih hx'
      exact ⟨e, by simp [he, bind, Except.bind], z, List.mem_cons_of_mem _ hz, hze⟩

theorem listed_job {jobs : List Json} (hv : v.get? "job" = some (.arr jobs)) :
    RestClient.listed (.ok (some v)) = jobs.mapM Job.ofJson := by
  simp [RestClient.listed, hv]

open RestClient in
/-- What the REST engine makes of the response that settles a call: the first response unless it
is a 401, else the response to the retry. -/
theorem EngineRequest.rest_answers :
    (∀ {σ : Type} (c : RestClient σ) (q : EngineRequest) (w w₁ w₂ : World σ) (r r' : Response),
      (c.exchange q.route.1 q.route.2 q.restQuery q.restBody).run w = (.ok (.ok r), w₁) →
        (r.status ≠ 401 → (q.send c.engine).run w = (.ok (q.restAnswer r), w₁)) ∧
        (r.status = 401 →
          (c.exchange q.route.1 q.route.2 q.restQuery q.restBody).run
            { w₁ with state := c.token.update (fun _ => none) w₁.state } = (.ok (.ok r'), w₂) →
          (q.send c.engine).run w = (.ok (q.restAnswer r'), w₂))) ∧
    -- an unsuccessful status fails the call with its status fault
    (∀ (q : EngineRequest) (s : Nat) (body : String), isSuccess s = false →
      q.restAnswer ⟨s, body⟩ = q.failed (statusFault s q.route.1 q.route.2 body)) ∧
    (∀ (s : Nat) (m : Method) (path body : String),
      ((s = 401 ∨ s = 403) → (statusFault s m path body).code = .accessDenied) ∧
      (s = 404 → (statusFault s m path body).code = .notFound) ∧
      (s = 409 → (statusFault s m path body).code =
        if Text.mentions (Text.fold (statusDetail body)) "locked" then .diskLocked
        else .conflict) ∧
      (400 ≤ s → s ≤ 499 → s ≠ 401 → s ≠ 403 → s ≠ 404 → s ≠ 409 →
        (statusFault s m path body).code = .permanentHttpError) ∧
      (¬(400 ≤ s ∧ s ≤ 499) → (statusFault s m path body).code = .connection)) ∧
    -- the engine's explanation
    (∀ (body : String) (reason detail : Option String),
      readTextRecord "Fault" ["reason", "detail"] body = .ok [reason, detail] →
        statusDetail body = reason.getD "" ++ " " ++ detail.getD "") ∧
    (∀ (body e : String), readTextRecord "Fault" ["reason", "detail"] body = .error e →
      statusDetail body = String.ofList (body.toList.take 200)) ∧
    -- a successful blank body is no body
    (∀ (q : EngineRequest) (s : Nat) (body : String), isSuccess s = true →
      body.toList.all Text.isBlank = true →
        (q.fetches = true → q.restAnswer ⟨s, body⟩ = q.failed (Fault.new .fieldMissing
          s!"empty response body for {q.route.1.name} {q.route.2}")) ∧
        ∀ corr, (EngineRequest.listJobs corr).restAnswer ⟨s, body⟩ = .jobs (.ok [])) ∧
    -- a successful body that is not JSON
    (∀ (q : EngineRequest) (s : Nat) (body : String) (e : Json.ReadError), isSuccess s = true →
      body.toList.all Text.isBlank = false → Json.read body = .error e →
        q.restAnswer ⟨s, body⟩ = q.failed
          (Fault.wrap [Layer.text e.message] .fieldMissing "failed to decode engine response") ∧
        (Fault.wrap [Layer.text e.message] .fieldMissing "failed to decode engine response").code =
          .fieldMissing) ∧
    -- entities need their identifier and status as texts
    (∀ v : Json,
      ((∃ d, Disk.ofJson v = .ok d) ↔ v.HasText "id" ∧ v.HasText "status") ∧
      ((∃ t, Transfer.ofJson v = .ok t) ↔ v.HasText "id" ∧ v.HasText "phase") ∧
      ((∃ j, Job.ofJson v = .ok j) ↔ v.HasText "id" ∧ v.HasText "status") ∧
      (∀ e, Disk.ofJson v = .error e → e.code = .fieldMissing) ∧
      (∀ e, Transfer.ofJson v = .error e → e.code = .fieldMissing) ∧
      (∀ e, Job.ofJson v = .error e → e.code = .fieldMissing)) ∧
    -- sizes are decimal texts or numbers
    (∀ (v : Json) (field : String) (n : Nat), sizeField v field = some n ↔
      (∃ t, v.get? field = some (.str t) ∧ readSize t = some n) ∨
        (v.get? field = some (.num (.nat n)) ∧ n < 2 ^ 64)) ∧
    (∀ (v : Json) (d : Disk), Disk.ofJson v = .ok d →
      d.provisionedSize = (sizeField v "provisioned_size").getD 0 ∧
        d.totalSize = sizeField v "total_size") ∧
    (∀ n : Nat, n < 2 ^ 64 → readSize (toString n) = some n) ∧
    -- one job that does not decode fails the listing
    (∀ (corr : CorrelationId) (s : Nat) (body : String) (v : Json) (jobs : List Json) (j : Json),
      isSuccess s = true → body.toList.all Text.isBlank = false → Json.read body = .ok v →
      v.get? "job" = some (.arr jobs) → j ∈ jobs → (∀ x, Job.ofJson j ≠ .ok x) →
      ∃ e, (EngineRequest.listJobs corr).restAnswer ⟨s, body⟩ = .jobs (.error e) ∧
        e.code = .fieldMissing) := by
  refine ⟨?settles, ?unsuccessful, ?codes, fun _ _ _ => statusDetail_of_record,
    fun _ _ => statusDetail_of_error, ?blank, ?unreadable, ?entities,
    fun _ _ _ => sizeField_eq_some, fun _ _ => Disk.ofJson_sizes, fun _ => readSize_toString, ?jobs⟩
  case settles =>
    intro σ c q w w₁ w₂ r r' h
    exact ⟨c.send_restAnswer q h, c.send_restAnswer_retry q h⟩
  case unsuccessful =>
    intro q s body hs
    rw [EngineRequest.restAnswer, outcome_unsuccessful hs, EngineRequest.decode_error]
  case codes =>
    intro s m path body
    simp only [statusFault_code, RestClient.statusFaultCode]
    refine ⟨fun h => if_pos h, ?_, ?_, ?_, ?_⟩
    · rintro rfl
      rfl
    · rintro rfl
      rfl
    · intro h₁ h₂ h₃ h₄ h₅ h₆
      simp [h₁, h₂, h₃, h₄, h₅, h₆]
    · intro h
      have h₁ : ¬(s = 401 ∨ s = 403) := by omega
      have h₂ : s ≠ 404 := by omega
      have h₃ : s ≠ 409 := by omega
      simp [h, h₁, h₂, h₃]
  case blank =>
    intro q s body hs hb
    constructor
    · intro hq
      rw [EngineRequest.restAnswer, outcome_blank hs hb, EngineRequest.decode_none hq]
    · intro corr
      rw [EngineRequest.restAnswer, outcome_blank hs hb]
      rfl
  case unreadable =>
    intro q s body e hs hb he
    constructor
    · rw [EngineRequest.restAnswer, outcome_unreadable hs hb he, EngineRequest.decode_error]
    · simp [Fault.wrap, Fault.wrapCode]
  case entities =>
    intro v
    exact ⟨Disk.ofJson_isOk, Transfer.ofJson_isOk, Job.ofJson_isOk, fun _ => Disk.ofJson_code,
      fun _ => Transfer.ofJson_code, fun _ => Job.ofJson_code⟩
  case jobs =>
    intro corr s body v jobs j hs hb hv hjobs hj hbad
    obtain ⟨e, he, y, -, hy⟩ := mapM_error_of_mem hj hbad
    refine ⟨e, ?_, Job.ofJson_code hy⟩
    rw [EngineRequest.restAnswer, outcome_read hs hb hv]
    show EngineReply.jobs (listed _) = _
    rw [listed_job hjobs, he]

end DiskUploader
