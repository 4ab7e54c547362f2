import DiskUploader.Proofs.RestAnswers
import DiskUploader.Proofs.NestedWaits

/-!
# The REST client's token

The client keeps one access token: `currentToken` hands out the kept one or signs on for a new
one, and a call answered with 401 drops it and is sent once more.

The first part follows one call through its pieces, each for every network: what the sign-on
makes of the answer to `ssoRequest` (the `authenticate_*` lemmas), an exchange with and without a
token, and a call that settles or is retried. A tally of the state that no change of the token
moves is raised by a call only as far as the network raises it (`send_raises`).

The second part runs the client against a scripted server (`RestBench`), which answers each
request from the requests it received before and keeps them all. A call sends at most two token
requests and two API requests; a token is asked for exactly when none is kept; a kept token
serves every later call until a 401; only a granted token is kept. The main statement is
`RestBench.token_cache_contract`.
-/

namespace DiskUploader

namespace RestClient

variable {σ : Type} (c : RestClient σ)

def ssoRequest : Request :=
  { method := .post, url := c.ssoUrl, headers := [("Accept", "application/json")],
    payload := .form [("grant_type", "password"), ("scope", "ovirt-app-api"),
      ("username", c.username), ("password", c.password)] }

def apiRequest (m : Method) (path : String) (query : List (String × String)) (body : Option Json)
    (t : String) : Request :=
  { method := m, url := c.apiUrl path, query,
    headers := [("Authorization", "Bearer " ++ t), ("Accept", "application/json")],
    payload := body.elim .empty .json }

@[simp] theorem ssoRequest_url : c.ssoRequest.url = c.ssoUrl := rfl

@[simp] theorem apiRequest_url (m : Method) (path : String) (query : List (String × String))
    (body : Option Json) (t : String) : (c.apiRequest m path query body t).url = c.apiUrl path :=
  rfl

theorem apiUrl_ne_ssoUrl (path : String) : c.apiUrl path ≠ c.ssoUrl := by
  intro h
  -- past the common base the two paths part at their fifteenth character
  have h1 := congrArg String.toList h
  simp only [apiUrl, ssoUrl, String.toList_append, List.append_assoc,
    List.append_cancel_left_eq] at h1
  have h2 := congrArg (List.take 15) h1
  simp at h2

variable {c} {w w₁ w₂ : World σ} {t : String}

theorem currentToken_kept (h : c.token.view w.state = some t) :
    c.currentToken.run w = (.ok (.ok t), w) := by
  simp [currentToken, h]

theorem currentToken_empty (h : c.token.view w.state = none) :
    c.currentToken.run w = c.authenticate.run w := by
  simp [currentToken, h]

variable {resp : Response} {fields : List (Option String)}

theorem authenticate_interrupted {i : Interrupt}
    (hn : (c.network.send c.ssoRequest).run w = (.error i, w₁)) :
    c.authenticate.run w = (.error i, w₁) := by
  unfold ssoRequest at hn
  simp [authenticate, hn]

theorem authenticate_unsent {e : List Layer}
    (hn : (c.network.send c.ssoRequest).run w = (.ok (.error e), w₁)) :
    c.authenticate.run w = (.ok (.error (requestFault e)), w₁) := by
  unfold ssoRequest at hn
  simp [authenticate, hn]

theorem authenticate_unreadable {msg : String}
    (hn : (c.network.send c.ssoRequest).run w = (.ok (.ok resp), w₁))
    (hr : readTextRecord "SsoResponse" ["access_token", "error", "error_description"] resp.body =
      .error msg) :
    c.authenticate.run w =
      (.ok (.error (Fault.wrap [Layer.text msg] .notAnEngine "non-array SSO response")), w₁) := by
  unfold ssoRequest at hn
  simp [authenticate, hn, hr]

theorem authenticate_refused {err : String}
    (hn : (c.network.send c.ssoRequest).run w = (.ok (.ok resp), w₁))
    (hr : readTextRecord "SsoResponse" ["access_token", "error", "error_description"] resp.body =
      .ok fields) (he : fields.getD 1 none = some err) :
    c.authenticate.run w = (.ok (.error (Fault.new .accessDenied
      ("authentication failed: " ++ err ++ " " ++ (fields.getD 2 none).getD ""))), w₁) := by
  unfold ssoRequest at hn
  rw [List.getD_eq_getElem?_getD] at he
  simp [authenticate, hn, hr, he]
  rfl

theorem authenticate_tokenless
    (hn : (c.network.send c.ssoRequest).run w = (.ok (.ok resp), w₁))
    (hr : readTextRecord "SsoResponse" ["access_token", "error", "error_description"] resp.body =
      .ok fields) (he : fields.getD 1 none = none) (ht : fields.getD 0 none = none) :
    c.authenticate.run w =
      (.ok (.error (Fault.new .notAnEngine "SSO response carries no access token")), w₁) := by
  unfold ssoRequest at hn
  rw [List.getD_eq_getElem?_getD] at he ht
  simp [authenticate, hn, hr, he, ht]

theorem authenticate_granted
    (hn : (c.network.send c.ssoRequest).run w = (.ok (.ok resp), w₁))
    (hr : readTextRecord "SsoResponse" ["access_token", "error", "error_description"] resp.body =
      .ok fields) (he : fields.getD 1 none = none) (ht : fields.getD 0 none = some t) :
    (c.authenticate.run w).1 = .ok (.ok t) ∧
      (c.authenticate.run w).2.state = c.token.update (fun _ => some t) w₁.state := by
  unfold ssoRequest at hn
  rw [List.getD_eq_getElem?_getD] at he ht
  simp [authenticate, hn, hr, he, ht]

variable {m : Method} {path : String} {qy : List (String × String)} {bd : Option Json}

theorem exchange_interrupted {i : Interrupt} (h : c.currentToken.run w = (.error i, w₁)) :
    (c.exchange m path qy bd).run w = (.error i, w₁) := by
  simp [exchange, h]

theorem exchange_unauthorized {f : Fault} (h : c.currentToken.run w = (.ok (.error f), w₁)) :
    (c.exchange m path qy bd).run w = (.ok (.error f), w₁) := by
  simp [exchange, h]

theorem exchange_authorized {x : Except Interrupt (Except (List Layer) Response)}
    (h : c.currentToken.run w = (.ok (.ok t), w₁))
    (hn : (c.network.send (c.apiRequest m path qy bd t)).run w₁ = (x, w₂)) :
    (c.exchange m path qy bd).run w = (x.map (Except.mapError requestFault), w₂) := by
  -- the request's payload is the body's, whichever the body is
  cases bd <;> rcases x with _ | _ | _ <;>
    simp_all [exchange, apiRequest, Except.mapError, Except.map]

theorem outcome_denied (m : Method) (path : String) {r : Response} (hr : r.status = 401) :
    ∃ f, outcome m path r = .error f ∧ f.code = .accessDenied := by
  refine ⟨statusFault 401 m path r.body, by simp [outcome, hr, isSuccess], ?_⟩
  rw [statusFault_code]
  simp [statusFaultCode]

section Tally

variable {β : Type} {n : σ → β} (hn : ∀ f s, n (c.token.update f s) = n s)
include hn

theorem authenticate_tally (w : World σ) :
    n (c.authenticate.run w).2.state = n ((c.network.send c.ssoRequest).run w).2.state := by
  -- one case for each way the sign-on can end
  rcases h : (c.network.send c.ssoRequest).run w with ⟨i | e | resp, w₁⟩
  · rw [authenticate_interrupted h]
  · rw [authenticate_unsent h]
  · rcases hr : readTextRecord "SsoResponse" ["access_token", "error", "error_description"]
      resp.body with msg | fields
    · rw [authenticate_unreadable h hr]
    · rcases he : fields.getD 1 none with _ | err
      · rcases ht : fields.getD 0 none with _ | t
        · rw [authenticate_tokenless h hr he ht]
        · rw [(authenticate_granted h hr he ht).2, hn]
      · rw [authenticate_refused h hr he]

end Tally

section Raises

variable {n : σ → Nat} (hn : ∀ f s, n (c.token.update f s) = n s)
include hn

theorem currentToken_raises {k : Nat} (hs : Timed.Raises n k (c.network.send c.ssoRequest)) :
    Timed.Raises n k c.currentToken := by
  intro w
  cases ht : c.token.view w.state with
  | none =>
    rw [currentToken_empty ht, authenticate_tally hn]
    exact hs w
  | some t => simp [currentToken_kept ht]

omit hn in
theorem exchange_raises {k j : Nat} (ht : Timed.Raises n k c.currentToken)
    (hs : ∀ t, Timed.Raises n j (c.network.send (c.apiRequest m path qy bd t))) :
    Timed.Raises n (k + j) (c.exchange m path qy bd) := by
  intro w
  have h₁ := ht w
  rcases h : c.currentToken.run w with ⟨i | f | t, w₁⟩
  · rw [exchange_interrupted h]
    rw [h] at h₁
    dsimp only at h₁ ⊢
    omega
  · rw [exchange_unauthorized h]
    rw [h] at h₁
    dsimp only at h₁ ⊢
    omega
  · have h₂ := hs t w₁
    rcases hn : (c.network.send (c.apiRequest m path qy bd t)).run w₁ with ⟨x, w₂⟩
    rw [exchange_authorized h hn]
    rw [h] at h₁
    rw [hn] at h₂
    dsimp only at h₁ h₂ ⊢
    omega

theorem send_raises {k : Nat} (hx : Timed.Raises n k (c.exchange m path qy bd)) :
    Timed.Raises n (k + k) (c.send m path qy bd) := by
  intro w
  have h₁ := hx w
  rcases h : (c.exchange m path qy bd).run w with ⟨x, w₁⟩
  rw [h] at h₁
  by_cases hr : ∃ r, x = .ok (.ok r) ∧ r.status = 401
  · -- the retry starts from the state with the token dropped, which the tally does not see
    obtain ⟨r, rfl, hr⟩ := hr
    have h₂ := hx { w₁ with state := c.token.update (fun _ => none) w₁.state }
    rcases h' : (c.exchange m path qy bd).run
      { w₁ with state := c.token.update (fun _ => none) w₁.state } with ⟨x', w₂⟩
    rw [c.send_retried h hr h']
    rw [h', hn] at h₂
    dsimp only at h₁ h₂ ⊢
    omega
  · rw [c.send_settled h fun r hx hs => hr ⟨r, hx, hs⟩]
    dsimp only at h₁ ⊢
    omega

end Raises

end RestClient

/-- What a client against a scripted server holds: its token, and the requests the server
received. -/
structure BenchState where
  token : Option String
  received : List Request

/-- A REST client against a scripted server, which answers each request from the requests it
received before it. -/
structure RestBench where
  respond : List Request → Request → Except (List Layer) Response
  base : String
  username : String
  password : String

def Request.Sendable (r : Request) : Prop :=
  ∃ u, r.target = .ok u ∧ (u.scheme == "http" || u.scheme == "https") = true

namespace RestBench

def tokens : Lens BenchState (Option String) :=
  ⟨BenchState.token, fun f s => { s with token := f s.token }⟩

variable (b : RestBench)

def server : Network BenchState :=
  ⟨fun _ => return .ok (), fun r _ => do
    let s ← Timed.state
    Timed.modifyState fun s => { s with received := s.received ++ [r] }
    return b.respond s.received r⟩

def client : RestClient BenchState :=
  { network := b.server, base := b.base, username := b.username, password := b.password,
    token := tokens }

def tokenRequests (s : BenchState) : Nat := s.received.countP (·.url == b.client.ssoUrl)

def apiRequests (s : BenchState) : Nat := s.received.countP (·.url != b.client.ssoUrl)

def Denies (hist : List Request) (req : Request) : Prop :=
  req.Sendable ∧ ∃ resp, b.respond hist req = .ok resp ∧ resp.status = 401

@[simp] theorem client_network : b.client.network = b.server := rfl

@[simp] theorem client_token : b.client.token = tokens := rfl

variable {b} {w : World BenchState} {r : Request}

theorem send_sendable (h : r.Sendable) :
    (b.server.send r).run w = (.ok (b.respond w.state.received r),
      { w with state := { w.state with received := w.state.received ++ [r] } }) := by
  obtain ⟨u, hu, hs⟩ := h
  simp [Network.send, Request.checked, hu, hs, server]

theorem send_unsendable (h : ¬r.Sendable) : ∃ e, (b.server.send r).run w = (.ok (.error e), w) := by
  -- a request that fails the client's checks never reaches the server
  obtain ⟨e, he⟩ : ∃ e, r.checked = .error e := by
    unfold Request.checked
    split
    case h_1 e _ => exact ⟨e, rfl⟩
    case h_2 u hu =>
      have hs : (u.scheme == "http" || u.scheme == "https") = false := by
        simpa using fun hs => h ⟨u, hu, hs⟩
      simp [hs]
  exact ⟨e, by simp [Network.send, he]⟩

theorem send_cases (r : Request) (w : World BenchState) :
    (b.server.send r).run w = (.ok (b.respond w.state.received r),
      { w with state := { w.state with received := w.state.received ++ [r] } }) ∨
    ∃ e, (b.server.send r).run w = (.ok (.error e), w) := by
  by_cases h : r.Sendable
  · exact .inl (send_sendable h)
  · exact .inr (send_unsendable h)

theorem send_tally (p : Request → Bool) (r : Request) :
    Timed.Raises (fun s : BenchState => s.received.countP p) (if p r then 1 else 0)
      (b.server.send r) := by
  intro w
  rcases send_cases r w with h | ⟨e, h⟩
  · rw [h]
    simp [List.countP_append]
  · rw [h]
    exact Nat.le_add_right _ _

theorem ssoRequest_tally :
    Timed.Raises b.tokenRequests 1 (b.client.network.send b.client.ssoRequest) ∧
      Timed.Raises b.apiRequests 0 (b.client.network.send b.client.ssoRequest) := by
  have h₁ := send_tally (b := b) (·.url == b.client.ssoUrl) b.client.ssoRequest
  have h₂ := send_tally (b := b) (·.url != b.client.ssoUrl) b.client.ssoRequest
  simp only [RestClient.ssoRequest_url, beq_self_eq_true, bne_self_eq_false, Bool.false_eq_true,
    if_true, if_false] at h₁ h₂
  exact ⟨h₁, h₂⟩

theorem apiRequest_tally (m : Method) (path : String) (qy : List (String × String))
    (bd : Option Json) (t : String) :
    Timed.Raises b.tokenRequests 0 (b.client.network.send (b.client.apiRequest m path qy bd t)) ∧
      Timed.Raises b.apiRequests 1
        (b.client.network.send (b.client.apiRequest m path qy bd t)) := by
  have hne := b.client.apiUrl_ne_ssoUrl path
  have h₁ := send_tally (b := b) (·.url == b.client.ssoUrl) (b.client.apiRequest m path qy bd t)
  have h₂ := send_tally (b := b) (·.url != b.client.ssoUrl) (b.client.apiRequest m path qy bd t)
  simp only [RestClient.apiRequest_url, hne, beq_eq_false_iff_ne.2, bne_iff_ne, ne_eq,
    not_false_eq_true, Bool.false_eq_true, if_true, if_false] at h₁ h₂
  exact ⟨h₁, h₂⟩

theorem call_tokenRequests (q : EngineRequest) :
    Timed.Raises b.tokenRequests 2 (q.send b.client.engine) := by
  rw [RestClient.send_decode]
  refine Timed.Raises.map _ (RestClient.send_raises (k := 1) (fun _ _ => rfl) ?_)
  exact RestClient.exchange_raises (k := 1) (j := 0)
    (RestClient.currentToken_raises (fun _ _ => rfl) ssoRequest_tally.1)
    fun t => (apiRequest_tally _ _ _ _ t).1

theorem call_apiRequests (q : EngineRequest) :
    Timed.Raises b.apiRequests 2 (q.send b.client.engine) := by
  rw [RestClient.send_decode]
  refine Timed.Raises.map _ (RestClient.send_raises (k := 1) (fun _ _ => rfl) ?_)
  exact RestClient.exchange_raises (k := 0) (j := 1)
    (RestClient.currentToken_raises (fun _ _ => rfl) ssoRequest_tally.2)
    fun t => (apiRequest_tally _ _ _ _ t).2

theorem currentToken_received (hs : b.client.ssoRequest.Sendable) (w : World BenchState) :
    (b.client.currentToken.run w).2.state.received =
      w.state.received ++ (if w.state.token = none then [b.client.ssoRequest] else []) := by
  cases ht : w.state.token with
  | none =>
    rw [RestClient.currentToken_empty (c := b.client) ht,
      RestClient.authenticate_tally (n := BenchState.received) (fun _ _ => rfl), client_network,
      send_sendable hs]
    simp
  | some t => simp [RestClient.currentToken_kept (c := b.client) ht]

theorem ssoRequest_answered {resp : Response} (hs : b.client.ssoRequest.Sendable)
    (hr : b.respond w.state.received b.client.ssoRequest = .ok resp) :
    (b.client.network.send b.client.ssoRequest).run w = (.ok (.ok resp),
      { w with state :=
        { w.state with received := w.state.received ++ [b.client.ssoRequest] } }) := by
  rw [client_network, send_sendable hs, hr]

variable {t : String} {m : Method} {path : String} {qy : List (String × String)} {bd : Option Json}

theorem exchange_asks_first (hs : b.client.ssoRequest.Sendable) (ht : w.state.token = none) :
    ∃ rest, ((b.client.exchange m path qy bd).run w).2.state.received =
      w.state.received ++ b.client.ssoRequest :: rest := by
  have hasked := currentToken_received hs w
  rw [ht, if_pos rfl] at hasked
  rcases h : b.client.currentToken.run w with ⟨i | f | t', w₁⟩
  all_goals rw [h] at hasked; dsimp only at hasked
  · exact ⟨[], by rw [RestClient.exchange_interrupted h]; exact hasked⟩
  · exact ⟨[], by rw [RestClient.exchange_unauthorized h]; exact hasked⟩
  · -- with the granted token the request goes out, or fails before the server
    rcases send_cases (b.client.apiRequest m path qy bd t') w₁ with hn | ⟨e, hn⟩
    · refine ⟨[b.client.apiRequest m path qy bd t'], ?_⟩
      rw [RestClient.exchange_authorized h hn]
      simp [hasked]
    · refine ⟨[], ?_⟩
      rw [RestClient.exchange_authorized h hn]
      exact hasked

/-- A call made with a kept token sends at most its API request, with that token, and keeps the
token, unless that request is answered with 401. -/
theorem call_kept (q : EngineRequest) (ht : w.state.token = some t)
    (hno : ¬ b.Denies w.state.received
      (b.client.apiRequest q.route.1 q.route.2 q.restQuery q.restBody t)) :
    ∃ a sent, (q.send b.client.engine).run w =
      (.ok a, { w with state := { w.state with received := w.state.received ++ sent } }) ∧
      sent.Sublist [b.client.apiRequest q.route.1 q.route.2 q.restQuery q.restBody t] := by
  have hkept := RestClient.currentToken_kept (c := b.client) ht
  rw [RestClient.send_decode, Timed.run_map]
  rcases send_cases (b.client.apiRequest q.route.1 q.route.2 q.restQuery q.restBody t) w
    with hn | ⟨e, hn⟩
  · rw [RestClient.send_settled _ (RestClient.exchange_authorized hkept hn)]
    · exact ⟨_, _, rfl, List.Sublist.refl _⟩
    · intro r hr h401
      cases hresp : b.respond w.state.received
        (b.client.apiRequest q.route.1 q.route.2 q.restQuery q.restBody t) with
      | error e => simp [hresp, Except.map, Except.mapError] at hr
      | ok resp =>
        simp only [hresp, Except.map, Except.mapError, Except.ok.injEq] at hr
        -- the request went out, so a 401 to it would be a denial
        have hs : (b.client.apiRequest q.route.1 q.route.2 q.restQuery q.restBody t).Sendable := by
          by_contra hs
          obtain ⟨e, he⟩ := send_unsendable (b := b) (w := w) hs
          rw [hn] at he
          simp [hresp] at he
        exact hno ⟨hs, resp, hresp, hr ▸ h401⟩
  · rw [RestClient.send_settled _ (RestClient.exchange_authorized hkept hn)
      (by simp [Except.map, Except.mapError])]
    refine ⟨q.decode (.error (requestFault e)), [], ?_, List.nil_sublist _⟩
    simp [Except.map, Except.mapError, Except.bind]

theorem server_extends (r : Request) (w : World BenchState) :
    ∃ sent, ((b.server.send r).run w).2.state.received = w.state.received ++ sent := by
  rcases send_cases r w with h | ⟨e, h⟩ <;> rw [h]
  · exact ⟨[r], rfl⟩
  · exact ⟨[], by simp⟩

theorem exchange_extends (m : Method) (path : String) (qy : List (String × String))
    (bd : Option Json) (w : World BenchState) :
    ∃ sent, ((b.client.exchange m path qy bd).run w).2.state.received =
      w.state.received ++ sent := by
  -- the token is kept, or asked for with one request to the server
  obtain ⟨pre, hpre⟩ : ∃ pre, (b.client.currentToken.run w).2.state.received =
      w.state.received ++ pre := by
    cases ht : w.state.token with
    | none =>
      rw [RestClient.currentToken_empty (c := b.client) ht,
        RestClient.authenticate_tally (n := BenchState.received) (fun _ _ => rfl), client_network]
      exact server_extends _ w
    | some t => exact ⟨[], by simp [RestClient.currentToken_kept (c := b.client) ht]⟩
  rcases h : b.client.currentToken.run w with ⟨i | f | t, w₁⟩
  all_goals rw [h] at hpre; dsimp only at hpre
  · exact ⟨pre, by rw [RestClient.exchange_interrupted h]; exact hpre⟩
  · exact ⟨pre, by rw [RestClient.exchange_unauthorized h]; exact hpre⟩
  · obtain ⟨sent, hsent⟩ := server_extends (b.client.apiRequest m path qy bd t) w₁
    rcases hn : (b.client.network.send (b.client.apiRequest m path qy bd t)).run w₁ with ⟨x, w₂⟩
    rw [client_network] at hn
    rw [hn] at hsent
    refine ⟨pre ++ sent, ?_⟩
    rw [RestClient.exchange_authorized h hn]
    dsimp only at hsent ⊢
    rw [hsent, hpre, List.append_assoc]

theorem call_extends (q : EngineRequest) (w : World BenchState) :
    ∃ sent, ((q.send b.client.engine).run w).2.state.received = w.state.received ++ sent := by
  rw [RestClient.send_decode, Timed.run_map_world]
  obtain ⟨sent₁, h₁⟩ := exchange_extends q.route.1 q.route.2 q.restQuery q.restBody w
  rcases hx : (b.client.exchange q.route.1 q.route.2 q.restQuery q.restBody).run w with ⟨x, w₁⟩
  rw [hx] at h₁
  dsimp only at h₁
  by_cases hr : ∃ r, x = .ok (.ok r) ∧ r.status = 401
  · -- the retry is made from the state with the token dropped, which received the same
    obtain ⟨r, rfl, hr⟩ := hr
    let w₁' : World BenchState := { w₁ with state := b.client.token.update (fun _ => none) w₁.state }
    obtain ⟨sent₂, h₂⟩ := exchange_extends q.route.1 q.route.2 q.restQuery q.restBody w₁'
    rcases hx' : (b.client.exchange q.route.1 q.route.2 q.restQuery q.restBody).run w₁' with ⟨x', w₂⟩
    rw [hx'] at h₂
    rw [RestClient.send_retried _ hx hr hx']
    dsimp only at h₂ ⊢
    -- dropping the token leaves what the server received alone
    refine ⟨sent₁ ++ sent₂, ?_⟩
    rw [h₂, ← List.append_assoc, ← h₁]
    rfl
  · rw [RestClient.send_settled _ hx fun r hx hs => hr ⟨r, hx, hs⟩]
    exact ⟨sent₁, h₁⟩

theorem calls_extend (qs : List EngineRequest) (w : World BenchState) :
    ∃ sent, ((qs.mapM fun q : EngineRequest => q.send b.client.engine).run w).2.state.received =
      w.state.received ++ sent := by
  induction qs generalizing w with
  | nil => exact ⟨[], by simp⟩
  | cons q qs ih =>
    obtain ⟨sent₁, h₁⟩ := call_extends q w
    rw [List.mapM_cons, Timed.run_bind]
    rcases h : (q.send b.client.engine).run w with ⟨i | a, w₁⟩
    all_goals rw [h] at h₁; dsimp only at h₁ ⊢
    · exact ⟨sent₁, h₁⟩
    · rw [Timed.run_bind]
      obtain ⟨sent₂, h₂⟩ := ih w₁
      rcases h' : (qs.mapM fun q : EngineRequest => q.send b.client.engine).run w₁ with ⟨_ | _, w₂⟩
      all_goals rw [h'] at h₂; dsimp only at h₂ ⊢
      · exact ⟨sent₁ ++ sent₂, by simp [h₂, h₁]⟩
      · exact ⟨sent₁ ++ sent₂, by simp [h₂, h₁]⟩

/-- A call made with a kept token either keeps it, having sent at most its API request with that
token, or has that request denied as the first it sends. -/
theorem call_from_kept (q : EngineRequest) (ht : w.state.token = some t) :
    let api := b.client.apiRequest q.route.1 q.route.2 q.restQuery q.restBody t
    (¬ b.Denies w.state.received api ∧ ∃ a sent, (q.send b.client.engine).run w =
        (.ok a, { w with state := { w.state with received := w.state.received ++ sent } }) ∧
      sent.Sublist [api]) ∨
    (b.Denies w.state.received api ∧ ∃ rest,
      ((q.send b.client.engine).run w).2.state.received = w.state.received ++ api :: rest) := by
  intro api
  by_cases hd : b.Denies w.state.received api
  · refine .inr ⟨hd, ?_⟩
    obtain ⟨hs, resp, hresp, h401⟩ := hd
    -- the request goes out with the kept token and is answered with 401
    let w₁ : World BenchState := { w with state := { w.state with received := w.state.received ++ [api] } }
    have hx : (b.client.exchange q.route.1 q.route.2 q.restQuery q.restBody).run w =
        (Except.map (Except.mapError requestFault) (.ok (.ok resp)), w₁) :=
      RestClient.exchange_authorized (RestClient.currentToken_kept (c := b.client) ht)
        (by rw [client_network, send_sendable hs, hresp])
    let w₁' : World BenchState := { w₁ with state := b.client.token.update (fun _ => none) w₁.state }
    obtain ⟨rest, hrest⟩ := exchange_extends q.route.1 q.route.2 q.restQuery q.restBody w₁'
    rcases hx' : (b.client.exchange q.route.1 q.route.2 q.restQuery q.restBody).run w₁' with ⟨x', w₂⟩
    rw [hx'] at hrest
    refine ⟨rest, ?_⟩
    rw [RestClient.send_decode, Timed.run_map_world,
      RestClient.send_retried _ (by simpa [Except.map, Except.mapError] using hx) h401 hx']
    dsimp only at hrest
    rw [hrest]
    show w.state.received ++ [api] ++ rest = _
    simp
  · exact .inl ⟨hd, call_kept q ht hd⟩

/-- A kept token serves every later call: each request the calls send up to the first one
answered with 401 is an API request with that token, and no token is asked for before. -/
theorem calls_reuse_token (qs : List EngineRequest) (ht : w.state.token = some t) :
    ∃ pre rest, ((qs.mapM fun q : EngineRequest => q.send b.client.engine).run w).2.state.received =
        w.state.received ++ pre ++ rest ∧
      (∀ req ∈ pre, req.url ≠ b.client.ssoUrl ∧ ("Authorization", "Bearer " ++ t) ∈ req.headers) ∧
      (∀ p₁ req p₂, pre = p₁ ++ req :: p₂ → ¬ b.Denies (w.state.received ++ p₁) req) ∧
      (rest = [] ∨ ∃ req more, rest = req :: more ∧ req.url ≠ b.client.ssoUrl ∧
        ("Authorization", "Bearer " ++ t) ∈ req.headers ∧ b.Denies (w.state.received ++ pre) req) := by
  -- the induction is on the calls; until a denial the token kept is the invariant
  induction qs generalizing w with
  | nil => exact ⟨[], [], by simp, by simp, by simp, .inl rfl⟩
  | cons q qs ih =>
    have hapi : ∀ {path qy bd m}, (b.client.apiRequest m path qy bd t).url ≠ b.client.ssoUrl ∧
        ("Authorization", "Bearer " ++ t) ∈ (b.client.apiRequest m path qy bd t).headers :=
      ⟨b.client.apiUrl_ne_ssoUrl _, by simp [RestClient.apiRequest]⟩
    rw [List.mapM_cons, Timed.run_bind]
    rcases call_from_kept q ht with ⟨hnd, a, sent₁, h₁, hsub⟩ | ⟨hd, rest₁, h₁⟩
    · -- the call kept the token: the later calls start from it
      rw [h₁]
      dsimp only
      rw [Timed.run_bind]
      obtain ⟨pre, rest, h₂, hpre, hfirst, hrest⟩ := ih (w := { w with state :=
        { w.state with received := w.state.received ++ sent₁ } }) ht
      have hmem : ∀ req ∈ sent₁, req = b.client.apiRequest q.route.1 q.route.2 q.restQuery q.restBody t :=
        fun req hreq => List.eq_of_mem_singleton (hsub.subset hreq)
      refine ⟨sent₁ ++ pre, rest, ?_, ?_, ?_, ?_⟩
      · rcases h' : (qs.mapM fun q : EngineRequest => q.send b.client.engine).run
          { w with state := { w.state with received := w.state.received ++ sent₁ } } with ⟨_ | _, w₂⟩
        all_goals rw [h'] at h₂; dsimp only [Timed.run_pure] at h₂ ⊢; rw [h₂]; simp
      · intro req hreq
        rcases List.mem_append.1 hreq with hreq | hreq
        · exact hmem req hreq ▸ hapi
        · exact hpre req hreq
      · -- the first request of this call, if any, was not denied
        intro p₁ req p₂ hsplit
        rcases List.sublist_singleton.1 hsub with rfl | rfl
        · simpa using hfirst p₁ req p₂ (by simpa using hsplit)
        · cases p₁ with
          | nil =>
            simp only [List.singleton_append, List.nil_append, List.cons.injEq] at hsplit
            rw [← hsplit.1]
            simpa using hnd
          | cons x p₁ =>
            simp only [List.cons_append, List.cons.injEq] at hsplit
            obtain ⟨rfl, hsplit⟩ := hsplit
            simpa using hfirst p₁ req p₂ hsplit
      · simpa using hrest
    · -- the call's request was denied: everything after it is the rest
      have hden : b.Denies (w.state.received ++ [])
          (b.client.apiRequest q.route.1 q.route.2 q.restQuery q.restBody t) := by simpa using hd
      rcases h : (q.send b.client.engine).run w with ⟨i | a, w₁⟩
      all_goals rw [h] at h₁; dsimp only at h₁ ⊢
      · exact ⟨[], _ :: rest₁, by simp [h₁], by simp, by simp, .inr ⟨_, _, rfl, hapi.1, hapi.2, hden⟩⟩
      · rw [Timed.run_bind]
        obtain ⟨sent₂, h₂⟩ := calls_extend qs w₁
        refine ⟨[], _ :: (rest₁ ++ sent₂), ?_, by simp, by simp,
          .inr ⟨_, _, rfl, hapi.1, hapi.2, hden⟩⟩
        rcases h' : (qs.mapM fun q : EngineRequest => q.send b.client.engine).run w₁ with ⟨_ | _, w₂⟩
        all_goals rw [h'] at h₂; dsimp only [Timed.run_pure] at h₂ ⊢; rw [h₂, h₁]; simp

end RestBench

open RestBench in
/-- How a REST client against any scripted server handles its token. -/
theorem RestBench.token_cache_contract (b : RestBench) :
    -- each call sends at most two token requests and at most two API requests
    (∀ q : EngineRequest, Timed.Raises b.tokenRequests 2 (q.send b.client.engine) ∧
      Timed.Raises b.apiRequests 2 (q.send b.client.engine)) ∧
    -- a token is asked for exactly when none is kept
    (∀ w : World BenchState, b.client.ssoRequest.Sendable →
      (b.client.currentToken.run w).2.state.received =
        w.state.received ++ (if w.state.token = none then [b.client.ssoRequest] else [])) ∧
    (∀ (w : World BenchState) (t : String), w.state.token = some t →
      b.client.currentToken.run w = (.ok (.ok t), w)) ∧
    -- a first 401 drops the token; the call is then the retry, and a second 401 denies access
    (∀ (m : Method) (path : String) (qy : List (String × String)) (bd : Option Json)
        (w w₁ w₂ : World BenchState) (r : Response) (x : Except Interrupt (Except Fault Response)),
      (b.client.exchange m path qy bd).run w = (.ok (.ok r), w₁) → r.status = 401 →
      (b.client.exchange m path qy bd).run { w₁ with state := { w₁.state with token := none } } =
        (x, w₂) →
      (b.client.send m path qy bd).run w = (x.map (·.bind (RestClient.outcome m path)), w₂) ∧
      ∀ r', x = .ok (.ok r') → r'.status = 401 →
        ∃ f, (b.client.send m path qy bd).run w = (.ok (.error f), w₂) ∧ f.code = .accessDenied) ∧
    -- without a token an exchange first asks for one, then sends its request with the new one
    (∀ (m : Method) (path : String) (qy : List (String × String)) (bd : Option Json)
        (w : World BenchState), w.state.token = none → b.client.ssoRequest.Sendable →
      ∃ rest, ((b.client.exchange m path qy bd).run w).2.state.received =
        w.state.received ++ b.client.ssoRequest :: rest) ∧
    (∀ (m : Method) (path : String) (qy : List (String × String)) (bd : Option Json)
        (w w₁ w₂ : World BenchState) (t : String)
        (x : Except Interrupt (Except (List Layer) Response)),
      w.state.token = none → b.client.authenticate.run w = (.ok (.ok t), w₁) →
      (b.server.send (b.client.apiRequest m path qy bd t)).run w₁ = (x, w₂) →
      (b.client.exchange m path qy bd).run w = (x.map (Except.mapError requestFault), w₂)) ∧
    -- a kept token serves every later call until an API request is answered with 401: the
    -- requests sent up to that one are API requests with the token, and no token request
    (∀ (qs : List EngineRequest) (w : World BenchState) (t : String), w.state.token = some t →
      ∃ pre rest,
        ((qs.mapM fun q : EngineRequest => q.send b.client.engine).run w).2.state.received =
          w.state.received ++ pre ++ rest ∧
        (∀ req ∈ pre, req.url ≠ b.client.ssoUrl ∧ ("Authorization", "Bearer " ++ t) ∈ req.headers) ∧
        (∀ p₁ req p₂, pre = p₁ ++ req :: p₂ → ¬ b.Denies (w.state.received ++ p₁) req) ∧
        (rest = [] ∨ ∃ req more, rest = req :: more ∧ req.url ≠ b.client.ssoUrl ∧
          ("Authorization", "Bearer " ++ t) ∈ req.headers ∧ b.Denies (w.state.received ++ pre) req)) ∧
    -- what the sign-on makes of the server's answer; only a granted token is kept
    (∀ (w : World BenchState) (resp : Response), b.client.ssoRequest.Sendable →
      b.respond w.state.received b.client.ssoRequest = .ok resp →
      (∀ msg, readTextRecord "SsoResponse" ["access_token", "error", "error_description"]
          resp.body = .error msg →
        ∃ f w', b.client.authenticate.run w = (.ok (.error f), w') ∧ f.code = .notAnEngine ∧
          w'.state.token = w.state.token) ∧
      (∀ fields err, readTextRecord "SsoResponse" ["access_token", "error", "error_description"]
          resp.body = .ok fields → fields.getD 1 none = some err →
        ∃ f w', b.client.authenticate.run w = (.ok (.error f), w') ∧ f.code = .accessDenied ∧
          w'.state.token = w.state.token) ∧
      (∀ fields, readTextRecord "SsoResponse" ["access_token", "error", "error_description"]
          resp.body = .ok fields → fields.getD 1 none = none → fields.getD 0 none = none →
        ∃ f w', b.client.authenticate.run w = (.ok (.error f), w') ∧ f.code = .notAnEngine ∧
          w'.state.token = w.state.token) ∧
      (∀ fields t, readTextRecord "SsoResponse" ["access_token", "error", "error_description"]
          resp.body = .ok fields → fields.getD 1 none = none → fields.getD 0 none = some t →
        ∃ w', b.client.authenticate.run w = (.ok (.ok t), w') ∧ w'.state.token = some t)) := by
  refine ⟨fun q => ⟨call_tokenRequests q, call_apiRequests q⟩,
    fun w hs => currentToken_received hs w,
    fun w t ht => RestClient.currentToken_kept (c := b.client) ht, ?retry,
    fun m path qy bd w ht hs => exchange_asks_first hs ht, ?granted,
    fun qs w t ht => calls_reuse_token qs ht, ?sso⟩
  case retry =>
    intro m path qy bd w w₁ w₂ r x h hr h'
    have hsend := RestClient.send_retried _ h hr h'
    refine ⟨hsend, ?_⟩
    rintro r' rfl hr'
    obtain ⟨f, hf, hcode⟩ := RestClient.outcome_denied m path hr'
    exact ⟨f, by simp [hsend, hf, Except.map, Except.bind], hcode⟩
  case granted =>
    intro m path qy bd w w₁ w₂ t x ht ha hn
    -- the token is asked for first, and granted
    have hasked : b.client.currentToken.run w = (.ok (.ok t), w₁) := by
      rw [RestClient.currentToken_empty (c := b.client) ht, ha]
    exact RestClient.exchange_authorized hasked hn
  case sso =>
    intro w resp hs hr
    have hn := ssoRequest_answered hs hr
    refine ⟨fun msg hrec => ⟨_, _, RestClient.authenticate_unreadable hn hrec,
        by simp [Fault.wrap, Fault.wrapCode], rfl⟩,
      fun fields err hrec he => ⟨_, _, RestClient.authenticate_refused hn hrec he, rfl, rfl⟩,
      fun fields hrec he ht => ⟨_, _, RestClient.authenticate_tokenless hn hrec he ht, rfl, rfl⟩,
      fun fields t hrec he ht => ?_⟩
    obtain ⟨hres, hstate⟩ := RestClient.authenticate_granted hn hrec he ht
    exact ⟨_, Prod.ext hres rfl, by rw [hstate]; rfl⟩

end DiskUploader
