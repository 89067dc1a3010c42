import NssAAF.HttpClient.Proxy
import NssAAF.Lib.UrlPath

/-!
# The NF proxy of the HTTP gateway

`ProxyClient.call` of `internal/httpclient/proxy.go` puts `/internal/` and the name of an NF in
front of a path and sends the request to the HTTP gateway. There the mux chooses a handler by the
path, and `proxyRequest` of `cmd/http-gateway/internal/proxy/proxy.go` cuts the first two segments
off the decoded path and sends the rest to the NF.

On the way the path is a text, is read, sent, read again, and what was read is a text once more.
The query is not passed on. A redirect of the mux is followed by the client, and what comes of that
is left to the network. `proxy_transparent_iff` says for which paths the NF receives what it would
have received from the caller.
-/

namespace NssAAF.HttpClient

open Resilience UrlPath

inductive Nf
  | nrf
  | udm
  | amf
  deriving DecidableEq, Repr

def Nf.name : Nf → String
  | .nrf => "nrf"
  | .udm => "udm"
  | .amf => "amf"

/-- What a server receives: the path and the query are the texts of the request line. -/
structure Received where
  method : String
  path : Bytes
  query : Bytes
  body : Bytes
  deriving DecidableEq

/-- The characters of a token of HTTP. -/
def isTokenChar (c : Char) : Bool :=
  c.isAlphanum || c.toNat == 39 || c.toNat == 96 ||
    ['!', '#', '$', '%', '&', '*', '+', '-', '.', '^', '_', '|', '~'].contains c

def validMethod (method : String) : Bool := method != "" && method.toList.all isTokenChar

/-- No method means GET. -/
def requestMethod (method : String) : String := if method = "" then "GET" else method

/-- What the server at `base`, a scheme and an authority, receives of a request. It is `none` if
`http.NewRequest` refuses the method or the URL. -/
def HttpRequest.sent (r : HttpRequest) (base : Bytes) : Option Received :=
  if validMethod (requestMethod r.method) then
    (parse (r.url.drop base.length)).map fun t =>
      ⟨requestMethod r.method, t.escapedPath, t.query, r.body⟩
  else none

def ProxyClient.callNf (p : ProxyClient) (env : Surroundings) : Nf → String → Bytes → Bytes →
    Returned
  | .nrf => p.callNRF env
  | .udm => p.callUDM env
  | .amf => p.callAMF env

/-! ## The gateway -/

structure Config where
  nrfBaseURL : Bytes
  udmBaseURL : Bytes
  amfBaseURL : Bytes
  retryCfg : RetryConfig

structure Handler where
  nrfClient : NfClient
  udmClient : NfClient
  amfClient : NfClient

def newHandler (cfg : Config) : Handler :=
  ⟨⟨cfg.nrfBaseURL, cfg.retryCfg⟩, ⟨cfg.udmBaseURL, cfg.retryCfg⟩, ⟨cfg.amfBaseURL, cfg.retryCfg⟩⟩

def Handler.client (h : Handler) : Nf → NfClient
  | .nrf => h.nrfClient
  | .udm => h.udmClient
  | .amf => h.amfClient

/-- The base URL without a slash at its end. -/
def NfClient.server (c : NfClient) : Bytes :=
  if c.baseURL.getLast? = some 47 then c.baseURL.dropLast else c.baseURL

/-- `strings.SplitN`, for a separator of one octet. -/
def splitN (sep : UInt8) : ℕ → Bytes → List Bytes
  | 0, _ => []
  | 1, b => [b]
  | n + 2, b => if sep ∈ b then (cut sep b).1 :: splitN sep (n + 1) (cut sep b).2 else [b]

def extractProxyPath (path : Bytes) : Bytes :=
  match splitN 47 4 path with
  | _ :: _ :: _ :: rest :: _ => 47 :: rest
  | _ => path

/-- The path that the caller's path is put behind. -/
def Nf.front (n : Nf) : Bytes := Bytes.ofString "/internal/" ++ Bytes.ofString n.name

/-- The patterns of `RegisterProxyRoutes`. -/
def Nf.pattern (n : Nf) : Bytes := n.front ++ [47]

def route (path : Bytes) : Option Nf :=
  [Nf.nrf, Nf.udm, Nf.amf].find? fun n => n.pattern.isPrefixOf path

/-- What the server makes of a request. -/
inductive Routed
  | badRequest
  | redirect
  | notFound
  | handled (n : Nf) (urlPath : Bytes)
  deriving DecidableEq

/-- The server reads the path, and the mux chooses the handler. Except for CONNECT the mux redirects
a path that is not clean. A path that lacks the slash at the end of a pattern is redirected too. -/
def routed (w : Received) : Routed :=
  match unescape w.path with
  | none => .badRequest
  | some urlPath =>
    let escaped := Target.escapedPath ⟨w.path, urlPath, w.query⟩
    if w.method = "CONNECT" ∨ IsClean escaped then
      match route escaped with
      | some n => .handled n urlPath
      | none => if (route (escaped ++ [47])).isSome then .redirect else .notFound
    else .redirect

/-- What is around a call through the gateway. `nf n i j` is how the NF answers attempt `j` that the
gateway makes for attempt `i` of the caller, `done` and `nfDone` are the errors of the two contexts
after the attempts. `buildErr`, `aborted` and `redirected` are how a request ends that cannot be
built, whose handler panics, or that is redirected. -/
structure Network where
  requestID : Option String
  nf : Nf → ℕ → ℕ → Received → Except String (ℕ × Bytes)
  done : ℕ → Option String
  nfDone : ℕ → ℕ → Option String
  buildErr : HttpRequest → String
  aborted : Received → String
  redirected : ℕ → Received → Outcome

variable (net : Network)

/-- A request that was sent ends with an error or with a response. -/
def Outcome.ofAnswer : Except String (ℕ × Bytes) → Outcome
  | .error err => .failed err
  | .ok (status, body) => .response status body

/-- A request of the gateway to an NF. -/
def Network.exchangeNf (c : NfClient) (n : Nf) (i j : ℕ) (r : HttpRequest) : Outcome :=
  match r.sent c.server with
  | none => .unbuildable (net.buildErr r)
  | some w => .ofAnswer (net.nf n i j w)

def Network.aroundNf (c : NfClient) (n : Nf) (i : ℕ) : Surroundings where
  requestID := none
  exchange := net.exchangeNf c n i
  done := net.nfDone i

/-- `proxyRequest`, for attempt `i` of the caller. A status that is no code panics. -/
def Handler.proxyRequest (h : Handler) (n : Nf) (i : ℕ) (w : Received) (urlPath : Bytes) :
    Outcome :=
  let path := extractProxyPath urlPath
  let r := (h.client n).doRequest (net.aroundNf (h.client n) n i) w.method path w.body
  match r.err with
  | some err => .response 502 (Bytes.ofString (err ++ "\n"))
  | none => if 100 ≤ r.status ∧ r.status ≤ 999 then .response r.status r.body
    else .failed (net.aborted w)

def Handler.serve (h : Handler) (i : ℕ) (w : Received) : Outcome :=
  match routed w with
  | .badRequest => .response 400 (Bytes.ofString "400 Bad Request")
  | .redirect => net.redirected i w
  | .notFound => .response 404 (Bytes.ofString "404 page not found\n")
  | .handled n urlPath => h.proxyRequest net n i w urlPath

def Network.exchange (p : ProxyClient) (h : Handler) (i : ℕ) (r : HttpRequest) : Outcome :=
  match r.sent p.gatewayURL with
  | none => .unbuildable (net.buildErr r)
  | some w => h.serve net i w

def Network.around (p : ProxyClient) (h : Handler) : Surroundings where
  requestID := net.requestID
  exchange := net.exchange p h
  done := net.done

/-- What reaches an NF of a request to the gateway, and which one. -/
def Handler.reached (h : Handler) (w : Received) : Option (Nf × Received) :=
  match routed w with
  | .handled n urlPath =>
    ((((h.client n).request w.method (extractProxyPath urlPath) w.body).sent
      (h.client n).server).map (n, ·))
  | _ => none

/-- What an NF receives if it is asked itself. -/
def asked (method : String) (path body : Bytes) : Option Received :=
  HttpRequest.sent ⟨method, path, [], body⟩ []

/-- In attempt `j` for attempt `i` of the caller the NF answers `w` with a status 2xx or 4xx, after
none or other attempts that failed or were answered 5xx. -/
structure Answered (p : ProxyClient) (h : Handler) (n : Nf) (w : Received) (i j status : ℕ)
    (body : Bytes) : Prop where
  answer : net.nf n i j w = .ok (status, body)
  code : (200 ≤ status ∧ status < 300) ∨ (400 ≤ status ∧ status < 500)
  lt : j < allowed (h.client n).retryCfg.maxAttempts
  before : ∀ k < j, (∀ status body, net.nf n i k w = .ok (status, body) → 500 ≤ status) ∧
    net.nfDone i k = none
  call_lt : i < allowed p.retryCfg.maxAttempts
  calls_before : ∀ k < i,
    (∀ l status body, net.nf n k l w = .ok (status, body) → 500 ≤ status) ∧ net.done k = none

/-- A call through the gateway reaches the NF with the request `w`, and what the NF answers is what
the call returns. -/
structure Transparent (p : ProxyClient) (h : Handler) (n : Nf) (method : String)
    (path body : Bytes) (w : Received) : Prop where
  reached : ((p.request net.requestID n.name method path body).sent p.gatewayURL).bind h.reached =
    some (n, w)
  returned : ∀ i j status answer, Answered net p h n w i j status answer →
    p.callNf (net.around p h) n method path body = ⟨status, answer, none⟩

/-- The path has no query, has no `%`, `?`, `#` or control character when it is decoded, is sent as
it would be sent if it had been given decoded, and is clean. -/
def Passes (method : String) (path : Bytes) : Prop :=
  ∃ t, parse path = some t ∧ (method = "CONNECT" ∨ IsClean t.escapedPath) ∧
    t.query = [] ∧ Plain t.path ∧ Target.escapedPath ⟨t.path, t.path, []⟩ = t.escapedPath

/-! ## The way to the NF -/

theorem Nf.front_keeps (n : Nf) : ∀ c ∈ n.front, keeps c = true := by
  have hall : n.front.all keeps = true := by cases n <;> decide +kernel
  exact List.all_eq_true.mp hall

theorem Nf.front_plain (n : Nf) : Plain n.front := by
  cases n <;> decide +kernel

theorem Nf.front_eq (n : Nf) :
    n.front = 47 :: (Bytes.ofString "internal" ++ 47 :: Bytes.ofString n.name) := by
  cases n <;> decide +kernel

/-- Segments that a path is not cleaned of. -/
structure IsName (segment : Bytes) : Prop where
  slash : 47 ∉ segment
  nonempty : segment ≠ []
  dot : segment ≠ [46]
  dots : segment ≠ [46, 46]

theorem isName_internal : IsName (Bytes.ofString "internal") := by
  constructor <;> decide +kernel

theorem Nf.isName (n : Nf) : IsName (Bytes.ofString n.name) := by
  cases n <;> constructor <;> decide +kernel

theorem isPrefixOf_pattern (m n : Nf) (rest : Bytes) :
    m.pattern.isPrefixOf (n.pattern ++ rest) = true ↔ m = n := by
  have hlength : m.pattern.length = n.pattern.length := by
    cases m <;> cases n <;> decide +kernel
  rw [List.isPrefixOf_iff_prefix, List.prefix_iff_eq_take, hlength, List.take_left]
  cases m <;> cases n <;> decide +kernel

theorem route_front (n : Nf) (rest : Bytes) : route (n.front ++ 47 :: rest) = some n := by
  have hsplit : n.front ++ 47 :: rest = n.pattern ++ rest := by
    rw [Nf.pattern, List.append_assoc, List.singleton_append]
  have hfind : ∀ m : Nf, m.pattern.isPrefixOf (n.pattern ++ rest) = decide (m = n) := by
    intro m
    rw [Bool.eq_iff_iff, isPrefixOf_pattern, decide_eq_true_iff]
  simp only [route, hsplit, hfind]
  cases n <;> rfl

theorem isClean_front (n : Nf) (rest : Bytes) :
    IsClean (n.front ++ 47 :: rest) ↔ IsClean (47 :: rest) := by
  have hi := isName_internal
  have hn := n.isName
  rw [Nf.front_eq, List.cons_append, List.append_assoc, List.cons_append,
    isClean_append hi.slash hi.nonempty hi.dot hi.dots,
    isClean_append hn.slash hn.nonempty hn.dot hn.dots]

theorem splitN_append {sep : UInt8} {front : Bytes} (h : sep ∉ front) (n : ℕ) (rest : Bytes) :
    splitN sep (n + 2) (front ++ sep :: rest) = front :: splitN sep (n + 1) rest := by
  have hcut : cut sep (front ++ sep :: rest) = (front, rest) := by
    rw [cut_append h]
    simp [cut]
  rw [splitN, if_pos (by simp), hcut]

/-- The gateway cuts off what the client has put in front. -/
theorem extractProxyPath_front (n : Nf) (rest : Bytes) :
    extractProxyPath (n.front ++ 47 :: rest) = 47 :: rest := by
  have hsplit : splitN 47 4 (n.front ++ 47 :: rest) =
      [[], Bytes.ofString "internal", Bytes.ofString n.name, rest] := by
    have hfirst : ∀ b, splitN 47 4 (47 :: b) = [] :: splitN 47 3 b :=
      splitN_append List.not_mem_nil 2
    rw [Nf.front_eq, List.cons_append, List.append_assoc, List.cons_append, hfirst,
      splitN_append isName_internal.slash, splitN_append n.isName.slash, splitN]
  rw [extractProxyPath, hsplit]

theorem parse_slash {text : Bytes} {t : Target} (h : parse (47 :: text) = some t) :
    ∃ path escaped, t.path = 47 :: path ∧ t.escapedPath = 47 :: escaped := by
  have hplain : Plain [47] := by decide
  rw [← List.singleton_append, parse_append hplain, Option.map_eq_some_iff] at h
  obtain ⟨t', -, rfl⟩ := h
  have hkeeps : ∀ c ∈ [47], keeps c = true := by
    intro c hc
    rw [List.mem_singleton.mp hc]
    decide
  exact ⟨t'.path, t'.escapedPath, rfl, Target.escapedPath_append hkeeps⟩

theorem sent_eq_some_iff {r : HttpRequest} {base : Bytes} {w : Received} :
    r.sent base = some w ↔ w.method = requestMethod r.method ∧ validMethod w.method = true ∧
      w.body = r.body ∧ ∃ t, parse (r.url.drop base.length) = some t ∧
        w.path = t.escapedPath ∧ w.query = t.query := by
  unfold HttpRequest.sent
  constructor
  · intro h
    split_ifs at h with hmethod
    rw [Option.map_eq_some_iff] at h
    obtain ⟨t, ht, rfl⟩ := h
    exact ⟨rfl, hmethod, rfl, t, ht, rfl, rfl⟩
  · obtain ⟨method, path, query, body⟩ := w
    dsimp only
    rintro ⟨rfl, hvalid, rfl, t, ht, rfl, rfl⟩
    rw [if_pos hvalid, ht, Option.map_some]

section Way

variable {p : ProxyClient} {h : Handler} {n : Nf} {method : String} {path body : Bytes}
  {w : Received}

theorem sent_gateway (requestID : Option String) (hw : asked method path body = some w) :
    (p.request requestID n.name method path body).sent p.gatewayURL =
      some { w with path := n.front ++ w.path } := by
  obtain ⟨hmethod, hvalid, hbody, t, ht, hpath, hquery⟩ := sent_eq_some_iff.mp hw
  have hurl : (p.request requestID n.name method path body).url.drop p.gatewayURL.length =
      n.front ++ path := by
    rw [ProxyClient.request, List.append_assoc, List.append_assoc, List.drop_left, Nf.front,
      List.append_assoc]
  have hread : parse (n.front ++ path) = some ⟨n.front ++ t.raw, n.front ++ t.path, t.query⟩ := by
    rw [parse_append n.front_plain]
    exact congrArg (Option.map _) ht
  rw [sent_eq_some_iff, hurl]
  refine ⟨hmethod, hvalid, hbody, _, hread, ?_, hquery⟩
  rw [Target.escapedPath_append n.front_keeps, hpath]

theorem requestMethod_of_valid {method : String} (h : validMethod method = true) :
    requestMethod method = method := by
  apply if_neg
  rintro rfl
  exact absurd h (by decide)

theorem sent_nf (c : NfClient) (method : String) (path body : Bytes) :
    (c.request method path body).sent c.server = asked method path body := by
  have hurl : (c.request method path body).url.drop c.server.length = path := List.drop_left
  unfold asked HttpRequest.sent
  rw [hurl]
  rfl

theorem routed_gateway {text : Bytes} {t : Target} (ht : parse (47 :: text) = some t)
    (hpath : w.path = t.escapedPath) :
    routed { w with path := n.front ++ w.path } =
      if w.method = "CONNECT" ∨ IsClean t.escapedPath then .handled n (n.front ++ t.path)
      else .redirect := by
  obtain ⟨path, escaped, -, hescaped⟩ := parse_slash ht
  have hread : unescape (n.front ++ w.path) = some (n.front ++ t.path) := by
    rw [unescape_append n.front_plain.not_mem_percent, hpath,
      unescape_escapedPath (parse_eq_some_iff.mp ht).2.2.1, Option.map_some]
  have hsent : Target.escapedPath ⟨n.front ++ w.path, n.front ++ t.path, w.query⟩ =
      n.front ++ w.path := by
    rw [Target.escapedPath_append n.front_keeps, hpath, escapedPath_escapedPath]
  unfold routed
  simp only [hread, hsent]
  simp only [hpath, hescaped, isClean_front, route_front]

theorem reached_gateway {text : Bytes} {t : Target} (ht : parse (47 :: text) = some t)
    (hpath : w.path = t.escapedPath) :
    h.reached { w with path := n.front ++ w.path } =
      if w.method = "CONNECT" ∨ IsClean t.escapedPath then
        (asked w.method t.path w.body).map (n, ·)
      else none := by
  obtain ⟨rest, escaped, hrest, -⟩ := parse_slash ht
  unfold Handler.reached
  rw [routed_gateway ht hpath]
  split_ifs
  · dsimp only
    rw [sent_nf, hrest, extractProxyPath_front]
  · rfl

theorem reached_iff (hslash : path.head? = some 47) (requestID : Option String)
    (hw : asked method path body = some w) :
    ((p.request requestID n.name method path body).sent p.gatewayURL).bind h.reached =
      some (n, w) ↔ Passes w.method path := by
  obtain ⟨text, rfl⟩ := List.head?_eq_some_iff.mp hslash
  obtain ⟨hmethod, hvalid, hbody, t, ht, hpath, hquery⟩ := sent_eq_some_iff.mp hw
  rw [List.length_nil, List.drop_zero] at ht
  have hsame : asked w.method t.path w.body = some w ↔
      ∃ t', parse t.path = some t' ∧ t'.escapedPath = t.escapedPath ∧ t'.query = t.query := by
    unfold asked
    rw [sent_eq_some_iff, requestMethod_of_valid hvalid, hpath, hquery]
    simp [hvalid, eq_comm]
  rw [sent_gateway requestID hw, Option.bind_some, reached_gateway ht hpath]
  have hpasses : Passes w.method (47 :: text) ↔ (w.method = "CONNECT" ∨ IsClean t.escapedPath) ∧
      t.query = [] ∧ Plain t.path ∧
        Target.escapedPath ⟨t.path, t.path, []⟩ = t.escapedPath := by
    simp [Passes, ht]
  rw [hpasses, ← reread_iff ht, ← hsame]
  split_ifs with hclean
  · simp [hclean]
  · simp [hclean]

end Way

/-! ## The way back -/

theorem Outcome.ofAnswer_not_unbuildable (a : Except String (ℕ × Bytes)) :
    ¬ (Outcome.ofAnswer a).IsUnbuildable := by
  rcases a with err | ⟨status, body⟩ <;> exact id

theorem Outcome.ofAnswer_not_final {a : Except String (ℕ × Bytes)}
    (h : ∀ status body, a = .ok (status, body) → 500 ≤ status) : ¬ (Outcome.ofAnswer a).Final := by
  rcases a with err | ⟨status, body⟩
  · exact id
  · exact Nat.not_lt.mpr (h status body rfl)

section Back

variable {p : ProxyClient} {h : Handler} {n : Nf} {path : Bytes} {w : Received}

theorem doRequest_eq (c : NfClient) (n : Nf) (i : ℕ)
    (hsame : asked w.method path w.body = some w) :
    c.doRequest (net.aroundNf c n i) w.method path w.body =
      callWithRetry (fun k => .ofAnswer (net.nf n i k w)) (net.nfDone i) c.retryCfg := by
  have houtcomes : c.outcomes (net.aroundNf c n i) w.method path w.body =
      fun k => .ofAnswer (net.nf n i k w) := by
    funext k
    simp only [NfClient.outcomes, Network.aroundNf, Network.exchangeNf, sent_nf, hsame]
  rw [NfClient.doRequest, houtcomes]
  rfl

theorem proxyRequest_of_answered {i j status : ℕ} {answer urlPath : Bytes} (full : Bytes)
    (hsame : asked w.method (extractProxyPath urlPath) w.body = some w)
    (ha : Answered net p h n w i j status answer) :
    h.proxyRequest net n i { w with path := full } urlPath = .response status answer := by
  have hlt : status < 500 := by have := ha.code; omega
  have hcode : 100 ≤ status ∧ status ≤ 999 := by have := ha.code; omega
  have hanswer : Outcome.ofAnswer (net.nf n i j w) = .response status answer := by
    rw [ha.answer]
    rfl
  have hlast : IsLast (fun k => Outcome.ofAnswer (net.nf n i k w)) (net.nfDone i)
      (allowed (h.client n).retryCfg.maxAttempts) j := by
    refine ⟨ha.lt, ?_, .inl ?_⟩
    · intro k hk
      exact ⟨Outcome.ofAnswer_not_final (ha.before k hk).1, (ha.before k hk).2⟩
    · rw [hanswer]
      exact hlt
  have hreturned : (h.client n).doRequest (net.aroundNf (h.client n) n i) w.method
      (extractProxyPath urlPath) w.body = ⟨status, answer, none⟩ := by
    rw [doRequest_eq net _ n i hsame]
    exact callWithRetry_of_isLast hlast hanswer hlt
  simp only [Handler.proxyRequest, hreturned, if_pos hcode]

theorem proxyRequest_of_failed {i : ℕ} {urlPath : Bytes} (full : Bytes)
    (hsame : asked w.method (extractProxyPath urlPath) w.body = some w)
    (hpos : 0 < allowed (h.client n).retryCfg.maxAttempts)
    (hfails : ∀ l status body, net.nf n i l w = .ok (status, body) → 500 ≤ status) :
    ¬ (h.proxyRequest net n i { w with path := full } urlPath).Final := by
  have herr : ((h.client n).doRequest (net.aroundNf (h.client n) n i) w.method
      (extractProxyPath urlPath) w.body).err ≠ none := by
    rw [doRequest_eq net _ n i hsame]
    exact callWithRetry_err_of_not_final hpos fun k =>
      ⟨Outcome.ofAnswer_not_final (hfails k), Outcome.ofAnswer_not_unbuildable _⟩
  obtain ⟨err, herr⟩ := Option.ne_none_iff_exists'.mp herr
  simp only [Handler.proxyRequest, herr]
  exact Nat.not_lt.mpr (by decide : 500 ≤ 502)

theorem callNf_eq (env : Surroundings) (method : String) (path body : Bytes) :
    p.callNf env n method path body = p.call env n.name method path body := by
  cases n <;> rfl

theorem callNf_of_answered {method : String} {body : Bytes} (hslash : path.head? = some 47)
    (hw : asked method path body = some w) (hpasses : Passes w.method path) {i j status : ℕ}
    {answer : Bytes} (ha : Answered net p h n w i j status answer) :
    p.callNf (net.around p h) n method path body = ⟨status, answer, none⟩ := by
  have hreached := (@reached_iff p h n _ _ _ _ hslash net.requestID hw).mpr hpasses
  obtain ⟨text, rfl⟩ := List.head?_eq_some_iff.mp hslash
  obtain ⟨hmethod, hvalid, hbody, t, ht, hpath, hquery⟩ := sent_eq_some_iff.mp hw
  rw [List.length_nil, List.drop_zero] at ht
  obtain ⟨rest, escaped, hrest, -⟩ := parse_slash ht
  rw [sent_gateway net.requestID hw, Option.bind_some, reached_gateway ht hpath] at hreached
  split_ifs at hreached with hclean
  have hsame : asked w.method (extractProxyPath (n.front ++ t.path)) w.body = some w := by
    rw [hrest, extractProxyPath_front, ← hrest]
    simpa using hreached
  have hserve : ∀ k, p.outcomes (net.around p h) n.name method (47 :: text) body k =
      h.proxyRequest net n k { w with path := n.front ++ w.path } (n.front ++ t.path) := by
    intro k
    simp only [ProxyClient.outcomes, Network.around, Network.exchange, sent_gateway _ hw,
      Handler.serve, routed_gateway ht hpath, if_pos hclean]
  have hlt : status < 500 := by have := ha.code; omega
  have hanswer := proxyRequest_of_answered net (n.front ++ w.path) hsame ha
  have hlast : IsLast (p.outcomes (net.around p h) n.name method (47 :: text) body) net.done
      (allowed p.retryCfg.maxAttempts) i := by
    refine ⟨ha.call_lt, ?_, .inl ?_⟩
    · intro k hk
      rw [hserve]
      exact ⟨proxyRequest_of_failed net _ hsame (Nat.zero_lt_of_lt ha.lt)
        (ha.calls_before k hk).1, (ha.calls_before k hk).2⟩
    · rw [hserve, hanswer]
      exact hlt
  rw [callNf_eq]
  exact callWithRetry_of_isLast hlast ((hserve i).trans hanswer) hlt

end Back

/-- A call through the gateway is transparent exactly if its path has no query, is clean, and comes
out of decoding and reading again as it was. -/
theorem proxy_transparent_iff (p : ProxyClient) (h : Handler) (n : Nf) (method : String)
    (path body : Bytes) (hslash : path.head? = some 47) (w : Received)
    (hw : asked method path body = some w) :
    Transparent net p h n method path body w ↔ Passes w.method path := by
  constructor
  · intro htransparent
    exact (reached_iff hslash net.requestID hw).mp htransparent.reached
  · intro hpasses
    exact ⟨(reached_iff hslash net.requestID hw).mpr hpasses,
      fun i j status answer ha => callNf_of_answered net hslash hw hpasses ha⟩

/-! ## A gateway -/

namespace NfProxy.Sample

def network : Network where
  requestID := none
  nf _ _ _ _ := .ok (200, [111, 107])
  done _ := none
  nfDone _ _ := none
  buildErr _ := "net/http: invalid request"
  aborted _ := "EOF"
  redirected _ _ := .response 301 []

def proxyClient : ProxyClient :=
  newProxyClient (Bytes.ofString "http://http-gw:8080") defaultRetryConfig

def handler : Handler :=
  newHandler ⟨Bytes.ofString "http://nrf:8000/", Bytes.ofString "http://udm:8000",
    Bytes.ofString "http://amf:8000", defaultRetryConfig⟩

def discovery : Bytes := Bytes.ofString "/nnrf-disc/v1/nf-instances"

def query : Bytes := Bytes.ofString "target-nf-type=UDM"

def discoveryWithQuery : Bytes := discovery ++ 63 :: query

/-- A path with a slash that is part of a segment. -/
def escapedSlash : Bytes := Bytes.ofString "/nudm-sdm/v2/a%2Fb"

/-- What reaches an NF of a GET without a body. -/
def reachedBy (n : Nf) (path : Bytes) : Option (Nf × Received) :=
  ((proxyClient.request none n.name "GET" path []).sent proxyClient.gatewayURL).bind handler.reached

end NfProxy.Sample

open NfProxy.Sample

/-- A discovery without a query. -/
theorem discovery_transparent :
    Transparent network proxyClient handler .nrf "GET" discovery [] ⟨"GET", discovery, [], []⟩ :=
  (proxy_transparent_iff network proxyClient handler .nrf "GET" discovery []
    (by decide +kernel) _ (by decide +kernel)).mpr
    ⟨⟨discovery, discovery, []⟩, by decide +kernel, by decide +kernel, rfl, by decide +kernel, rfl⟩

/-- The NRF receives a discovery without its query, and answers it. A slash in a segment becomes
one between segments. -/
theorem query_not_forwarded :
    asked "GET" discoveryWithQuery [] = some ⟨"GET", discovery, query, []⟩ ∧
    ¬ Transparent network proxyClient handler .nrf "GET" discoveryWithQuery []
      ⟨"GET", discovery, query, []⟩ ∧
    reachedBy .nrf discoveryWithQuery = some (.nrf, ⟨"GET", discovery, [], []⟩) ∧
    proxyClient.callNRF (network.around proxyClient handler) "GET" discoveryWithQuery [] =
      ⟨200, [111, 107], none⟩ ∧
    asked "GET" escapedSlash [] = some ⟨"GET", escapedSlash, [], []⟩ ∧
    reachedBy .udm escapedSlash =
      some (.udm, ⟨"GET", Bytes.ofString "/nudm-sdm/v2/a/b", [], []⟩) := by
  have hreached : reachedBy .nrf discoveryWithQuery = some (.nrf, ⟨"GET", discovery, [], []⟩) := by
    decide +kernel
  refine ⟨by decide +kernel, fun h => ?_, hreached, by decide +kernel⟩
  have hquery := hreached.symm.trans h.reached
  exact absurd hquery (by decide +kernel)

end NssAAF.HttpClient
