import NssAAF.Api.Common
import NssAAF.Lib.Results
import Mathlib.Data.List.Infix

/-!
# Bearer tokens

`Validate` of `internal/auth/auth.go` and the three middleware constructors of
`internal/auth/middleware.go`, which stand in front of the handlers of the HTTP gateway
(`cmd/http-gateway/main.go`). The JWT library and the key set of the NRF are parameters.

`validate_ok_iff` shows that `Validate` is exact for the scope it is given. The middleware gives it
the empty scope, which no token has: `bearer_exact_iff` shows that every request is refused,
whatever its token.
-/

namespace NssAAF.Auth

/-! ## Tokens -/

/-- The claims that are looked at. -/
structure TokenClaims where
  issuer : String
  audience : List String
  scope : String
  nfType : String
  deriving DecidableEq

/-- The JWT library and the key set. `parseUnverified` gives the `kid` of the header, if there is
one that is a text. `parseWithClaims` checks the signature with the key that it is given for the
algorithm of the header, and the times of the token. -/
structure Jwt (Key : Type) where
  parseUnverified : String → Except String (Option String)
  getKey : String → Except String Key
  parseWithClaims : String → (String → Except String Key) → Except String TokenClaims

structure TokenValidator where
  issuer : String
  audiences : List String
  allowedNfTypes : List String
  deriving DecidableEq

/-- The fields of a configuration that are empty get their defaults. -/
def newTokenValidator (issuer : String) (audiences allowedNfTypes : List String) :
    TokenValidator where
  issuer := issuer
  audiences := if audiences = [] then ["nnssaaf-nssaa", "nnssaaf-aiw"] else audiences
  allowedNfTypes := if allowedNfTypes = [] then ["AMF", "AUSF"] else allowedNfTypes

def errInvalidToken : String := "invalid token"
def errTokenExpired : String := "token expired"
def errInvalidIssuer : String := "invalid token issuer"
def errInvalidAudience : String := "invalid token audience"
def errInsufficientScope : String := "insufficient scope"
def errInvalidNfType : String := "invalid NF type"
def errInvalidSigningMethod : String := "invalid signing method"

def signingMethods : List String := ["RS256", "RS384", "RS512", "ES256", "ES384", "ES512"]

def fields (s : String) : List String :=
  ((s.toList.splitOnP Api.isSpace).filter fun w => w ≠ []).map String.ofList

section Validate

variable {Key : Type} (jwt : Jwt Key) (v : TokenValidator)

/-- The key for a token, if its algorithm is allowed. -/
def keyFor (key : Key) (alg : String) : Except String Key :=
  if alg ∈ signingMethods then .ok key else .error errInvalidSigningMethod

def lookupKey (token : String) : Except String Key :=
  match jwt.parseUnverified token with
  | .error err => .error (errInvalidToken ++ ": parse failed: " ++ err)
  | .ok kid =>
    if kid.getD "" = "" then .error (errInvalidToken ++ ": no kid in token header")
    else (jwt.getKey (kid.getD "")).mapError fun err => errInvalidToken ++ ": JWKS fetch: " ++ err

def parse (token : String) (key : Key) : Except String TokenClaims :=
  (jwt.parseWithClaims token (keyFor key)).mapError fun err =>
    if "token is expired".toList <:+: err.toList then errTokenExpired
    else errInvalidToken ++ ": " ++ err

def checkClaims (requiredScope : String) (claims : TokenClaims) : Except String TokenClaims :=
  if claims.issuer ≠ v.issuer then .error errInvalidIssuer
  else if ¬ ∃ aud ∈ claims.audience, aud ∈ v.audiences then .error errInvalidAudience
  else if requiredScope ∉ fields claims.scope then .error errInsufficientScope
  else if claims.nfType ∉ v.allowedNfTypes then .error errInvalidNfType
  else .ok claims

def validate (token requiredScope : String) : Except String TokenClaims := do
  let key ← lookupKey jwt token
  let claims ← parse jwt token key
  checkClaims v requiredScope claims

end Validate

/-! ## Middleware -/

/-- A request, as far as it matters here. A missing header is an empty one. -/
structure Request where
  path : String
  authorization : String
  deriving DecidableEq

structure Problem where
  type : String
  title : String
  status : ℕ
  detail : String
  deriving DecidableEq

/-- The next handler is called, with the claims that were put into the context, or an error is
written. -/
inductive Outcome
  | next (claims : Option TokenClaims)
  | error (problem : Problem)
  deriving DecidableEq

def Outcome.CallsNext (o : Outcome) : Prop := ∃ claims, o = .next claims

def writeError (message : String) : Outcome :=
  .error ⟨"https://tools.ietf.org/html/rfc9110#section-15.5.2", "Unauthorized", 401, message⟩

structure Config where
  disabled : Bool
  deriving DecidableEq

/-- The text behind `front`, if the text starts with it. -/
def behind (front s : String) : Option String :=
  if front.toList.isPrefixOf s.toList then some (String.ofList (s.toList.drop front.toList.length))
  else none

section Handlers

variable {Key : Type} (jwt : Jwt Key) (v : TokenValidator) (env : String)

/-- `env` is the value of `NAF3_AUTH_DISABLED`. -/
def newAuthMiddleware (cfg : Config) (r : Request) : Outcome :=
  if cfg.disabled ∨ env = "1" then .next none
  else if r.authorization = "" then writeError "missing authorization header"
  else
    match behind "Bearer " r.authorization with
    | none => writeError "invalid authorization scheme"
    | some token =>
      if token = "" then writeError "empty token"
      else
        match validate jwt v token "" with
        | .error _ => writeError "invalid token"
        | .ok claims => .next (some claims)

/-- The scope is not used. -/
def middleware (_requiredScope : String) (r : Request) : Outcome :=
  newAuthMiddleware jwt v env ⟨false⟩ r

inductive MiddlewareOption
  | withRequiredScope (scope : String)
  | withSkipPaths (paths : List String)
  deriving DecidableEq

structure MiddlewareConfig where
  requiredScope : String
  skipPaths : List String
  deriving DecidableEq

def MiddlewareOption.apply (c : MiddlewareConfig) : MiddlewareOption → MiddlewareConfig
  | .withRequiredScope scope => { c with requiredScope := scope }
  | .withSkipPaths paths => { c with skipPaths := paths }

def middlewareConfig (requiredScope : String) (opts : List MiddlewareOption) : MiddlewareConfig :=
  opts.foldl MiddlewareOption.apply ⟨requiredScope, []⟩

def middlewareWithOptions (requiredScope : String) (opts : List MiddlewareOption) (r : Request) :
    Outcome :=
  if r.path ∈ (middlewareConfig requiredScope opts).skipPaths then .next none
  else newAuthMiddleware jwt v env ⟨false⟩ r

inductive Service
  | nssaa
  | aiw
  deriving DecidableEq

def Service.path : Service → String
  | .nssaa => "/nnssaaf-nssaa/"
  | .aiw => "/nnssaaf-aiw/"

def Service.scope : Service → String
  | .nssaa => "nnssaaf-nssaa"
  | .aiw => "nnssaaf-aiw"

/-- The handler of a service: the path leads to the middleware in front of the proxy. -/
def buildHandler (authCfg : Config) (service : Service) (r : Request) : Option Outcome :=
  if (behind service.path r.path).isSome then some (newAuthMiddleware jwt v env authCfg r) else none

end Handlers

/-! ## What a token has to be -/

section Policy

variable {Key : Type} (jwt : Jwt Key) (v : TokenValidator)

/-- The token has a known key, a good signature with an allowed algorithm, it is not expired, and
its issuer, audience and NF type are right. -/
structure Valid (token : String) (claims : TokenClaims) : Prop where
  signed : ∃ kid key, jwt.parseUnverified token = .ok (some kid) ∧ kid ≠ "" ∧
    jwt.getKey kid = .ok key ∧ jwt.parseWithClaims token (keyFor key) = .ok claims
  issuer : claims.issuer = v.issuer
  audience : ∃ aud ∈ claims.audience, aud ∈ v.audiences
  nfType : claims.nfType ∈ v.allowedNfTypes

def Authorised (scope : String) (r : Request) : Prop :=
  ∃ token claims, behind "Bearer " r.authorization = some token ∧ token ≠ "" ∧
    Valid jwt v token claims ∧ scope ∈ fields claims.scope

/-- The next handler is called exactly for the authorised requests. -/
def Exact (o : Outcome) (scope : String) (r : Request) : Prop :=
  o.CallsNext ↔ Authorised jwt v scope r

end Policy

section

variable {Key : Type} {jwt : Jwt Key} {v : TokenValidator}

theorem lookupKey_ok_iff {token : String} {key : Key} :
    lookupKey jwt token = .ok key ↔
      ∃ kid, jwt.parseUnverified token = .ok (some kid) ∧ kid ≠ "" ∧ jwt.getKey kid = .ok key := by
  unfold lookupKey
  cases hparse : jwt.parseUnverified token with
  | error err => simp
  | ok kid =>
    cases kid with
    | none => simp
    | some kid =>
      dsimp only [Option.getD_some]
      split_ifs with hkid
      · simp [hkid]
      · rw [Results.mapError_eq_ok_iff]
        simp [hkid]

theorem checkClaims_ok_iff {scope : String} {claims claims' : TokenClaims} :
    checkClaims v scope claims = .ok claims' ↔
      claims' = claims ∧ claims.issuer = v.issuer ∧ (∃ aud ∈ claims.audience, aud ∈ v.audiences) ∧
        scope ∈ fields claims.scope ∧ claims.nfType ∈ v.allowedNfTypes := by
  unfold checkClaims
  by_cases h1 : claims.issuer = v.issuer
  · by_cases h2 : ∃ aud ∈ claims.audience, aud ∈ v.audiences
    · by_cases h3 : scope ∈ fields claims.scope
      · by_cases h4 : claims.nfType ∈ v.allowedNfTypes
        · simp [h1, h2, h3, h4, eq_comm]
        · simp [h1, h2, h3, h4]
      · simp [h1, h2, h3]
    · rw [if_neg (not_not.mpr h1), if_pos h2]
      exact iff_of_false (by simp) (fun h => h2 h.2.2.1)
  · simp [h1]

/-- **The validator is exact.** It accepts the valid tokens with the scope. -/
theorem validate_ok_iff {token scope : String} {claims : TokenClaims} :
    validate jwt v token scope = .ok claims ↔
      Valid jwt v token claims ∧ scope ∈ fields claims.scope := by
  unfold validate parse
  simp only [Results.bind_eq_ok_iff, lookupKey_ok_iff, Results.mapError_eq_ok_iff,
    checkClaims_ok_iff]
  constructor
  · rintro ⟨key, ⟨kid, hparse, hkid, hkey⟩, c, hclaims, rfl, hissuer, haud, hscope, hnf⟩
    exact ⟨⟨⟨kid, key, hparse, hkid, hkey, hclaims⟩, hissuer, haud, hnf⟩, hscope⟩
  · rintro ⟨⟨⟨kid, key, hparse, hkid, hkey, hclaims⟩, hissuer, haud, hnf⟩, hscope⟩
    exact ⟨key, ⟨kid, hparse, hkid, hkey⟩, claims, hclaims, rfl, hissuer, haud, hscope, hnf⟩

theorem empty_not_mem_fields (s : String) : "" ∉ fields s := by
  intro h
  obtain ⟨w, hw, hempty⟩ := List.mem_map.mp h
  have hne : w ≠ [] := by simpa using (List.mem_filter.mp hw).2
  have hnil : (String.ofList w).toList = [] := by rw [hempty]; rfl
  rw [String.toList_ofList] at hnil
  exact hne hnil

theorem validate_empty (jwt : Jwt Key) (v : TokenValidator) (token : String) :
    ∃ err, validate jwt v token "" = .error err := by
  cases h : validate jwt v token "" with
  | error err => exact ⟨err, rfl⟩
  | ok claims => exact absurd (validate_ok_iff.mp h).2 (empty_not_mem_fields _)

theorem not_callsNext (jwt : Jwt Key) (v : TokenValidator) {env : String} (henv : env ≠ "1")
    (r : Request) : ¬ (newAuthMiddleware jwt v env ⟨false⟩ r).CallsNext := by
  rintro ⟨claims, h⟩
  unfold newAuthMiddleware at h
  rw [if_neg (by simp [henv])] at h
  split_ifs at h
  · cases h
  · split at h
    · cases h
    · next token _ =>
      obtain ⟨err, herr⟩ := validate_empty jwt v token
      rw [herr] at h
      split_ifs at h <;> cases h

theorem exact_iff_of_not {o : Outcome} (h : ¬ o.CallsNext) (scope : String) (r : Request) :
    Exact jwt v o scope r ↔ ¬ Authorised jwt v scope r := by
  unfold Exact
  exact ⟨fun hexact hauth => h (hexact.mpr hauth), fun hauth => iff_of_false h hauth⟩

end

/-- **Bearer authorisation.** With authentication enabled, the handlers of the gateway and the
middleware with a scope are right exactly about the requests that are not authorised: no request
reaches the next handler, except over a path that the options skip, and there every request does. -/
theorem bearer_exact_iff {Key : Type} (jwt : Jwt Key) (v : TokenValidator) {env : String}
    (henv : env ≠ "1") (r : Request) (scope : String) (opts : List MiddlewareOption) :
    (∀ service o, buildHandler jwt v env ⟨false⟩ service r = some o →
        (Exact jwt v o service.scope r ↔ ¬ Authorised jwt v service.scope r)) ∧
      (Exact jwt v (middleware jwt v env scope r) scope r ↔ ¬ Authorised jwt v scope r) ∧
      (Exact jwt v (middlewareWithOptions jwt v env scope opts r) scope r ↔
        (Authorised jwt v scope r ↔ r.path ∈ (middlewareConfig scope opts).skipPaths)) := by
  have hnot := not_callsNext jwt v henv r
  refine ⟨fun service o ho => ?_, exact_iff_of_not hnot scope r, ?_⟩
  · unfold buildHandler at ho
    split_ifs at ho
    rw [← Option.some.inj ho]
    exact exact_iff_of_not hnot service.scope r
  · unfold middlewareWithOptions
    split_ifs with hskip
    · have hnext : (Outcome.next none).CallsNext := ⟨none, rfl⟩
      unfold Exact
      rw [iff_true_left hnext, iff_true_right hskip]
    · rw [exact_iff_of_not hnot scope r, iff_false_right hskip]

namespace Sample

def claims (scope : String) : TokenClaims := ⟨"nrf", ["nnssaaf-nssaa"], scope, "AMF"⟩

/-- Every token is signed with the key `k1`, and is its scope. -/
def jwt : Jwt Unit where
  parseUnverified _ := .ok (some "k1")
  getKey _ := .ok ()
  parseWithClaims token key := (key "RS256").map fun _ => claims token

def validator : TokenValidator := newTokenValidator "nrf" [] []

def request (token : String) : Request :=
  ⟨"/nnssaaf-nssaa/v1/slice-authentications", "Bearer " ++ token⟩

theorem valid (token : String) : Valid jwt validator token (claims token) :=
  ⟨⟨"k1", (), rfl, by decide, rfl, rfl⟩, rfl, ⟨"nnssaaf-nssaa", List.mem_singleton_self _,
    by decide⟩, show "AMF" ∈ validator.allowedNfTypes by decide⟩

end Sample

open Sample in
/-- A valid token of the other service. -/
theorem other_scope_is_refused :
    ¬ Authorised jwt validator "nnssaaf-nssaa" (request "nnssaaf-aiw") ∧
      Exact jwt validator (middleware jwt validator "" "nnssaaf-nssaa" (request "nnssaaf-aiw"))
        "nnssaaf-nssaa" (request "nnssaaf-aiw") ∧
      ¬ Exact jwt validator (middlewareWithOptions jwt validator "" "nnssaaf-nssaa"
        [.withSkipPaths [(request "").path]] (request "nnssaaf-aiw"))
        "nnssaaf-nssaa" (request "nnssaaf-aiw") := by
  have hnot : ¬ Authorised jwt validator "nnssaaf-nssaa" (request "nnssaaf-aiw") := by
    rintro ⟨token, claims, htoken, -, ⟨⟨kid, key, -, -, -, hclaims⟩, -, -, -⟩, hscope⟩
    obtain rfl : "nnssaaf-aiw" = token := Option.some.inj htoken
    obtain rfl : Sample.claims "nnssaaf-aiw" = claims := Except.ok.inj hclaims
    exact absurd hscope (by decide)
  have hexact := bearer_exact_iff jwt validator (by decide : "" ≠ "1") (request "nnssaaf-aiw")
    "nnssaaf-nssaa" [.withSkipPaths [(request "").path]]
  exact ⟨hnot, hexact.2.1.mpr hnot, fun h => hnot ((hexact.2.2.mp h).mpr (by decide))⟩

open Sample in
theorem valid_token_is_refused :
    Authorised jwt validator "nnssaaf-nssaa" (request "nnssaaf-nssaa") ∧
      buildHandler jwt validator "" ⟨false⟩ .nssaa (request "nnssaaf-nssaa") =
        some (writeError "invalid token") ∧
      middleware jwt validator "" "nnssaaf-nssaa" (request "nnssaaf-nssaa") =
        writeError "invalid token" :=
  ⟨⟨"nnssaaf-nssaa", _, by decide, by decide, valid "nnssaaf-nssaa", by decide⟩, by decide,
    by decide⟩

end NssAAF.Auth
