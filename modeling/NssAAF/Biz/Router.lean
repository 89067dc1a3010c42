import NssAAF.Biz.AaaClient

/-!
# The router of Biz

`internal/biz/router.go`. The router has a server for one slice, one for a slice type and one for
all the others, but it does not keep which slice and which type they are for. `RoutingSetup` is a
configuration that does, with what the router and the AAA client are given of it.

`router_follows_slice_iff` says for which slices the router decides by the slice and agrees with the
client.
-/

namespace NssAAF.Biz

open Aaa

inductive ProxyMode
  | direct
  | proxy
  deriving DecidableEq

inductive Protocol
  | radius
  | diameter
  deriving DecidableEq

def Protocol.string : Protocol → String
  | .radius => "RADIUS"
  | .diameter => "DIAMETER"

def Protocol.transportType : Protocol → TransportType
  | .radius => .radius
  | .diameter => .diameter

/-- An AAA server. A timeout of zero stands for the default. -/
structure ServerConfig where
  protocol : Protocol
  host : String
  port : ℤ
  timeout : ℤ
  deriving DecidableEq

structure RouteDecision where
  mode : ProxyMode
  protocol : Protocol
  host : String
  port : ℤ
  timeout : ℤ
  deriving DecidableEq

structure SnssaiConfig where
  exactly : Option ServerConfig
  sst : Option ServerConfig
  default : Option ServerConfig
  deriving DecidableEq

structure Router where
  cfg : SnssaiConfig
  deriving DecidableEq

/-- The version of the messages, unless the build sets another one. -/
def currentVersion : String := "1.0"

def ServerConfig.decision (cfg : ServerConfig) : RouteDecision where
  mode := .direct
  protocol := cfg.protocol
  host := cfg.host
  port := cfg.port
  timeout := if cfg.timeout = 0 then 10 * Eap.second else cfg.timeout

namespace Router

variable (r : Router)

/-- The server is looked up without the slice. -/
def resolveRoute (_sst : UInt8) (_sd : String) : Option RouteDecision :=
  let cfg :=
    match r.cfg.exactly with
    | some cfg => some cfg
    | none =>
      match r.cfg.sst with
      | some cfg => some cfg
      | none => r.cfg.default
  cfg.map ServerConfig.decision

/-- The request for the gateway. `now` is the clock in nanoseconds. -/
def buildForwardRequest (now : ℤ) (authCtxID gpsi : String) (eapPayload : Bytes) (sst : UInt8)
    (sd : String) : Except String AaaForwardRequest :=
  match r.resolveRoute sst sd with
  | none =>
    .error ("biz: no route configured for sst=" ++ toString sst.toNat ++ " sd=" ++ sd)
  | some decision =>
    .ok {
      version := currentVersion
      sessionID := sessionID now authCtxID
      authCtxID
      gpsi
      transportType := decision.protocol.transportType
      sst
      sd
      payload := eapPayload }

end Router

/-! ## What is configured for a slice -/

/-- The three levels of the lookup. -/
inductive RouteLevel
  | exactly
  | sst
  | default
  deriving DecidableEq

/-- The level at which the router finds a server. -/
def SnssaiConfig.pick (cfg : SnssaiConfig) : Option (RouteLevel × ServerConfig) :=
  match cfg.exactly with
  | some c => some (.exactly, c)
  | none =>
    match cfg.sst with
    | some c => some (.sst, c)
    | none => cfg.default.map fun c => (.default, c)

theorem Router.resolveRoute_eq_pick (r : Router) (sst : UInt8) (sd : String) :
    r.resolveRoute sst sd = r.cfg.pick.map fun p => p.2.decision := by
  obtain ⟨exactly, sst', default⟩ := r
  unfold Router.resolveRoute SnssaiConfig.pick
  cases exactly with
  | some c => rfl
  | none => cases sst' with
    | some c => rfl
    | none => cases default <;> rfl

/-- Servers with the slice and the slice type that they are for. -/
structure RoutingSetup where
  exactly : Option ((UInt8 × String) × ServerConfig)
  sst : Option (UInt8 × ServerConfig)
  default : Option ServerConfig
  deriving DecidableEq

namespace RoutingSetup

variable (s : RoutingSetup)

def router : Router := ⟨s.exactly.map Prod.snd, s.sst.map Prod.snd, s.default⟩

def routingConfig : SnssaiRoutingConfig where
  default := s.default.map fun c => ⟨0, "", c.protocol.string⟩
  sst := (s.sst.map fun e => (⟨e.1, "", e.2.protocol.string⟩ : SnssaiRouteEntry)).toList
  exactly :=
    (s.exactly.map fun e => (⟨e.1.1, e.1.2, e.2.protocol.string⟩ : SnssaiRouteEntry)).toList

def configuredForType (sst : UInt8) : Option ServerConfig :=
  match s.sst with
  | some (sst', c) => if sst' = sst then some c else s.default
  | none => s.default

def configured (sst : UInt8) (sd : String) : Option ServerConfig :=
  match s.exactly with
  | some ((sst', sd'), c) => if sst' = sst ∧ sd' = sd then some c else s.configuredForType sst
  | none => s.configuredForType sst

/-- The router decides by the slice, and as a client with the same configuration. -/
structure FollowsSlice (sst : UInt8) (sd : String) : Prop where
  exact_only : ∀ c, s.router.cfg.pick = some (.exactly, c) → s.exactly = some ((sst, sd), c)
  sst_only : ∀ c, s.router.cfg.pick = some (.sst, c) → s.sst = some (sst, c)
  otherwise : (∀ c, s.exactly ≠ some ((sst, sd), c)) → (∀ c, s.sst ≠ some (sst, c)) →
    s.router.cfg.pick = s.default.map fun c => (.default, c)
  protocol : ∀ client : HttpAAAClient, client.snssaiCfg = some s.routingConfig →
    ∀ d, s.router.resolveRoute sst sd = some d →
      d.protocol.transportType = client.resolveTransportType sst sd

variable {s} {sst : UInt8} {sd : String}

theorem transportType_string (p : Protocol) :
    (if p.string = "DIAMETER" then TransportType.diameter else .radius) = p.transportType := by
  cases p <;> rfl

theorem protocol_of_type (s : RoutingSetup) (sst : UInt8) :
    ((s.routingConfig.sst.find? fun e => e.sst = sst).or s.routingConfig.default).map
        SnssaiRouteEntry.protocol =
      (s.configuredForType sst).map fun c => c.protocol.string := by
  unfold configuredForType routingConfig
  cases s.sst with
  | none => simp [Function.comp_def]
  | some e => by_cases he : e.1 = sst <;> simp [he, Function.comp_def]

theorem protocol_of_entry (s : RoutingSetup) (sst : UInt8) (sd : String) :
    ((s.routingConfig.exactly.find? fun e => e.sst = sst ∧ e.sd = sd).or
        ((s.routingConfig.sst.find? fun e => e.sst = sst).or s.routingConfig.default)).map
        SnssaiRouteEntry.protocol =
      (s.configured sst sd).map fun c => c.protocol.string := by
  have htype := protocol_of_type s sst
  unfold configured
  cases hx : s.exactly with
  | none =>
    have hnil : s.routingConfig.exactly = [] := by unfold routingConfig; rw [hx]; rfl
    rw [hnil, List.find?_nil, Option.none_or, htype]
  | some e =>
    have hone : s.routingConfig.exactly = [⟨e.1.1, e.1.2, e.2.protocol.string⟩] := by
      unfold routingConfig
      rw [hx]
      rfl
    rw [hone, List.find?_singleton]
    by_cases he : e.1.1 = sst ∧ e.1.2 = sd
    · simp [he]
    · simp [he, htype]

/-- The client goes by the server that is configured for the slice. -/
theorem resolveTransportType_eq {client : HttpAAAClient}
    (h : client.snssaiCfg = some s.routingConfig) :
    client.resolveTransportType sst sd =
      match s.configured sst sd with
      | none => .radius
      | some c => c.protocol.transportType := by
  have hentry := protocol_of_entry s sst sd
  unfold HttpAAAClient.resolveTransportType
  rw [h]
  dsimp only
  generalize Option.or (List.find? _ s.routingConfig.exactly) _ = entry at hentry
  cases hc : s.configured sst sd with
  | none =>
    rw [hc, Option.map_none, Option.map_eq_none_iff] at hentry
    rw [hentry]
  | some c =>
    rw [hc, Option.map_some, Option.map_eq_some_iff] at hentry
    obtain ⟨e, rfl, he⟩ := hentry
    dsimp only
    rw [he, transportType_string]

theorem of_pick_exactly {c : ServerConfig} (h : s.router.cfg.pick = some (.exactly, c)) :
    ∃ slice, s.exactly = some (slice, c) := by
  obtain ⟨exactly, type, default⟩ := s
  cases exactly with
  | some e => exact ⟨e.1, by cases h; rfl⟩
  | none => cases type with
    | some e => cases h
    | none => cases default <;> cases h

theorem of_pick_sst {c : ServerConfig} (h : s.router.cfg.pick = some (.sst, c)) :
    s.exactly = none ∧ ∃ sst', s.sst = some (sst', c) := by
  obtain ⟨exactly, type, default⟩ := s
  cases exactly with
  | some e => cases h
  | none => cases type with
    | some e => exact ⟨rfl, e.1, by cases h; rfl⟩
    | none => cases default <;> cases h

theorem pick_eq_configured (hx : ∀ e ∈ s.exactly, e.1 = (sst, sd))
    (ht : s.exactly = none → ∀ e ∈ s.sst, e.1 = sst) :
    s.router.cfg.pick.map Prod.snd = s.configured sst sd := by
  obtain ⟨exactly, type, default⟩ := s
  unfold SnssaiConfig.pick router configured configuredForType
  cases exactly with
  | some e =>
    obtain ⟨slice, c⟩ := e
    obtain rfl : slice = (sst, sd) := hx _ rfl
    simp
  | none =>
    cases type with
    | some e =>
      obtain ⟨sst', c⟩ := e
      obtain rfl : sst' = sst := ht rfl _ rfl
      simp
    | none => simp [Function.comp_def]

end RoutingSetup

/-- **The router and the slice.** The router decides by the slice, and as the client, just for the
slice that its exact entry is for, or, without one, for the slices of the type that its entry for a
type is for. -/
theorem router_follows_slice_iff (s : RoutingSetup) (sst : UInt8) (sd : String) :
    s.FollowsSlice sst sd ↔
      (∀ e ∈ s.exactly, e.1 = (sst, sd)) ∧ (s.exactly = none → ∀ e ∈ s.sst, e.1 = sst) := by
  constructor
  · intro h
    refine ⟨fun e he => ?_, fun hnone e he => ?_⟩
    · have hpick : s.router.cfg.pick = some (.exactly, e.2) := by
        unfold RoutingSetup.router SnssaiConfig.pick
        rw [Option.mem_def.mp he]
        rfl
      have := he.symm.trans (h.exact_only e.2 hpick)
      exact congrArg Prod.fst (Option.some.inj this)
    · have hpick : s.router.cfg.pick = some (.sst, e.2) := by
        unfold RoutingSetup.router SnssaiConfig.pick
        rw [hnone, Option.mem_def.mp he]
        rfl
      have := he.symm.trans (h.sst_only e.2 hpick)
      exact congrArg Prod.fst (Option.some.inj this)
  · rintro ⟨hx, ht⟩
    refine ⟨fun c hpick => ?_, fun c hpick => ?_, fun hnx hnt => ?_, fun client hclient d hd => ?_⟩
    · obtain ⟨slice, hslice⟩ := RoutingSetup.of_pick_exactly hpick
      obtain rfl : slice = (sst, sd) := hx _ hslice
      exact hslice
    · obtain ⟨hnone, sst', hsst⟩ := RoutingSetup.of_pick_sst hpick
      obtain rfl : sst' = sst := ht hnone _ hsst
      exact hsst
    · have hnone : s.exactly = none := by
        refine Option.eq_none_iff_forall_ne_some.mpr fun e he => hnx e.2 ?_
        rw [he, ← hx e he]
      have hnoneType : s.sst = none := by
        refine Option.eq_none_iff_forall_ne_some.mpr fun e he => hnt e.2 ?_
        rw [he, ← ht hnone e he]
      unfold RoutingSetup.router SnssaiConfig.pick
      rw [hnone, hnoneType]
      rfl
    · rw [Router.resolveRoute_eq_pick, Option.map_eq_some_iff] at hd
      obtain ⟨p, hp, rfl⟩ := hd
      have hconf : s.configured sst sd = some p.2 := by
        rw [← RoutingSetup.pick_eq_configured hx ht, hp]
        rfl
      rw [RoutingSetup.resolveTransportType_eq hclient, hconf]
      rfl

namespace Sample

/-- The slice 1/000001 goes to a Diameter server, all others to a RADIUS server. -/
def setup : RoutingSetup where
  exactly := some ((1, "000001"), ⟨.diameter, "aaa-1", 3868, 0⟩)
  sst := none
  default := some ⟨.radius, "aaa-0", 1812, 0⟩

def setupClient : HttpAAAClient :=
  ⟨"1.0", some setup.routingConfig, fun _ => .error "connection refused"⟩

end Sample

/-- The slice 2/000002 is sent to the Diameter server of the slice 1/000001, while the client takes
RADIUS for it. -/
theorem router_takes_another_slices_server :
    Sample.setup.router.resolveRoute 2 "000002" =
        some ⟨.direct, .diameter, "aaa-1", 3868, 10 * Eap.second⟩ ∧
      Sample.setupClient.resolveTransportType 2 "000002" = .radius ∧
      ¬ Sample.setup.FollowsSlice 2 "000002" := by
  refine ⟨by decide +kernel, by decide +kernel, fun h => ?_⟩
  have := h.exact_only ⟨.diameter, "aaa-1", 3868, 0⟩ rfl
  exact absurd this (by decide +kernel)

end NssAAF.Biz
