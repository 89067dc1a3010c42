import NssAAF.Nssaa.SnssaiKey
import NssAAF.Aaa.Forward

/-!
# The AAA client of Biz

The client of `cmd/biz/http_aaa_client.go`. It reads the slice from the key of the EAP session,
chooses the transport for it, and sends the payload to the AAA gateway under a new session
identifier. The way to the gateway, with its retries, is a parameter.

`slice_never_forwarded` says that the request does not carry the slice.
-/

namespace NssAAF.Biz

open Aaa

structure SnssaiRouteEntry where
  sst : UInt8
  sd : String
  protocol : String

structure SnssaiRoutingConfig where
  default : Option SnssaiRouteEntry
  sst : List SnssaiRouteEntry
  exactly : List SnssaiRouteEntry

structure HttpAAAClient where
  version : String
  snssaiCfg : Option SnssaiRoutingConfig
  forwardEAP : AaaForwardRequest → Except String AaaForwardResponse

/-- The identifier of a round: it is made from the clock, in nanoseconds, and the context. -/
def sessionID (now : ℤ) (authCtxID : String) : String :=
  "nssAAF;" ++ toString now ++ ";" ++ authCtxID

namespace HttpAAAClient

variable (c : HttpAAAClient)

/-- The transport of a slice: an exact entry first, then one for its type, then the default. -/
def resolveTransportType (sst : UInt8) (sd : String) : TransportType :=
  match c.snssaiCfg with
  | none => .radius
  | some cfg =>
    let entry := (cfg.exactly.find? fun e => e.sst = sst ∧ e.sd = sd).or
      ((cfg.sst.find? fun e => e.sst = sst).or cfg.default)
    match entry with
    | none => .radius
    | some e => if e.protocol = "DIAMETER" then .diameter else .radius

/-- The request for a payload. Its slice is not set. -/
def forwardRequest (now : ℤ) (session : Eap.Session) (eapPayload : Bytes) : AaaForwardRequest where
  version := c.version
  sessionID := sessionID now session.authCtxID
  authCtxID := session.authCtxID
  gpsi := session.gpsi
  transportType :=
    let (sst, sd) := session.decodeSnssaiKey
    c.resolveTransportType sst sd
  sst := 0
  sd := ""
  payload := eapPayload

def sendEAP (now : ℤ) (session : Eap.Session) (eapPayload : Bytes) : Except String (Option Bytes) :=
  (c.forwardEAP (c.forwardRequest now session eapPayload)).map AaaForwardResponse.payload

end HttpAAAClient

/-! ## The slice of a request -/

/-- The request carries the slice, and goes the way that is configured for it. -/
structure Keeps (c : HttpAAAClient) (req : AaaForwardRequest) (sst : UInt8) (sd : String) :
    Prop where
  sst_eq : req.sst = sst
  sd_eq : req.sd = sd
  transportType_eq : req.transportType = c.resolveTransportType sst sd

/-- **The slice is lost.** No request for a slice that the handler accepts carries it. -/
theorem slice_never_forwarded (c : HttpAAAClient) (now now' : ℤ) (authCtxID gpsi : String)
    (sst : UInt8) (sd : String) (eapPayload : Bytes)
    (h : Api.validateSnssai sst.toNat sd false = .ok ()) :
    ¬ Keeps c (c.forwardRequest now' (Nssaa.eapSession now authCtxID gpsi sst sd) eapPayload)
      sst sd := by
  intro hkeeps
  have hsst : sst = 0 := hkeeps.sst_eq.symm
  have hsd : sd = "" := hkeeps.sd_eq.symm
  rw [Api.validateSnssai_ok_iff, if_pos hsd] at h
  exact h hsst

namespace Sample

/-- Slices of type 1 go over RADIUS, and the slice 1/000001 over Diameter. -/
def routing : SnssaiRoutingConfig where
  default := none
  sst := [⟨1, "", "RADIUS"⟩]
  exactly := [⟨1, "000001", "DIAMETER"⟩]

def aaaClient : HttpAAAClient := ⟨"1.0", some routing, fun _ => .error "connection refused"⟩

end Sample

/-- A request for the slice 1/000001, which is configured for Diameter, goes over RADIUS for the
slice zero. -/
theorem slice_one_goes_over_radius :
    let req := Sample.aaaClient.forwardRequest 1 (Nssaa.eapSession 0 "ctx" "msisdn-1" 1 "000001")
      [2, 1, 0, 6, 1, 97]
    Api.validateSnssai 1 "000001" false = .ok () ∧
      (req.sst, req.sd, req.transportType) = (0, "", .radius) ∧
      Sample.aaaClient.resolveTransportType 1 "000001" = .diameter := by
  decide +kernel

theorem slice_one_not_kept :
    ¬ Keeps Sample.aaaClient (Sample.aaaClient.forwardRequest 1
      (Nssaa.eapSession 0 "ctx" "msisdn-1" 1 "000001") [2, 1, 0, 6, 1, 97]) 1 "000001" :=
  slice_never_forwarded Sample.aaaClient 0 1 "ctx" "msisdn-1" 1 "000001" [2, 1, 0, 6, 1, 97]
    (by decide +kernel)

end NssAAF.Biz
