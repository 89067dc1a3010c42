import NssAAF.Lib.Base64
import NssAAF.Lib.Sha256
import Mathlib.Data.Int.Basic

/-!
# Debug events without subscriber identifiers

`Emit` of `internal/debug/debug.go` adds an event to a stream. The subscriber is named by a hash,
and `sanitize` of `internal/debug/sanitize.go` replaces identifiers in the detail of the event by
their hashes. It goes through nested maps and looks for strings under some keys.

`RedactedIn` says what a detail without identifiers is, for values nested to any depth: every value
under one of the keys is replaced by a hash, and everything else is there. `sanitize` achieves that
for strings that it reaches through maps. It copies what is in a slice or in a map of another type,
and what is no string (`sanitize_hides_iff`).
-/

namespace NssAAF.DebugEvents

/-! ## Details -/

/-- The type of a map: `map[string]any`, or another one, such as `map[string]string`. -/
inductive MapType
  | any
  | other

/-- A value in a detail. A map is the list of its entries. -/
inductive Value
  | str (s : String)
  | bytes (b : Bytes)
  | int (n : ℤ)
  | slice (vs : List Value)
  | map (type : MapType) (es : List (String × Value))

/-- The entries of a `map[string]any`. -/
abbrev Detail : Type := List (String × Value)

def piiKeys : List String := ["gpsi", "supi", "imsi", "msisdn", "user_name", "calling_station_id"]

/-- `base64.RawURLEncoding` -/
def rawURLEncode (b : Bytes) : String :=
  String.ofList (((Base64.encode b).filter fun c => c ≠ '=').map fun c =>
    if c = '+' then '-' else if c = '/' then '_' else c)

def hashGPSI (gpsi : String) : String :=
  rawURLEncode ((Sha256.sum256 (Bytes.ofString gpsi)).take 8)

mutual

/-- What is stored for a value under the key. -/
def sanitizeAt (key : String) : Value → Value
  | .str s => if key ∈ piiKeys ∧ s ≠ "" then .str (hashGPSI s) else .str s
  | .map .any es => .map .any (sanitize es)
  | .map .other es => .map .other es
  | .slice vs => .slice vs
  | .bytes b => .bytes b
  | .int n => .int n

def sanitize : Detail → Detail
  | [] => []
  | (key, v) :: es => (key, sanitizeAt key v) :: sanitize es

end

/-! ## Events -/

inductive Kind
  | http
  | db
  | cache
  | protocol
  | internal

def Kind.text : Kind → String
  | .http => "http"
  | .db => "db"
  | .cache => "cache"
  | .protocol => "protocol"
  | .internal => "internal"

structure Event where
  op : String
  kind : Kind
  gpsi : String
  supi : String
  authID : String
  detail : Detail
  status : String
  error : Option String

structure Debug where
  enabled : Bool
  podID : String
  service : String
  maxLen : ℤ
  ttl : ℤ

structure Span where
  traceID : String
  spanID : String

/-- What is added to a stream, and for how long the stream is kept. -/
structure StreamEntry where
  stream : String
  maxLen : ℤ
  values : List (String × Bytes)
  ttl : ℤ

/-- The hash of the subscriber, its kind, and the hash if it is a GPSI. -/
def Event.subscriber (ev : Event) : String × String × String :=
  if ev.gpsi ≠ "" then (hashGPSI ev.gpsi, "gpsi", hashGPSI ev.gpsi)
  else if ev.supi ≠ "" then (hashGPSI ev.supi, "supi", "")
  else ("", "", "")

/-- The field `detail`, if there is one. `marshal` is `json.Marshal`. -/
def detailField (marshal : Detail → Bytes) (detail : Detail) : List (String × Bytes) :=
  if detail = [] then [] else [("detail", (marshal (sanitize detail)).take 512)]

/-- Nothing is added without a span, or if the subsystem is not there or not enabled. -/
def emit (marshal : Detail → Bytes) (d : Option Debug) (span : Option Span) (now : ℤ) (ev : Event) :
    Option StreamEntry := do
  let d ← d
  guard d.enabled
  let span ← span
  let (subHash, subKind, gpsiHash) := ev.subscriber
  let texts :=
    [("ts", toString now), ("pod", d.podID), ("svc", d.service), ("trace", span.traceID),
      ("span", span.spanID), ("sub_h", subHash), ("sub_kind", subKind), ("gpsi_h", gpsiHash),
      ("auth", ev.authID), ("op", ev.op), ("kind", ev.kind.text), ("status", ev.status)] ++
    (ev.error.map ("err", ·)).toList
  let stream := "nssaa:debug:stream:" ++ if subHash = "" then "_no_sub" else subHash
  return ⟨stream, d.maxLen,
    texts.map (fun field => (field.1, Bytes.ofString field.2)) ++ detailField marshal ev.detail,
    d.ttl⟩

/-! ## Subscriber identifiers -/

def Value.isEmpty : Value → Bool
  | .str s => s = ""
  | .bytes b => b.isEmpty
  | .int _ => false
  | .slice vs => vs.isEmpty
  | .map _ es => es.isEmpty

/-- The value under the key is a subscriber identifier. -/
def IsIdentifier (key : String) (v : Value) : Prop := key ∈ piiKeys ∧ v.isEmpty = false

instance (key : String) (v : Value) : Decidable (IsIdentifier key v) :=
  inferInstanceAs (Decidable (key ∈ piiKeys ∧ v.isEmpty = false))

def blackout : Value := .int 0

mutual

/-- A value with the identifiers in it blacked out. -/
def mask : Value → Value
  | .slice vs => .slice (maskAll vs)
  | .map type es => .map type (maskIn es)
  | .str s => .str s
  | .bytes b => .bytes b
  | .int n => .int n

def maskAll : List Value → List Value
  | [] => []
  | v :: vs => mask v :: maskAll vs

def maskIn : Detail → Detail
  | [] => []
  | (key, v) :: es => (key, if IsIdentifier key v then blackout else mask v) :: maskIn es

end

/-- The hash of a string, or some hash for another value. -/
def IsHash : Value → Value → Prop
  | .str s, out => out = .str (hashGPSI s)
  | _, out => ∃ s, out = .str (hashGPSI s)

mutual

/-- The value with every identifier in it replaced by a hash. -/
def Redacted : Value → Value → Prop
  | .slice vs, out => ∃ outs, out = .slice outs ∧ RedactedAll vs outs
  | .map type es, out => ∃ outs, out = .map type outs ∧ RedactedIn es outs
  | .str s, out => out = .str s
  | .bytes b, out => out = .bytes b
  | .int n, out => out = .int n

def RedactedAll : List Value → List Value → Prop
  | [], outs => outs = []
  | v :: vs, outs => ∃ out outs', outs = out :: outs' ∧ Redacted v out ∧ RedactedAll vs outs'

/-- The detail with every identifier replaced by a hash, and everything else preserved. -/
def RedactedIn : Detail → Detail → Prop
  | [], outs => outs = []
  | (key, v) :: es, outs => ∃ out outs', outs = (key, out) :: outs' ∧
      (if IsIdentifier key v then IsHash v out else Redacted v out) ∧ RedactedIn es outs'

end

/-- The outputs for two details differ in the hashes of identifiers only, and preserve the rest. -/
structure OnlyHashesDiffer (d d' out out' : Detail) : Prop where
  others : maskIn out = maskIn out'
  redacted : RedactedIn d out
  redacted' : RedactedIn d' out'

mutual

def identifiers : Value → List Value
  | .slice vs => identifiersAll vs
  | .map _ es => identifiersIn es
  | .str _ | .bytes _ | .int _ => []

def identifiersAll : List Value → List Value
  | [] => []
  | v :: vs => identifiers v ++ identifiersAll vs

def identifiersIn : Detail → List Value
  | [] => []
  | (key, v) :: es => (if IsIdentifier key v then [v] else identifiers v) ++ identifiersIn es

end

/-- Only strings are hashed. -/
def Value.unlessString : Value → List Value
  | .str _ => []
  | v => [v]

mutual

/-- The identifiers in a value that are not reached through maps of the type `map[string]any`, or
are no strings. -/
def exposed : Value → List Value
  | .map .any es => exposedIn es
  | .map .other es => identifiersIn es
  | .slice vs => identifiersAll vs
  | .str _ | .bytes _ | .int _ => []

def exposedIn : Detail → List Value
  | [] => []
  | (key, v) :: es => (if IsIdentifier key v then v.unlessString else exposed v) ++ exposedIn es

end

/-- A string that is its own hash. -/
def OwnHash (v : Value) : Prop := ∃ s, v = .str s ∧ hashGPSI s = s

/-- Every identifier is a string that is reached through maps, or its own hash. -/
def Clean (d : Detail) : Prop := ∀ v ∈ exposedIn d, OwnHash v

/-! ## What `sanitize` preserves -/

theorem encode_filter_ne_nil {b : Bytes} (hb : b ≠ []) :
    (Base64.encode b).filter (fun c => c ≠ '=') ≠ [] := by
  obtain ⟨a, rest, rfl⟩ := List.exists_cons_of_ne_nil hb
  have ha := a.toNat_lt
  have hdigit : Base64.digit (a.toNat / 4) ≠ '=' := Base64.digit_ne_pad (by omega)
  have hmem : Base64.digit (a.toNat / 4) ∈ Base64.encode (a :: rest) := by
    match rest with
    | [] => exact List.mem_cons_self ..
    | [_] => exact List.mem_cons_self ..
    | _ :: _ :: _ => exact List.mem_cons_self ..
  exact List.ne_nil_of_mem (List.mem_filter.mpr ⟨hmem, by simpa using hdigit⟩)

theorem hashGPSI_ne_empty (s : String) : hashGPSI s ≠ "" := by
  have hsum : (Sha256.sum256 (Bytes.ofString s)).take 8 ≠ [] := by
    simp [Sha256.sum256, Sha256.octets, List.range_succ]
  intro h
  have hlist := congrArg String.toList h
  unfold hashGPSI rawURLEncode at hlist
  rw [String.toList_ofList] at hlist
  exact encode_filter_ne_nil hsum (List.map_eq_nil_iff.mp hlist)

theorem isEmpty_sanitize (es : Detail) : (sanitize es).isEmpty = es.isEmpty := by
  cases es <;> rfl

theorem isEmpty_sanitizeAt (key : String) (v : Value) : (sanitizeAt key v).isEmpty = v.isEmpty := by
  cases v with
  | str s =>
    unfold sanitizeAt
    split
    · next h => simp [Value.isEmpty, hashGPSI_ne_empty, h.2]
    · rfl
  | map type es =>
    cases type with
    | any => exact isEmpty_sanitize es
    | other => rfl
  | _ => rfl

theorem isIdentifier_sanitizeAt {key : String} {v : Value} :
    IsIdentifier key (sanitizeAt key v) ↔ IsIdentifier key v := by
  unfold IsIdentifier
  rw [isEmpty_sanitizeAt]

theorem sanitizeAt_str {key s : String} :
    sanitizeAt key (.str s) = if IsIdentifier key (.str s) then .str (hashGPSI s) else .str s := by
  unfold sanitizeAt IsIdentifier Value.isEmpty
  simp

mutual

theorem mask_sanitizeAt (key : String) : ∀ v : Value, ¬ IsIdentifier key v →
    mask (sanitizeAt key v) = mask v
  | .str s, hv => by rw [sanitizeAt_str, if_neg hv]
  | .map .any es, _ => by
    show Value.map .any (maskIn (sanitize es)) = .map .any (maskIn es)
    rw [maskIn_sanitize es]
  | .map .other _, _ => rfl
  | .slice _, _ => rfl
  | .bytes _, _ => rfl
  | .int _, _ => rfl

theorem maskIn_sanitize : ∀ d : Detail, maskIn (sanitize d) = maskIn d
  | [] => rfl
  | (key, v) :: es => by
    unfold sanitize maskIn
    rw [maskIn_sanitize es]
    by_cases hv : IsIdentifier key v
    · rw [if_pos (isIdentifier_sanitizeAt.mpr hv), if_pos hv]
    · rw [if_neg (isIdentifier_sanitizeAt.not.mpr hv), if_neg hv, mask_sanitizeAt key v hv]

end

/-! ## Identifiers that are copied -/

theorem isHash_self_iff {v : Value} : IsHash v v ↔ OwnHash v := by
  cases v with
  | str s => simp [IsHash, OwnHash, eq_comm]
  | _ => simp [IsHash, OwnHash]

theorem redactedAll_cons {v out : Value} {vs outs : List Value} :
    RedactedAll (v :: vs) (out :: outs) ↔ Redacted v out ∧ RedactedAll vs outs := by
  simp [RedactedAll]

theorem redactedIn_cons {key : String} {v out : Value} {es outs : Detail} :
    RedactedIn ((key, v) :: es) ((key, out) :: outs) ↔
      (if IsIdentifier key v then IsHash v out else Redacted v out) ∧ RedactedIn es outs := by
  simp [RedactedIn]

mutual

theorem redacted_self_iff : ∀ v : Value, Redacted v v ↔ ∀ u ∈ identifiers v, OwnHash u
  | .slice vs => by simp [Redacted, identifiers, redactedAll_self_iff vs]
  | .map type es => by simp [Redacted, identifiers, redactedIn_self_iff es]
  | .str s => by simp [Redacted, identifiers]
  | .bytes b => by simp [Redacted, identifiers]
  | .int n => by simp [Redacted, identifiers]

theorem redactedAll_self_iff : ∀ vs : List Value,
    RedactedAll vs vs ↔ ∀ u ∈ identifiersAll vs, OwnHash u
  | [] => by simp [RedactedAll, identifiersAll]
  | v :: vs => by
    rw [redactedAll_cons, redacted_self_iff v, redactedAll_self_iff vs, identifiersAll,
      List.forall_mem_append]

theorem redactedIn_self_iff : ∀ es : Detail,
    RedactedIn es es ↔ ∀ u ∈ identifiersIn es, OwnHash u
  | [] => by simp [RedactedIn, identifiersIn]
  | (key, v) :: es => by
    rw [redactedIn_cons, redactedIn_self_iff es, identifiersIn, List.forall_mem_append]
    refine and_congr_left' ?_
    by_cases hv : IsIdentifier key v
    · rw [if_pos hv, if_pos hv, isHash_self_iff, List.forall_mem_singleton]
    · rw [if_neg hv, if_neg hv, redacted_self_iff v]

end

theorem isHash_sanitizeAt_iff {key : String} {v : Value} (hv : IsIdentifier key v) :
    IsHash v (sanitizeAt key v) ↔ ∀ u ∈ v.unlessString, OwnHash u := by
  cases v with
  | str s =>
    rw [sanitizeAt_str, if_pos hv]
    simp [IsHash, Value.unlessString]
  | map type es => cases type <;> simp [IsHash, sanitizeAt, Value.unlessString, OwnHash]
  | _ => simp [IsHash, sanitizeAt, Value.unlessString, OwnHash]

mutual

theorem redacted_sanitizeAt_iff (key : String) : ∀ v : Value, ¬ IsIdentifier key v →
    (Redacted v (sanitizeAt key v) ↔ ∀ u ∈ exposed v, OwnHash u)
  | .str s, hv => by
    rw [sanitizeAt_str, if_neg hv]
    exact redacted_self_iff (.str s)
  | .map .any es, _ => by simp [Redacted, sanitizeAt, exposed, redactedIn_sanitize_iff es]
  | .map .other es, _ => redacted_self_iff (.map .other es)
  | .slice vs, _ => redacted_self_iff (.slice vs)
  | .bytes b, _ => redacted_self_iff (.bytes b)
  | .int n, _ => redacted_self_iff (.int n)

theorem redactedIn_sanitize_iff : ∀ d : Detail,
    RedactedIn d (sanitize d) ↔ ∀ u ∈ exposedIn d, OwnHash u
  | [] => by simp [RedactedIn, sanitize, exposedIn]
  | (key, v) :: es => by
    rw [sanitize, redactedIn_cons, redactedIn_sanitize_iff es, exposedIn, List.forall_mem_append]
    refine and_congr_left' ?_
    by_cases hv : IsIdentifier key v
    · rw [if_pos hv, if_pos hv, isHash_sanitizeAt_iff hv]
    · rw [if_neg hv, if_neg hv, redacted_sanitizeAt_iff key v hv]

end

/-- **Details that differ in the identifiers only.** The outputs of `sanitize` differ in the hashes
of these only, and preserve the rest, if and only if the two details are clean. -/
theorem sanitize_hides_iff (d d' : Detail) (h : maskIn d = maskIn d') :
    OnlyHashesDiffer d d' (sanitize d) (sanitize d') ↔ Clean d ∧ Clean d' := by
  constructor
  · intro hout
    exact ⟨(redactedIn_sanitize_iff d).mp hout.redacted,
      (redactedIn_sanitize_iff d').mp hout.redacted'⟩
  · rintro ⟨hd, hd'⟩
    refine ⟨?_, (redactedIn_sanitize_iff d).mpr hd, (redactedIn_sanitize_iff d').mpr hd'⟩
    rw [maskIn_sanitize, maskIn_sanitize, h]

namespace Request

/-- A detail with the subscriber in a map. -/
def clean (gpsi : String) : Detail :=
  [("method", .str "POST"), ("ue", .map .any [("gpsi", .str gpsi), ("slices", .slice [.int 1])])]

/-- The subscriber in a map in a slice, and the name as octets. -/
def avps (gpsi : String) (userName : Bytes) : Detail :=
  [("avps", .slice [.map .any [("gpsi", .str gpsi)]]), ("user_name", .bytes userName)]

def first : Detail := avps "msisdn-1" [117, 49]

def second : Detail := avps "msisdn-2" [117, 50]

theorem exposedIn_clean (gpsi : String) (hgpsi : gpsi ≠ "") : exposedIn (clean gpsi) = [] := by
  simp [exposedIn, exposed, clean, IsIdentifier, piiKeys, Value.isEmpty, Value.unlessString, hgpsi,
    identifiersAll, identifiers]

end Request

open Request

theorem clean_hidden :
    OnlyHashesDiffer (clean "msisdn-1") (clean "msisdn-2") (sanitize (clean "msisdn-1"))
      (sanitize (clean "msisdn-2")) := by
  refine (sanitize_hides_iff (clean "msisdn-1") (clean "msisdn-2") rfl).mpr ⟨?_, ?_⟩
  · simp [Clean, exposedIn_clean]
  · simp [Clean, exposedIn_clean]

/-- The details differ in the identifiers, and both are left as they are. -/
theorem avps_exposed :
    maskIn first = maskIn second ∧ sanitize first = first ∧ sanitize second = second ∧
    ¬ OnlyHashesDiffer first second (sanitize first) (sanitize second) := by
  refine ⟨rfl, rfl, rfl, fun hout => ?_⟩
  have hown := (redactedIn_sanitize_iff first).mp hout.redacted (.str "msisdn-1")
    (List.mem_cons_self ..)
  obtain ⟨s, hs, hhash⟩ := hown
  cases hs
  exact absurd hhash (by decide +kernel)

/-! ## The stream -/

theorem detailField_congr {marshal : Detail → Bytes} {d d' : Detail}
    (h : sanitize d = sanitize d') : detailField marshal d = detailField marshal d' := by
  have hempty : d = [] ↔ d' = [] := by
    rw [← List.isEmpty_iff, ← List.isEmpty_iff, ← isEmpty_sanitize, h, isEmpty_sanitize]
  unfold detailField
  rw [h]
  simp only [hempty]

/-- Of the subscriber and the detail an entry shows the hash and what `sanitize` makes of the
detail. -/
theorem emit_congr (marshal : Detail → Bytes) (d : Option Debug) (span : Option Span) (now : ℤ)
    (ev : Event) {gpsi supi : String} {detail : Detail}
    (hsubscriber : { ev with gpsi, supi, detail }.subscriber = ev.subscriber)
    (hdetail : sanitize detail = sanitize ev.detail) :
    emit marshal d span now { ev with gpsi, supi, detail } = emit marshal d span now ev := by
  unfold emit
  rw [hsubscriber]
  dsimp only
  rw [detailField_congr hdetail]

end NssAAF.DebugEvents
