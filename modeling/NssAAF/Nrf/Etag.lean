import NssAAF.Nrf.Heartbeat
import NssAAF.Lib.History

/-!
# The entity tag of a heartbeat

The NRF issues an entity tag with its answers, and a heartbeat has to name the one it issued last
(`If-Match`). `Client.Register` and `Client.Heartbeat` of `internal/nrf/client.go` look for it in
the body of an answer, never in the header `ETag`, and the manager takes over what they return, also
if that is nothing. An answer with status 204 has no body, so a heartbeat that succeeds erases the
tag.

`known_etag_current_iff` says when the manager of `NssAAF.Nrf.Heartbeat` knows the last one.
-/

namespace NssAAF.Nrf

open Transducer History

/-! ## Answers of the NRF -/

/-- An answer, with the value of its header `ETag`, which is empty if there is none. -/
structure Response where
  status : ℕ
  etag : String
  body : String

/-- `json.Unmarshal` of the two fields that are read from a body. A field that is absent has the
zero value, and an empty body is no JSON. -/
structure BodyFields where
  heartBeatTimer : String → Except String Int64
  etag : String → Except String String
  etag_empty : ∃ err, etag "" = .error err

section Parsing

variable (fields : BodyFields)

def parseHeartbeatInterval (body : String) : Time :=
  match fields.heartBeatTimer body with
  | .ok timer => if 0 < timer then (timer * 1000000000).toInt else 0
  | .error _ => 0

def parseETag (body : String) : String :=
  match fields.etag body with
  | .ok etag => if etag ≠ "" then etag else ""
  | .error _ => ""

def Client.register : Except String Response → Except String (Time × String)
  | .error err => .error ("nrf: register: " ++ err)
  | .ok resp =>
    if resp.status ≠ 201 ∧ resp.status ≠ 200 then
      .error ("nrf: unexpected status " ++ toString resp.status ++ ": " ++ resp.body)
    else .ok (parseHeartbeatInterval fields resp.body, parseETag fields resp.body)

def Client.heartbeat : Except String Response → Except String String
  | .error err => .error ("nrf: heartbeat: " ++ err)
  | .ok resp =>
    if resp.status ≠ 204 then
      .error ("nrf: heartbeat status " ++ toString resp.status ++ ": " ++ resp.body)
    else .ok (parseETag fields resp.body)

/-- The entity tag that comes with an answer, in its header or in its body. -/
def Response.issued (resp : Response) : Option String :=
  if resp.etag ≠ "" then some resp.etag
  else if parseETag fields resp.body ≠ "" then some (parseETag fields resp.body)
  else none

theorem parseETag_empty : parseETag fields "" = "" := by
  obtain ⟨err, herr⟩ := fields.etag_empty
  simp [parseETag, herr]

end Parsing

/-! ## The manager and the NRF -/

/-- What the environment does, with the answers of the NRF as they arrive. -/
inductive WireInput
  | start
  | startAnswered (answer : Except String Response)
  | tick
  | heartbeatAnswered (answer : Except String Response)
  | heartbeatHandled
  | stopSeen
  | deregisterAnswered (answer : Except String Unit)
  | loop (n : ℕ) (answer : Except String Response)
  | stop
  | stopReturns

def WireInput.parsed (fields : BodyFields) : WireInput → Input
  | .start => .start
  | .startAnswered answer => .startAnswered (Client.register fields answer)
  | .tick => .tick
  | .heartbeatAnswered answer => .heartbeatAnswered (Client.heartbeat fields answer)
  | .heartbeatHandled => .heartbeatHandled
  | .stopSeen => .stopSeen
  | .deregisterAnswered answer => .deregisterAnswered answer
  | .loop n answer => .loop n (Client.register fields answer)
  | .stop => .stop
  | .stopReturns => .stopReturns

def HeartbeatManager.stepWire (fields : BodyFields) (cfg : HeartbeatConfig) (instanceID : String)
    (m : HeartbeatManager) (w : WireInput) : Action × HeartbeatManager :=
  m.step cfg instanceID (w.parsed fields)

inductive Exchange
  | register
  | heartbeat

/-- The answers that count as a success. -/
def Exchange.Accepts : Exchange → ℕ → Prop
  | .register, status => status = 201 ∨ status = 200
  | .heartbeat, status => status = 204

instance : ∀ (x : Exchange) (status : ℕ), Decidable (x.Accepts status)
  | .register, status => inferInstanceAs (Decidable (status = 201 ∨ status = 200))
  | .heartbeat, status => inferInstanceAs (Decidable (status = 204))

/-- The answer that arrives at a goroutine that waits for it. -/
def arrived (m : HeartbeatManager) : WireInput → Option (Exchange × Response)
  | .startAnswered (.ok resp) => if m.runner = .starting then some (.register, resp) else none
  | .heartbeatAnswered (.ok resp) => if m.runner = .beating then some (.heartbeat, resp) else none
  | .loop n (.ok resp) =>
    match m.loops[n]? with
    | some (.registering _) => some (.register, resp)
    | _ => none
  | _ => none

/-! ## What a step does to the tag -/

section Steps

variable {fields : BodyFields} {cfg : HeartbeatConfig} {instanceID : String} {m : HeartbeatManager}

def takesOver (fields : BodyFields) (etag : String) : Option (Exchange × Response) → String
  | some (x, resp) => if x.Accepts resp.status then parseETag fields resp.body else etag
  | none => etag

theorem stepRunner_etag (r : Runner) {i : Input} (hstart : ∀ a, i ≠ .startAnswered (.ok a))
    (hbeat : ∀ etag, i ≠ .heartbeatAnswered (.ok etag)) :
    (m.stepRunner cfg instanceID r i).2.etag = m.etag := by
  unfold HeartbeatManager.stepRunner
  split
  case h_2 => exact absurd rfl (hstart _)
  case h_5 => exact absurd rfl (hbeat _)
  case h_8 =>
    unfold HeartbeatManager.handleFailure
    split <;> rfl
  case h_9 =>
    unfold HeartbeatManager.deregister
    split
    · split <;> rfl
    · rfl
  all_goals rfl

theorem takesOver_of_accepts {x : Exchange} {resp : Response} (h : x.Accepts resp.status)
    (etag : String) : takesOver fields etag (some (x, resp)) = parseETag fields resp.body :=
  if_pos h

theorem takesOver_of_rejects {x : Exchange} {resp : Response} (h : ¬ x.Accepts resp.status)
    (etag : String) : takesOver fields etag (some (x, resp)) = etag := if_neg h

def etagAfter (etag : String) : Except String (Time × String) → String
  | .ok (_, etag') => etag'
  | .error _ => etag

theorem etagAfter_register (etag : String) (answer : Except String Response) :
    etagAfter etag (Client.register fields answer) =
      takesOver fields etag (answer.toOption.map (Exchange.register, ·)) := by
  cases answer with
  | error err => rfl
  | ok resp =>
    show etagAfter etag (Client.register fields (.ok resp)) =
      takesOver fields etag (some (.register, resp))
    by_cases hstatus : resp.status ≠ 201 ∧ resp.status ≠ 200
    · have hrejects : ¬ Exchange.register.Accepts resp.status := not_or.mpr hstatus
      rw [takesOver_of_rejects hrejects, Client.register, if_pos hstatus]
      rfl
    · have haccepts : Exchange.register.Accepts resp.status := or_iff_not_and_not.mpr hstatus
      rw [takesOver_of_accepts haccepts, Client.register, if_neg hstatus]
      rfl

theorem stepRunner_startAnswered (answer : Except String Response) :
    (m.stepRunner cfg instanceID m.runner (.startAnswered (Client.register fields answer))).2.etag =
      takesOver fields m.etag (arrived m (.startAnswered answer)) := by
  by_cases hrunner : m.runner = .starting
  · have harrived : arrived m (.startAnswered answer) =
        answer.toOption.map (Exchange.register, ·) := by
      cases answer with
      | error err => rfl
      | ok resp => exact if_pos hrunner
    rw [harrived, ← etagAfter_register, hrunner]
    cases Client.register fields answer <;> rfl
  · have harrived : arrived m (.startAnswered answer) = none := by
      cases answer with
      | error err => rfl
      | ok resp => exact if_neg hrunner
    rw [harrived]
    cases hr : m.runner with
    | starting => exact absurd hr hrunner
    | _ => rfl

theorem stepRunner_heartbeatAnswered (answer : Except String Response) :
    (m.stepRunner cfg instanceID m.runner
        (.heartbeatAnswered (Client.heartbeat fields answer))).2.etag =
      takesOver fields m.etag (arrived m (.heartbeatAnswered answer)) := by
  cases hr : m.runner with
  | beating =>
    cases answer with
    | error err => rfl
    | ok resp =>
      have harrived : arrived m (.heartbeatAnswered (.ok resp)) = some (.heartbeat, resp) :=
        if_pos hr
      rw [harrived]
      by_cases hstatus : resp.status = 204
      · have haccepts : Exchange.heartbeat.Accepts resp.status := hstatus
        rw [takesOver_of_accepts haccepts, Client.heartbeat, if_neg (not_not.mpr hstatus)]
        rfl
      · have hrejects : ¬ Exchange.heartbeat.Accepts resp.status := hstatus
        rw [takesOver_of_rejects hrejects, Client.heartbeat, if_pos hstatus]
        rfl
  | _ =>
    have harrived : arrived m (.heartbeatAnswered answer) = none := by
      cases answer with
      | error err => rfl
      | ok resp => exact if_neg (by simp [hr])
    rw [harrived]
    rfl

theorem stepLoop_etag {n : ℕ} {l : Loop} (hl : m.loops[n]? = some l)
    (answer : Except String Response) :
    (m.stepLoop cfg instanceID n (Client.register fields answer) l).2.etag =
      takesOver fields m.etag (arrived m (.loop n answer)) := by
  cases l with
  | registering attempt =>
    have harrived : arrived m (.loop n answer) = answer.toOption.map (Exchange.register, ·) := by
      cases answer with
      | error err => rfl
      | ok resp =>
        dsimp only [arrived]
        rw [hl]
        rfl
    rw [harrived, ← etagAfter_register]
    cases Client.register fields answer <;> rfl
  | _ =>
    have harrived : arrived m (.loop n answer) = none := by
      cases answer with
      | error err => rfl
      | ok resp =>
        dsimp only [arrived]
        rw [hl]
    rw [harrived]
    rfl

variable (fields cfg instanceID m) in
theorem stepWire_etag (w : WireInput) :
    (m.stepWire fields cfg instanceID w).2.etag = takesOver fields m.etag (arrived m w) := by
  cases w with
  | startAnswered answer => exact stepRunner_startAnswered answer
  | heartbeatAnswered answer => exact stepRunner_heartbeatAnswered answer
  | loop n answer =>
    dsimp only [HeartbeatManager.stepWire, WireInput.parsed, HeartbeatManager.step]
    split
    · next l hl => exact stepLoop_etag hl answer
    · next hnone =>
      cases answer with
      | error err => rfl
      | ok resp =>
        dsimp only [arrived]
        rw [hnone]
        rfl
  | stop =>
    dsimp only [HeartbeatManager.stepWire, WireInput.parsed, HeartbeatManager.step]
    split <;> rfl
  | stopReturns =>
    dsimp only [HeartbeatManager.stepWire, WireInput.parsed, HeartbeatManager.step]
    split <;> rfl
  | start | tick | heartbeatHandled | stopSeen | deregisterAnswered =>
    exact stepRunner_etag m.runner (by simp [WireInput.parsed]) (by simp [WireInput.parsed])

theorem stepRunner_heartbeat {r : Runner} {i : Input} {id etag : String}
    (h : (m.stepRunner cfg instanceID r i).1 = .heartbeat id etag) :
    id = instanceID ∧ etag = m.etag := by
  unfold HeartbeatManager.stepRunner at h
  split at h
  case h_4 =>
    cases h
    exact ⟨rfl, rfl⟩
  case h_8 =>
    unfold HeartbeatManager.handleFailure at h
    split at h <;> cases h
  case h_9 =>
    unfold HeartbeatManager.deregister at h
    split at h
    · split at h <;> cases h
    · cases h
  all_goals cases h

theorem stepLoop_ne_heartbeat (n : ℕ) (answer : Except String (Time × String)) (l : Loop)
    (id etag : String) : (m.stepLoop cfg instanceID n answer l).1 ≠ .heartbeat id etag := by
  cases l with
  | registering attempt => cases answer <;> simp [HeartbeatManager.stepLoop]
  | calling | sleeping | succeeded =>
    simp [HeartbeatManager.stepLoop, HeartbeatManager.register]

theorem etag_of_heartbeat {w : WireInput} {id etag : String}
    (h : (m.stepWire fields cfg instanceID w).1 = .heartbeat id etag) :
    id = instanceID ∧ etag = m.etag := by
  cases w with
  | loop n answer =>
    dsimp only [HeartbeatManager.stepWire, WireInput.parsed, HeartbeatManager.step] at h
    split at h
    · exact absurd h (stepLoop_ne_heartbeat _ _ _ _ _)
    · cases h
  | stop =>
    dsimp only [HeartbeatManager.stepWire, WireInput.parsed, HeartbeatManager.step] at h
    split at h <;> cases h
  | stopReturns =>
    dsimp only [HeartbeatManager.stepWire, WireInput.parsed, HeartbeatManager.step] at h
    split at h <;> cases h
  | start | startAnswered | tick | heartbeatAnswered | heartbeatHandled | stopSeen
  | deregisterAnswered => exact stepRunner_heartbeat h

end Steps

/-! ## Runs -/

abbrev WireStep : Type := Record HeartbeatManager WireInput Action

def issuedIn (fields : BodyFields) (r : WireStep) : Option String :=
  (arrived r.pre r.input).bind fun p => p.2.issued fields

/-- The entity tag that was issued last, or nothing. -/
def currentETag (fields : BodyFields) (h : List WireStep) : String :=
  (latest (issuedIn fields) h).getD ""

/-- The manager knows the current tag after the step. -/
def KnowsCurrent (fields : BodyFields) (h : List WireStep) (r : WireStep) : Prop :=
  r.post.etag = currentETag fields (h ++ [r])

instance (fields : BodyFields) (h : List WireStep) (r : WireStep) :
    Decidable (KnowsCurrent fields h r) :=
  inferInstanceAs (Decidable (r.post.etag = currentETag fields (h ++ [r])))

/-- An answer that is a success has the tag that it issues in its body, and has one unless none is
known. Another answer issues no tag but the one that is known. -/
structure Conveys (fields : BodyFields) (etag : String) (x : Exchange) (resp : Response) :
    Prop where
  header : x.Accepts resp.status → resp.etag ≠ "" → parseETag fields resp.body = resp.etag
  absent : x.Accepts resp.status → resp.etag = "" → parseETag fields resp.body = "" → etag = ""
  rejected : ¬ x.Accepts resp.status → ∀ etag', resp.issued fields = some etag' → etag' = etag

def AnswersConvey (fields : BodyFields) (r : WireStep) : Prop :=
  ∀ x resp, arrived r.pre r.input = some (x, resp) → Conveys fields r.pre.etag x resp

/-- What is asked of a step: a heartbeat names the tag that was issued last, and one that is
answered with 204 and without a body does not erase the tag. -/
structure CarriesETag (fields : BodyFields) (h : List WireStep) (r : WireStep) : Prop where
  ifMatch : ∀ id etag, r.output = .heartbeat id etag → etag = currentETag fields h
  kept : ∀ resp, arrived r.pre r.input = some (.heartbeat, resp) → resp.status = 204 →
    resp.body = "" → r.pre.etag ≠ "" → r.post.etag ≠ ""

section Runs

variable {fields : BodyFields} {cfg : HeartbeatConfig} {instanceID : String} {m : HeartbeatManager}
  {h : List WireStep} {r : WireStep}

theorem currentETag_concat :
    currentETag fields (h ++ [r]) = (issuedIn fields r).getD (currentETag fields h) := by
  unfold currentETag
  rw [latest_concat]
  cases issuedIn fields r <;> rfl

/-- **One answer.** It leaves the manager with the tag that is current then. -/
theorem takesOver_iff {x : Exchange} {resp : Response} {etag : String} :
    takesOver fields etag (some (x, resp)) = (resp.issued fields).getD etag ↔
      Conveys fields etag x resp := by
  by_cases hstatus : x.Accepts resp.status
  · rw [takesOver_of_accepts hstatus]
    unfold Response.issued
    constructor
    · intro h
      refine ⟨fun _ hheader => ?_, fun _ hheader hbody => ?_, absurd hstatus⟩
      · rwa [if_pos hheader] at h
      · rw [if_neg (not_not.mpr hheader), if_neg (not_not.mpr hbody), hbody] at h
        exact h.symm
    · intro h
      by_cases hheader : resp.etag = ""
      · rw [if_neg (not_not.mpr hheader)]
        by_cases hbody : parseETag fields resp.body = ""
        · rw [if_neg (not_not.mpr hbody), hbody]
          exact (h.absent hstatus hheader hbody).symm
        · rw [if_pos hbody]
          rfl
      · rw [if_pos hheader]
        exact h.header hstatus hheader
  · rw [takesOver_of_rejects hstatus]
    constructor
    · intro h
      refine ⟨fun haccepts => absurd haccepts hstatus, fun haccepts => absurd haccepts hstatus, ?_⟩
      intro _ etag' hissued
      rw [hissued] at h
      exact h.symm
    · intro h
      cases hissued : resp.issued fields with
      | none => rfl
      | some etag' => exact (h.rejected hstatus etag' hissued).symm

/-- **One step**, from a state in which the manager knows the current tag. -/
theorem knowsCurrent_iff (hm : m.etag = currentETag fields h) (w : WireInput) :
    KnowsCurrent fields h (record (HeartbeatManager.stepWire fields cfg instanceID) m w) ↔
      AnswersConvey fields (record (HeartbeatManager.stepWire fields cfg instanceID) m w) := by
  unfold KnowsCurrent AnswersConvey
  rw [currentETag_concat, record_post, stepWire_etag, ← hm]
  unfold issuedIn
  rw [record_pre, record_input]
  cases harrived : arrived m w with
  | none => exact iff_of_true rfl (by simp)
  | some p =>
    obtain ⟨x, resp⟩ := p
    refine takesOver_iff.trans ⟨?_, fun hconveys => hconveys x resp rfl⟩
    rintro hconveys x' resp' heq
    cases heq
    exact hconveys

/-- A heartbeat that is answered without a body leaves no tag. Only a run in which none was known
can convey the tags. -/
theorem carriesETag_of_conveys (hm : m.etag = currentETag fields h) {w : WireInput}
    (hw : AnswersConvey fields (record (HeartbeatManager.stepWire fields cfg instanceID) m w)) :
    CarriesETag fields h (record (HeartbeatManager.stepWire fields cfg instanceID) m w) where
  ifMatch id etag houtput := (etag_of_heartbeat houtput).2.trans hm
  kept resp harrived hstatus hbody hknown := by
    have hconveys := hw .heartbeat resp harrived
    have hparsed : parseETag fields resp.body = "" := by
      rw [hbody]
      exact parseETag_empty fields
    have hheader : resp.etag = "" := by
      by_contra hne
      exact hne ((hconveys.header hstatus hne).symm.trans hparsed)
    exact absurd (hconveys.absent hstatus hheader hparsed) hknown

end Runs

/-- **The entity tag of the instance.** In every run of registrations and heartbeats the manager
always knows the tag that was issued last if and only if the answers convey it. Then every heartbeat
names it, and no heartbeat erases it. -/
theorem known_etag_current_iff (fields : BodyFields) (cfg : HeartbeatConfig) (instanceID : String)
    (ws : List WireInput) :
    (Along (HeartbeatManager.stepWire fields cfg instanceID) (newHeartbeatManager cfg)
        (KnowsCurrent fields) ws ↔
      Along (HeartbeatManager.stepWire fields cfg instanceID) (newHeartbeatManager cfg)
        (fun _ r => AnswersConvey fields r) ws) ∧
    (Along (HeartbeatManager.stepWire fields cfg instanceID) (newHeartbeatManager cfg)
        (fun _ r => AnswersConvey fields r) ws →
      Along (HeartbeatManager.stepWire fields cfg instanceID) (newHeartbeatManager cfg)
        (CarriesETag fields) ws) := by
  constructor
  · exact along_congr (J := fun h m => m.etag = currentETag fields h) rfl
      (fun _ _ _ hknows => hknows) fun h m w hm => knowsCurrent_iff hm w
  · exact along_of_inv (J := fun h m => m.etag = currentETag fields h)
      (fun h m w hm hw => (knowsCurrent_iff hm w).mpr hw)
      (fun h m w hm hw => carriesETag_of_conveys hm hw) rfl

namespace Tagged

def document : String := "\x7b\"heartBeatTimer\":60,\"etag\":\"v1\"\x7d"

/-- The value of a member of `document`, the only body that is read. -/
def read {α : Type} (value : α) (body : String) : Except String α :=
  if body = document then .ok value else .error "unexpected end of JSON input"

def fields : BodyFields := ⟨read 60, read "v1", "unexpected end of JSON input", rfl⟩

def heartbeats (r : WireStep) : Option String :=
  match r.output with
  | .heartbeat _ etag => some etag
  | _ => none

def steps (ws : List WireInput) : List WireStep :=
  trace (HeartbeatManager.stepWire fields Sample.config "nssaaf-1")
    (newHeartbeatManager Sample.config) ws

def registered : List WireInput := [.start, .startAnswered (.ok ⟨201, "v1", document⟩)]

/-- The first heartbeat fails, and the second one is sent. -/
def retried : List WireInput :=
  registered ++ [.tick, .heartbeatAnswered (.error "timeout"), .heartbeatHandled, .tick]

/-- The first heartbeat is answered without a body, and the second one is sent. -/
def renewed : List WireInput :=
  registered ++ [.tick, .heartbeatAnswered (.ok ⟨204, "", ""⟩), .heartbeatHandled, .tick]

end Tagged

open Tagged

open Sample in
theorem heartbeats_carry_registered :
    (steps retried).filterMap heartbeats = ["v1", "v1"] ∧
    Along (HeartbeatManager.stepWire fields config "nssaaf-1")
      (newHeartbeatManager config) (CarriesETag fields) retried :=
  ⟨by decide +kernel,
    (known_etag_current_iff fields config "nssaaf-1" retried).2
      ((known_etag_current_iff fields config "nssaaf-1" retried).1.mp
        (along_of_alongFrom (by decide +kernel)))⟩

/-- The NRF issues one tag, with the registration. The heartbeat that it answers with 204 erases the
tag, and the next one names none. -/
theorem heartbeat_erases_etag :
    (steps renewed).filterMap heartbeats = ["v1", ""] ∧
    (steps renewed).filterMap (issuedIn fields) = ["v1"] ∧
    ¬ Along (HeartbeatManager.stepWire fields Sample.config "nssaaf-1")
      (newHeartbeatManager Sample.config) (CarriesETag fields) renewed := by
  refine ⟨by decide +kernel, by decide +kernel, fun hcarries => ?_⟩
  have hlast := (hcarries (renewed.take 5) .tick [] rfl).ifMatch "nssaaf-1" "" rfl
  exact absurd hlast (by decide +kernel)

end NssAAF.Nrf
