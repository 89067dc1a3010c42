import NssAAF.Amf.Notify

/-!
# Client errors and retries

`sendNotification` calls an answer of 400 to 499 "not retryable", but it tells so to
`resilience.Do` by an error like any other, and `Do` retries every error. The client of `Factory.Do`
follows redirects, and after 307 and 308 it sends the POST again.

`sendNotification_final_iff` says when nothing is posted after an answer below 500: when no attempt
begins with such a redirect, and no attempt that fails and that another one can follow is answered
below 500.
-/

namespace NssAAF.Amf

open Resilience

inductive Method
  | get
  | post
  deriving DecidableEq

def Redirect.status : Redirect → ℕ
  | .movedPermanently => 301
  | .found => 302
  | .seeOther => 303
  | .temporaryRedirect => 307
  | .permanentRedirect => 308

/-- The method of the request that follows. -/
def Redirect.next (method : Method) : Redirect → Method
  | .temporaryRedirect | .permanentRedirect => method
  | .movedPermanently | .found | .seeOther => .get

/-- A request, and the status of the answer if there is one. -/
structure Sent where
  method : Method
  status : Option ℕ
  deriving DecidableEq

/-- The requests of one `http.Client.Do`. -/
def requests (last : Option ℕ) : Method → List Redirect → List Sent
  | method, [] => [⟨method, last⟩]
  | method, r :: rs => ⟨method, some r.status⟩ :: requests last (r.next method) rs

section ClientErrors

variable (json : RawJson) (maxAttempts : ℤ) (env : Surroundings) (note : Notification)

/-- What becomes of the attempt after `k` others: nothing if the URI has no base URL or the circuit
breaker is open. -/
def exchangeAt (k : ℕ) : Option Exchange :=
  match extractBaseURLAndPath note.uri with
  | .error _ => none
  | .ok (baseURL, path) => env.exchange (k + 1) baseURL path note.payload

def posted (k : ℕ) : Bool :=
  match exchangeAt env note k with
  | none | some (.unbuildable _) => false
  | some _ => true

/-- The status of the last answer that the attempt receives. -/
def answer (k : ℕ) : Option ℕ :=
  match exchangeAt env note k with
  | some (.answered status _) => some status
  | _ => none

def requestsAt (k : ℕ) : List Sent :=
  if posted env note k then requests (answer env note k) .post (env.redirects (k + 1)) else []

def attemptsMade : ℕ :=
  callsOfDo (attemptOnce env note) env.done maxAttempts (newItem maxAttempts note)

def posts : ℕ :=
  ((List.range (attemptsMade maxAttempts env note)).flatMap (requestsAt env note)).countP
    fun sent => sent.method = .post

/-- After an answer below 500 there is no POST and no other attempt, there are at most as many POSTs
as attempts, and nil is returned only if the last answer was below 400 or the queue has taken the
item. -/
structure AnswersFinal (q : AmfDlq) : Prop where
  stops : ∀ k < attemptsMade maxAttempts env note, ∀ before sent after,
    requestsAt env note k = before ++ sent :: after → ∀ status ∈ sent.status, status < 500 →
      attemptsMade maxAttempts env note = k + 1 ∧ ∀ sent' ∈ after, sent'.method ≠ .post
  posts_le : posts maxAttempts env note ≤ directAttempts maxAttempts
  nil : (sendNotification json maxAttempts env note q).1 = .ok () →
    (∃ k status, attemptsMade maxAttempts env note = k + 1 ∧ answer env note k = some status ∧
      status < 400) ∨
    ∃ item, enqueueItem json env item q =
      (.ok (), (sendNotification json maxAttempts env note q).2)

/-- The attempt after `k` others fails: its last answer is not below 400. -/
def Fails (k : ℕ) : Prop := ∀ status, answer env note k = some status → 400 ≤ status

/-- The attempt after `k` others is made: they fail, and the context is alive after each of them. -/
def Reached (k : ℕ) : Prop :=
  k < directAttempts maxAttempts ∧ ∀ i < k, Fails env note i ∧ env.done i = none

/-- No attempt that is made begins with a redirect that repeats the POST. If it fails and another
one can follow, it is not redirected at all, and not answered below 500. -/
def NoRetriedAnswer : Prop :=
  ∀ k, Reached maxAttempts env note k → posted env note k = true →
    (∀ r ∈ (env.redirects (k + 1)).head?, r.next .post = .get) ∧
    (k + 1 < directAttempts maxAttempts → env.done k = none → Fails env note k →
      env.redirects (k + 1) = [] ∧ ∀ status, answer env note k = some status → 500 ≤ status)

/-! ## The requests of an attempt -/

section Requests

variable {last : Option ℕ}

theorem Redirect.status_lt (r : Redirect) : r.status < 500 := by cases r <;> decide

theorem method_of_mem_requests_get {rs : List Redirect} {sent : Sent}
    (h : sent ∈ requests last .get rs) : sent.method = .get := by
  induction rs with
  | nil => rw [List.mem_singleton.mp h]
  | cons r rs ih =>
    have hget : r.next .get = .get := by cases r <;> rfl
    rcases List.mem_cons.mp h with rfl | h
    · rfl
    · rw [hget] at h
      exact ih h

theorem exists_requests_eq (last : Option ℕ) (method : Method) (rs : List Redirect) :
    ∃ sent after, requests last method rs = sent :: after ∧ sent.method = method := by
  cases rs with
  | nil => exact ⟨_, [], rfl, rfl⟩
  | cons r rs => exact ⟨_, _, rfl, rfl⟩

/-- An attempt that does not begin with a redirect of its POST has one POST. -/
theorem requests_post (last : Option ℕ) {rs : List Redirect}
    (hrs : ∀ r ∈ rs.head?, r.next .post = .get) :
    ∃ sent after, requests last .post rs = sent :: after ∧
      ∀ sent' ∈ after, sent'.method ≠ .post := by
  cases rs with
  | nil => exact ⟨_, [], rfl, fun _ h => absurd h List.not_mem_nil⟩
  | cons r rs =>
    refine ⟨_, _, rfl, fun sent' hsent' => ?_⟩
    rw [hrs r rfl] at hsent'
    rw [method_of_mem_requests_get hsent']
    decide

end Requests

variable {json maxAttempts env note}

theorem postResult_ok_iff (k : ℕ) :
    postResult env note (k + 1) = .ok () ↔
      ∃ status, answer env note k = some status ∧ status < 400 := by
  unfold postResult answer exchangeAt
  rcases extractBaseURLAndPath note.uri with err | ⟨baseURL, path⟩
  · simp
  · dsimp only
    rcases env.exchange (k + 1) baseURL path note.payload with
      _ | err | err | err | ⟨status, body⟩
    · simp [factoryDo]
    · simp [factoryDo, Exchange.result]
    · simp [factoryDo, Exchange.result]
    · simp [factoryDo, Exchange.result]
    · simp only [factoryDo, Exchange.result, Option.some.injEq, exists_eq_left']
      split_ifs <;> simp <;> omega

variable (maxAttempts env note)

theorem attemptOnce_ok_iff (k : ℕ) :
    (attemptOnce env note (afterAttempts (attemptOnce env note) (newItem maxAttempts note) k)).1 =
      .ok () ↔ ∃ status, answer env note k = some status ∧ status < 400 := by
  rw [← postResult_ok_iff, afterAttempts_attemptOnce]
  simp [attemptOnce, newItem]

theorem failsAt_iff (k : ℕ) :
    FailsAt (attemptOnce env note) (newItem maxAttempts note) k ↔ Fails env note k := by
  rw [failsAt_iff_ne_ok, Ne, attemptOnce_ok_iff]
  simp [Fails]

theorem reached_iff (k : ℕ) :
    k < attemptsMade maxAttempts env note ↔ Reached maxAttempts env note k := by
  have hran := ran_retry (attemptOnce env note) env.done maxAttempts (newItem maxAttempts note)
  have h := hran.lt_iff k
  simp only [failsAt_iff, Nat.zero_add] at h
  exact h

theorem sendNotification_nil {q : AmfDlq}
    (h : (sendNotification json maxAttempts env note q).1 = .ok ()) :
    (∃ k status, attemptsMade maxAttempts env note = k + 1 ∧ answer env note k = some status ∧
      status < 400) ∨
    ∃ item, enqueueItem json env item q =
      (.ok (), (sendNotification json maxAttempts env note q).2) := by
  have hran := ran_retry (attemptOnce env note) env.done maxAttempts (newItem maxAttempts note)
  unfold sendNotification at h ⊢
  split at h
  · next item hretry =>
    left
    obtain ⟨k, hk, hok⟩ := hran.ok_iff.mp (by rw [hretry])
    obtain ⟨status, hanswer, hlt⟩ := (attemptOnce_ok_iff maxAttempts env note k).mp hok
    exact ⟨k, status, hk.symm, hanswer, hlt⟩
  · next err item hretry =>
    right
    refine ⟨{ item with lastError := err }, ?_⟩
    split at h
    · exact nomatch h
    · next henqueue => rw [henqueue]

variable {maxAttempts env note}

/-! ## Answers below 500 -/

theorem requestsAt_of_posted {k : ℕ} (hposted : posted env note k = true) :
    requestsAt env note k = requests (answer env note k) .post (env.redirects (k + 1)) :=
  if_pos hposted

theorem posted_of_mem {k : ℕ} {sent : Sent} (h : sent ∈ requestsAt env note k) :
    posted env note k = true := by
  unfold requestsAt at h
  split_ifs at h with hposted
  · exact hposted
  · cases h

theorem countP_requestsAt_le {k : ℕ} (h : posted env note k = true →
    ∀ r ∈ (env.redirects (k + 1)).head?, r.next .post = .get) :
    ((requestsAt env note k).countP fun sent => sent.method = .post) ≤ 1 := by
  cases hposted : posted env note k with
  | false =>
    unfold requestsAt
    rw [hposted]
    exact Nat.zero_le 1
  | true =>
    obtain ⟨sent, after, heq, hafter⟩ := requests_post (answer env note k) (h hposted)
    rw [requestsAt_of_posted hposted, heq, List.countP_cons]
    have hzero : (after.countP fun sent => sent.method = .post) = 0 :=
      List.countP_eq_zero.mpr fun sent' hmem => by simpa using hafter sent' hmem
    rw [hzero]
    split <;> omega

theorem countP_flatMap_range_le {n : ℕ}
    (h : ∀ k < n, ((requestsAt env note k).countP fun sent => sent.method = .post) ≤ 1) :
    (((List.range n).flatMap (requestsAt env note)).countP fun sent => sent.method = .post) ≤
      n := by
  induction n with
  | zero => exact Nat.le_refl 0
  | succ n ih =>
    rw [List.range_succ, List.flatMap_append, List.countP_append, List.flatMap_singleton]
    exact Nat.add_le_add (ih fun k hk => h k (Nat.lt_succ_of_lt hk)) (h n (Nat.lt_succ_self n))

theorem posts_le_directAttempts (h : NoRetriedAnswer maxAttempts env note) :
    posts maxAttempts env note ≤ directAttempts maxAttempts := by
  have hran := ran_retry (attemptOnce env note) env.done maxAttempts (newItem maxAttempts note)
  refine Nat.le_trans (countP_flatMap_range_le fun k hk => ?_) hran.le
  exact countP_requestsAt_le fun hposted =>
    (h k ((reached_iff maxAttempts env note k).mp hk) hposted).1

theorem stops_of_noRetriedAnswer (h : NoRetriedAnswer maxAttempts env note) {k : ℕ}
    (hk : k < attemptsMade maxAttempts env note) {before after : List Sent} {sent : Sent}
    (hsplit : requestsAt env note k = before ++ sent :: after) {status : ℕ}
    (hstatus : sent.status = some status) (hlt : status < 500) :
    attemptsMade maxAttempts env note = k + 1 ∧ ∀ sent' ∈ after, sent'.method ≠ .post := by
  have hposted : posted env note k = true :=
    posted_of_mem (hsplit ▸ List.mem_append_right _ (List.mem_cons_self ..))
  obtain ⟨hfirst, hfails⟩ := h k ((reached_iff maxAttempts env note k).mp hk) hposted
  rw [requestsAt_of_posted hposted] at hsplit
  constructor
  · by_contra hne
    obtain ⟨hdirect, hbefore⟩ := (reached_iff maxAttempts env note (k + 1)).mp (by omega)
    obtain ⟨hfail, halive⟩ := hbefore k (Nat.lt_succ_self k)
    obtain ⟨hnone, hanswer⟩ := hfails hdirect halive hfail
    -- there is one request, with the last answer
    rw [hnone] at hsplit
    have hmem : sent ∈ requests (answer env note k) .post [] :=
      hsplit ▸ List.mem_append_right _ (List.mem_cons_self ..)
    rw [List.mem_singleton.mp hmem] at hstatus
    have hge := hanswer status hstatus
    omega
  · obtain ⟨first, rest, heq, hrest⟩ := requests_post (answer env note k) hfirst
    rw [heq] at hsplit
    intro sent' hmem
    refine hrest sent' ?_
    cases before with
    | nil =>
      obtain ⟨-, rfl⟩ := List.cons.inj hsplit
      exact hmem
    | cons first' before =>
      obtain ⟨-, rfl⟩ := List.cons.inj hsplit
      exact List.mem_append_right _ (List.mem_cons_of_mem _ hmem)

theorem noRetriedAnswer_of_stops
    (h : ∀ k < attemptsMade maxAttempts env note, ∀ before sent after,
      requestsAt env note k = before ++ sent :: after → ∀ status ∈ sent.status, status < 500 →
        attemptsMade maxAttempts env note = k + 1 ∧ ∀ sent' ∈ after, sent'.method ≠ .post) :
    NoRetriedAnswer maxAttempts env note := by
  intro k hreached hposted
  have hk := (reached_iff maxAttempts env note k).mpr hreached
  have hrequests := requestsAt_of_posted hposted
  constructor
  · intro r hr
    obtain ⟨rs, hrs⟩ := List.head?_eq_some_iff.mp hr
    rw [hrs] at hrequests
    by_contra hnext
    obtain ⟨sent, after, heq, hmethod⟩ :=
      exists_requests_eq (answer env note k) (r.next .post) rs
    have hno := (h k hk [] _ _ hrequests r.status rfl r.status_lt).2 sent
      (heq ▸ List.mem_cons_self ..)
    rw [hmethod] at hno
    cases hmethod' : r.next .post with
    | get => exact hnext hmethod'
    | post => exact hno hmethod'
  · intro hdirect halive hfail
    have hnext : k + 1 < attemptsMade maxAttempts env note := by
      refine (reached_iff maxAttempts env note (k + 1)).mpr ⟨hdirect, fun i hi => ?_⟩
      rcases Nat.lt_succ_iff_lt_or_eq.mp hi with hi | rfl
      · exact hreached.2 i hi
      · exact ⟨hfail, halive⟩
    cases hrs : env.redirects (k + 1) with
    | cons r rs =>
      rw [hrs] at hrequests
      have hend := (h k hk [] _ _ hrequests r.status rfl r.status_lt).1
      omega
    | nil =>
      refine ⟨rfl, fun status hanswer => ?_⟩
      rw [hrs] at hrequests
      by_contra hlt
      have hend := (h k hk [] _ [] hrequests status hanswer (Nat.not_le.mp hlt)).1
      omega

variable (maxAttempts env note)

/-- Answers below 500 are final exactly if none of them is repeated or retried. -/
theorem sendNotification_final_iff (json : RawJson) (q : AmfDlq) :
    AnswersFinal json maxAttempts env note q ↔ NoRetriedAnswer maxAttempts env note := by
  constructor
  · intro hfinal
    exact noRetriedAnswer_of_stops hfinal.stops
  · intro hno
    refine ⟨?_, posts_le_directAttempts hno, sendNotification_nil maxAttempts env note⟩
    intro k hk before sent after hsplit status hstatus hlt
    exact stops_of_noRetriedAnswer hno hk hsplit hstatus hlt

end ClientErrors

namespace Sample

/-- The AMF answers every POST with 404. -/
def unknown : Surroundings :=
  ⟨fun _ => [], fun _ _ _ _ => some (.answered 404 []), fun _ => none, none⟩

/-- The AMF answers with 307, and at the new place with 204. -/
def moved : Surroundings :=
  ⟨fun _ => [.temporaryRedirect], fun _ _ _ _ => some (.answered 204 []), fun _ => none, none⟩

end Sample

open Sample in
/-- The notification is posted three times, though the first answer was 404. With one attempt it is
posted twice if the first answer is 307. -/
theorem client_error_retried :
    (answer unknown note 0 = some 404 ∧ attemptsMade 3 unknown note = 3 ∧
      posts 3 unknown note = 3 ∧ ¬ AnswersFinal json 3 unknown note newDLQ) ∧
    posts 1 moved note = 2 ∧ ¬ AnswersFinal json 1 moved note newDLQ := by
  have hmade : attemptsMade 3 unknown note = 3 := by rfl
  have hposts : posts 1 moved note = 2 := by rfl
  refine ⟨⟨by rfl, hmade, by rfl, fun h => ?_⟩, hposts, fun h => ?_⟩
  · have hstop := (h.stops 0 (by rw [hmade]; decide) [] ⟨.post, some 404⟩ [] (by rfl) 404 rfl
      (by decide)).1
    rw [hmade] at hstop
    exact absurd hstop (by decide)
  · have hle := h.posts_le
    rw [hposts] at hle
    exact absurd hle (by decide)

end NssAAF.Amf
