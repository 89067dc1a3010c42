import NssAAF.Auth.Jwks

/-!
# Rotation of the signing keys

The cache of `internal/auth/cache.go` while the endpoint publishes new keys. `served` is the
document at each time. A call for a key that is not in the cache goes up to `refreshLocked`, which
has a check of its own: it fetches nothing while the cache is at most `ttl` old and has keys. Such a
call finds no key, although the document that is served has it.

`getKey_published_iff` says that this is the only way to miss a key that is published: `Story`
follows each call from its beginning to its result.
-/

namespace NssAAF.Auth

open Transducer Interleaving Mutex History

/-- No identifier is used for two keys, in the documents of all times. -/
def NeverReused (served : ℤ → List JwksKey) : Prop :=
  ∀ time time', ∀ k ∈ served time, ∀ k' ∈ served time', ∀ key key', k.kid = k'.kid →
    k.publicKey = some key → k'.publicKey = some key' → key = key'

def Publishes (keys : List JwksKey) (kid : String) (key : PublicKey) : Prop :=
  ∃ k ∈ keys, k.kid = kid ∧ k.publicKey = some key

/-- What is fetched in a step is the document that is served. -/
def Serves (served : ℤ → List JwksKey) (r : Step) : Prop :=
  ∀ n i t keys, acted r = some (n, i, t) → fetchedIn i t.phase = some keys → keys = served i.now

def actsAt (n : ℕ) (r : Step) : Option ℤ :=
  match acted r with
  | some (m, i, t) =>
    match t.phase with
    | .returned _ => none
    | _ => if m = n then some i.now else none
  | none => none

/-- In this step call number `n` finds at the check of `refreshLocked` that the cache is not too old
and has keys. -/
def Skips (f : JwksFetcher) (n : ℕ) (r : Step) : Prop :=
  ∃ i kid, acted r = some (n, i, ⟨kid, .refreshing⟩) ∧
    timeSince i.now r.pre.shared.fetchedAt ≤ f.ttl ∧ r.pre.shared.entries ≠ []

def actions (n : ℕ) (h : List Step) : List ℤ := h.filterMap (actsAt n)

def Skipped (f : JwksFetcher) (n : ℕ) (h : List Step) : Prop := ∃ r ∈ h, Skips f n r

/-! ## The story of a call -/

/-- The keys of the cache are those of a document that was served. -/
def Origin (served : ℤ → List JwksKey) (c : Cache) : Prop :=
  c.entries = [] ∨ ∃ time, c.entries = newEntries (served time)

/-- What is known about call number `n` for the key `kid` after the steps `h`. It looks the key up
in a cache that has not got it, if it has skipped the fetch, or in a document that was served while
it was active. -/
def Story (f : JwksFetcher) (served : ℤ → List JwksKey) (h : List Step) (n : ℕ) (kid : String)
    (c : Cache) : Phase → Prop
  | .reading | .locking | .checking | .refreshing | .fetching => ¬ Skipped f n h
  | .replacing keys => ¬ Skipped f n h ∧ ∃ time ∈ actions n h, keys = served time
  | .looking => Skipped f n h ∧ c.entries.lookup kid = none ∨
      ¬ Skipped f n h ∧ ∃ time ∈ actions n h, c.entries = newEntries (served time)
  | .returned (.ok key) => ¬ Skipped f n h ∧ actions n h ≠ [] ∧
      ∃ time, lastKey kid (served time) = some key
  | .returned (.error _) => n ∈ h.filterMap failed ∨ Skipped f n h ∨
      ∃ time ∈ actions n h, lastKey kid (served time) = none

section Calls

variable {f : JwksFetcher} {served : ℤ → List JwksKey} {h : List Step} {r : Step} {n : ℕ}
  {i : Turn} {t : Call} {kid : String} {c c' : Cache} {p : Phase} {key : PublicKey}

theorem actions_concat : actions n (h ++ [r]) = actions n h ++ (actsAt n r).toList := by
  unfold actions
  rw [List.filterMap_append]
  cases hr : actsAt n r <;> simp [hr]

theorem mem_actions_concat {time : ℤ} (hmem : time ∈ actions n h) :
    time ∈ actions n (h ++ [r]) := by
  rw [actions_concat]
  exact List.mem_append_left _ hmem

theorem skipped_concat : Skipped f n (h ++ [r]) ↔ Skipped f n h ∨ Skips f n r := by
  unfold Skipped
  simp [or_and_right, exists_or]

theorem mem_failed_append (hn : n ∈ h.filterMap failed) : n ∈ (h ++ [r]).filterMap failed :=
  mem_failed_concat.mpr (Or.inl hn)

theorem Origin.lastKey (ho : Origin served c) (hkey : c.entries.lookup kid = some key) :
    ∃ time, Auth.lastKey kid (served time) = some key := by
  rcases ho with hempty | ⟨time, hentries⟩
  · rw [hempty, List.lookup_nil] at hkey
    cases hkey
  · rw [hentries, lookup_newEntries] at hkey
    exact ⟨time, hkey⟩

/-- **Frame.** A step that is no action of the call does not change its story. -/
theorem Story.frame (hs : Story f served h n kid c p) (hacts : actsAt n r = none)
    (hskips : ¬ Skips f n r) (hentries : p = .looking → c'.entries = c.entries) :
    Story f served (h ++ [r]) n kid c' p := by
  have hskipped : Skipped f n (h ++ [r]) ↔ Skipped f n h := by
    rw [skipped_concat, or_iff_left hskips]
  have hactions : actions n (h ++ [r]) = actions n h := by
    rw [actions_concat, hacts]
    exact List.append_nil _
  cases p with
  | reading | locking | checking | refreshing | fetching => exact hskipped.not.mpr hs
  | replacing keys =>
    unfold Story
    rw [hskipped, hactions]
    exact hs
  | looking =>
    unfold Story
    rw [hskipped, hactions, hentries rfl]
    exact hs
  | returned result =>
    cases result with
    | ok key =>
      unfold Story
      rw [hskipped, hactions]
      exact hs
    | error err =>
      unfold Story
      rw [hskipped, hactions]
      exact hs.imp_left mem_failed_append

theorem actsAt_of_returned {result : Except String PublicKey}
    (hr : acted r = some (n, i, ⟨kid, .returned result⟩)) (m : ℕ) : actsAt m r = none := by
  unfold actsAt
  rw [hr]

theorem actsAt_self (hr : acted r = some (n, i, ⟨kid, p⟩)) (hp : ∀ result, p ≠ .returned result) :
    actsAt n r = some i.now := by
  unfold actsAt
  rw [hr]
  cases p with
  | returned result => exact absurd rfl (hp result)
  | _ => exact if_pos rfl

theorem actsAt_of_ne {m : ℕ} (hr : acted r = some (n, i, t)) (hne : n ≠ m) : actsAt m r = none := by
  unfold actsAt
  rw [hr]
  dsimp only
  split
  · rfl
  · exact if_neg hne

theorem not_skips_of_ne {m : ℕ} (hr : acted r = some (n, i, t)) (hne : n ≠ m) : ¬ Skips f m r := by
  rintro ⟨i', kid', hr', -⟩
  rw [hr] at hr'
  exact hne (Prod.mk.inj (Option.some.inj hr')).1

theorem skips_iff (hr : acted r = some (n, i, ⟨kid, p⟩)) :
    Skips f n r ↔ p = .refreshing ∧ timeSince i.now r.pre.shared.fetchedAt ≤ f.ttl ∧
      r.pre.shared.entries ≠ [] := by
  constructor
  · rintro ⟨i', kid', hr', hfresh⟩
    rw [hr] at hr'
    cases hr'
    exact ⟨rfl, hfresh⟩
  · rintro ⟨rfl, hfresh⟩
    exact ⟨i, kid, hr, hfresh⟩

theorem not_skipped_concat (hr : acted r = some (n, i, ⟨kid, p⟩)) (hp : p ≠ .refreshing)
    (hs : ¬ Skipped f n h) : ¬ Skipped f n (h ++ [r]) := by
  rw [skipped_concat, skips_iff hr]
  exact not_or.mpr ⟨hs, fun hskips => hp hskips.1⟩

theorem story_of_lookup (hr : acted r = some (n, i, ⟨kid, p⟩))
    (hp : ∀ result, p ≠ .returned result) (ho : Origin served c)
    (hs : ¬ Skipped f n (h ++ [r])) (hkey : c.entries.lookup kid = some key) :
    Story f served (h ++ [r]) n kid c' (.returned (.ok key)) := by
  refine ⟨hs, ?_, ho.lastKey hkey⟩
  rw [actions_concat, actsAt_self hr hp]
  simp

theorem lookup_of_cached {ttl now : ℤ} (hkey : c.cached ttl now kid = some key) :
    c.entries.lookup kid = some key := by
  unfold Cache.cached at hkey
  split_ifs at hkey
  exact hkey

theorem Story.next (hr : acted r = some (n, i, ⟨kid, p⟩)) (hpre : r.pre.shared = c)
    (hserves : Serves served r) (ho : Origin served c)
    (hmissed : p = .refreshing →
      c.entries.lookup kid = none ∨ f.ttl < timeSince i.now c.fetchedAt)
    (hs : Story f served h n kid c p) :
    Story f served (h ++ [r]) n kid (getKey f kid i c p).1 (getKey f kid i c p).2 ∧
      Origin served (getKey f kid i c p).1 := by
  cases p with
  | reading =>
    have hno := not_skipped_concat hr Phase.noConfusion hs
    dsimp only [getKey]
    split
    · exact ⟨hno, ho⟩
    · split
      · next key hkey =>
        exact ⟨story_of_lookup hr (fun _ => Phase.noConfusion) ho hno (lookup_of_cached hkey), ho⟩
      · exact ⟨hno, ho⟩
  | locking =>
    have hno := not_skipped_concat hr Phase.noConfusion hs
    dsimp only [getKey]
    split
    · exact ⟨hno, ho⟩
    · exact ⟨hno, ho⟩
  | checking =>
    have hno := not_skipped_concat hr Phase.noConfusion hs
    dsimp only [getKey]
    split
    · next key hkey =>
      exact ⟨story_of_lookup hr (fun _ => Phase.noConfusion) ho hno (lookup_of_cached hkey), ho⟩
    · exact ⟨hno, ho⟩
  | refreshing =>
    have hskips := skips_iff (f := f) hr
    rw [hpre] at hskips
    dsimp only [getKey]
    split
    · next hfresh =>
      -- the key is missing, for the cache is not too old
      refine ⟨Or.inl ⟨skipped_concat.mpr (Or.inr (hskips.mpr ⟨rfl, hfresh⟩)), ?_⟩, ho⟩
      exact (hmissed rfl).resolve_right (Int.not_lt.mpr hfresh.1)
    · next hstale =>
      refine ⟨?_, ho⟩
      show ¬ Skipped f n (h ++ [r])
      rw [skipped_concat, hskips]
      exact not_or.mpr ⟨hs, fun h => hstale h.2⟩
  | fetching =>
    have hno := not_skipped_concat hr Phase.noConfusion hs
    dsimp only [getKey]
    split
    · next err herr =>
      refine ⟨Or.inl (mem_failed_concat.mpr (Or.inr ?_)), ho⟩
      unfold failed
      rw [hr]
      simp [failsIn, herr, Except.toOption]
    · next keys hkeys =>
      refine ⟨⟨hno, i.now, ?_, hserves n i _ keys hr (by rw [fetchedIn, hkeys]; rfl)⟩, ho⟩
      rw [actions_concat, actsAt_self hr fun _ => Phase.noConfusion]
      simp
  | replacing keys =>
    obtain ⟨hno, time, htime, rfl⟩ := hs
    have hno' := not_skipped_concat hr Phase.noConfusion hno
    exact ⟨Or.inr ⟨hno', time, mem_actions_concat htime, rfl⟩, Or.inr ⟨time, rfl⟩⟩
  | looking =>
    rcases hs with ⟨hskipped, hnone⟩ | ⟨hno, time, htime, hentries⟩
    · dsimp only [getKey]
      rw [hnone]
      exact ⟨Or.inr (Or.inl (skipped_concat.mpr (Or.inl hskipped))), ho⟩
    · have hno' := not_skipped_concat hr Phase.noConfusion hno
      have hlookup : c.entries.lookup kid = Auth.lastKey kid (served time) := by
        rw [hentries, lookup_newEntries]
      dsimp only [getKey]
      split
      · next key hkey =>
        exact ⟨story_of_lookup hr (fun _ => Phase.noConfusion) ho hno' hkey, ho⟩
      · next hkey =>
        exact ⟨Or.inr (Or.inr ⟨time, mem_actions_concat htime, hlookup ▸ hkey⟩), ho⟩
  | returned result =>
    have hskips : ¬ Skips f n r := fun hskips => Phase.noConfusion ((skips_iff hr).mp hskips).1
    exact ⟨hs.frame (actsAt_of_returned hr n) hskips Phase.noConfusion, ho⟩

end Calls

/-! ## Runs -/

structure Rotating (f : JwksFetcher) (served : ℤ → List JwksKey) (h : List Step)
    (s : System Cache Call) : Prop where
  sound : Sound f h s
  origin : Origin served s.shared
  numbers : ∀ n, s.threads.length ≤ n → ¬ Skipped f n h
  story : ∀ n t, s.threads[n]? = some t → Story f served h n t.kid s.shared t.phase

section Runs

variable {f : JwksFetcher} {served : ℤ → List JwksKey} {h : List Step} {s : System Cache Call}
  {n : ℕ} {i : Turn} {t : Call} {e : Event Call Turn}

theorem Rotating.idle {r : Step} (hs : Rotating f served h s) (hacted : acted r = none) :
    (∀ n, s.threads.length ≤ n → ¬ Skipped f n (h ++ [r])) ∧
      ∀ n t, s.threads[n]? = some t → Story f served (h ++ [r]) n t.kid s.shared t.phase := by
  have hskips : ∀ n, ¬ Skips f n r := by
    rintro n ⟨i, kid, hr, -⟩
    rw [hacted] at hr
    cases hr
  refine ⟨fun n hn => ?_, fun n t ht => ?_⟩
  · rw [skipped_concat]
    exact not_or.mpr ⟨hs.numbers n hn, hskips n⟩
  · exact (hs.story n t ht).frame (by rw [actsAt, hacted]) (hskips n) fun _ => rfl

theorem entries_of_other (hs : Sound f h s) (ht : s.threads[n]? = some t) {m : ℕ} {u : Call}
    (hne : n ≠ m) (hu : s.threads[m]? = some u) (hlooking : u.phase = .looking) :
    (getKey f t.kid i s.shared t.phase).1.entries = s.shared.entries := by
  have hholds : cacheLock.Holds u := by
    show u.phase.Holds
    rw [hlooking]
    trivial
  have hnot : ¬ cacheLock.Holds t := fun hown => hne (hs.held.one n m t u ht hu hown hholds)
  have htaken : cacheLock.Taken s.shared :=
    hs.held.taken_iff.mpr ⟨u, List.mem_of_getElem? hu, hholds⟩
  rw [((getKey_moves f t.kid i s.shared t.phase).blocked htaken hnot).1]

theorem missed_of_knows (hs : Sound f h s) (ht : s.threads[n]? = some t)
    (hlater : ∀ time ∈ times h, time ≤ i.now) (hp : t.phase = .refreshing) :
    s.shared.entries.lookup t.kid = none ∨ f.ttl < timeSince i.now s.shared.fetchedAt := by
  have hknows := hs.knows n t ht
  rw [hp] at hknows
  refine hknows.2.imp_right ?_
  rintro ⟨time, hmem, hold⟩
  exact Int.lt_of_lt_of_le hold (timeSince_mono (hlater time hmem) _)

theorem Rotating.run (hs : Rotating f served h s) (ht : s.threads[n]? = some t)
    (hlater : ∀ time ∈ times h, time ≤ i.now)
    (hserves : Serves served (record (step (Call.next f)) s (.run n i))) :
    Rotating f served (h ++ [record (step (Call.next f)) s (.run n i)])
      ⟨(Call.next f i s.shared t).1, s.threads.set n (Call.next f i s.shared t).2⟩ := by
  have hacted : acted (record (step (Call.next f)) s (.run n i)) = some (n, i, t) :=
    acted_record_iff.mpr ⟨rfl, ht⟩
  obtain ⟨hstory, horigin⟩ := (hs.story n t ht).next hacted rfl hserves hs.origin
    (missed_of_knows hs.sound ht hlater)
  refine ⟨sound_run hs.sound ht hlater, horigin, fun m hm => ?_, fun m u hu => ?_⟩
  · rw [List.length_set] at hm
    have hne : n ≠ m := by
      rintro rfl
      exact Nat.not_lt.mpr hm (List.getElem?_eq_some_iff.mp ht).1
    rw [skipped_concat]
    exact not_or.mpr ⟨hs.numbers m hm, not_skips_of_ne hacted hne⟩
  · rcases getElem?_set_cases hu with ⟨rfl, rfl⟩ | ⟨hne, hu⟩
    · exact hstory
    · exact (hs.story m u hu).frame (actsAt_of_ne hacted hne) (not_skips_of_ne hacted hne)
        (entries_of_other hs.sound ht hne hu)

theorem Rotating.step (hs : Rotating f served h s)
    (he : Proper h (record (Interleaving.step (Call.next f)) s e))
    (hserves : Serves served (record (Interleaving.step (Call.next f)) s e)) :
    Rotating f served (h ++ [record (Interleaving.step (Call.next f)) s e])
      (Interleaving.step (Call.next f) s e).2 := by
  cases e with
  | start t =>
    have hnone : acted (record (Interleaving.step (Call.next f)) s (.start t)) = none := rfl
    obtain ⟨hnumbers, hstory⟩ := hs.idle hnone
    refine ⟨sound_step hs.sound he, hs.origin, fun n hn => hnumbers n ?_, fun n u hu => ?_⟩
    · have hlength : (s.threads ++ [t]).length ≤ n := hn
      rw [List.length_append] at hlength
      omega
    · have hu' : (s.threads ++ [t])[n]? = some u := hu
      rw [List.getElem?_append] at hu'
      split at hu'
      · exact hstory n u hu'
      · next hlt =>
        obtain rfl := List.mem_singleton.mp (List.mem_of_getElem? hu')
        rw [he.2 _ rfl]
        exact hnumbers n (Nat.not_lt.mp hlt)
  | run n i =>
    cases ht : s.threads[n]? with
    | none =>
      have hnone : acted (record (Interleaving.step (Call.next f)) s (.run n i)) = none := by
        simp only [acted, record_input, record_output, step_run_of_none _ ht]
      obtain ⟨hnumbers, hstory⟩ := hs.idle hnone
      have hsound := sound_step hs.sound he
      rw [step_run_of_none _ ht] at hsound ⊢
      exact ⟨hsound, hs.origin, hnumbers, hstory⟩
    | some t =>
      rw [step_run _ ht]
      exact hs.run ht (fun time hmem => he.1 time hmem i.now rfl) hserves

theorem serves_of_turns {es : List (Event String Turn)}
    (hturns : ∀ n i keys, .run n i ∈ es → i.fetch.document = .ok keys → keys = served i.now)
    {r : Step} (hr : r ∈ trace (step (Call.next f)) ⟨emptyCache, []⟩ (schedule es)) :
    Serves served r := by
  intro n i t keys hacted hfetched
  rw [eq_record_of_mem_trace hr] at hacted
  have hinput := (acted_record_iff.mp hacted).1
  obtain ⟨e, he, hsame⟩ := List.mem_map.mp (input_mem_of_mem_trace hr)
  rw [hinput] at hsame
  cases e with
  | start kid => cases hsame
  | run n' i' =>
    cases hsame
    apply hturns n i keys he
    cases hp : t.phase with
    | fetching =>
      rw [hp] at hfetched
      cases hdocument : i.fetch.document with
      | error err => simp [fetchedIn, hdocument, Except.toOption] at hfetched
      | ok keys' =>
        simp [fetchedIn, hdocument, Except.toOption] at hfetched
        rw [hfetched]
    | _ =>
      rw [hp] at hfetched
      cases hfetched

theorem rotating_nil (f : JwksFetcher) (served : ℤ → List JwksKey) :
    Rotating f served [] ⟨emptyCache, []⟩ where
  sound := sound_nil f
  origin := Or.inl rfl
  numbers n _ := by simp [Skipped]
  story := by simp

theorem rotating_final (f : JwksFetcher) {es : List (Event String Turn)}
    (hes : (es.filterMap timeOf).Pairwise (· ≤ ·))
    (hserves : ∀ r ∈ trace (step (Call.next f)) ⟨emptyCache, []⟩ (schedule es), Serves served r) :
    Rotating f served (trace (step (Call.next f)) ⟨emptyCache, []⟩ (schedule es))
      (final (step (Call.next f)) ⟨emptyCache, []⟩ (schedule es)) := by
  refine inv_of_along (J := Rotating f served) (C := fun h r => Proper h r ∧ Serves served r)
    (fun h s e hs he => hs.step he.1 he.2) (rotating_nil f served) ?_
  intro es₁ e es₂ hsplit
  refine ⟨proper_of_pairwise f _ hes es₁ e es₂ hsplit, hserves _ ?_⟩
  exact (mem_trace _).mpr ⟨es₁, e, es₂, hsplit, rfl⟩

end Runs

/-! ## Keys that are published -/

section Published

variable {served : ℤ → List JwksKey} {time : ℤ} {kid : String} {key key' : PublicKey}

theorem publishes_of_lastKey {keys : List JwksKey} (h : lastKey kid keys = some key) :
    Publishes keys kid key := by
  obtain ⟨k, hk, hkey⟩ := List.mem_filterMap.mp (List.mem_of_getLast? h)
  split_ifs at hkey with hkid
  exact ⟨k, hk, hkid, hkey⟩

theorem NeverReused.unique (hs : NeverReused served) {time' : ℤ}
    (h : Publishes (served time) kid key) (h' : Publishes (served time') kid key') :
    key = key' := by
  obtain ⟨k, hk, hkid, hkey⟩ := h
  obtain ⟨k', hk', hkid', hkey'⟩ := h'
  exact hs time time' k hk k' hk' key key' (hkid.trans hkid'.symm) hkey hkey'

theorem lastKey_ne_none {keys : List JwksKey} (h : Publishes keys kid key) :
    lastKey kid keys ≠ none := by
  obtain ⟨k, hk, hkid, hkey⟩ := h
  intro hnone
  have hnil := List.getLast?_eq_none_iff.mp hnone
  have hmem : key ∈ keys.filterMap fun k => if k.kid = kid then k.publicKey else none :=
    List.mem_filterMap.mpr ⟨k, hk, by rw [if_pos hkid, hkey]⟩
  rw [hnil] at hmem
  cases hmem

theorem Story.result_iff {f : JwksFetcher} {h : List Step} {n : ℕ} {c : Cache}
    {result : Except String PublicKey} (hs : NeverReused served)
    (hstory : Story f served h n kid c (.returned result))
    (hpublished : ∀ time ∈ actions n h, Publishes (served time) kid key)
    (hreachable : n ∉ h.filterMap failed) :
    result = .ok key ↔ ¬ Skipped f n h := by
  cases result with
  | ok key' =>
    obtain ⟨hno, hacted, time', hkey'⟩ := hstory
    obtain ⟨time, htime⟩ := List.exists_mem_of_ne_nil _ hacted
    have hsame := hs.unique (hpublished time htime) (publishes_of_lastKey hkey')
    exact iff_of_true (by rw [hsame]) hno
  | error err =>
    refine iff_of_false (by simp) (not_not_intro ?_)
    rcases hstory with hfailed | hskipped | ⟨time, htime, hnone⟩
    · exact absurd hfailed hreachable
    · exact hskipped
    · exact absurd hnone (lastKey_ne_none (hpublished time htime))

end Published

/-! ## Every call returns -/

/-- The actions that are left, with the write lock at hand. -/
def Phase.left : Phase → ℕ
  | .reading => 7
  | .locking => 6
  | .checking => 5
  | .refreshing => 4
  | .fetching => 3
  | .replacing _ => 2
  | .looking => 1
  | .returned _ => 0

section Alone

variable {f : JwksFetcher} {kid : String} {i : Turn} {c : Cache} {p : Phase}

variable (f kid i) in
theorem left_getKey (hlocked : c.locked = true ↔ p.Holds) :
    (getKey f kid i c p).2.left ≤ p.left - 1 := by
  have hm := getKey_moves f kid i c p
  generalize (getKey f kid i c p).1 = c' at hm
  generalize (getKey f kid i c p).2 = p' at hm
  cases hm with
  | waits hp hc => exact absurd (hlocked.mp hc) hp
  | _ => simp [Phase.left]

theorem returns_alone (hlocked : c.locked = true ↔ p.Holds) {is : List Turn}
    (hleft : p.left ≤ is.length) :
    ∃ result, (alone (Call.next f) is (c, ⟨kid, p⟩)).2 = ⟨kid, .returned result⟩ := by
  induction is generalizing c p with
  | nil =>
    cases p with
    | returned result => exact ⟨result, rfl⟩
    | _ => exact absurd hleft (by simp [Phase.left])
  | cons i is ih =>
    have hlocked' := (getKey_moves f kid i c p).locked_iff hlocked
    have hle : (getKey f kid i c p).2.left ≤ is.length := by
      have := left_getKey f kid i hlocked
      rw [List.length_cons] at hleft
      omega
    exact ih hlocked' hle

end Alone

def callSteps (ttl : ℤ) (es : List (Event String Turn)) : List Step :=
  trace (step (Call.next (newJwksFetcher ttl))) ⟨emptyCache, []⟩ (schedule es)

def callsAfter (ttl : ℤ) (es : List (Event String Turn)) : List Call :=
  (final (step (Call.next (newJwksFetcher ttl))) ⟨emptyCache, []⟩ (schedule es)).threads

/-- **Rotation.** In every run of calls at times that do not decrease, with documents that never
reuse an identifier: a call that has returned, during which its key was published and none of whose
fetches failed, has returned this key if and only if it has not found, at the check of
`refreshLocked`, a cache with keys that is at most `ttl` old. A call that is alone does return. -/
theorem getKey_published_iff (ttl : ℤ) (served : ℤ → List JwksKey) (hnever : NeverReused served)
    (es : List (Event String Turn)) (hes : (es.filterMap timeOf).Pairwise (· ≤ ·))
    (hserves : ∀ r ∈ callSteps ttl es, Serves served r) :
    (∀ n kid key result, (callsAfter ttl es)[n]? = some ⟨kid, .returned result⟩ →
      (∀ time ∈ actions n (callSteps ttl es), Publishes (served time) kid key) →
      n ∉ (callSteps ttl es).filterMap failed →
      (result = .ok key ↔ ¬ Skipped (newJwksFetcher ttl) n (callSteps ttl es))) ∧
    ∀ (c : Cache) (kid : String) (is : List Turn), c.locked = false → 7 ≤ is.length →
      ∃ result, (alone (Call.next (newJwksFetcher ttl)) is (c, ⟨kid, .reading⟩)).2 =
        ⟨kid, .returned result⟩ := by
  refine ⟨fun n kid key result hreturned hpublished hreachable => ?_,
    fun c kid is hfree hlength => ?_⟩
  · have hrun := rotating_final (newJwksFetcher ttl) hes hserves
    exact (hrun.story n _ hreturned).result_iff hnever hpublished hreachable
  · exact returns_alone (iff_of_false (by simp [hfree]) id) hlength

/-! ## A key that is published later -/

deriving instance DecidableEq for Phase, Call

namespace Jwks.Rotated

open Jwks.Sample

def secondKey : JwksKey := { rsaKey with kid := "k2", n := "AQI" }

/-- The second key is published at time 100. -/
def served (now : ℤ) : List JwksKey := if now < 100 then [rsaKey] else [rsaKey, secondKey]

/-- The actions of a call at the given times, with what is served then. -/
def turns (n : ℕ) (times : List ℤ) : List (Event String Turn) :=
  times.map fun now => .run n ⟨now, .answered 200 (.ok (served now))⟩

/-- A call fetches the document with the first key. A call for the second key follows at the given
times. -/
def calls (times : List ℤ) : List (Event String Turn) :=
  [.start "k1"] ++ turns 0 [1, 2, 3, 4, 5, 6, 7] ++ [.start "k2"] ++ turns 1 times

/-- The second call comes when the cache is at most fifteen minutes old. -/
def early : List ℤ := [200, 201, 202, 203, 204]

/-- It comes when the cache is too old. -/
def late : List ℤ := [900000000007, 900000000008, 900000000009, 900000000010, 900000000011,
  900000000012, 900000000013]

theorem mem_served {k : JwksKey} {now : ℤ} (hk : k ∈ served now) : k = rsaKey ∨ k = secondKey := by
  unfold served at hk
  split_ifs at hk <;> simp at hk
  · exact Or.inl hk
  · exact hk

theorem served_never_reused : NeverReused served := by
  intro time time' k hk k' hk' key key' hkid hkey hkey'
  have hsame : k = k' := by
    rcases mem_served hk with rfl | rfl <;> rcases mem_served hk' with rfl | rfl
    · rfl
    · exact absurd hkid (by decide)
    · exact absurd hkid (by decide)
    · rfl
  subst hsame
  exact Option.some.inj (hkey.symm.trans hkey')

theorem served_to_calls (times : List ℤ) : ∀ r ∈ callSteps 0 (calls times), Serves served r := by
  intro r hr
  refine serves_of_turns (fun n i keys hmem hkeys => ?_) hr
  have hturns : ∀ m ts, Event.run n i ∈ turns m ts → keys = served i.now := by
    intro m ts hmem
    obtain ⟨now, -, hrun⟩ := List.mem_map.mp hmem
    cases hrun
    exact (Except.ok.inj hkeys).symm
  simp only [calls, List.mem_append, List.mem_singleton, reduceCtorEq, false_or, or_false] at hmem
  rcases hmem with hmem | hmem
  · exact hturns _ _ hmem
  · exact hturns _ _ hmem

theorem publishes_second {now : ℤ} (hnow : 100 ≤ now) :
    Publishes (served now) "k2" (.rsa 258 65537) := by
  refine ⟨secondKey, ?_, rfl, by decide +kernel⟩
  unfold served
  rw [if_neg (Int.not_lt.mpr hnow)]
  simp

theorem publishes_during {times : List ℤ} (h : times.all (100 ≤ ·) = true) :
    ∀ time ∈ times, Publishes (served time) "k2" (.rsa 258 65537) :=
  fun time htime => publishes_second (by simpa using List.all_eq_true.mp h time htime)

end Jwks.Rotated

open Jwks.Rotated

/-- The second call comes too late for the cache, and fetches the document that is served then. -/
theorem getKey_rotated_late :
    (callsAfter 0 (calls late))[1]? = some ⟨"k2", .returned (.ok (.rsa 258 65537))⟩ ∧
      ¬ Skipped (newJwksFetcher 0) 1 (callSteps 0 (calls late)) :=
  have hreturned : (callsAfter 0 (calls late))[1]? =
    some ⟨"k2", .returned (.ok (.rsa 258 65537))⟩ := by decide +kernel
  ⟨hreturned, ((getKey_published_iff 0 served served_never_reused (calls late) (by decide)
    (served_to_calls late)).1 1 "k2" (.rsa 258 65537) (.ok (.rsa 258 65537)) hreturned
      (publishes_during (by decide +kernel)) (by decide +kernel)).mp rfl⟩

/-- The second call comes in time for the cache. The document that is served during the whole call
has its key, the endpoint is reachable, and nothing is fetched. -/
theorem getKey_missed_early :
    NeverReused served ∧
    (∀ r ∈ callSteps 0 (calls early), Serves served r) ∧
    actions 1 (callSteps 0 (calls early)) = early ∧
    (∀ time ∈ early, Publishes (served time) "k2" (.rsa 258 65537)) ∧
    (callSteps 0 (calls early)).filterMap failed = [] ∧
    (callsAfter 0 (calls early))[1]? =
      some ⟨"k2", .returned (.error (keyNotFound "k2"))⟩ :=
  ⟨served_never_reused, served_to_calls early, by decide +kernel, publishes_during (by decide),
    by decide +kernel, rfl⟩

end NssAAF.Auth
