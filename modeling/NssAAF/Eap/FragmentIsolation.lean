import NssAAF.Lib.History
import NssAAF.Lib.Scan
import NssAAF.Lib.Table
import NssAAF.Eap.FragmentManager
import Mathlib.Data.List.Nodup

/-!
# Buffers of different sessions

The manager flattens a session and an identifier into one string (`fragmentKey`). The identifier is
written in digits behind a colon, so the last colon of the string is the one between the two, also
if the session has colons and digits of its own (`fragmentKey_inj`).

Which buffer a pair has is read off the calls that were made (`bufferOf`). `Keyed` is the invariant:
the map holds the buffer of each pair, and no buffer ever changes its pair or its age.
-/

namespace NssAAF.Eap

open Transducer History

abbrev Pair : Type := String × UInt8

theorem fragmentKey_inj {a b : Pair} (h : fragmentKey a.1 a.2 = fragmentKey b.1 b.2) : a = b := by
  have hlist := congrArg String.toList h
  unfold fragmentKey at hlist
  simp only [String.toList_append, List.append_assoc] at hlist
  have hcolon : ∀ n : ℕ, ':' ∉ (toString n).toList := Scan.not_mem_toString_nat (by decide)
  obtain ⟨hctx, hid⟩ := Scan.last_cut_inj (hcolon a.2.toNat) (hcolon b.2.toNat) hlist
  exact Prod.ext (String.toList_inj.mp hctx) (UInt8.toNat_inj.mp (Scan.toString_nat_inj hid))

/-! ## What a call says about a pair -/

/-- The call is `GetOrCreate` or `Get` for the pair, and returns the buffer at `p`. -/
def Returns (r : ManagerStep) (a : Pair) (p : ℕ) : Prop :=
  (∃ now isNew, r.input = .getOrCreate a.1 a.2 now ∧ r.output = .created p isNew) ∨
    r.input = .get a.1 a.2 ∧ r.output = .found (some p)

/-- The call allocates the buffer at `p` for the pair. -/
def Creates (r : ManagerStep) (a : Pair) (now : ℤ) (p : ℕ) : Prop :=
  r.input = .getOrCreate a.1 a.2 now ∧ r.output = .created p true

/-- Just `n` things have the property. -/
def HasCount {α : Type} (P : α → Prop) (n : ℕ) : Prop :=
  ∃ l : List α, l.Nodup ∧ (∀ a, a ∈ l ↔ P a) ∧ l.length = n

/-- The buffer of a pair and its time after a call. `GetOrCreate` gives it one if it has none. It
loses it when it is deleted, or when a `Cleanup` finds it too old. -/
def bufferAfter (ttlSeconds : ℤ) (a : Pair) (cur : Option (ℕ × ℤ)) (r : ManagerStep) :
    Option (ℕ × ℤ) :=
  match r.input, r.output with
  | .getOrCreate authCtxID id now, .created p _ =>
    if (authCtxID, id) = a then cur.or (some (p, now)) else cur
  | .delete authCtxID id, _ => if (authCtxID, id) = a then none else cur
  | .cleanup now, _ => cur.filter fun b => now - b.2 ≤ ttlSeconds
  | _, _ => cur

def bufferOf (ttlSeconds : ℤ) (h : List ManagerStep) (a : Pair) : Option (ℕ × ℤ) :=
  h.foldl (bufferAfter ttlSeconds a) none

theorem bufferOf_concat (ttlSeconds : ℤ) (h : List ManagerStep) (r : ManagerStep) (a : Pair) :
    bufferOf ttlSeconds (h ++ [r]) a = bufferAfter ttlSeconds a (bufferOf ttlSeconds h a) r :=
  List.foldl_concat ..

/-- A call after the calls `h`: the buffer it returns was allocated for the pair that is asked for,
and was returned for no other pair. It is the buffer that the pair has, or a new one if it has none.
The buffer of a pair goes only if the pair is deleted, or by its age. The size of the map is the
number of pairs with a buffer. -/
structure Isolates (ttlSeconds : ℤ) (h : List ManagerStep) (r : ManagerStep) : Prop where
  created : ∀ a p, Returns r a p → ∃ r' ∈ h ++ [r], ∃ now, Creates r' a now p
  unshared : ∀ a p, Returns r a p → ∀ r' ∈ h, ∀ b, Returns r' b p → b = a
  reused : ∀ a now p t, r.input = .getOrCreate a.1 a.2 now →
    bufferOf ttlSeconds h a = some (p, t) → r.output = .created p false
  allocated : ∀ a now, r.input = .getOrCreate a.1 a.2 now → bufferOf ttlSeconds h a = none →
    ∃ p, r.output = .created p true ∧ ∀ r' ∈ h, ∀ b, ¬ Returns r' b p
  found : ∀ a, r.input = .get a.1 a.2 →
    r.output = .found ((bufferOf ttlSeconds h a).map Prod.fst)
  kept : ∀ a p, r.pre.get a.1 a.2 = some p → r.post.get a.1 a.2 = some p ∨
    r.input = .delete a.1 a.2 ∨
    ∃ now createdAt, r.input = .cleanup now ∧ (∃ r' ∈ h, Creates r' a createdAt p) ∧
      ttlSeconds < now - createdAt
  size : HasCount (fun a => bufferOf ttlSeconds (h ++ [r]) a ≠ none) r.post.size
  counted : r.input = .size → r.output = .count r.post.size

/-! ## Buffers keep their pair -/

/-- What a buffer is given when it is allocated. -/
def FragmentBuffer.label (fb : FragmentBuffer) : Pair × ℤ :=
  ((fb.authCtxID, fb.expectedID), fb.createdAt)

theorem label_addFragment (fb : FragmentBuffer) (seq : UInt16) (data : Bytes) (more : Bool) :
    (fb.addFragment seq data more).2.label = fb.label := by
  unfold FragmentBuffer.addFragment FragmentBuffer.finish
  dsimp only
  split_ifs <;> rfl

theorem label_call (fb : FragmentBuffer) (c : BufferCall) : (fb.call c).2.label = fb.label := by
  cases c with
  | addFragment frag => exact label_addFragment fb _ _ _
  | setTotalLength length =>
    show (fb.setTotalLength length).2.label = fb.label
    unfold FragmentBuffer.setTotalLength
    split_ifs <;> rfl
  | reset => rfl

variable {ttlSeconds : ℤ} {m : FragmentManager} {h : List ManagerStep} {a b : Pair} {p : ℕ}

/-- The buffer at `p` was allocated with this label. -/
def Labelled (m : FragmentManager) (p : ℕ) (l : Pair × ℤ) : Prop :=
  ∃ fb, m.heap[p]? = some fb ∧ fb.label = l

theorem Labelled.unique {l l' : Pair × ℤ} (hl : Labelled m p l) (hl' : Labelled m p l') :
    l' = l := by
  obtain ⟨fb, hfb, rfl⟩ := hl
  obtain ⟨fb', hfb', rfl⟩ := hl'
  rw [Option.some.inj (hfb'.symm.trans hfb)]

/-- **Frame.** No call changes a label. -/
theorem Labelled.call {l : Pair × ℤ} (hl : Labelled m p l) (c : ManagerCall) :
    Labelled (m.call c).2 p l := by
  obtain ⟨fb, hfb, rfl⟩ := hl
  cases c with
  | get | delete | cleanup | size => exact ⟨fb, hfb, rfl⟩
  | getOrCreate authCtxID id now =>
    refine ⟨fb, ?_, rfl⟩
    unfold FragmentManager.call FragmentManager.getOrCreate
    dsimp only
    split
    · exact hfb
    · exact (List.getElem?_append_left (List.getElem?_eq_some_iff.mp hfb).1).trans hfb
  | callBuffer q c =>
    cases hq : m.heap[q]? with
    | none =>
      unfold FragmentManager.call FragmentManager.callBuffer
      dsimp only
      rw [hq]
      exact ⟨fb, hfb, rfl⟩
    | some fb' =>
      rw [FragmentManager.call_callBuffer hq]
      by_cases hpq : q = p
      · subst hpq
        obtain rfl := Option.some.inj (hq.symm.trans hfb)
        refine ⟨(fb'.call c).2, ?_, label_call fb' c⟩
        exact List.getElem?_set_self (List.getElem?_eq_some_iff.mp hq).1
      · refine ⟨fb, ?_, rfl⟩
        show (m.heap.set q _)[p]? = some fb
        rw [List.getElem?_set_ne hpq]
        exact hfb

/-! ## The invariant -/

/-- The pair has the buffer at `p`, which was allocated for it by one of the calls `h`. -/
def Owns (h : List ManagerStep) (m : FragmentManager) (a : Pair) (p : ℕ) : Prop :=
  ∃ now, Labelled m p (a, now) ∧ ∃ r ∈ h, Creates r a now p

theorem Owns.unique (ha : Owns h m a p) (hb : Owns h m b p) : b = a := by
  obtain ⟨now, hl, -⟩ := ha
  obtain ⟨now', hl', -⟩ := hb
  exact (Prod.mk.inj (hl.unique hl')).1

theorem Owns.call (ha : Owns h m a p) (c : ManagerCall) :
    Owns (h ++ [record FragmentManager.call m c]) (m.call c).2 a p := by
  obtain ⟨now, hl, r, hr, hcreates⟩ := ha
  exact ⟨now, hl.call c, r, List.mem_append_left _ hr, hcreates⟩

/-- The keys are distinct, and each of them is that of the pair that owns the buffer. -/
structure Filed (h : List ManagerStep) (m : FragmentManager) : Prop where
  nodup : (m.buffers.map Prod.fst).Nodup
  entries : ∀ e ∈ m.buffers, ∃ a, e.1 = fragmentKey a.1 a.2 ∧ Owns h m a e.2

/-- The buffers that were returned have the right owners, too, and the map has the buffers that the
pairs should have. -/
structure Keyed (ttlSeconds : ℤ) (h : List ManagerStep) (m : FragmentManager) : Prop
    extends Filed h m where
  maxAge : m.maxAge = ttlSeconds
  returned : ∀ r ∈ h, ∀ a p, Returns r a p → Owns h m a p
  current : ∀ a, m.get a.1 a.2 = (bufferOf ttlSeconds h a).map Prod.fst
  aged : ∀ a p t, bufferOf ttlSeconds h a = some (p, t) → Labelled m p (a, t)

theorem keyed_new (ttlSeconds : ℤ) : Keyed ttlSeconds [] (newFragmentManager ttlSeconds) where
  nodup := List.nodup_nil
  entries := List.forall_mem_nil _
  maxAge := rfl
  returned := List.forall_mem_nil _
  current _ := rfl
  aged _ _ _ h := nomatch h

namespace Filed

theorem get_iff (hm : Filed h m) :
    m.get a.1 a.2 = some p ↔ (fragmentKey a.1 a.2, p) ∈ m.buffers :=
  Table.lookup_iff_mem hm.nodup

theorem owns_of_get (hm : Filed h m) (hget : m.get a.1 a.2 = some p) : Owns h m a p := by
  obtain ⟨b, hkey, howns⟩ := hm.entries _ (hm.get_iff.mp hget)
  rwa [fragmentKey_inj hkey]

theorem exists_pairs (hm : Filed h m) :
    ∃ pairs : List Pair, pairs.map (fun a => fragmentKey a.1 a.2) = m.buffers.map Prod.fst := by
  have key : ∀ es : List (String × ℕ), (∀ e ∈ es, ∃ a : Pair, e.1 = fragmentKey a.1 a.2) →
      ∃ pairs : List Pair, pairs.map (fun a => fragmentKey a.1 a.2) = es.map Prod.fst := by
    intro es hes
    induction es with
    | nil => exact ⟨[], rfl⟩
    | cons e es ih =>
      obtain ⟨a, ha⟩ := hes e (List.mem_cons_self ..)
      obtain ⟨pairs, hpairs⟩ := ih fun e' he' => hes e' (List.mem_cons_of_mem _ he')
      exact ⟨a :: pairs, by rw [List.map_cons, List.map_cons, hpairs, ha]⟩
  refine key m.buffers fun e he => ?_
  obtain ⟨a, ha, -⟩ := hm.entries e he
  exact ⟨a, ha⟩

theorem hasCount (hm : Filed h m) : HasCount (fun a : Pair => m.get a.1 a.2 ≠ none) m.size := by
  obtain ⟨pairs, hpairs⟩ := hm.exists_pairs
  refine ⟨pairs, List.Nodup.of_map _ (hpairs ▸ hm.nodup), fun a => ?_, ?_⟩
  · have hmem : a ∈ pairs ↔ fragmentKey a.1 a.2 ∈ m.buffers.map Prod.fst := by
      rw [← hpairs, List.mem_map]
      constructor
      · exact fun ha => ⟨a, ha, rfl⟩
      · rintro ⟨b, hb, hkey⟩
        exact fragmentKey_inj hkey ▸ hb
    show _ ↔ m.get a.1 a.2 ≠ none
    rw [hmem, List.mem_map, Option.ne_none_iff_exists']
    constructor
    · rintro ⟨⟨k, p⟩, he, rfl⟩
      exact ⟨p, hm.get_iff.mpr he⟩
    · rintro ⟨p, hget⟩
      exact ⟨_, hm.get_iff.mp hget, rfl⟩
  · have hlength := congrArg List.length hpairs
    rwa [List.length_map, List.length_map] at hlength

end Filed

/-! ## One call -/

theorem call_of_get_some (hget : m.get a.1 a.2 = some p) (now : ℤ) :
    m.call (.getOrCreate a.1 a.2 now) = (.created p false, m) := by
  unfold FragmentManager.get at hget
  unfold FragmentManager.call FragmentManager.getOrCreate
  dsimp only
  rw [hget]

theorem call_of_get_none (hget : m.get a.1 a.2 = none) (now : ℤ) :
    m.call (.getOrCreate a.1 a.2 now) = (.created m.heap.length true,
      { m with
        buffers := (fragmentKey a.1 a.2, m.heap.length) :: m.buffers
        heap := m.heap ++ [newFragmentBuffer a.1 a.2 now] }) := by
  unfold FragmentManager.get at hget
  unfold FragmentManager.call FragmentManager.getOrCreate
  dsimp only
  rw [hget]

theorem call_cases (m : FragmentManager) (c : ManagerCall) :
    (m.call c).2.buffers.Sublist m.buffers ∨
      ∃ (a : Pair) (now : ℤ), c = .getOrCreate a.1 a.2 now ∧ m.get a.1 a.2 = none ∧
        m.call c = (.created m.heap.length true,
          { m with
            buffers := (fragmentKey a.1 a.2, m.heap.length) :: m.buffers
            heap := m.heap ++ [newFragmentBuffer a.1 a.2 now] }) := by
  cases c with
  | get | size => exact Or.inl (List.Sublist.refl _)
  | delete | cleanup => exact Or.inl List.filter_sublist
  | getOrCreate authCtxID id now =>
    cases hget : m.get authCtxID id with
    | some p =>
      left
      rw [call_of_get_some (a := (authCtxID, id)) hget]
    | none =>
      refine Or.inr ⟨(authCtxID, id), now, rfl, hget, ?_⟩
      exact call_of_get_none (a := (authCtxID, id)) hget now
  | callBuffer p c =>
    left
    unfold FragmentManager.call FragmentManager.callBuffer
    dsimp only
    split <;> exact List.Sublist.refl _

theorem maxAge_call (m : FragmentManager) (c : ManagerCall) : (m.call c).2.maxAge = m.maxAge := by
  cases c with
  | get | size | delete | cleanup => rfl
  | getOrCreate authCtxID id now =>
    unfold FragmentManager.call FragmentManager.getOrCreate
    dsimp only
    split <;> rfl
  | callBuffer p c =>
    unfold FragmentManager.call FragmentManager.callBuffer
    dsimp only
    split <;> rfl

theorem get_of_returns {c : ManagerCall} (hret : Returns (record FragmentManager.call m c) a p) :
    (m.call c).2.get a.1 a.2 = some p := by
  rcases hret with ⟨now, isNew, hin, hout⟩ | ⟨hin, hout⟩
  · rw [record_input] at hin
    subst hin
    rw [record_output] at hout
    unfold FragmentManager.call FragmentManager.getOrCreate FragmentManager.get at *
    dsimp only at *
    split at hout
    · next q hq =>
      cases hout
      exact hq
    · cases hout
      simp
  · rw [record_input] at hin
    subst hin
    exact ManagerAnswer.found.inj hout

theorem Filed.call (hm : Filed h m) (c : ManagerCall) :
    Filed (h ++ [record FragmentManager.call m c]) (m.call c).2 := by
  have hkeep : ∀ e ∈ m.buffers, ∃ a, e.1 = fragmentKey a.1 a.2 ∧
      Owns (h ++ [record FragmentManager.call m c]) (m.call c).2 a e.2 := by
    intro e he
    obtain ⟨a, hkey, howns⟩ := hm.entries e he
    exact ⟨a, hkey, howns.call c⟩
  rcases call_cases m c with hsub | ⟨a, now, rfl, hnone, hcall⟩
  · exact ⟨hm.nodup.sublist (hsub.map _), fun e he => hkeep e (hsub.subset he)⟩
  · have hnew : Owns (h ++ [record FragmentManager.call m (.getOrCreate a.1 a.2 now)])
        (m.call (.getOrCreate a.1 a.2 now)).2 a m.heap.length := by
      refine ⟨now, ⟨newFragmentBuffer a.1 a.2 now, ?_, rfl⟩, _,
        List.mem_append_right _ (List.mem_singleton_self _), rfl, ?_⟩
      · rw [hcall]
        exact List.getElem?_concat_length ..
      · rw [record_output, hcall]
    have hfresh : fragmentKey a.1 a.2 ∉ m.buffers.map Prod.fst := by
      intro hmem
      obtain ⟨⟨k, p⟩, he, rfl⟩ := List.mem_map.mp hmem
      rw [hm.get_iff.mpr he] at hnone
      cases hnone
    have hbuffers : (m.call (.getOrCreate a.1 a.2 now)).2.buffers =
        (fragmentKey a.1 a.2, m.heap.length) :: m.buffers := by rw [hcall]
    constructor
    · rw [hbuffers]
      exact List.nodup_cons.mpr ⟨hfresh, hm.nodup⟩
    · intro e he
      rw [hbuffers] at he
      rcases List.mem_cons.mp he with rfl | he
      · exact ⟨a, rfl, hnew⟩
      · exact hkeep e he

theorem Keyed.expired_iff (hm : Keyed ttlSeconds h m) {t : ℤ}
    (ha : bufferOf ttlSeconds h a = some (p, t)) (now : ℤ) :
    m.expired now p = true ↔ ttlSeconds < now - t := by
  obtain ⟨fb, hfb, hlabel⟩ := hm.aged a p t ha
  have hage : fb.createdAt = t := congrArg Prod.snd hlabel
  unfold FragmentManager.expired
  rw [hfb]
  dsimp only
  rw [decide_eq_true_iff, hm.maxAge, hage]

theorem get_getOrCreate_of_ne {b : Pair} (hab : b ≠ a) (now : ℤ) :
    (m.call (.getOrCreate b.1 b.2 now)).2.get a.1 a.2 = m.get a.1 a.2 := by
  cases hget : m.get b.1 b.2 with
  | some p => rw [call_of_get_some hget]
  | none =>
    have hkey : fragmentKey a.1 a.2 ≠ fragmentKey b.1 b.2 := fun h => hab (fragmentKey_inj h).symm
    rw [call_of_get_none hget]
    unfold FragmentManager.get
    rw [List.lookup_cons, beq_eq_false_iff_ne.mpr hkey]

/-- What is found after entries were taken out of the map. -/
theorem Filed.get_filter (hm : Filed h m) (keep : String × ℕ → Bool) (a : Pair) :
    ({ m with buffers := m.buffers.filter keep } : FragmentManager).get a.1 a.2 =
      (m.get a.1 a.2).filter fun p => keep (fragmentKey a.1 a.2, p) := by
  have hnodup : ((m.buffers.filter keep).map Prod.fst).Nodup :=
    hm.nodup.sublist (List.filter_sublist.map _)
  ext p
  rw [Option.filter_eq_some_iff, hm.get_iff, ← List.mem_filter]
  exact Table.lookup_iff_mem hnodup

theorem Filed.get_delete (hm : Filed h m) (a b : Pair) :
    (m.delete b.1 b.2).get a.1 a.2 = if b = a then none else m.get a.1 a.2 := by
  refine (hm.get_filter _ a).trans ?_
  split_ifs with hab
  · simp [hab]
  · have hkey : fragmentKey a.1 a.2 ≠ fragmentKey b.1 b.2 := fun h => hab (fragmentKey_inj h).symm
    cases m.get a.1 a.2 with
    | none => rfl
    | some p => simp [Option.filter, hkey]

theorem Keyed.get_cleanup (hm : Keyed ttlSeconds h m) (now : ℤ) (a : Pair) :
    (m.cleanup now).2.get a.1 a.2 =
      ((bufferOf ttlSeconds h a).filter fun b => now - b.2 ≤ ttlSeconds).map Prod.fst := by
  refine (hm.toFiled.get_filter _ a).trans ?_
  rw [hm.current]
  cases hbuffer : bufferOf ttlSeconds h a with
  | none => rfl
  | some b =>
    have hexpired := hm.expired_iff hbuffer now
    by_cases hold : ttlSeconds < now - b.2
    · simp [Option.filter, hexpired.mpr hold, Int.not_le.mpr hold]
    · simp [Option.filter, mt hexpired.mp hold, Int.not_lt.mp hold]

/-- The map holds what the calls say, after another call. -/
theorem Keyed.current_call (hm : Keyed ttlSeconds h m) (c : ManagerCall) (a : Pair) :
    (m.call c).2.get a.1 a.2 =
      (bufferOf ttlSeconds (h ++ [record FragmentManager.call m c]) a).map Prod.fst := by
  have hcur := hm.current a
  rw [bufferOf_concat]
  cases c with
  | get | size => exact hcur
  | callBuffer q c =>
    refine Eq.trans ?_ hcur
    unfold FragmentManager.call FragmentManager.callBuffer
    dsimp only
    split <;> rfl
  | getOrCreate authCtxID id now =>
    show _ = Option.map Prod.fst (if (authCtxID, id) = a then _ else _)
    split_ifs with hab
    · subst hab
      cases hbuffer : bufferOf ttlSeconds h (authCtxID, id) with
      | some b =>
        rw [hbuffer] at hcur
        rw [call_of_get_some (a := (authCtxID, id)) hcur]
        exact hcur
      | none =>
        rw [hbuffer] at hcur
        exact get_of_returns (Or.inl ⟨now, _, rfl, rfl⟩)
    · exact (get_getOrCreate_of_ne hab now).trans hcur
  | delete authCtxID id =>
    refine (hm.toFiled.get_delete a (authCtxID, id)).trans ?_
    show _ = Option.map Prod.fst (if (authCtxID, id) = a then _ else _)
    split_ifs
    · rfl
    · exact hcur
  | cleanup now => exact hm.get_cleanup now a

theorem bufferAfter_eq_some {cur : Option (ℕ × ℤ)} {r : ManagerStep} {t : ℤ}
    (hafter : bufferAfter ttlSeconds a cur r = some (p, t)) :
    cur = some (p, t) ∨ cur = none ∧ ∃ isNew, r.input = .getOrCreate a.1 a.2 t ∧
      r.output = .created p isNew := by
  unfold bufferAfter at hafter
  split at hafter
  · next authCtxID id now q isNew hin hout =>
    split_ifs at hafter with hab
    · subst hab
      cases cur with
      | some b => exact Or.inl hafter
      | none =>
        cases hafter
        exact Or.inr ⟨rfl, isNew, hin, hout⟩
    · exact Or.inl hafter
  · split_ifs at hafter
    exact Or.inl hafter
  · exact Or.inl (Option.filter_eq_some_iff.mp hafter).1
  · exact Or.inl hafter

theorem Keyed.call (hm : Keyed ttlSeconds h m) (c : ManagerCall) :
    Keyed ttlSeconds (h ++ [record FragmentManager.call m c]) (m.call c).2 where
  toFiled := hm.toFiled.call c
  maxAge := (maxAge_call m c).trans hm.maxAge
  returned r hr a p hret := by
    rcases List.mem_append.mp hr with hr | hr
    · exact (hm.returned r hr a p hret).call c
    · obtain rfl := List.mem_singleton.mp hr
      exact (hm.toFiled.call c).owns_of_get (get_of_returns hret)
  current := hm.current_call c
  aged a p t ha := by
    rw [bufferOf_concat] at ha
    rcases bufferAfter_eq_some ha with hsome | ⟨hnone, isNew, hin, hout⟩
    · exact (hm.aged a p t hsome).call c
    · obtain rfl : c = _ := hin
      have hget : m.get a.1 a.2 = none := by rw [hm.current, hnone]; rfl
      rw [record_output, call_of_get_none hget] at hout
      obtain ⟨rfl, -⟩ := ManagerAnswer.created.inj hout
      refine ⟨newFragmentBuffer a.1 a.2 t, ?_, rfl⟩
      rw [call_of_get_none hget]
      exact List.getElem?_concat_length ..

theorem bufferAfter_of_some (p : ℕ) (t : ℤ) (r : ManagerStep) :
    bufferAfter ttlSeconds a (some (p, t)) r = some (p, t) ∨ r.input = .delete a.1 a.2 ∨
      ∃ now, r.input = .cleanup now ∧ ttlSeconds < now - t := by
  unfold bufferAfter
  split
  · split_ifs <;> exact Or.inl rfl
  · next authCtxID id hin =>
    split_ifs with hab
    · subst hab
      exact Or.inr (Or.inl hin)
    · exact Or.inl rfl
  · next now hin =>
    by_cases hold : now - t ≤ ttlSeconds
    · exact Or.inl (by simp [Option.filter, hold])
    · exact Or.inr (Or.inr ⟨now, hin, Int.not_le.mp hold⟩)
  · exact Or.inl rfl

/-- The buffer of a pair goes by `Delete` for this pair, and by `Cleanup` when it is too old. -/
theorem Keyed.get_call (hm : Keyed ttlSeconds h m) (c : ManagerCall)
    (hget : m.get a.1 a.2 = some p) :
    (m.call c).2.get a.1 a.2 = some p ∨ c = .delete a.1 a.2 ∨
      ∃ now createdAt, c = .cleanup now ∧ (∃ r ∈ h, Creates r a createdAt p) ∧
        ttlSeconds < now - createdAt := by
  obtain ⟨createdAt, hlabel, hcreates⟩ := hm.owns_of_get hget
  rw [hm.current] at hget
  obtain ⟨⟨q, t⟩, hbuffer, rfl⟩ := Option.map_eq_some_iff.mp hget
  obtain rfl : createdAt = t := (Prod.mk.inj ((hm.aged a q t hbuffer).unique hlabel)).2
  rw [hm.current_call c a, bufferOf_concat, hbuffer]
  rcases bufferAfter_of_some q createdAt (record FragmentManager.call m c) with
    hkept | hdelete | ⟨now, hcleanup, hold⟩
  · exact Or.inl (by rw [hkept]; rfl)
  · exact Or.inr (Or.inl hdelete)
  · exact Or.inr (Or.inr ⟨now, createdAt, hcleanup, hcreates, hold⟩)

theorem Keyed.isolates (hm : Keyed ttlSeconds h m) (c : ManagerCall) :
    Isolates ttlSeconds h (record FragmentManager.call m c) where
  created a p hret := by
    obtain ⟨now, -, r, hr, hcreates⟩ := (hm.toFiled.call c).owns_of_get (get_of_returns hret)
    exact ⟨r, hr, now, hcreates⟩
  unshared a p hret r' hr' b hret' :=
    ((hm.toFiled.call c).owns_of_get (get_of_returns hret)).unique
      ((hm.returned r' hr' b p hret').call c)
  kept a p hget := hm.get_call c hget
  reused a now p t hin ha := by
    obtain rfl : c = _ := hin
    have hget : m.get a.1 a.2 = some p := by rw [hm.current, ha]; rfl
    rw [record_output, call_of_get_some hget]
  allocated a now hin ha := by
    obtain rfl : c = _ := hin
    have hget : m.get a.1 a.2 = none := by rw [hm.current, ha]; rfl
    refine ⟨m.heap.length, by rw [record_output, call_of_get_none hget], fun r' hr' b hret => ?_⟩
    obtain ⟨_, ⟨fb, hfb, -⟩, -⟩ := hm.returned r' hr' b _ hret
    exact absurd (List.getElem?_eq_some_iff.mp hfb).1 (Nat.lt_irrefl _)
  found a hin := by
    obtain rfl : c = _ := hin
    rw [← hm.current]
    rfl
  size := by
    obtain ⟨pairs, hnodup, hmem, hlength⟩ := (hm.toFiled.call c).hasCount
    refine ⟨pairs, hnodup, fun a => (hmem a).trans (not_congr ?_), hlength⟩
    rw [hm.current_call c a, Option.map_eq_none_iff]
  counted hc := by
    rw [record_input] at hc
    subst hc
    rfl

/-- **Buffers are isolated.** In every run of a manager and of the buffers that come from it. -/
theorem buffers_isolated (ttlSeconds : ℤ) (calls : List ManagerCall) :
    Along FragmentManager.call (newFragmentManager ttlSeconds) (Isolates ttlSeconds) calls :=
  along_of_inv (J := Keyed ttlSeconds) (C := fun _ _ => True)
    (fun _ _ c hm _ => hm.call c) (fun _ _ c hm _ => hm.isolates c) (keyed_new ttlSeconds)
    (fun _ _ _ _ => trivial)

end NssAAF.Eap
