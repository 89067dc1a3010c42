import NssAAF.Lib.Hex
import Mathlib.Data.List.TakeWhile

/-!
# Paths of URLs

The path and the query in the text of a URL, behind its authority. An octet that may not stand in a
path for itself is written as `%` and two hexadecimal digits. `unescape` reads these escapes,
`escape` writes those that are needed and no others. A path that was read from a text is sent as
that text if the text is a valid encoding, and is escaped anew otherwise.

A path that has been read may itself be taken for a text and read again. `reread_iff` says when this
gives the same path: if it has no `%`, `?` or `#` and no control character, and if it is sent as it
would be sent without the text.
-/

namespace UrlPath

/-- The octet as a character of Latin-1. -/
def char (c : UInt8) : Char := Char.ofNat c.toNat

/-- The octets that `escape` leaves as they are. -/
def keeps (c : UInt8) : Bool :=
  (char c).isAlphanum ||
    ['-', '_', '.', '~', '$', '&', '+', ',', '/', ':', ';', '=', '@'].contains (char c)

/-- The octets that may stand for themselves in an encoded path. -/
def allows (c : UInt8) : Bool :=
  keeps c || c == 39 || ['!', '(', ')', '*', '[', ']'].contains (char c)

def value? (c : UInt8) : Option UInt8 := Hex.value? (char c)

/-- The upper-case digit of a value below 16. -/
def upperDigit (n : UInt8) : UInt8 := if n < 10 then n + 48 else n + 55

def escapeOctet (c : UInt8) : Bytes :=
  if keeps c then [c] else [37, upperDigit (c / 16), upperDigit (c % 16)]

def escape (b : Bytes) : Bytes := b.flatMap escapeOctet

def unescape : Bytes → Option Bytes
  | [] => some []
  | c :: rest =>
    if c = 37 then
      match rest with
      | hi :: lo :: rest => do
        let h ← value? hi
        let l ← value? lo
        let b ← unescape rest
        return (h * 16 + l) :: b
      | _ => none
    else (unescape rest).map (c :: ·)

/-- Whether a text without wrong escapes is an encoding of a path. -/
def validEncoded (raw : Bytes) : Bool := raw.all fun c => c == 37 || allows c

/-- What is before and what is behind the first `sep`. -/
def cut (sep : UInt8) (b : Bytes) : Bytes × Bytes :=
  (b.takeWhile (· ≠ sep), (b.dropWhile (· ≠ sep)).tail)

def isControl (c : UInt8) : Bool := c < 32 || c == 127

/-- A path, with the text it was read from, and a query. -/
structure Target where
  raw : Bytes
  path : Bytes
  query : Bytes
  deriving DecidableEq

/-- Reads a text that may end with a query and a fragment. The fragment is not kept. -/
def parse (text : Bytes) : Option Target :=
  let front := (cut 35 text).1
  if front.any isControl then none
  else do
    let path ← unescape (cut 63 front).1
    let _ ← unescape (cut 35 text).2
    return ⟨(cut 63 front).1, path, (cut 63 front).2⟩

/-- The text in which the path is sent. -/
def Target.escapedPath (t : Target) : Bytes := if validEncoded t.raw then t.raw else escape t.path

/-- No segment is empty, `.` or `..`, but the last one may be empty. -/
def IsClean (path : Bytes) : Prop :=
  let segments := path.tail.splitOn 47
  (∀ s ∈ segments, s ≠ [46] ∧ s ≠ [46, 46]) ∧ ∀ s ∈ segments.dropLast, s ≠ []

instance (path : Bytes) : Decidable (IsClean path) := inferInstanceAs (Decidable (_ ∧ _))

/-! ## Escapes -/

theorem keeps_ne_percent {c : UInt8} (h : keeps c = true) : c ≠ 37 := by
  rintro rfl
  exact absurd h (by decide)

theorem value?_upperDigit {n : UInt8} (hn : n.toNat < 16) : value? (upperDigit n) = some n := by
  have hall : ∀ i : Fin 16, value? (upperDigit (UInt8.ofNat i)) = some (UInt8.ofNat i) := by decide
  have h := hall ⟨n.toNat, hn⟩
  rwa [UInt8.ofNat_toNat] at h

theorem allows_upperDigit {n : UInt8} (hn : n.toNat < 16) : allows (upperDigit n) = true := by
  have hall : ∀ i : Fin 16, allows (upperDigit (UInt8.ofNat i)) = true := by decide
  have h := hall ⟨n.toNat, hn⟩
  rwa [UInt8.ofNat_toNat] at h

theorem toNat_div_lt (c : UInt8) : (c / 16).toNat < 16 := by
  have h := c.toNat_lt
  rw [UInt8.toNat_div]
  exact Nat.div_lt_of_lt_mul h

theorem toNat_mod_lt (c : UInt8) : (c % 16).toNat < 16 := by
  rw [UInt8.toNat_mod]
  exact Nat.mod_lt _ (by decide)

theorem div_mul_add_mod (c : UInt8) : c / 16 * 16 + c % 16 = c := by
  have h := c.toNat_lt
  apply UInt8.toNat_inj.mp
  rw [UInt8.toNat_add, UInt8.toNat_mul, UInt8.toNat_div, UInt8.toNat_mod]
  simp only [UInt8.reduceToNat]
  omega

theorem unescape_cons {c : UInt8} (hc : c ≠ 37) (rest : Bytes) :
    unescape (c :: rest) = (unescape rest).map (c :: ·) := by
  -- The equations of `unescape` follow the shape of what comes behind.
  match rest with
  | [] => rw [unescape.eq_def]; exact if_neg hc
  | [_] => rw [unescape.eq_def]; exact if_neg hc
  | _ :: _ :: _ => rw [unescape.eq_def]; exact if_neg hc

theorem unescape_percent {hi lo h l : UInt8} (hh : value? hi = some h) (hl : value? lo = some l)
    (rest : Bytes) :
    unescape (37 :: hi :: lo :: rest) = (unescape rest).map ((h * 16 + l) :: ·) := by
  rw [unescape, if_pos rfl, hh, hl]
  cases unescape rest <;> rfl

/-- A text that can be read begins with an octet for itself or with an escape. -/
theorem unescape_cons_cases {c : UInt8} {rest b : Bytes} (h : unescape (c :: rest) = some b) :
    (c ≠ 37 ∧ ∃ b', unescape rest = some b' ∧ b = c :: b') ∨
    (c = 37 ∧ ∃ hi lo rest' v b', rest = hi :: lo :: rest' ∧ unescape rest' = some b' ∧
      b = v :: b') := by
  by_cases hc : c = 37
  · subst hc
    refine .inr ⟨rfl, ?_⟩
    match rest, h with
    | hi :: lo :: rest', h =>
      rw [unescape, if_pos rfl] at h
      simp only [Option.bind_eq_bind, Option.bind_eq_some_iff, Option.pure_def,
        Option.some.injEq] at h
      obtain ⟨v, -, w, -, b', hb', rfl⟩ := h
      exact ⟨hi, lo, rest', _, b', rfl, hb', rfl⟩
  · rw [unescape_cons hc, Option.map_eq_some_iff] at h
    obtain ⟨b', hb', rfl⟩ := h
    exact .inl ⟨hc, b', hb', rfl⟩

theorem unescape_escapeOctet (c : UInt8) (rest : Bytes) :
    unescape (escapeOctet c ++ rest) = (unescape rest).map (c :: ·) := by
  unfold escapeOctet
  split_ifs with hkeeps
  · exact unescape_cons (keeps_ne_percent hkeeps) rest
  · have h := unescape_percent (value?_upperDigit (toNat_div_lt c))
      (value?_upperDigit (toNat_mod_lt c)) rest
    rwa [div_mul_add_mod] at h

theorem unescape_escape (b : Bytes) : unescape (escape b) = some b := by
  induction b with
  | nil => rfl
  | cons c b ih =>
    rw [escape, List.flatMap_cons, unescape_escapeOctet]
    rw [escape] at ih
    rw [ih, Option.map_some]

theorem unescape_append {front : Bytes} (h : 37 ∉ front) (rest : Bytes) :
    unescape (front ++ rest) = (unescape rest).map (front ++ ·) := by
  induction front with
  | nil => simp
  | cons c front ih =>
    obtain ⟨hc, hfront⟩ := not_or.mp (mt List.mem_cons.mpr h)
    rw [List.cons_append, unescape_cons (Ne.symm hc), ih hfront, Option.map_map]
    rfl

theorem unescape_of_not_mem {b : Bytes} (h : 37 ∉ b) : unescape b = some b := by
  have hb := unescape_append h []
  rwa [List.append_nil, unescape, Option.map_some, List.append_nil] at hb

theorem length_unescape {text b : Bytes} (h : unescape text = some b) :
    b.length ≤ text.length ∧ (37 ∈ text → b.length < text.length) := by
  induction hn : text.length using Nat.strongRecOn generalizing text b with
  | _ n ih =>
    subst hn
    match text, h with
    | [], h =>
      rw [unescape, Option.some.injEq] at h
      simp [← h]
    | c :: rest, h =>
      rcases unescape_cons_cases h with
        ⟨hc, b', hb', rfl⟩ | ⟨rfl, hi, lo, rest', v, b', rfl, hb', rfl⟩
      · have hrest := ih rest.length (by simp) hb' rfl
        refine ⟨by simpa using hrest.1, fun hmem => ?_⟩
        rcases List.mem_cons.mp hmem with heq | hmem
        · exact absurd heq.symm hc
        · simpa using hrest.2 hmem
      · have hrest := ih rest'.length (by simp; omega) hb' rfl
        simp only [List.length_cons]
        omega

theorem validEncoded_escapeOctet (c : UInt8) : validEncoded (escapeOctet c) = true := by
  unfold escapeOctet
  split_ifs with hkeeps
  · simp [validEncoded, allows, hkeeps]
  · simp [validEncoded, allows_upperDigit (toNat_div_lt c), allows_upperDigit (toNat_mod_lt c)]

theorem validEncoded_escape (b : Bytes) : validEncoded (escape b) = true := by
  rw [validEncoded, escape, List.all_flatMap, List.all_eq_true]
  intro c _
  exact validEncoded_escapeOctet c

theorem escape_of_keeps {b : Bytes} (h : ∀ c ∈ b, keeps c = true) : escape b = b := by
  induction b with
  | nil => rfl
  | cons c b ih =>
    have hc := h c List.mem_cons_self
    have hb := ih fun d hd => h d (List.mem_cons_of_mem c hd)
    rw [escape] at hb ⊢
    rw [List.flatMap_cons, hb, escapeOctet, if_pos hc, List.singleton_append]

theorem escape_append (a b : Bytes) : escape (a ++ b) = escape a ++ escape b := List.flatMap_append

theorem validEncoded_append (a b : Bytes) :
    validEncoded (a ++ b) = (validEncoded a && validEncoded b) := List.all_append

/-! ## Texts and targets -/

theorem cut_of_not_mem {sep : UInt8} {b : Bytes} (h : sep ∉ b) : cut sep b = (b, []) := by
  have hall : ∀ c ∈ b, decide (c ≠ sep) = true := by
    intro c hc
    exact decide_eq_true fun heq => h (heq ▸ hc)
  rw [cut, List.takeWhile_eq_self_iff.mpr hall, List.dropWhile_eq_nil_iff.mpr hall, List.tail_nil]

theorem cut_append {sep : UInt8} {front : Bytes} (h : sep ∉ front) (b : Bytes) :
    cut sep (front ++ b) = (front ++ (cut sep b).1, (cut sep b).2) := by
  have hall : ∀ c ∈ front, decide (c ≠ sep) = true := by
    intro c hc
    exact decide_eq_true fun heq => h (heq ▸ hc)
  simp only [cut, List.takeWhile_append_of_pos hall, List.dropWhile_append_of_pos hall]

theorem length_cut_le (sep : UInt8) (b : Bytes) : (cut sep b).1.length ≤ b.length :=
  (List.takeWhile_prefix _).length_le

theorem not_mem_of_length_cut {sep : UInt8} {b : Bytes} (h : b.length ≤ (cut sep b).1.length) :
    sep ∉ b := by
  have hself : (cut sep b).1 = b := (List.takeWhile_prefix _).eq_of_length_le h
  intro hmem
  have hall := List.takeWhile_eq_self_iff.mp hself sep hmem
  simp at hall

/-- A path that is read as it is. -/
def Plain (path : Bytes) : Prop := ∀ c ∈ path, c ≠ 37 ∧ c ≠ 63 ∧ c ≠ 35 ∧ isControl c = false

instance (path : Bytes) : Decidable (Plain path) := List.decidableBAll _ _

theorem Plain.not_mem_percent {path : Bytes} (h : Plain path) : 37 ∉ path :=
  fun hmem => (h _ hmem).1 rfl

theorem Plain.not_mem_question {path : Bytes} (h : Plain path) : 63 ∉ path :=
  fun hmem => (h _ hmem).2.1 rfl

theorem Plain.not_mem_hash {path : Bytes} (h : Plain path) : 35 ∉ path :=
  fun hmem => (h _ hmem).2.2.1 rfl

theorem Plain.any_isControl {path : Bytes} (h : Plain path) : path.any isControl = false := by
  rw [List.any_eq_false]
  intro c hc
  rw [(h c hc).2.2.2]
  exact Bool.false_ne_true

theorem parse_eq_some_iff {text : Bytes} {t : Target} :
    parse text = some t ↔
      (cut 35 text).1.any isControl = false ∧ (unescape (cut 35 text).2).isSome = true ∧
      unescape t.raw = some t.path ∧ cut 63 (cut 35 text).1 = (t.raw, t.query) := by
  unfold parse
  constructor
  · intro h
    dsimp only at h
    split_ifs at h with hcontrol
    simp only [Option.bind_eq_bind, Option.bind_eq_some_iff, Option.pure_def,
      Option.some.injEq] at h
    obtain ⟨path, hpath, fragment, hfragment, rfl⟩ := h
    exact ⟨Bool.not_eq_true _ ▸ hcontrol, Option.isSome_of_eq_some hfragment, hpath, rfl⟩
  · rintro ⟨hcontrol, hfragment, hpath, hcut⟩
    obtain ⟨fragment, hfragment⟩ := Option.isSome_iff_exists.mp hfragment
    simp [hcontrol, hfragment, hcut, hpath]

/-- Text in front that is read as it is becomes the beginning of the path. -/
theorem parse_append {front : Bytes} (hfront : Plain front) (text : Bytes) :
    parse (front ++ text) =
      (parse text).map fun t => ⟨front ++ t.raw, front ++ t.path, t.query⟩ := by
  simp only [parse, cut_append hfront.not_mem_hash, cut_append hfront.not_mem_question,
    unescape_append hfront.not_mem_percent, List.any_append, hfront.any_isControl, Bool.false_or]
  split_ifs
  · rfl
  · cases unescape (cut 63 (cut 35 text).1).1 with
    | none => rfl
    | some path => cases unescape (cut 35 text).2 <;> rfl

theorem parse_of_plain {path : Bytes} (h : Plain path) : parse path = some ⟨path, path, []⟩ := by
  rw [parse_eq_some_iff, cut_of_not_mem h.not_mem_hash, cut_of_not_mem h.not_mem_question]
  exact ⟨h.any_isControl, rfl, unescape_of_not_mem h.not_mem_percent, rfl⟩

theorem Target.escapedPath_append {front raw path query : Bytes}
    (hfront : ∀ c ∈ front, keeps c = true) :
    Target.escapedPath ⟨front ++ raw, front ++ path, query⟩ =
      front ++ Target.escapedPath ⟨raw, path, query⟩ := by
  have hvalid : validEncoded front = true := by
    rw [validEncoded, List.all_eq_true]
    intro c hc
    simp [allows, hfront c hc]
  simp only [Target.escapedPath, validEncoded_append, hvalid, Bool.true_and, escape_append,
    escape_of_keeps hfront]
  split_ifs <;> rfl

theorem unescape_escapedPath {t : Target} (h : unescape t.raw = some t.path) :
    unescape t.escapedPath = some t.path := by
  unfold Target.escapedPath
  split_ifs
  · exact h
  · exact unescape_escape t.path

/-- What is sent is a valid encoding, so it is sent on as it is. -/
theorem escapedPath_escapedPath (t : Target) (path query : Bytes) :
    Target.escapedPath ⟨t.escapedPath, path, query⟩ = t.escapedPath := by
  have hvalid : validEncoded t.escapedPath = true := by
    unfold Target.escapedPath
    split_ifs with h
    · exact h
    · exact validEncoded_escape t.path
  exact if_pos hvalid

/-- A path taken for a text gives the same path and query just if there is no query, the path is
plain, and it is sent in the same text without the text it was read from. -/
theorem reread_iff {text : Bytes} {t : Target} (h : parse text = some t) :
    (∃ t', parse t.path = some t' ∧ t'.escapedPath = t.escapedPath ∧ t'.query = t.query) ↔
      t.query = [] ∧ Plain t.path ∧ Target.escapedPath ⟨t.path, t.path, []⟩ = t.escapedPath := by
  obtain ⟨-, -, hpath, -⟩ := parse_eq_some_iff.mp h
  constructor
  · rintro ⟨t', ht', hsent, hquery⟩
    obtain ⟨hcontrol, -, hpath', hcut⟩ := parse_eq_some_iff.mp ht'
    -- The same path is read from both texts, so nothing was cut off and no escape was read.
    have hsame : t'.path = t.path := by
      have hread := unescape_escapedPath hpath'
      rw [hsent, unescape_escapedPath hpath, Option.some.injEq] at hread
      exact hread.symm
    have hraw : (cut 63 (cut 35 t.path).1).1 = t'.raw := congrArg Prod.fst hcut
    have hle := length_unescape hpath'
    have hfront := length_cut_le 35 t.path
    have hback := length_cut_le 63 (cut 35 t.path).1
    rw [hraw] at hback
    rw [hsame] at hle
    have hhash : 35 ∉ t.path := not_mem_of_length_cut (by omega)
    rw [cut_of_not_mem hhash] at hraw hback hcut hcontrol
    have hquestion : 63 ∉ t.path := by
      apply not_mem_of_length_cut
      rw [hraw]
      exact hle.1
    rw [cut_of_not_mem hquestion, Prod.mk.injEq] at hcut
    obtain ⟨hraw', hquery'⟩ := hcut
    have hplain : Plain t.path := by
      intro c hc
      refine ⟨?_, fun heq => hquestion (heq ▸ hc), fun heq => hhash (heq ▸ hc), ?_⟩
      · rintro rfl
        rw [← hraw'] at hle
        exact absurd (hle.2 hc) (Nat.lt_irrefl _)
      · simpa using List.any_eq_false.mp hcontrol c hc
    refine ⟨hquery.symm.trans hquery'.symm, hplain, ?_⟩
    rw [parse_of_plain hplain, Option.some.injEq] at ht'
    rw [ht']
    exact hsent
  · rintro ⟨hquery, hplain, hsent⟩
    exact ⟨_, parse_of_plain hplain, hsent, hquery.symm⟩

/-! ## Clean paths -/

theorem isClean_append {segment : Bytes} (hslash : 47 ∉ segment) (hne : segment ≠ [])
    (hdot : segment ≠ [46]) (hdots : segment ≠ [46, 46]) (rest : Bytes) :
    IsClean (47 :: (segment ++ 47 :: rest)) ↔ IsClean (47 :: rest) := by
  have hsplit : (segment ++ 47 :: rest).splitOn 47 = segment :: rest.splitOn 47 := by
    apply List.splitOnP_append_cons_of_forall_mem
    · intro c hc
      rw [beq_eq_false_iff_ne]
      rintro rfl
      exact hslash hc
    · exact beq_self_eq_true _
  have hrest : rest.splitOn 47 ≠ [] := List.splitOnP_ne_nil _ _
  simp only [IsClean, List.tail_cons, hsplit, List.dropLast_cons_of_ne_nil hrest,
    List.forall_mem_cons]
  exact ⟨fun h => ⟨h.1.2, h.2.2⟩, fun h => ⟨⟨⟨hdot, hdots⟩, h.1⟩, hne, h.2⟩⟩

end UrlPath
