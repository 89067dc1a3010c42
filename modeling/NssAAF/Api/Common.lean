import NssAAF.Lib.Hex
import Mathlib.Tactic.Common
import Mathlib.Data.Int.Basic

/-!
# Answers and checks that the services share

The problem details of `internal/api/common/problem.go`, the answers that carry them, and the checks
of `internal/api/common/validator.go`. A check that fails gives the problem to answer with, and
every such problem is a validation problem that names the field it is about.
-/

namespace NssAAF.Api

/-! ## Quoted texts -/

def escapes : List (ℕ × Char) :=
  [(7, 'a'), (8, 'b'), (9, 't'), (10, 'n'), (11, 'v'), (12, 'f'), (13, 'r')]

/-- A character in a text that is formatted with `%q`. Beyond Latin-1 every character is taken to be
printable. -/
def quoteChar (c : Char) : String :=
  if c = '"' ∨ c = '\\' then String.ofList ['\\', c]
  else if (32 ≤ c.toNat ∧ c.toNat < 127) ∨ (160 < c.toNat ∧ c.toNat ≠ 173) then String.ofList [c]
  else
    match escapes.lookup c.toNat with
    | some e => String.ofList ['\\', e]
    | none =>
      (if c.toNat < 128 then "\\x" else "\\u00") ++ Hex.encodeToString [UInt8.ofNat c.toNat]

def quote (s : String) : String := "\"" ++ String.join (s.toList.map quoteChar) ++ "\""

/-! ## Problems and answers -/

structure ProblemDetails where
  type : String
  title : String
  detail : String
  cause : String
  status : ℕ
  deriving DecidableEq

def ProblemDetails.error (p : ProblemDetails) : String :=
  if p.title ≠ "" then p.title ++ ": " ++ p.detail else p.detail

def newProblem (status : ℕ) (cause detail : String) : ProblemDetails where
  type := ""
  title := ""
  detail := detail
  cause := cause
  status := status

def validationProblem (field reason : String) : ProblemDetails where
  type := "https://nssAAF.operator.com/probs/validation-error"
  title := "Input Validation Failed"
  detail := field ++ ": " ++ reason
  cause := "VALIDATION_ERROR"
  status := 400

def notFoundProblem (detail : String) : ProblemDetails where
  type := "https://nssAAF.operator.com/probs/not-found"
  title := "Resource Not Found"
  detail := detail
  cause := "NOT_FOUND"
  status := 404

def internalServerProblem (detail : String) : ProblemDetails where
  type := "https://nssAAF.operator.com/probs/internal-server-error"
  title := "Internal Server Error"
  detail := detail
  cause := "INTERNAL_ERROR"
  status := 500

/-- An answer: its status, the headers the handler set in time, and a problem or a result. -/
structure Response (α : Type) where
  status : ℕ
  headers : List (String × String)
  body : ProblemDetails ⊕ α
  deriving DecidableEq

variable {α : Type}

def writeProblem (p : ProblemDetails) : Response α :=
  ⟨p.status, [("Content-Type", "application/problem+json")], .inl p⟩

/-- The content type of this answer comes too late: the status line is already written. -/
def write429 (retryAfter : ℕ) : Response α :=
  ⟨429, [("Retry-After", toString retryAfter)],
    .inl (newProblem 429 "rate-limit-exceeded" "Rate limit exceeded for this request")⟩

/-- A rate limiter denies a key. A limiter that is not configured or that fails denies nothing. -/
def denies (limiter : Option (String → Except String Bool)) (key : String) : Bool :=
  match limiter with
  | none => false
  | some allow =>
    match allow key with
    | .error _ => false
    | .ok allowed => !allowed

/-! ## Checks -/

/-- The subscriber identifiers of the pattern `msisdn-[0-9]{5,15}`. -/
def isMsisdn (cs : List Char) : Bool :=
  cs.take 7 == "msisdn-".toList && (cs.drop 7).all Char.isDigit &&
    5 ≤ (cs.drop 7).length && (cs.drop 7).length ≤ 15

/-- The subscriber identifiers of the pattern `extid-[^@]+@[^@]+`. -/
def isExtid (cs : List Char) : Bool :=
  cs.take 6 == "extid-".toList &&
    match (cs.drop 6).splitOn '@' with
    | [user, realm] => !user.isEmpty && !realm.isEmpty
    | _ => false

/-- The third alternative of the pattern is `.+`, and a dot matches all but a line feed. -/
def gpsiMatches (gpsi : String) : Bool :=
  isMsisdn gpsi.toList || isExtid gpsi.toList ||
    (!gpsi.toList.isEmpty && gpsi.toList.all (· ≠ '\n'))

def validateGPSI (gpsi : String) : Except ProblemDetails Unit :=
  if gpsi = "" then .error (validationProblem "gpsi" "GPSI is required")
  else if !gpsiMatches gpsi then
    .error (validationProblem "gpsi" ("must match pattern ^(msisdn-[0-9]\x7b5,15\x7d|" ++
      "extid-[^@]+@[^@]+|.+)$ (TS 29.571 §5.2.2)"))
  else .ok ()

/-- The subscriber identifiers of the pattern `imsi-[0-9]{5,15}`. -/
def isImsi (cs : List Char) : Bool :=
  cs.take 5 == "imsi-".toList && (cs.drop 5).all Char.isDigit &&
    5 ≤ (cs.drop 5).length && (cs.drop 5).length ≤ 15

def validateSUPI (supi : String) : Except ProblemDetails Unit :=
  if supi = "" then .error (validationProblem "supi" "SUPI is required")
  else if !isImsi supi.toList then
    .error (validationProblem "supi" ("must match pattern ^imsi-[0-9]\x7b5,15\x7d$ " ++
      "(IMSI-based SUPI, TS 29.571 §5.4.4.2)"))
  else .ok ()

def isHexDigit (c : Char) : Bool :=
  c.isDigit || ('A' ≤ c && c ≤ 'F') || ('a' ≤ c && c ≤ 'f')

def sdMatches (sd : String) : Bool := sd.toList.length == 6 && sd.toList.all isHexDigit

def validateSnssai (sst : ℤ) (sd : String) (missing : Bool) : Except ProblemDetails Unit :=
  if missing then
    .error (validationProblem "snssai" "snssai is required (TS 29.526 §7.2.2)")
  else if sst = 0 ∧ sd = "" then
    .error (validationProblem "snssai" "snssai.sst or snssai.sd must be provided")
  else if sst < 0 ∨ sst > 255 then
    .error (validationProblem "snssai.sst" "SST must be in range 0-255 (TS 29.571 §5.4.4.60)")
  else if sd ≠ "" ∧ !sdMatches sd then
    .error (validationProblem "snssai.sd"
      "SD must be exactly 6 hex characters if present (TS 29.571 §5.4.4.60)")
  else .ok ()

/-- The white space of Unicode. -/
def isSpace (c : Char) : Bool :=
  (9 ≤ c.toNat && c.toNat ≤ 13) || c.toNat == 0x20 || c.toNat == 0x85 || c.toNat == 0xA0 ||
    c.toNat == 0x1680 || (0x2000 ≤ c.toNat && c.toNat ≤ 0x200A) || c.toNat == 0x2028 ||
    c.toNat == 0x2029 || c.toNat == 0x202F || c.toNat == 0x205F || c.toNat == 0x3000

def validateAuthCtxID (id : String) : Except ProblemDetails Unit :=
  if id.toList.all isSpace then .error (validationProblem "authCtxId" "authCtxId is required")
  else if id.toList.any fun r => r.toNat < 0x20 || r.toNat == 0x7F then
    .error (validationProblem "authCtxId" "authCtxId contains invalid control characters")
  else .ok ()

/-! ## What a failed check says -/

/-- A problem is about one of `fields`. -/
def ProblemDetails.IsAbout (fields : List String) (p : ProblemDetails) : Prop :=
  ∃ field ∈ fields, ∃ reason, p = validationProblem field reason

theorem isAbout_of_mem {fields : List String} {field : String} (h : field ∈ fields)
    (reason : String) : (validationProblem field reason).IsAbout fields :=
  ⟨field, h, reason, rfl⟩

theorem isAbout_of_validateGPSI {gpsi : String} {p : ProblemDetails}
    (h : validateGPSI gpsi = .error p) : p.IsAbout ["gpsi"] := by
  unfold validateGPSI at h
  split_ifs at h <;> cases h <;> exact isAbout_of_mem (by decide) _

theorem isAbout_of_validateSUPI {supi : String} {p : ProblemDetails}
    (h : validateSUPI supi = .error p) : p.IsAbout ["supi"] := by
  unfold validateSUPI at h
  split_ifs at h <;> cases h <;> exact isAbout_of_mem (by decide) _

/-! A subscriber that passes the check is not the empty text. -/

theorem ne_empty_of_validateGPSI {gpsi : String} (h : validateGPSI gpsi = .ok ()) :
    gpsi ≠ "" := by
  rintro rfl
  cases h

theorem ne_empty_of_validateSUPI {supi : String} (h : validateSUPI supi = .ok ()) :
    supi ≠ "" := by
  rintro rfl
  cases h

theorem isAbout_of_validateSnssai {sst : ℤ} {sd : String} {missing : Bool} {p : ProblemDetails}
    (h : validateSnssai sst sd missing = .error p) :
    p.IsAbout ["snssai", "snssai.sst", "snssai.sd"] := by
  unfold validateSnssai at h
  split_ifs at h <;> cases h <;> exact isAbout_of_mem (by decide) _

theorem isAbout_of_validateAuthCtxID {id : String} {p : ProblemDetails}
    (h : validateAuthCtxID id = .error p) : p.IsAbout ["authCtxId"] := by
  unfold validateAuthCtxID at h
  split_ifs at h <;> cases h <;> exact isAbout_of_mem (by decide) _

/-- An octet is in the range of slice types, so only the differentiator of a slice that is given
can be refused. -/
theorem validateSnssai_ok_iff (sst : UInt8) (sd : String) :
    validateSnssai sst.toNat sd false = .ok () ↔
      if sd = "" then sst ≠ 0 else sdMatches sd = true := by
  have hlt : sst.toNat < 256 := sst.toNat_lt
  have hzero : (sst.toNat : ℤ) = 0 ↔ sst = 0 := by
    rw [← UInt8.toNat_inj]
    exact Int.natCast_eq_zero
  have hrange : ¬ ((sst.toNat : ℤ) < 0 ∨ (sst.toNat : ℤ) > 255) := by omega
  unfold validateSnssai
  rw [if_neg Bool.false_ne_true, if_neg hrange]
  simp only [hzero]
  by_cases hsd : sd = ""
  · by_cases hsst : sst = 0 <;> simp [hsd, hsst]
  · by_cases hm : sdMatches sd = true <;> simp [hsd, hm]

end NssAAF.Api
