import Aeon.L1Types.Ssrf

/-!
# Inbound authentication

`crates/aeon-types/src/auth/inbound.rs`. The skew of a timestamp is a wrapping `i64` difference.

* `verify_exact_iff`: when a request passes iff the condition of every declared mode holds, without
  overflow; and the canonical string is injective;
* `far_timestamp_accepted`: a timestamp `2^63` seconds old passes.
-/
namespace Aeon.Types.InboundAuth

open Function List Aeon.Core Aeon.Types.Secrets Aeon.Types.Ssrf

/-- mirrors hmac_sig.rs:33-52 -/
inductive HmacAlgorithm
  | hmacSha256 | hmacSha512

def HmacAlgorithm.hexLen : HmacAlgorithm → Nat
  | .hmacSha256 => 64
  | .hmacSha512 => 128

structure Hmac where
  digest : HmacAlgorithm → Bytes → Bytes → Bytes
  length_digest : ∀ a k m, 2 * (digest a k m).length = a.hexLen

/-- mirrors hmac_sig.rs:169-177 -/
def canonical (method path ts body : Bytes) : Bytes := method ++ 10 :: (path ++ 10 :: (ts ++ 10 :: body))

def hexValue (c : UInt8) : Option UInt8 :=
  if 48 ≤ c ∧ c ≤ 57 then some (c - 48)
  else if 97 ≤ c ∧ c ≤ 102 then some (c - 87)
  else if 65 ≤ c ∧ c ≤ 70 then some (c - 55)
  else none

def hexDecode : Bytes → Option Bytes
  | [] => some []
  | [_] => none
  | a :: b :: s =>
    match hexValue a, hexValue b, hexDecode s with
    | some x, some y, some l => some ((16 * x + y) :: l)
    | _, _, _ => none

inductive HmacVerifyError
  | signatureNotHex
  | signatureWrongLength (got expected : Nat)
  | signatureMismatch
  | emptySecret

variable (H : Hmac)

/-- mirrors hmac_sig.rs:102-142 -/
def verifyRequest (algo : HmacAlgorithm) (candidates : List Bytes) (method path ts body sig : Bytes) :
    Except HmacVerifyError Unit :=
  if candidates = [] ∨ candidates.all (· = []) then .error .emptySecret
  else if sig.length ≠ algo.hexLen then .error (.signatureWrongLength sig.length algo.hexLen)
  else
    match hexDecode sig with
    | none => .error .signatureNotHex
    | some expected =>
      if candidates.any fun s => s ≠ [] && H.digest algo s (canonical method path ts body) = expected then .ok
        ()
      else .error .signatureMismatch

/-- mirrors inbound.rs:63-68 -/
inductive InboundAuthMode
  | ipAllowlist | apiKey | hmac | mtls
  deriving DecidableEq

structure ApiKeyConfig where
  headerName : Str := "X-Aeon-Api-Key".toList
  keys : List Bytes

structure HmacConfig where
  signatureHeader : Str := "X-Aeon-Signature".toList
  timestampHeader : Str := "X-Aeon-Timestamp".toList
  secrets : List Bytes
  algorithm : HmacAlgorithm := .hmacSha256
  skewSeconds : Int := 300
  skew_lt : skewSeconds < 2 ^ 63 := by decide

/-- mirrors inbound.rs:262-279 -/
structure InboundAuthConfig where
  modes : List InboundAuthMode
  ipAllowlist : Option (List IpNet) := none
  apiKey : Option ApiKeyConfig := none
  hmac : Option HmacConfig := none
  mtls : Option (List Str) := none

inductive InboundAuthBuildError
  | modeConfigMissing (mode : InboundAuthMode)
  | ipAllowlistEmpty | apiKeyEmpty | hmacSecretsEmpty
  | hmacSkewInvalid (got : Int)

def Compiled : InboundAuthMode → Type
  | .ipAllowlist => List IpNet
  | .apiKey => ApiKeyConfig
  | .hmac => HmacConfig
  | .mtls => List Str

variable (cfg : InboundAuthConfig)

/-- mirrors inbound.rs:422-487 -/
def compile : (m : InboundAuthMode) → Except InboundAuthBuildError (Compiled m)
  | .ipAllowlist =>
    match cfg.ipAllowlist with
    | none => .error (.modeConfigMissing .ipAllowlist)
    | some cidrs => if cidrs = [] then .error .ipAllowlistEmpty else .ok cidrs
  | .apiKey =>
    match cfg.apiKey with
    | none => .error (.modeConfigMissing .apiKey)
    | some c => if c.keys = [] ∨ c.keys.all (· = []) then .error .apiKeyEmpty
      else .ok { c with keys := c.keys.filter (· ≠ []) }
  | .hmac =>
    match cfg.hmac with
    | none => .error (.modeConfigMissing .hmac)
    | some c =>
      if c.secrets = [] ∨ c.secrets.all (· = []) then .error .hmacSecretsEmpty
      else if c.skewSeconds ≤ 0 then .error (.hmacSkewInvalid c.skewSeconds)
      else .ok { c with secrets := c.secrets.filter (· ≠ []) }
  | .mtls =>
    match cfg.mtls with
    | none => .error (.modeConfigMissing .mtls)
    | some subjects => .ok subjects

structure InboundAuthVerifier where
  modes : List InboundAuthMode
  block : (m : InboundAuthMode) → Option (Compiled m)

def compileAll (cfg : InboundAuthConfig) : List InboundAuthMode →
    ((m : InboundAuthMode) → Option (Compiled m)) →
    Except InboundAuthBuildError ((m : InboundAuthMode) → Option (Compiled m))
  | [], block => .ok block
  | m :: ms, block =>
    match compile cfg m with
    | .error e => .error e
    | .ok c => compileAll cfg ms (update block m (some c))

/-- mirrors inbound.rs:415-497 -/
def build : Except InboundAuthBuildError InboundAuthVerifier :=
  match compileAll cfg cfg.modes (fun _ => none) with
  | .error e => .error e
  | .ok block => .ok ⟨cfg.modes, block⟩

structure AuthContext where
  peerIp : IpAddr
  method : Bytes
  path : Bytes
  body : Bytes
  headers : List (Str × Bytes)
  nowUnix : Int
  clientCertSubjects : Option (List Str)

variable (ctx : AuthContext)

/-- mirrors inbound.rs:331-336 -/
def AuthContext.header (name : Str) : Option Bytes :=
  (ctx.headers.find? fun h => h.1.map Char.toLower = name.map Char.toLower).map Prod.snd

inductive AuthRejection
  | ipNotAllowed (peerIp : IpAddr)
  | apiKeyMissing | apiKeyInvalid
  | hmacSignatureMissing | hmacTimestampMissing | hmacTimestampMalformed
  | hmacClockSkew (skewSeconds windowSeconds : Int)
  | hmacInvalid | hmacMalformed
  | mtlsMissing
  | mtlsSubjectNotAllowed (subject : Str)
  | mtlsSubjectAllowListEmpty
  deriving DecidableEq

/-- mirrors inbound.rs:640-649 -/
def constantTimeEq (a b : Bytes) : Bool :=
  a.length = b.length && (zip a b).foldl (fun diff e => diff ||| (e.1 ^^^ e.2)) 0 = 0

def parseI64 (s : Bytes) : Option Int :=
  let digits := if s.head? = some 43 ∨ s.head? = some 45 then s.tail else s
  let n : Nat := digits.foldl (fun n c => 10 * n + (c.toNat - 48)) 0
  let v : Int := if s.head? = some 45 then -n else n
  if digits ≠ [] ∧ digits.all (fun c => 48 ≤ c && c ≤ 57) ∧ -2 ^ 63 ≤ v ∧ v < 2 ^ 63 then some v else none

def skewOf (now ts : Int) : Int := Int.bmod ((now - ts).bmod (2 ^ 64)).natAbs (2 ^ 64)

/-- mirrors inbound.rs:518-637 -/
def check : (m : InboundAuthMode) → Compiled m → Except AuthRejection Unit
  | .ipAllowlist, (cidrs : List IpNet) =>
    if cidrs.any (·.contains ctx.peerIp) then .ok () else .error (.ipNotAllowed ctx.peerIp)
  | .apiKey, (cfg : ApiKeyConfig) =>
    match ctx.header cfg.headerName with
    | none => .error .apiKeyMissing
    | some presented => if cfg.keys.any (constantTimeEq presented) then .ok () else .error .apiKeyInvalid
  | .hmac, (cfg : HmacConfig) =>
    match ctx.header cfg.signatureHeader with
    | none => .error .hmacSignatureMissing
    | some sig =>
      match ctx.header cfg.timestampHeader with
      | none => .error .hmacTimestampMissing
      | some tsBytes =>
        match parseI64 tsBytes with
        | none => .error .hmacTimestampMalformed
        | some ts =>
          if skewOf ctx.nowUnix ts > cfg.skewSeconds then .error
            (.hmacClockSkew (skewOf ctx.nowUnix ts) cfg.skewSeconds)
          else
            match verifyRequest H cfg.algorithm cfg.secrets ctx.method ctx.path tsBytes ctx.body sig with
            | .ok () => .ok ()
            | .error .signatureMismatch | .error .emptySecret => .error .hmacInvalid
            | .error .signatureNotHex | .error (.signatureWrongLength _ _) => .error .hmacMalformed
  | .mtls, (allowlist : List Str) =>
    match ctx.clientCertSubjects with
    | none | some [] => .error .mtlsMissing
    | some (s :: subjects) =>
      if allowlist = [] then .error .mtlsSubjectAllowListEmpty
      else if (s :: subjects).any (· ∈ allowlist) then .ok ()
      else .error (.mtlsSubjectNotAllowed s)

/-- mirrors inbound.rs:506-516 -/
def verifyModes (block : (m : InboundAuthMode) → Option (Compiled m)) (ctx : AuthContext) :
    List InboundAuthMode → Except AuthRejection Unit
  | [] => .ok ()
  | m :: ms =>
    match (block m).elim (.ok ()) (check H ctx m) with
    | .error e => .error e
    | .ok () => verifyModes block ctx ms

def verify (v : InboundAuthVerifier) (ctx : AuthContext) : Except AuthRejection Unit :=
  verifyModes H v.block ctx v.modes

def AuthContext.Presents (c : HmacConfig) (tsBytes : Bytes) (ts : Int) : Prop :=
  ctx.header c.timestampHeader = some tsBytes ∧ parseI64 tsBytes = some ts

def Holds (skew : Int → Int → Int) (usable : Bytes → Prop) (cfg : InboundAuthConfig) (ctx : AuthContext) :
    InboundAuthMode → Prop
  | .ipAllowlist => ∃ cidrs, cfg.ipAllowlist = some cidrs ∧ ∃ net ∈ cidrs, net.contains ctx.peerIp
  | .apiKey => ∃ c, cfg.apiKey = some c ∧ ∃ key ∈ c.keys, usable key ∧ ctx.header c.headerName = some key
  | .hmac => ∃ c, cfg.hmac = some c ∧ ∃ sig tsBytes ts, ctx.header c.signatureHeader = some sig ∧
      ctx.Presents c tsBytes ts ∧ skew ctx.nowUnix ts ≤ c.skewSeconds ∧ ∃ s ∈ c.secrets, usable s ∧
      hexDecode sig = some (H.digest c.algorithm s (canonical ctx.method ctx.path tsBytes ctx.body))
  | .mtls => ∃ allowlist, cfg.mtls = some allowlist ∧ ∃ subjects, ctx.clientCertSubjects = some subjects ∧
      ∃ s ∈ subjects, s ∈ allowlist

def distance (now ts : Int) : Int := (now - ts).natAbs

def InRange (now ts : Int) : Prop := -2 ^ 63 < now - ts ∧ now - ts < 2 ^ 63

def Overflows (v : InboundAuthVerifier) (ctx : AuthContext) : Prop :=
  ∃ before after c sig tsBytes ts, v.modes = before ++ .hmac :: after ∧
    verifyModes H v.block ctx before = .ok () ∧
    v.block .hmac = some (c : HmacConfig) ∧ ctx.header c.signatureHeader = some sig ∧
    ctx.Presents c tsBytes ts ∧
    ¬ InRange ctx.nowUnix ts

def TimestampsFit : Prop :=
  ∀ before after, cfg.modes = before ++ .hmac :: after → (∀ m ∈ before, Holds H skewOf (· ≠ []) cfg ctx m) →
    ∀ c sig tsBytes ts, cfg.hmac = some c → ctx.header c.signatureHeader = some sig →
      ctx.Presents c tsBytes ts → InRange ctx.nowUnix ts

variable {H}

lemma foldl_or_eq_zero (l : List (UInt8 × UInt8)) (d : UInt8) :
    l.foldl (fun diff e => diff ||| (e.1 ^^^ e.2)) d = 0 ↔ d = 0 ∧ ∀ e ∈ l, e.1 = e.2 := by
  induction l generalizing d with
  | nil => simp
  | cons e l ih => rw [foldl_cons, ih, UInt8.or_eq_zero_iff, UInt8.xor_eq_zero_iff]; simp [and_assoc]

lemma constantTimeEq_iff : constantTimeEq a b ↔ a = b := by
  rw [constantTimeEq, Bool.and_eq_true, decide_eq_true_iff, decide_eq_true_iff, foldl_or_eq_zero]
  constructor
  · rintro ⟨hl, -, he⟩
    exact ext_getElem hl fun i h h' => he _
      (mem_iff_getElem.mpr ⟨i, by rw [length_zip]; exact lt_min h h', getElem_zip⟩)
  · rintro rfl
    refine ⟨rfl, rfl, fun e he => ?_⟩
    obtain ⟨i, hi, rfl⟩ := mem_iff_getElem.mp he
    rw [getElem_zip]

lemma length_of_hexDecode : ∀ {s b : Bytes}, hexDecode s = some b → s.length = 2 * b.length
  | [], _, h => by cases h; rfl
  | [_], _, h => by cases h
  | x :: y :: s, _, h => by
    rw [hexDecode] at h
    split at h
    · rename_i hs
      cases h
      rw [length_cons, length_cons, length_cons, length_of_hexDecode hs]; omega
    · cases h

lemma verifyRequest_iff (algo : HmacAlgorithm) {secrets : List Bytes} (method path ts body sig : Bytes)
    (hne : ¬ (secrets = [] ∨ secrets.all (· = []))) :
    verifyRequest H algo (secrets.filter (· ≠ [])) method path ts body sig = .ok () ↔
      ∃ s ∈ secrets, s ≠ [] ∧ hexDecode sig = some (H.digest algo s (canonical method path ts body)) := by
  have hf : ¬ (secrets.filter (· ≠ []) = [] ∨ (secrets.filter (· ≠ [])).all (· = [])) := by
    simp only [all_eq_true, decide_eq_true_eq, not_or, not_forall] at hne
    obtain ⟨-, s, hs, hn⟩ := hne
    have hm : s ∈ secrets.filter (· ≠ []) := mem_filter.mpr ⟨hs, decide_eq_true hn⟩
    rintro (h | h)
    · exact not_mem_nil (h ▸ hm)
    · exact hn (by simpa using all_eq_true.mp h s hm)
  rw [verifyRequest, if_neg hf]
  constructor
  · intro h
    split_ifs at h with hl
    split at h
    · cases h
    · split_ifs at h with ha
      obtain ⟨s, hs, he⟩ := any_eq_true.mp ha
      simp only [ne_eq, Bool.and_eq_true, decide_eq_true_eq] at he
      exact ⟨s, mem_of_mem_filter hs, he.1, he.2 ▸ by assumption⟩
  · rintro ⟨s, hs, hn, hd⟩
    rw [if_neg (not_not.mpr ((length_of_hexDecode hd).trans (H.length_digest _ _ _))), hd]
    exact if_pos (any_eq_true.mpr ⟨s, mem_filter.mpr ⟨hs, decide_eq_true hn⟩, by simp [hn]⟩)

lemma bmod_natAbs (h₁ : -2 ^ 63 < d) (h₂ : d < 2 ^ 63) :
    Int.bmod (d.bmod (2 ^ 64)).natAbs (2 ^ 64) = d.natAbs := by
  have hd : d.bmod (2 ^ 64) = d := Int.bmod_eq_of_le (by omega) (by omega)
  have hn : ∀ n : Nat, n < 2 ^ 63 → Int.bmod n (2 ^ 64) = n :=
    fun n hn => Int.bmod_eq_of_le (by omega) (by omega)
  rw [hd, hn _ (by omega)]

lemma skewOf_eq {now ts : Int} (h : InRange now ts) : skewOf now ts = (now - ts).natAbs := bmod_natAbs h.1 h.2

lemma inRange_of_distance {now ts : Int} {c : HmacConfig} (h : distance now ts ≤ c.skewSeconds) :
    InRange now ts := by
  have := c.skew_lt; unfold distance at h; constructor <;> omega

variable {cfg : InboundAuthConfig} {ctx : AuthContext} {m : InboundAuthMode}

lemma check_iff {c : Compiled m} (hc : compile cfg m = .ok c) :
    check H ctx m c = .ok () ↔ Holds H skewOf (· ≠ []) cfg ctx m := by
  cases m with
  | ipAllowlist =>
    rw [compile] at hc
    split at hc
    · cases hc
    · rename_i h
      split_ifs at hc
      obtain rfl := Except.ok.inj hc
      simp [check, Holds, h]
  | apiKey =>
    rw [compile] at hc
    split at hc
    · cases hc
    · rename_i k h
      split_ifs at hc
      cases hc
      cases hk : ctx.header k.headerName <;> simp [check, Holds, h, hk, constantTimeEq_iff, and_comm]
  | hmac =>
    rw [compile] at hc
    split at hc
    · cases hc
    · rename_i k h
      split_ifs at hc with hs
      cases hc
      simp only [check, Holds, h, Option.some.injEq, exists_eq_left', AuthContext.Presents]
      cases ctx.header k.signatureHeader with
      | none => simp
      | some sig =>
        cases ht : ctx.header k.timestampHeader with
        | none => simp
        | some tsBytes =>
          cases hp : parseI64 tsBytes with
          | none => simp +contextual [hp]
          | some ts =>
            have hv := verifyRequest_iff (H := H) k.algorithm ctx.method ctx.path tsBytes ctx.body sig hs
            simp only [hp]
            constructor
            · intro ha
              split_ifs at ha with hk
              split at ha
              · exact ⟨sig, tsBytes, ts, rfl, ⟨rfl, hp⟩, Int.not_lt.mp hk, hv.mp (by assumption)⟩
              all_goals cases ha
            · rintro ⟨_, _, ts', ⟨⟩, ⟨⟨⟩, hts⟩, hle, hm⟩
              obtain rfl := Option.some.inj (hp.symm.trans hts)
              rw [if_neg (show ¬ _ > _ from Int.not_lt.mpr hle), hv.mpr hm]
  | mtls =>
    rw [compile] at hc
    split at hc
    · cases hc
    · rename_i allowlist h
      obtain rfl := Except.ok.inj hc
      rcases hs : ctx.clientCertSubjects with _ | _ | ⟨s, subjects⟩
      · simp [check, Holds, h, hs]
      · simp [check, Holds, h, hs]
      · by_cases ha : allowlist = []
        · simp [check, Holds, h, hs, ha]
        · simpa [check, Holds, h, hs, ha] using or_iff_not_imp_left.symm

variable {ms : List InboundAuthMode}

lemma compileAll_spec {block block' : (m : InboundAuthMode) → Option (Compiled m)}
    (h : compileAll cfg ms block = .ok block') : ∀ m,
    (m ∈ ms ∨ ∃ c, compile cfg m = .ok c ∧ block m = some c) → ∃ c, compile cfg m = .ok c ∧
    block' m = some c := by
  induction ms generalizing block with
  | nil => cases h; intro m hm; exact hm.resolve_left not_mem_nil
  | cons m₀ ms ih =>
    rw [compileAll] at h
    split at h
    · cases h
    · rename_i c hc
      intro m hm
      refine ih h m ?_
      by_cases he : m = m₀
      · subst he; exact .inr ⟨c, hc, update_self ..⟩
      · rw [update_of_ne he]; exact hm.imp_left fun h => (mem_cons.mp h).resolve_left he

lemma verifyModes_iff {block : (m : InboundAuthMode) → Option (Compiled m)} :
    verifyModes H block ctx ms = .ok () ↔ ∀ m ∈ ms, (block m).elim (.ok ()) (check H ctx m) = .ok () := by
  induction ms with
  | nil => simp [verifyModes]
  | cons m ms ih =>
    rw [verifyModes, forall_mem_cons, ← ih]
    split <;> simp_all

lemma cut_newline {a b a' b' : Bytes} (ha : 10 ∉ a) (ha' : 10 ∉ a') (h : a ++ 10 :: b = a' ++ 10 :: b') :
    a = a' ∧ b = b' :=
  Prod.mk.inj (Option.some.inj ((cutAt_append b ha).symm.trans
    ((congrArg (cutAt 10) h).trans (cutAt_append b' ha'))))

lemma build_spec {v : InboundAuthVerifier} (h : build cfg = .ok v) :
    v.modes = cfg.modes ∧ ∀ m ∈ cfg.modes, ∃ c, compile cfg m = .ok c ∧ v.block m = some c := by
  rw [build] at h
  split at h
  · cases h
  · rename_i block hb
    cases h
    exact ⟨rfl, fun m hm => compileAll_spec hb m (.inl hm)⟩

lemma verifyModes_built {v : InboundAuthVerifier} (h : build cfg = .ok v) (hms : ms ⊆ cfg.modes) :
    verifyModes H v.block ctx ms = .ok () ↔ ∀ m ∈ ms, Holds H skewOf (· ≠ []) cfg ctx m := by
  rw [verifyModes_iff]
  refine forall₂_congr fun m hm => ?_
  obtain ⟨c, hc, hbm⟩ := (build_spec h).2 m (hms hm)
  simp only [hbm]
  exact check_iff hc

lemma verify_built {v : InboundAuthVerifier} (h : build cfg = .ok v) :
    verify H v ctx = .ok () ↔ ∀ m ∈ cfg.modes, Holds H skewOf (· ≠ []) cfg ctx m := by
  rw [verify, (build_spec h).1, verifyModes_built h (Subset.refl _)]

lemma Holds.mono {skew skew' : Int → Int → Int} {usable usable' : Bytes → Prop}
    (h : Holds H skew usable cfg ctx m)
    (hu : ∀ s, usable s → usable' s)
    (hs : m = .hmac → ∀ c sig tsBytes ts, cfg.hmac = some c → ctx.header c.signatureHeader = some sig →
      ctx.Presents c tsBytes ts → skew ctx.nowUnix ts ≤ c.skewSeconds →
      skew' ctx.nowUnix ts ≤ c.skewSeconds) :
    Holds H skew' usable' cfg ctx m := by
  cases m with
  | ipAllowlist => exact h
  | apiKey => obtain ⟨c, hc, key, hk, hne, hh⟩ := h; exact ⟨c, hc, key, hk, hu key hne, hh⟩
  | hmac =>
    obtain ⟨c, hc, sig, tsBytes, ts, hsig, hts, hle, s, hm, hne, hd⟩ := h
    exact ⟨c, hc, sig, tsBytes, ts, hsig, hts, hs rfl c sig tsBytes ts hc hsig hts hle, s, hm, hu s hne, hd⟩
  | mtls => exact h

lemma compiled_hmac {c' : HmacConfig} (h : compile cfg .hmac = .ok c') : ∃ c, cfg.hmac = some c ∧
    c'.signatureHeader = c.signatureHeader ∧ c'.timestampHeader = c.timestampHeader := by
  rw [compile] at h
  split at h
  · cases h
  · rename_i c hc
    split_ifs at h
    cases h
    exact ⟨c, hc, rfl, rfl⟩

lemma not_overflows_iff {v : InboundAuthVerifier} (hv : build cfg = .ok v) :
    ¬ Overflows H v ctx ↔ TimestampsFit H cfg ctx := by
  obtain ⟨hmo, hbl⟩ := build_spec hv
  have hms : ∀ {before after}, cfg.modes = before ++ .hmac :: after → before ⊆ cfg.modes ∧
    .hmac ∈ cfg.modes :=
    fun h => by rw [h]; exact ⟨subset_append_left _ _, by simp⟩
  constructor
  · intro hn before after hm hall c sig tsBytes ts hc hsig hts
    by_contra hr
    obtain ⟨c', hc', hb⟩ := hbl .hmac (hms hm).2
    obtain ⟨c₀, h₀, hs, ht⟩ := compiled_hmac hc'
    obtain rfl := Option.some.inj (h₀.symm.trans hc)
    exact hn ⟨before, after, c', sig, tsBytes, ts, hmo.trans hm, (verifyModes_built hv (hms hm).1).mpr hall,
      hb,
      hs ▸ hsig, ⟨ht ▸ hts.1, hts.2⟩, hr⟩
  · rintro h ⟨before, after, c', sig, tsBytes, ts, hm, hok, hb, hsig, hts, hr⟩
    rw [hmo] at hm
    obtain ⟨c₀, hc', hb'⟩ := hbl .hmac (hms hm).2
    obtain rfl := Option.some.inj (hb'.symm.trans hb)
    obtain ⟨c, hc, hs, ht⟩ := compiled_hmac hc'
    exact hr (h before after hm ((verifyModes_built hv (hms hm).1).mp hok) c sig tsBytes ts hc (hs ▸ hsig)
      ⟨ht ▸ hts.1, hts.2⟩)

lemma TimestampsFit.holds (h : TimestampsFit H cfg ctx) {usable : Bytes → Prop} (hu : ∀ s, s ≠ [] → usable s)
    (hok : ∀ m ∈ cfg.modes, Holds H skewOf (· ≠ []) cfg ctx m) :
    ∀ m ∈ cfg.modes, Holds H distance usable cfg ctx m := by
  refine fun m hm => (hok m hm).mono hu ?_
  rintro rfl c sig tsBytes ts hc hsig hts hle
  obtain ⟨before, after, hsp⟩ := append_of_mem hm
  have hr := h before after hsp (fun m hm => hok m (hsp ▸ mem_append_left _ hm)) c sig tsBytes ts hc hsig hts
  rwa [distance, ← skewOf_eq hr]

theorem verify_exact_iff {v : InboundAuthVerifier} (hv : build cfg = .ok v) (ctx : AuthContext) :
    (((verify H v ctx = .ok () ↔ ∀ m ∈ cfg.modes, Holds H distance (fun _ => True) cfg ctx m) ∧
      ¬ Overflows H v ctx) ↔
      TimestampsFit H cfg ctx ∧ ((∀ m ∈ cfg.modes, Holds H distance (fun _ => True) cfg ctx m) →
        ∀ m ∈ cfg.modes, Holds H distance (· ≠ []) cfg ctx m)) ∧
    ∀ method path ts body method' path' ts' body' : Bytes, 10 ∉ method → 10 ∉ path → 10 ∉ ts → 10 ∉ method' →
      10 ∉ path' → 10 ∉ ts' → canonical method path ts body = canonical method' path' ts' body' →
      method = method' ∧ path = path' ∧ ts = ts' ∧ body = body' := by
  constructor
  · rw [not_overflows_iff hv, verify_built hv]
    constructor
    · rintro ⟨he, hr⟩
      exact ⟨hr, fun hp => hr.holds (fun _ h => h) (he.mpr hp)⟩
    · rintro ⟨hr, hne⟩
      refine ⟨⟨hr.holds fun _ _ => trivial, fun hp m hm => (hne hp m hm).mono (fun _ h => h) ?_⟩, hr⟩
      intro _ c _ _ ts _ _ _ hle
      rwa [skewOf_eq (inRange_of_distance hle)]
  · intro method path ts body method' path' ts' body' hm hp ht hm' hp' ht' h
    obtain ⟨rfl, h₁⟩ := cut_newline hm hm' h
    obtain ⟨rfl, h₂⟩ := cut_newline hp hp' h₁
    obtain ⟨rfl, rfl⟩ := cut_newline ht ht' h₂
    exact ⟨rfl, rfl, rfl, rfl⟩

def echo : Hmac where
  digest a k m := (k ++ m ++ replicate 64 0).take (a.hexLen / 2)
  length_digest a k m := by
    cases a <;> simp only [HmacAlgorithm.hexLen, length_take, length_append, length_replicate] <;> omega

def hexEncode (b : Bytes) : Bytes :=
  let nibble (n : UInt8) : UInt8 := if n < 10 then 48 + n else 87 + n
  b.flatMap fun c => [nibble (c / 16), nibble (c % 16)]

def signedOnly : InboundAuthConfig where
  modes := [.hmac]
  hmac := some { secrets := [[1]] }

def signedAt (ts : String) (now : Int) : AuthContext :=
  let t : Bytes := ts.toList.map fun c => c.toNat.toUInt8
  let sig := hexEncode (echo.digest .hmacSha256 [1] (canonical [] [] t []))
  ⟨.v4 0, [], [], [], [("X-Aeon-Timestamp".toList, t), ("X-Aeon-Signature".toList, sig)], now, none⟩

def allModes : InboundAuthConfig where
  modes := [.ipAllowlist, .apiKey, .hmac, .mtls]
  ipAllowlist := some [⟨(· = .v4 0)⟩]
  apiKey := some { keys := [[], [5]] }
  hmac := some { secrets := [[], [1]] }
  mtls := some ["a".toList]

def presented (ts : String) (now : Int) : AuthContext :=
  let ctx := signedAt ts now
  { ctx with headers := ("x-aeon-api-key".toList, [5]) :: ctx.headers, clientCertSubjects := some ["b".toList,
    "a".toList] }

theorem verify_exact_all : ∃ v, build allModes = .ok v ∧ verify echo v (presented "100" 120) = .ok () ∧
    (∀ m ∈ allModes.modes, Holds echo distance (fun _ => True) allModes (presented "100" 120) m) ∧
    ¬ Overflows echo v (presented "100" 120) := by
  obtain ⟨v, hv, hok⟩ : ∃ v, build allModes = .ok v ∧ verify echo v (presented "100" 120) = .ok () :=
    ⟨_, rfl, by decide⟩
  have hr : TimestampsFit echo allModes (presented "100" 120) := by
    intro _ _ _ _ c _ tsBytes ts hc _ hp
    obtain rfl := Option.some.inj hc
    obtain rfl := Option.some.inj hp.1
    obtain rfl := Option.some.inj hp.2
    exact ⟨by decide, by decide⟩
  obtain ⟨he, ho⟩ := (verify_exact_iff hv (presented "100" 120)).1.mpr
    ⟨hr, fun _ => hr.holds (fun _ h => h) ((verify_built hv).mp hok)⟩
  exact ⟨v, hv, hok, he.mp hok, ho⟩

theorem far_timestamp_accepted : ∃ v, build signedOnly = .ok v ∧
    verify echo v (signedAt "-9223372036854775808" 0) = .ok () ∧
    ¬ ((0 : Int) - (-9223372036854775808)).natAbs ≤ (300 : Int) :=
  ⟨_, rfl, by decide, by decide⟩

end Aeon.Types.InboundAuth
