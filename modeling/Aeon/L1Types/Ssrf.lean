import Aeon.L1Types.Secrets

/-!
# The SSRF guard

`crates/aeon-types/src/ssrf.rs` and `HttpSink::new`, which judges the answers of one lookup that the
client does not use.

* `guard_holds`: a sink keeps to accepted addresses while lookups do not change and no server
  redirects;
* `guard_bypassed`: `::ffff:127.0.0.1`, and a host that changes its answer.
-/
namespace Aeon.Types.Ssrf

open List Aeon.Types.Secrets

inductive IpAddr
  | v4 (a : BitVec 32)
  | v6 (a : BitVec 128)
  deriving DecidableEq

def top {w : Nat} (n : Nat) (a : BitVec w) : Nat := a.toNat / 2 ^ (w - n)

structure IpNet where
  contains : IpAddr → Bool

def mapped (a : BitVec 32) : IpAddr := .v6 (.ofNat 128 (0xffff * 2 ^ 32 + a.toNat))

abbrev SocketAddr := IpAddr × Nat

/-- mirrors ssrf.rs:137-147 -/
def alwaysDeniedHosts : List IpAddr := [.v4 0xa9fea9fe, .v4 0x646464c8, .v4 0xa9fea9fd, .v4 0xc00000c0]

namespace IpAddr

def isUnspecified : IpAddr → Bool
  | v4 a => a = 0
  | v6 a => a = 0

def isMulticast : IpAddr → Bool
  | v4 a => top 4 a = 0xe
  | v6 a => top 8 a = 0xff

def isBroadcast : IpAddr → Bool
  | v4 a => a = 0xffffffff
  | v6 _ => false

/-- mirrors ssrf.rs:317-319 -/
def isLoopback : IpAddr → Bool
  | v4 a => top 8 a = 127
  | v6 a => a = 1

/-- mirrors ssrf.rs:321-326, 347-349 -/
def isPrivate : IpAddr → Bool
  | v4 a => top 8 a = 10 || top 12 a = 0xac1 || top 16 a = 0xc0a8
  | v6 a => top 7 a = 0x7e

/-- mirrors ssrf.rs:328-333, 352-354 -/
def isLinkLocal : IpAddr → Bool
  | v4 a => top 16 a = 0xa9fe
  | v6 a => top 10 a = 0x3fa

/-- mirrors ssrf.rs:335-344 -/
def isCgnat : IpAddr → Bool
  | v4 a => top 10 a = 0x191
  | v6 _ => false

end IpAddr

/-- mirrors ssrf.rs:96-121, 153-162 -/
structure SsrfPolicy where
  allowLoopback : Bool := false
  allowPrivate : Bool := true
  allowLinkLocal : Bool := false
  allowCgnat : Bool := false
  extraDeny : List IpNet := []
  extraAllow : List IpNet := []

variable (p : SsrfPolicy)

/-- mirrors ssrf.rs:195-244 -/
def checkAddr (ip : IpAddr) : Except String Unit :=
  if ip ∈ alwaysDeniedHosts then .error "cloud-metadata endpoint (always denied)"
  else if ip.isUnspecified then .error "unspecified address (0.0.0.0 / ::)"
  else if ip.isMulticast then .error "multicast address"
  else if ip.isBroadcast then .error "broadcast address"
  else if p.extraDeny.any (·.contains ip) then .error "operator extra_deny match"
  else if p.extraAllow.any (·.contains ip) then .ok ()
  else if ip.isLoopback && !p.allowLoopback then .error "loopback address (allow_loopback=false)"
  else if ip.isLinkLocal && !p.allowLinkLocal then .error "link-local address (allow_link_local=false)"
  else if ip.isCgnat && !p.allowCgnat then .error "CGNAT 100.64.0.0/10 (allow_cgnat=false)"
  else if ip.isPrivate && !p.allowPrivate then .error "private address (allow_private=false)"
  else .ok ()

def Accepted (a : SocketAddr) : Prop := checkAddr p a.1 = .ok ()

inductive SsrfError
  | urlParseFailed (url : Str) (reason : String)
  | resolutionFailed (host : Str) (source : String)
  | addressDenied (host : Str) (firstDenied : IpAddr) (reason : String)
  | noAddresses (host : Str)
  deriving DecidableEq

def sift : List SocketAddr → List SocketAddr × Option (IpAddr × String) → List SocketAddr × Option
    (IpAddr × String)
  | [], r => r
  | a :: as, (allowed, firstDenied) =>
    match checkAddr p a.1 with
    | .ok () => sift as (allowed ++ [a], firstDenied)
    | .error reason => sift as (allowed, firstDenied.or (some (a.1, reason)))

abbrev Lookup := Str → Nat → Except String (List SocketAddr)

/-- mirrors ssrf.rs:251-299 -/
def checkHost (dns : Lookup) (host : Str) (port : Nat) : Except SsrfError (List SocketAddr) :=
  match dns host port with
  | .error e => .error (.resolutionFailed host e)
  | .ok [] => .error (.noAddresses host)
  | .ok addrs =>
    match sift p addrs ([], none) with
    | ([], some (ip, reason)) => .error (.addressDenied host ip reason)
    | ([], none) => .error (.noAddresses host)
    | (allowed, _) => .ok allowed

def splitOnce (pat : Str) : Str → Option (Str × Str)
  | [] => none
  | c :: cs => if pat.isPrefixOf (c :: cs) then some ([], (c :: cs).drop pat.length)
    else (splitOnce pat cs).map fun r => (c :: r.1, r.2)

def rsplitOnce (d : Char) (s : Str) : Option (Str × Str) :=
  (cutAt d s.reverse).map fun r => (r.2.reverse, r.1.reverse)

def parsePort (s : Str) : Option Nat :=
  let digits := if s.head? = some '+' then s.tail else s
  let n := digits.foldl (fun n c => 10 * n + (c.toNat - 48)) 0
  if digits ≠ [] ∧ digits.all Char.isDigit ∧ n < 65536 then some n else none

/-- mirrors ssrf.rs:418-435 -/
def defaultPort (scheme : Str) : Option Nat :=
  [("http", 80), ("ws", 80), ("https", 443), ("wss", 443), ("amqp", 5672), ("amqps", 5671), ("redis", 6379),
    ("rediss", 6380), ("nats", 4222), ("mqtt", 1883), ("mqtts", 8883), ("postgres", 5432),
    ("postgresql", 5432),
    ("mysql", 3306), ("mongodb", 27017), ("mongodb+srv", 27017)].findSome? fun e =>
      if e.1.toList = scheme then some e.2 else none

/-- mirrors ssrf.rs:368-416 -/
def parseHostPort (url : Str) : Option (Str × Nat) := do
  let (scheme, rest) ← splitOnce "://".toList url
  if scheme = [] ∨ rest = [] then none
  let authority := rest.takeWhile (· ∉ ['/', '?', '#'])
  if authority = [] then none
  let hostPort := (rsplitOnce '@' authority).elim authority Prod.snd
  if hostPort.head? = some '[' then
    let (host, after) ← cutAt ']' hostPort.tail
    if host = [] then none
    if after.head? = some ':' then return (host, ← parsePort after.tail)
    if after = [] then return (host, ← defaultPort scheme)
    none
  else
    let (host, port) ← match rsplitOnce ':' hostPort with
      | some (h, port) => (parsePort port).map (h, ·)
      | none => (defaultPort scheme).map (hostPort, ·)
    if host = [] then none
    return (host, port)

/-- mirrors ssrf.rs:304-310 -/
def checkUrl (dns : Lookup) (url : Str) : Except SsrfError (List SocketAddr) :=
  match parseHostPort url with
  | none => .error (.urlParseFailed url "missing scheme, host, or port")
  | some (host, port) => checkHost p dns host port

structure HttpSinkConfig where
  url : Str
  ssrfPolicy : SsrfPolicy

structure Client where
  parseUrl : Str → Option (Str × Nat)
  dns : Nat → Nat → Lookup
  redirect : Nat → Nat → SocketAddr → Option Str

/-- mirrors crates/aeon-connectors/src/http/sink.rs:98-152 -/
def HttpSink.new (C : Client) (dns : Lookup) (cfg : HttpSinkConfig) :
    Except (SsrfError ⊕ String) HttpSinkConfig :=
  match checkUrl cfg.ssrfPolicy dns cfg.url with
  | .error e => .error (.inl e)
  | .ok _ => if (C.parseUrl cfg.url).isSome then .ok cfg else .error (.inr "http sink url parse failed")

def Client.answers (C : Client) (i k : Nat) (url : Str) : List SocketAddr :=
  match C.parseUrl url with
  | none => []
  | some (host, port) => ((C.dns i k host port).toOption).getD []

/-- mirrors sink.rs:171-225 -/
inductive Visits (C : Client) (sink : HttpSinkConfig) (i : Nat) : Nat → Str → Prop
  | first : Visits C sink i 0 sink.url
  | next {k : Nat} {url url' : Str} {a : SocketAddr} (h : Visits C sink i k url) (ha : a ∈ C.answers i k url)
      (hr : C.redirect i k a = some url') (hk : k < 10) : Visits C sink i (k + 1) url'

def Sends (C : Client) (sink : HttpSinkConfig) (a : SocketAddr) : Prop :=
  ∃ i k url, Visits C sink i k url ∧ a ∈ C.answers i k url

variable {p}

lemma top_eq_zero {n : Nat} {b : BitVec 128} (hb : b.toNat < 2 ^ 48) (hn : n ≤ 80) : top n b = 0 :=
  Nat.div_eq_of_lt (hb.trans_le (Nat.pow_le_pow_right (by decide) (by omega)))

lemma checkAddr_low (hx : p.extraAllow = []) (hb : b.toNat < 2 ^ 48) (h₀ : b ≠ 0#128) (h₁ : b ≠ 1#128) :
    checkAddr p (.v6 b) =
      if p.extraDeny.any (·.contains (.v6 b)) then .error "operator extra_deny match" else .ok () := by
  simp [checkAddr, alwaysDeniedHosts, IpAddr.isUnspecified, IpAddr.isLoopback, IpAddr.isMulticast,
    IpAddr.isBroadcast,
    IpAddr.isLinkLocal, IpAddr.isCgnat, IpAddr.isPrivate, top_eq_zero hb, hx, h₀, h₁]

lemma checkAddr_mapped (hx : p.extraAllow = []) (a : BitVec 32) : checkAddr p (mapped a) =
      if p.extraDeny.any (·.contains (mapped a)) then .error "operator extra_deny match" else .ok () := by
  have ha := a.isLt
  have ht : (BitVec.ofNat 128 (0xffff * 2 ^ 32 + a.toNat)).toNat = 0xffff * 2 ^ 32 + a.toNat := by
    rw [BitVec.toNat_ofNat, Nat.mod_eq_of_lt (by omega)]
  have hne : ∀ c : BitVec 128, c.toNat < 2 → BitVec.ofNat 128 (0xffff * 2 ^ 32 + a.toNat) ≠ c := by
    rintro c hc rfl; omega
  exact checkAddr_low hx (by omega) (hne 0 (by decide)) (hne 1 (by decide))

lemma sift_accepted (hr : ∀ a ∈ r.1, Accepted p a) : ∀ a ∈ (sift p as r).1, Accepted p a := by
  induction as generalizing r with
  | nil => exact hr
  | cons a as ih =>
    rw [sift]; split
    · rename_i h
      exact ih fun b hb => (mem_append.mp hb).elim (hr b) fun hb => mem_singleton.mp hb ▸ h
    · exact ih hr

variable {allowed : List SocketAddr}

lemma checkHost_accepted {dns : Lookup} {host : Str} {port : Nat}
    (h : checkHost p dns host port = .ok allowed) : ∀ a ∈ allowed, Accepted p a := by
  rw [checkHost] at h
  split at h
  · cases h
  · cases h
  · rename_i addrs _ _
    have hs : ∀ a ∈ (sift p addrs ([], none)).1, Accepted p a := sift_accepted (by simp)
    split at h
    · cases h
    · cases h
    · rename_i heq; cases h; rwa [heq] at hs

lemma checkUrl_accepted {dns : Lookup} {url : Str} (h : checkUrl p dns url = .ok allowed) :
    ∀ a ∈ allowed, Accepted p a := by
  rw [checkUrl] at h
  split at h
  · cases h
  · exact checkHost_accepted h

theorem guard_holds (hx : p.extraAllow = []) : (∀ a r, checkAddr p (.v4 a) = .error r →
      ((∃ r, checkAddr p (mapped a) = .error r) ↔ p.extraDeny.any (·.contains (mapped a)))) ∧
    ∀ C dns url allowed sink, HttpSink.new C dns ⟨url, p⟩ = .ok sink → checkUrl p dns url = .ok allowed →
      (∀ i, ∀ a ∈ C.answers i 0 url, a ∈ allowed) → (∀ i k a, C.redirect i k a = none) →
      ∀ a, Sends C sink a → Accepted sink.ssrfPolicy a := by
  refine ⟨fun a r _ => ?_, fun C dns url allowed sink hs hu hp hr a ha => ?_⟩
  · rw [checkAddr_mapped hx]
    split <;> simp_all
  · rw [HttpSink.new, hu] at hs
    dsimp only at hs
    split_ifs at hs
    cases hs
    obtain ⟨i, k, url', hv, ha⟩ := ha
    cases hv with
    | first => exact checkUrl_accepted hu a (hp i a ha)
    | next _ _ h => rw [hr] at h; cases h

def clientOf (ip : IpAddr) : Client where
  parseUrl := parseHostPort
  dns _ _ _ port := .ok [(ip, port)]
  redirect _ _ _ := none

def someUrl : Str := "http://a/".toList

theorem guard_holds_stable :
    (checkUrl {} (fun _ port => .ok [(.v4 0x01020304, port)]) someUrl = .ok [(.v4 0x01020304, 80)]) ∧
    ∀ a, Sends (clientOf (.v4 0x01020304)) ⟨someUrl, {}⟩ a → Accepted {} a := by
  have hu : checkUrl {} (fun _ port => .ok [(.v4 0x01020304, port)]) someUrl =
    .ok [(.v4 0x01020304, 80)] := by decide
  have hs : HttpSink.new (clientOf (.v4 0x01020304)) (fun _ port => .ok [(.v4 0x01020304, port)])
    ⟨someUrl, {}⟩ =
      .ok ⟨someUrl, {}⟩ := by rw [HttpSink.new, hu]; rfl
  have ha : ∀ i, (clientOf (.v4 0x01020304)).answers i 0 someUrl = [(.v4 0x01020304, 80)] := fun _ => rfl
  exact ⟨hu, (guard_holds (p := {}) rfl).2 _ _ _ _ _ hs hu (fun i a h => ha i ▸ h) fun _ _ _ => rfl⟩

theorem guard_bypassed : checkAddr {} (.v4 0x7f000001) = .error "loopback address (allow_loopback=false)" ∧
    checkAddr {} (mapped 0x7f000001) = .ok () ∧
    (checkUrl {} (fun _ port => .ok [(.v4 0x01020304, port)]) someUrl = .ok [(.v4 0x01020304, 80)]) ∧
    Sends (clientOf (.v4 0x7f000001)) ⟨someUrl, {}⟩ (.v4 0x7f000001, 80) :=
  ⟨by decide, by decide, by decide, 0, 0, someUrl, .first, by decide⟩

end Aeon.Types.Ssrf
