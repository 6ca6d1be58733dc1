import Aeon.L1Types.Secrets

/-!
# Key domains

`crates/aeon-crypto/src/kek.rs`: a data key wrapped by a key of one domain. `unwrap_dek` compares
the tag and picks the key by its id; the AEAD call authenticates neither.

* `unwrap_tampered`: exactly which records a handle accepts;
* `retagged_dek_unwrapped`: one of another domain with the same key bytes.
-/
namespace Aeon.Crypto.Kek

open List Aeon.Core Aeon.Types.Secrets

/-- mirrors kek.rs:35-50 -/
inductive KekDomain
  | logContext | dataContext
  deriving DecidableEq

def KekDomain.asStr : KekDomain → String
  | .logContext => "log-context"
  | .dataContext => "data-context"

/-- mirrors kek.rs:57-65 -/
structure WrappedDek where
  kekDomain : KekDomain
  kekId : String
  nonce : Bytes
  ciphertext : Bytes
  deriving DecidableEq

/-- mirrors kek.rs:110-117 -/
structure KekHandle where
  domain : KekDomain
  activeId : String
  activeRef : SecretRef
  previousId : Option String := none
  previousRef : Option SecretRef := none
  registry : SecretRegistry

structure Aead where
  encrypt : Bytes → Bytes → Bytes → Bytes
  decrypt : Bytes → Bytes → Bytes → Option Bytes

/-- mirrors kek.rs:70-96 -/
abbrev DekBytes := {b : Bytes // b.length = 32}

abbrev Nonce := {b : Bytes // b.length = 12}

inductive KekError
  | secret (e : SecretError)
  | crypto (message : String)
  deriving DecidableEq

/-- mirrors kek.rs:157-178, 307-320 -/
def keyBytes (h : KekHandle) (r : SecretRef) (id : String) : Except KekError Bytes :=
  match resolve h.registry r with
  | .error e => .error (.secret e)
  | .ok b =>
    if b.length = 32 then .ok b
    else .error (.crypto (h.domain.asStr ++ " KEK '" ++ id ++ "' is " ++ toString b.length ++
      " bytes; AES-256-GCM requires 32"))

variable (A : Aead)

/-- mirrors kek.rs:192-203, 327-343 -/
def KekHandle.wrapDek (h : KekHandle) (nonce : Nonce) (dek : DekBytes) : Except KekError WrappedDek :=
  match keyBytes h h.activeRef h.activeId with
  | .error e => .error e
  | .ok kek => .ok ⟨h.domain, h.activeId, nonce, A.encrypt kek nonce dek⟩

/-- mirrors kek.rs:345-380 -/
def decryptDek (kek nonce ciphertext : Bytes) : Except KekError DekBytes :=
  if kek.length ≠ 32 then .error (.crypto ("KEK must be 32 bytes, got " ++ toString kek.length))
  else if nonce.length ≠ 12 then .error (.crypto
    ("GCM nonce must be 12 bytes, got " ++ toString nonce.length))
  else
    match A.decrypt kek nonce ciphertext with
    | none => .error (.crypto "DEK unwrap failed (wrong KEK? integrity failure?): aead::Error")
    | some p =>
      if hp : p.length = 32 then .ok ⟨p, hp⟩
      else .error (.crypto ("unwrapped DEK is " ++ toString p.length ++ " bytes; expected 32"))

def KekHandle.noKek (h : KekHandle) (id : String) : KekError :=
  .crypto ("no KEK available for id '" ++ id ++ "' in " ++ h.domain.asStr ++ " domain (active='" ++
    h.activeId ++
    "', previous=" ++ (h.previousId.elim "None" fun p => "Some(" ++ p.quote ++ ")") ++ ")")

/-- mirrors kek.rs:231-277 -/
def KekHandle.keyFor (h : KekHandle) (id : String) : Except KekError Bytes :=
  if id = h.activeId then keyBytes h h.activeRef h.activeId
  else if h.previousId = some id then
    match h.previousRef with
    | some r => keyBytes h r id
    | none => .error (h.noKek id)
  else .error (h.noKek id)

/-- mirrors kek.rs:213-278 -/
def KekHandle.unwrapDek (h : KekHandle) (w : WrappedDek) : Except KekError DekBytes :=
  if w.kekDomain ≠ h.domain then
    .error (.crypto ("wrapped DEK belongs to " ++ w.kekDomain.asStr ++ " domain, handle is " ++
      h.domain.asStr))
  else
    match h.keyFor w.kekId with
    | .error e => .error e
    | .ok kek => decryptDek A kek w.nonce w.ciphertext

structure Wrap where
  handle : KekHandle
  nonce : Nonce
  dek : DekBytes

def Wrap.key (x : Wrap) : Except KekError Bytes := keyBytes x.handle x.handle.activeRef x.handle.activeId

def Wrap.record (x : Wrap) : Except KekError WrappedDek := x.handle.wrapDek A x.nonce x.dek

def Sealed (log : List Wrap) (k n c p : Bytes) : Prop :=
  ∃ x ∈ log, x.key = .ok k ∧ x.nonce = n ∧ x.dek = p ∧ c = A.encrypt k n p

def Aead.Ideal (log : List Wrap) : Prop :=
  ∀ k n c p, k.length = 32 → n.length = 12 → (A.decrypt k n c = some p ↔ Sealed A log k n c p)

variable {A : Aead} {log : List Wrap} {h h' : KekHandle} {id : String} {kek nonce c : Bytes} {dek : DekBytes}
  {w : WrappedDek} {x : Wrap}

lemma length_of_keyBytes (hk : keyBytes h r id = .ok kek) : kek.length = 32 := by
  rw [keyBytes] at hk; split at hk
  · cases hk
  · split_ifs at hk with hl; cases hk; exact hl

lemma length_of_keyFor (hk : h.keyFor id = .ok kek) : kek.length = 32 := by
  rw [KekHandle.keyFor] at hk; split_ifs at hk
  · exact length_of_keyBytes hk
  · split at hk
    · exact length_of_keyBytes hk
    · cases hk

lemma decryptDek_iff (hA : A.Ideal log) (hk : kek.length = 32) :
    decryptDek A kek nonce c = .ok dek ↔ Sealed A log kek nonce c dek := by
  rw [decryptDek, if_neg (not_not.mpr hk)]
  by_cases hn : nonce.length = 12
  · rw [if_neg (not_not.mpr hn), ← hA _ _ _ _ hk hn]
    cases A.decrypt kek nonce c with
    | none => simp
    | some =>
      simp only [Option.some.injEq]
      split
      · rw [Except.ok.injEq, Subtype.ext_iff]
      · rename_i hp
        exact ⟨fun h => (by cases h), fun h => absurd (h ▸ dek.2) hp⟩
  · refine iff_of_false (by simp [hn]) ?_
    rintro ⟨x, -, -, rfl, -⟩; exact hn x.nonce.2

lemma unwrapDek_iff (hA : A.Ideal log) (h : KekHandle) (w : WrappedDek) :
    h.unwrapDek A w = .ok dek ↔ w.kekDomain = h.domain ∧ ∃ kek, h.keyFor w.kekId = .ok kek ∧
      Sealed A log kek w.nonce w.ciphertext dek := by
  rw [KekHandle.unwrapDek]
  by_cases hd : w.kekDomain = h.domain
  · rw [if_neg (not_not.mpr hd)]
    cases hk : h.keyFor w.kekId with
    | error => simp
    | ok => simp [hd, decryptDek_iff hA (length_of_keyFor hk)]
  · simp [hd]

lemma record_eq_ok : x.record A = .ok w ↔
    ∃ kek, x.key = .ok kek ∧ w = ⟨x.handle.domain, x.handle.activeId, x.nonce,
      A.encrypt kek x.nonce x.dek⟩ := by
  rw [Wrap.record, KekHandle.wrapDek, ← Wrap.key]
  cases x.key with
  | error => simp
  | ok => simp [eq_comm]

def Matches (A : Aead) (log : List Wrap) (h : KekHandle) (w : WrappedDek) (dek : DekBytes) : Prop :=
  ∃ y ∈ log, ∃ v, y.record A = .ok v ∧ v.nonce = w.nonce ∧ v.ciphertext = w.ciphertext ∧
    h.keyFor w.kekId = y.key ∧ y.dek = dek

lemma matches_iff : Matches A log h w dek ↔
    ∃ kek, h.keyFor w.kekId = .ok kek ∧ Sealed A log kek w.nonce w.ciphertext dek := by
  constructor
  · rintro ⟨y, hy, v, hv, hn, hc, hk, rfl⟩
    obtain ⟨kek, hkek, rfl⟩ := record_eq_ok.mp hv
    exact ⟨kek, hk.trans hkek, y, hy, hkek, hn, rfl, by rw [← hc, ← hn]⟩
  · rintro ⟨kek, hk, y, hy, hkek, hn, hd, hc⟩
    exact ⟨y, hy, _, record_eq_ok.mpr ⟨kek, hkek, rfl⟩, hn, by rw [hc, ← hn, ← hd], hk.trans hkek.symm,
      Subtype.ext hd⟩

theorem unwrap_tampered (hA : A.Ideal log) (hw : x.record A = .ok w) (hd : x.handle.domain ≠ h'.domain)
    (w' : WrappedDek) :
    (w'.kekDomain = w.kekDomain → ∀ d, h'.unwrapDek A w' ≠ .ok d) ∧
    ∀ d, h'.unwrapDek A w' = .ok d ↔ w'.kekDomain = h'.domain ∧ Matches A log h' w' d := by
  obtain ⟨kek, -, rfl⟩ := record_eq_ok.mp hw
  have hi : ∀ d, h'.unwrapDek A w' = .ok d ↔ w'.kekDomain = h'.domain ∧ Matches A log h' w' d := fun d => by
    rw [unwrapDek_iff hA, matches_iff]
  exact ⟨fun ht d ha => hd (ht.symm.trans ((hi d).mp ha).1), hi⟩

def mask (k n : Bytes) : UInt8 := (k ++ n).foldl (· ^^^ ·) 0

def tableAead (log : List Wrap) : Aead where
  encrypt k n p := p.map (· ^^^ mask k n) ++ replicate 16 (mask k n)
  decrypt k n c := log.findSome? fun x =>
    if x.key = .ok k ∧ x.nonce.1 = n ∧ c = x.dek.1.map (· ^^^ mask k n) ++ replicate 16
      (mask k n) then some x.dek.1 else none

lemma tableAead_ideal (log : List Wrap) : (tableAead log).Ideal log := by
  intro k n c p _ _
  have hinj : ∀ {q}, (tableAead log).encrypt k n p = (tableAead log).encrypt k n q → p = q :=
    fun h => map_injective_iff.mpr (fun _ _ h => by simpa using h) (append_cancel_right h)
  constructor
  · intro h
    obtain ⟨x, hx, hf⟩ := exists_of_findSome?_eq_some h
    obtain ⟨⟨hk, hn, hc⟩, hp⟩ := Option.ite_none_right_eq_some.mp hf
    cases hp; exact ⟨x, hx, hk, hn, rfl, hc⟩
  · rintro ⟨x, hx, hk, hn, rfl, hc⟩
    have hs : ((tableAead log).decrypt k n c).isSome :=
      findSome?_isSome_iff.mpr ⟨x, hx, by rw [if_pos ⟨hk, hn, hc⟩]; rfl⟩
    obtain ⟨q, hq⟩ := Option.isSome_iff_exists.mp hs
    obtain ⟨y, -, hf⟩ := exists_of_findSome?_eq_some hq
    obtain ⟨⟨-, -, hc'⟩, hp⟩ := Option.ite_none_right_eq_some.mp hf
    cases hp; rw [hq, hinj (hc.symm.trans hc')]

def sharedKey (domain : KekDomain) (id : String) : KekHandle where
  domain := domain
  activeId := id
  activeRef := ⟨.env, id.toList⟩
  registry := fun _ => some fun _ => .ok (replicate 32 7)

def nonceOf (b : UInt8) : Nonce := ⟨replicate 12 b, length_replicate⟩

def dekOf (b : UInt8) : DekBytes := ⟨replicate 32 b, length_replicate⟩

def bothWraps : List Wrap := [⟨sharedKey .dataContext "data", nonceOf 0, dekOf 9⟩,
    ⟨sharedKey .logContext "log", nonceOf 1, dekOf 5⟩]

def sharedAead : Aead := tableAead bothWraps

def dataDek : WrappedDek := ⟨.dataContext, "data", replicate 12 0, sharedAead.encrypt (replicate 32 7)
    (replicate 12 0) (replicate 32 9)⟩

theorem unwrap_tampered_nonce :
    (Wrap.mk (sharedKey .dataContext "data") (nonceOf 0) (dekOf 9)).record sharedAead = .ok dataDek ∧
    ∀ d, (sharedKey .logContext "log").unwrapDek sharedAead
      { dataDek with kekDomain := .logContext, kekId := "log", nonce := replicate 12 1 } ≠ .ok d := by
  have hw : (Wrap.mk (sharedKey .dataContext "data") (nonceOf 0) (dekOf 9)).record sharedAead =
    .ok dataDek := by decide
  refine ⟨hw, fun d ha => ?_⟩
  obtain ⟨-, hm⟩ := ((unwrap_tampered (tableAead_ideal _) hw (by decide) _).2 d).mp ha
  obtain ⟨y, hy, v, hv, hn, hc, -⟩ := hm
  rcases mem_pair.mp hy with rfl | rfl <;> cases hv
  · exact absurd hn (by decide)
  · exact absurd hc (by decide)

theorem retagged_dek_unwrapped : sharedAead.Ideal bothWraps ∧
    (sharedKey .dataContext "data").wrapDek sharedAead (nonceOf 0) (dekOf 9) = .ok dataDek ∧
    (sharedKey .logContext "log").unwrapDek sharedAead
      { dataDek with kekDomain := .logContext, kekId := "log" } =
      .ok (dekOf 9) := ⟨tableAead_ideal _, by decide, by decide⟩

end Aeon.Crypto.Kek
