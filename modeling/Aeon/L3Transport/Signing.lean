import Aeon.Core.LTS
import Aeon.L3Transport.Identity

/-!
# Batch signatures

Both hosts accept `batch_signing: true` (`websocket_host.rs:147-153`,
`webtransport_host.rs:409-415`) and drop the decoded signature; `verify_batch_signature` has no
caller.

* `enforced_iff`: completions are signed iff every frame that named a pending batch was;
* `unsigned_response_accepted`: a signature of zeros.
-/
namespace Aeon.L3.Signing

open List Aeon.Core Aeon.Types Aeon.L3.BatchWire Aeon.L3.Session

structure Completion where
  frame : Option Bytes
  slot : PendingSlot
  outcome : Outcome

structure St where
  session : AwppSession
  completed : List Completion := []

inductive Lbl
  | call (slot : PendingSlot)
  | frame (data : Bytes)
  | timeout (batchId : Nat)
  | close

def St.setInflight (s : St) (b : BatchInflight) (done : List Completion) : St :=
  ⟨{ s.session with batchInflight := b }, s.completed ++ done⟩

section Machine

variable (S : Serde) (tier : Tier)

def step (s : St) : Lbl → Option St
  | .call slot => (s.session.batchInflight.startBatch slot).map fun r => s.setInflight r.1 []
  | .frame data =>
    match handleDataFrame S s.session.codec tier s.session.batchInflight data with
    | .error _ => some s
    | .ok (b, none) => some (s.setInflight b [])
    | .ok (b, some (slot, outcome)) => some (s.setInflight b [⟨some data, slot, outcome⟩])
  | .timeout batchId =>
    match s.session.batchInflight.completeBatch batchId with
    | (b, some slot) => some (s.setInflight b [⟨none, slot, .error "batch response timeout"⟩])
    | (_, none) => some s
  | .close =>
    let (b, slots) := s.session.batchInflight.cancelAll
    some (s.setInflight b (slots.map fun slot => ⟨none, slot, .error "session closed"⟩))

variable (A : Auth)

structure Accepted (identity : ProcessorIdentity) (s : St) : Prop where
  reg : ∃ (config : HandshakeConfig) (reg : Register) (nonce : String) (connections : UInt32)
    (assignments : List PipelineAssignment) (sessionId : String),
    config.batchSigning = true ∧
    verifyChallenge A identity nonce reg.challengeSignature = .ok true ∧
    checkAuthorization identity reg.requestedPipelines connections = .ok () ∧
    s = ⟨accept config identity reg assignments sessionId, []⟩

def machine (identity : ProcessorIdentity) : LTS St Lbl := .ofFn (Accepted A identity) (step S tier)

def Signed (publicKey : String) (data : Bytes) : Prop := ∃ batch, tier.batchData data = .ok batch ∧
    verifyBatchSignature A publicKey (batch.take (batch.length - 64)) (batch.drop (batch.length - 64)) =
      .ok true

def Enforced (publicKey : String) (s : St) : Prop :=
  ∀ c ∈ s.completed, ∀ outs, c.outcome = .ok outs → ∃ data, c.frame = some data ∧ Signed tier A publicKey data

def Names (s : St) (data : Bytes) : Prop := ∃ batch decoded, tier.batchData data = .ok batch ∧
    decodeBatchResponse S s.session.codec batch = .ok decoded ∧
    decoded.batchId ∈ s.session.batchInflight.pending.toList.map Prod.fst

def Genuine (publicKey : String) (s : St) (l : Lbl) : Prop := ∀ data, l = .frame data →
    Names S tier s data → Signed tier A publicKey data

end Machine

variable {S : Serde} {tier : Tier} {A : Auth} {identity : ProcessorIdentity} {publicKey : String}
  {s s' : St} {l : Lbl} {ls : List Lbl}

lemma step_completed (h : step S tier s l = some s') : ∃ done, s'.completed = s.completed ++ done ∧
      ∀ c ∈ done, (∃ msg, c.outcome = .error msg) ∨ ∃ data b slot, l = .frame data ∧ c.frame = some data ∧
          handleDataFrame S s.session.codec tier s.session.batchInflight data = .ok
            (b, some (slot, c.outcome)) := by
  cases l with
  | call =>
    obtain ⟨r, -, rfl⟩ := Option.map_eq_some_iff.mp h
    exact ⟨[], rfl, fun c hc => absurd hc not_mem_nil⟩
  | frame data =>
    simp only [step] at h; split at h
    · simp_all
    · cases h; exact ⟨[], rfl, fun c hc => absurd hc not_mem_nil⟩
    · rename_i b slot outcome hf
      cases h; refine ⟨_, rfl, fun c hc => .inr ⟨data, b, slot, rfl, ?_⟩⟩; grind
  | timeout =>
    simp only [step] at h; split at h
    · cases h; refine ⟨_, rfl, fun c hc => .inl ?_⟩; grind
    simp_all
  | close => cases h; refine ⟨_, rfl, fun c hc => .inl ?_⟩; grind

lemma names_iff {data : Bytes} : Names S tier s data ↔ ∃ b slot outs,
    handleDataFrame S s.session.codec tier s.session.batchInflight data = .ok (b, some (slot, .ok outs)) := by
  constructor
  · rintro ⟨batch, decoded, hb, hd, hp⟩
    obtain ⟨slot, hs⟩ := Option.ne_none_iff_exists'.mp fun hn => SortedMap.get?_eq_none.mp hn hp
    simp [handleDataFrame, hb, hd, BatchInflight.completeBatch, hs, bind, Except.bind, pure, Except.pure]
  · rintro ⟨b, slot, outs, h⟩
    obtain ⟨batch, hb, h⟩ := bind_eq_ok.mp h; obtain ⟨decoded, hd, h⟩ := bind_eq_ok.mp h
    refine ⟨batch, decoded, hb, hd, by_contra fun hp => ?_⟩
    simp [BatchInflight.completeBatch, SortedMap.get?_eq_none.mpr hp, pure, Except.pure] at h

lemma Enforced.step (h : Enforced tier A publicKey s) (hg : Genuine S tier A publicKey s l)
    (hs : step S tier s l = some s') : Enforced tier A publicKey s' := by
  obtain ⟨done, hd, hn⟩ := step_completed hs; intro c hc outs hok; rw [hd] at hc
  rcases mem_append.mp hc with hc | hc
  · exact h c hc outs hok
  · rcases hn c hc with ⟨msg, he⟩ | ⟨data, b, slot, rfl, hf, hh⟩
    · rw [he] at hok; cases hok
    · exact ⟨data, hf, hg data rfl (names_iff.mpr ⟨b, slot, outs, hok ▸ hh⟩)⟩

lemma genuine_of_enforced (hs : step S tier s l = some s') (h : Enforced tier A publicKey s') :
    Genuine S tier A publicKey s l := by
  rintro data rfl hn; obtain ⟨b, slot, outs, hh⟩ := names_iff.mp hn
  simp only [step, hh, Option.some.injEq] at hs; subst hs
  obtain ⟨data', hd, hsi⟩ := h ⟨some data, slot, .ok outs⟩ (mem_append_right _ mem_cons_self) outs rfl
  cases hd; exact hsi

lemma completed_mono (hr : (machine S tier A identity).Run s ls s') :
    ∀ c ∈ s.completed, c ∈ s'.completed := by
  induction hr with
  | nil => exact fun c hc => hc
  | cons hs => obtain ⟨done, hd, -⟩ := step_completed hs; grind

lemma run_genuine (hru : (machine S tier A identity).Run s ls s') (h : Enforced tier A publicKey s') :
    ((machine S tier A identity).restrict (Genuine S tier A publicKey)).Run s ls s' := by
  induction hru with
  | nil => exact .nil _
  | cons hs hr ih =>
    have hn := ih h
    exact .cons ⟨genuine_of_enforced hs fun c hc => h c (completed_mono hr c hc), hs⟩ hn

theorem enforced_iff (hs : Accepted A identity s) (hr : (machine S tier A identity).Run s ls s') :
    Enforced tier A identity.publicKey s' ↔
      ((machine S tier A identity).restrict (Genuine S tier A identity.publicKey)).Run s ls s' := by
  refine ⟨run_genuine hr, fun hge => ?_⟩
  have hst : Enforced tier A identity.publicKey s := by
    obtain ⟨_, _, _, _, _, _, -, -, -, rfl⟩ := hs.reg
    exact fun c hc => absurd hc not_mem_nil
  refine LTS.Run.induct (I := Enforced tier A identity.publicKey) ?_ hge hst
  rintro s l s' hi ⟨hg, hse⟩; exact hi.step hg hse

def keyring (msgs : List Bytes) : Auth where
  Key := Unit
  base64 _ := .ok (List.replicate 32 0)
  hexDecode s := .ok (if s = "07" then [7] else List.replicate 64 0)
  keyOfBytes _ := .ok ()
  verify _ msg _ := msgs.contains msg

def enricher : ProcessorIdentity := ⟨"ed25519:k", "SHA256:f", "enricher", .allMatchingPipelines, 1, none⟩

def registration : Register := ⟨"enricher", "1", "ed25519:k", "signature", .json, ["p"]⟩

def authenticated : St := ⟨accept {} enricher registration [⟨"p", [3], 100⟩] "s1", []⟩

def serde : Serde := ⟨fun _ _ => .ok [], fun _ _ => .ok ⟨"out", none, [1], [], none, none, none, none⟩⟩

lemma decodePublicKey_keyring (msgs : List Bytes) :
    decodePublicKey (keyring msgs) "ed25519:k" = .ok (List.replicate 32 0) := by rfl

lemma authenticated_accepted {msgs : List Bytes} (h : [7] ∈ msgs) :
    Accepted (keyring msgs) enricher authenticated := by
  refine ⟨{}, registration, "07", 0, [⟨"p", [3], 100⟩], "s1", rfl, ?_, rfl, rfl⟩
  rw [verifyChallenge, show enricher.publicKey = "ed25519:k" from rfl, decodePublicKey_keyring]
  exact congrArg Except.ok (contains_iff_mem.mpr h)

variable (tier : Tier)

def unsigned : Bytes := Identity.respond tier (Identity.response [1])

lemma batchData_unsigned : tier.batchData (unsigned tier) = .ok (Identity.response [1]) :=
  Identity.batchData_response tier (by decide)

lemma signed_unsigned_iff {tier : Tier} {msgs : List Bytes} :
    Signed tier (keyring msgs) enricher.publicKey (unsigned tier) ↔ signedBytes 1 [[[1]]] ∈ msgs := by
  have hl : (Identity.response [1]).length - 64 = (signedBytes 1 [[[1]]]).length := by rfl
  have hv : verifyBatchSignature (keyring msgs) enricher.publicKey
      ((Identity.response [1]).take ((Identity.response [1]).length - 64))
      ((Identity.response [1]).drop ((Identity.response [1]).length - 64)) =
        .ok (msgs.contains (signedBytes 1 [[[1]]])) := by
    rw [hl, Identity.response, serializeBatchResponse, take_left, drop_left, verifyBatchSignature,
      show enricher.publicKey = "ed25519:k" from rfl, decodePublicKey_keyring]
    rfl
  constructor
  · rintro ⟨batch, hb, hs⟩; simp_all [batchData_unsigned]
  · intro h
    exact ⟨_, batchData_unsigned tier, hv.trans (congrArg Except.ok (contains_iff_mem.mpr h))⟩

def answered : List Lbl := [.call ⟨0, [Identity.offsetEvent none]⟩, .frame (unsigned tier)]

def submitted : St := authenticated.setInflight
    ⟨2, SortedMap.empty.insert 1 ⟨0, [Identity.offsetEvent none]⟩, 1023⟩ []

lemma handle_unsigned :
    ∃ b outs, handleDataFrame serde submitted.session.codec tier submitted.session.batchInflight
      (unsigned tier) = .ok (b, some (⟨0, [Identity.offsetEvent none]⟩, .ok outs)) :=
  ⟨_, _, Identity.handle_response tier rfl rfl (by decide)⟩

lemma frame_step : ∃ s outs, step serde tier submitted (.frame (unsigned tier)) = some s ∧
      s.completed = [⟨some (unsigned tier), ⟨0, [Identity.offsetEvent none]⟩, .ok outs⟩] := by
  obtain ⟨b, outs, h⟩ := handle_unsigned tier
  refine ⟨submitted.setInflight b [⟨some (unsigned tier), ⟨0, [Identity.offsetEvent none]⟩, .ok outs⟩], outs,
    ?_, rfl⟩
  simp only [step, h]

theorem unsigned_response_accepted : Accepted (keyring [[7]]) enricher authenticated ∧
      ∀ tier, ∃ s outs, (machine serde tier (keyring [[7]]) enricher).Run authenticated (answered tier) s ∧
        s.completed = [⟨some (unsigned tier), ⟨0, [Identity.offsetEvent none]⟩, .ok outs⟩] ∧
        ¬ Signed tier (keyring [[7]]) enricher.publicKey (unsigned tier) := by
  refine ⟨authenticated_accepted mem_cons_self, fun tier => ?_⟩
  obtain ⟨s, outs, hf, hd⟩ := frame_step tier; refine ⟨s, outs, ?_, hd, fun hs => ?_⟩
  · exact .cons (t := submitted) rfl (.cons hf (.nil _))
  · have hm := signed_unsigned_iff.mp hs; exact absurd hm (by decide +kernel)

theorem enforced_signed : ∃ msgs s, Accepted (keyring msgs) enricher authenticated ∧
      (machine serde .webSocket (keyring msgs) enricher).Run authenticated (answered .webSocket) s ∧
      s.completed ≠ [] ∧ Enforced .webSocket (keyring msgs) enricher.publicKey s := by
  let msgs := [[7], signedBytes 1 [[[1]]]]
  have ha : Accepted (keyring msgs) enricher authenticated := authenticated_accepted mem_cons_self
  have hs : Signed .webSocket (keyring msgs) enricher.publicKey (unsigned .webSocket) :=
    signed_unsigned_iff.mpr (mem_cons_of_mem _ mem_cons_self)
  obtain ⟨s, outs, hf, hd⟩ := frame_step .webSocket
  have hr : (machine serde .webSocket (keyring msgs) enricher).Run authenticated (answered .webSocket) s :=
    .cons (t := submitted) rfl (.cons hf (.nil _))
  refine ⟨msgs, s, ha, hr, by rw [hd]; exact cons_ne_nil _ _, (enforced_iff ha hr).mpr ?_⟩
  refine .cons (t := submitted) ⟨fun data h => ?_, rfl⟩ (.cons ⟨fun data h _ => ?_, hf⟩ (.nil _))
  · cases h
  · cases h; exact hs

end Aeon.L3.Signing
