import Aeon.L3Transport.BatchWire

/-!
# Which frames the batch decoders accept

The decoders of `crates/aeon-engine/src/batch_wire.rs`, at the offsets the code computes. They do
not look whether the CRC follows behind the last item.

* `requestAt_eq`, `responseAt_eq`: every access is in range;
* `canonical_iff`: an accepted frame is an encoding iff its items reach up to its CRC;
* `trailing_byte_accepted`: a byte behind an empty batch.
-/
namespace Aeon.L3.BatchCanonical

open List Aeon.Core Aeon.L3.BatchWire

/-- mirrors batch_wire.rs:55-109 -/
def deserializeBatchRequestAt (data : Bytes) : ExceptT String Option BatchRequest :=
  if data.length < 16 then throw "batch request too short"
  else do
    let payload ← slice data 0 (data.length - 4)
    verifyCrc payload (← slice data (data.length - 4) data.length)
    let batchId ← slice data 0 8
    let count ← slice data 8 12
    let field := OffsetReader.field data payload.length "unexpected end of batch request"
      "event data exceeds buffer"
    let (events, _) ← field.many (leVal count) 12
    return ⟨leVal batchId, events⟩

/-- mirrors batch_wire.rs:161-234 -/
def deserializeBatchResponseAt (data : Bytes) : ExceptT String Option BatchResponse :=
  if data.length < 80 then throw "batch response too short"
  else do
    let signature ← slice data (data.length - 64) data.length
    let crcOffset := data.length - 64 - 4
    let payload ← slice data 0 crcOffset
    verifyCrc payload (← slice data crcOffset (crcOffset + 4))
    let batchId ← slice data 0 8
    let count ← slice data 8 12
    let group : OffsetReader String (List Bytes) := do
      let n ← OffsetReader.le data payload.length 4 "unexpected end of batch response"
      (OffsetReader.field data payload.length "unexpected end of output data"
        "output data exceeds buffer").many n
    let (groups, _) ← group.many (leVal count) 12
    return ⟨leVal batchId, groups, signature⟩

variable {data : Bytes}

lemma header_eq {limit : Nat} (h : 12 ≤ limit) (hl : limit ≤ data.length) (k : Nat → Nat → Reader String α) :
    (do let batchId ← Reader.le 8 "invalid batch_id"
        let count ← Reader.le 4 "invalid event_count"
        k batchId count : Reader String α) (data.take limit) =
      k (leVal (data.take 8)) (leVal ((data.drop 8).take 4)) ((data.take limit).drop 12) := by
  have hid : (data.take limit).take 8 = data.take 8 := by grind
  have hc : ((data.take limit).drop 8).take 4 = (data.drop 8).take 4 := by
    rw [drop_take, take_take, Nat.min_eq_left (by omega)]
  simp only [bind, StateT.bind, Except.bind]; rw [Reader.le_eq (by simp; omega), hid]
  simp only; rw [Reader.le_eq (by simp; omega), hc, drop_drop]

lemma requestAt_eq (data : Bytes) : deserializeBatchRequestAt data = some (deserializeBatchRequest data) := by
  unfold deserializeBatchRequestAt deserializeBatchRequest; by_cases hl : data.length < 16
  · simp only [if_pos hl]; rfl
  · have hc : (data.take (data.length - 4)).length = data.length - 4 := by simp
    have hcr : (data.drop (data.length - 4)).take (data.length - (data.length - 4)) =
        data.drop (data.length - 4) := take_of_length_le (by simp)
    simp only [if_neg hl]
    rw [slice_bind (Nat.zero_le _) (Nat.sub_le _ _), slice_bind (Nat.sub_le _ _) (Nat.le_refl _), hcr]
    refine check_bind ?_
    rw [slice_bind (Nat.zero_le _) (by omega), slice_bind (by omega) (by omega), readBatchRequest,
      header_eq (by omega) (Nat.sub_le _ _)]
    simp only [Nat.sub_zero, drop_zero, hc]
    exact Tracks.run ((Tracks.field (Nat.sub_le _ _) _ _).many _) (by omega)
      (BatchRequest.mk (leVal (data.take 8))) id

lemma responseAt_eq (data : Bytes) :
    deserializeBatchResponseAt data = some (deserializeBatchResponse data) := by
  unfold deserializeBatchResponseAt deserializeBatchResponse
  by_cases hle : data.length < 80
  · simp only [if_pos hle]; rfl
  · have hc : (data.take (data.length - 64 - 4)).length = data.length - 64 - 4 := by simp; omega
    have hs : (data.drop (data.length - 64)).take (data.length - (data.length - 64)) =
        data.drop (data.length - 64) := take_of_length_le (by simp)
    have hl : data.length - 64 - 4 ≤ data.length := by omega
    simp only [if_neg hle]
    rw [slice_bind (by omega) (Nat.le_refl _), slice_bind (Nat.zero_le _) hl,
      slice_bind (by omega) (by omega), Nat.add_sub_cancel_left, hs]
    refine check_bind ?_
    rw [slice_bind (Nat.zero_le _) (by omega), slice_bind (by omega) (by omega), readBatchResponse,
      header_eq (by omega) hl]
    simp only [Nat.sub_zero, drop_zero, hc]
    exact Tracks.run (Tracks.many ((Tracks.le hl 4 _).bind fun n => (Tracks.field hl _ _).many n) _)
      (by omega)
      (Prod.mk (leVal (data.take 8))) fun p => BatchResponse.mk p.1 p.2 (data.drop (data.length - 64))

lemma takes_fields (noLength short : String) (n : Nat) :
    Takes ((Reader.field noLength short).many n) fun b fields =>
      b = fields.flatMap fieldBytes ∧ fields.length = n ∧ ∀ x ∈ fields, x.length < 2 ^ 32 :=
  (Takes.field noLength short).many n

lemma takes_batchRequest : Takes readBatchRequest fun b r =>
    b = requestBody r ∧ r.batchId < 2 ^ 64 ∧ Fits r.events := by
  refine (Takes.le 8 _).bind fun id b₁ h₁ => (Takes.le 4 _).bind fun n b₂ h₂ =>
    (takes_fields _ _ n).bind fun events b₃ h₃ => Takes.pure ?_
  obtain ⟨⟨rfl, hid⟩, ⟨rfl, hn⟩, rfl, rfl, hev⟩ := h₁, h₂, h₃
  exact ⟨by simp [requestBody], hid, hn, hev⟩

lemma takes_batchResponse : Takes readBatchResponse fun b r =>
    b = responseBody r.1 r.2 ∧ r.1 < 2 ^ 64 ∧ r.2.length < 2 ^ 32 ∧ ∀ g ∈ r.2, Fits g := by
  have hgr : Takes readGroup fun b g => b = groupBytes g ∧ Fits g :=
    (Takes.le 4 _).bind fun n b₁ h₁ => (takes_fields _ _ n).imp fun b₂ g h₂ => by
      obtain ⟨⟨rfl, hn⟩, rfl, rfl, hg⟩ := h₁, h₂; exact ⟨rfl, hn, hg⟩
  refine (Takes.le 8 _).bind fun id b₁ h₁ => (Takes.le 4 _).bind fun n b₂ h₂ =>
    (hgr.many n).bind fun groups b₃ h₃ => Takes.pure ?_
  obtain ⟨⟨rfl, hid⟩, ⟨rfl, hn⟩, rfl, rfl, hg⟩ := h₁, h₂, h₃
  exact ⟨by simp [responseBody], hid, hn, hg⟩

lemma verifyCrc_ok {payload stored : Bytes} (hl : stored.length = 4) (h : verifyCrc payload stored = .ok ()) :
    stored = crcBytes payload := by
  rw [verifyCrc] at h; split_ifs at h with hv
  rw [crcBytes, ← not_not.mp hv, ← hl, leBytes_leVal]

lemma request_accepted (h : deserializeBatchRequest data = .ok r) :
    Fits r.events ∧ ∃ more, data = requestBody r ++ more ++ crcBytes (requestBody r ++ more) := by
  rw [deserializeBatchRequest] at h; split_ifs at h with hl
  obtain ⟨⟨⟩, hc, h⟩ := bind_eq_ok.mp h; obtain ⟨⟨r', more⟩, hr, h⟩ := bind_eq_ok.mp h
  cases h; obtain ⟨b, hb, rfl, -, hf⟩ := takes_batchRequest _ _ _ hr; refine ⟨hf, more, ?_⟩
  rw [← hb, ← verifyCrc_ok (by simp; omega) hc, take_append_drop]

lemma response_accepted (h : deserializeBatchResponse data = .ok r) :
    (r.outputsPerEvent.length < 2 ^ 32 ∧ ∀ g ∈ r.outputsPerEvent, Fits g) ∧ r.signature.length = 64 ∧
      ∃ more, data = responseBody r.batchId r.outputsPerEvent ++ more ++
      crcBytes (responseBody r.batchId r.outputsPerEvent ++ more) ++ r.signature := by
  rw [deserializeBatchResponse] at h; split_ifs at h with hl
  obtain ⟨⟨⟩, hc, h⟩ := bind_eq_ok.mp h; obtain ⟨⟨r', more⟩, hr, h⟩ := bind_eq_ok.mp h
  cases h; obtain ⟨b, hb, rfl, -, hf⟩ := takes_batchResponse _ _ _ hr
  refine ⟨hf, by simp; omega, more, ?_⟩
  have hcu : ((data.drop (data.length - 64 - 4)).take 4) ++ data.drop (data.length - 64) =
      data.drop (data.length - 64 - 4) := by
    rw [show data.length - 64 = data.length - 64 - 4 + 4 by omega, ← drop_drop, Nat.add_sub_cancel,
      take_append_drop]
  rw [← hb, ← verifyCrc_ok (by simp; omega) hc, append_assoc, hcu, take_append_drop]

def u32At (data : Bytes) (pos : Nat) : Nat := leVal ((data.drop pos).take 4)

def fieldsEnd (data : Bytes) : Nat → Nat → Nat
  | 0, pos => pos
  | n + 1, pos => fieldsEnd data n (pos + 4 + u32At data pos)

def groupsEnd (data : Bytes) : Nat → Nat → Nat
  | 0, pos => pos
  | n + 1, pos => groupsEnd data n (fieldsEnd data (u32At data pos) (pos + 4))

def RequestFilled (data : Bytes) : Prop := fieldsEnd data (u32At data 8) 12 + 4 = data.length

def ResponseFilled (data : Bytes) : Prop := groupsEnd data (u32At data 8) 12 + 4 + 64 = data.length

section Announced

variable {pos n : Nat} {rest : Bytes} {fields : List Bytes} {groups : List (List Bytes)}

lemma u32At_eq (h : data.drop pos = leBytes 4 n ++ rest) (hn : n < 2 ^ 32) :
    u32At data pos = n ∧ data.drop (pos + 4) = rest := by
  rw [u32At, ← drop_drop, h]
  exact ⟨by rw [take_left' (by simp), leVal_leBytes (by omega)], drop_left' (by simp)⟩

lemma fieldsEnd_eq (h : data.drop pos = fields.flatMap fieldBytes ++ rest)
    (hf : ∀ x ∈ fields, x.length < 2 ^ 32) :
    fieldsEnd data fields.length pos = pos + (fields.flatMap fieldBytes).length ∧
      data.drop (pos + (fields.flatMap fieldBytes).length) = rest := by
  induction fields generalizing pos with
  | nil => exact ⟨rfl, h⟩
  | cons x fields ih =>
    rw [flatMap_cons, fieldBytes, append_assoc, append_assoc] at h
    obtain ⟨hu, hd⟩ := u32At_eq h (hf x mem_cons_self)
    have hx : data.drop (pos + 4 + x.length) = fields.flatMap fieldBytes ++ rest := by
      rw [← drop_drop, hd, drop_left]
    obtain ⟨he, hr⟩ := ih hx fun y hy => hf y (mem_cons_of_mem _ hy)
    have hl : pos + ((x :: fields).flatMap fieldBytes).length = pos + 4 + x.length +
      (fields.flatMap fieldBytes).length := by
      simp [fieldBytes]; omega
    rw [length_cons, fieldsEnd, hu, he, hl]; exact ⟨rfl, hr⟩

lemma groupsEnd_eq (h : data.drop pos = groups.flatMap groupBytes ++ rest) (hf : ∀ g ∈ groups, Fits g) :
    groupsEnd data groups.length pos = pos + (groups.flatMap groupBytes).length := by
  induction groups generalizing pos with
  | nil => rfl
  | cons g groups ih =>
    rw [flatMap_cons, groupBytes, append_assoc, append_assoc] at h
    obtain ⟨hn, hx⟩ := hf g mem_cons_self
    obtain ⟨hu, hd⟩ := u32At_eq h hn
    obtain ⟨he, hr⟩ := fieldsEnd_eq hd hx
    rw [length_cons, groupsEnd, hu, he, ih hr fun y hy => hf y (mem_cons_of_mem _ hy)]
    simp [groupBytes]; omega

end Announced

def RequestCanonical (data : Bytes) : Prop :=
  ∀ r, deserializeBatchRequest data = .ok r → data = serializeBatchRequest r.batchId r.events

def ResponseCanonical (data : Bytes) : Prop := ∀ r, deserializeBatchResponse data = .ok r →
    data = serializeBatchResponse r.batchId r.outputsPerEvent r.signature

lemma encoded_iff {body more t : Bytes} (h : data = body ++ more ++ crcBytes (body ++ more) ++ t) :
    data = body ++ crcBytes body ++ t ↔ body.length + 4 + t.length = data.length := by
  have hl : data.length = body.length + more.length + 4 + t.length := by
    rw [h]; simp [length_crcBytes]; omega
  constructor
  · grind [length_crcBytes]
  simp_all

theorem canonical_iff (data : Bytes) : (deserializeBatchRequestAt data = some (deserializeBatchRequest data) ∧
      deserializeBatchResponseAt data = some (deserializeBatchResponse data)) ∧
    (RequestCanonical data ↔ ((deserializeBatchRequest data).isOk → RequestFilled data)) ∧
    (ResponseCanonical data ↔ ((deserializeBatchResponse data).isOk → ResponseFilled data)) := by
  refine ⟨⟨requestAt_eq data, responseAt_eq data⟩, ?_, ?_⟩
  · cases h : deserializeBatchRequest data with
    | error => simp [RequestCanonical, h, Except.isOk, Except.toBool]
    | ok r =>
      obtain ⟨⟨hn, hf⟩, more, hd⟩ := request_accepted h
      have hb : data.drop 8 = leBytes 4 r.events.length ++
        (r.events.flatMap fieldBytes ++ (more ++ crcBytes (requestBody r ++ more))) := by
        rw [hd]; simp [requestBody]
      obtain ⟨hu, ht⟩ := u32At_eq hb hn
      have he := encoded_iff (t := []) (hd.trans (append_nil _).symm)
      rw [append_nil] at he
      simp only [RequestCanonical, h, Except.ok.injEq, forall_eq', RequestFilled, hu, (fieldsEnd_eq ht hf).1,
        serializeBatchRequest, he]
      simp [requestBody, Except.isOk, Except.toBool]; omega
  · cases h : deserializeBatchResponse data with
    | error => simp [ResponseCanonical, h, Except.isOk, Except.toBool]
    | ok r =>
      obtain ⟨⟨hn, hf⟩, hs, more, hd⟩ := response_accepted h
      have hb : data.drop 8 = leBytes 4 r.outputsPerEvent.length ++ (r.outputsPerEvent.flatMap groupBytes ++
          (more ++ crcBytes (responseBody r.batchId r.outputsPerEvent ++ more) ++ r.signature)) := by
        rw [hd]; simp [responseBody]
      obtain ⟨hu, ht⟩ := u32At_eq hb hn
      simp only [ResponseCanonical, h, Except.ok.injEq, forall_eq', ResponseFilled, hu, groupsEnd_eq ht hf,
        serializeBatchResponse, signedBytes, encoded_iff hd]
      simp [responseBody, hs, Except.isOk, Except.toBool]; omega

def paddedBody : Bytes := requestBody ⟨0, []⟩ ++ [0]

theorem trailing_byte_accepted : deserializeBatchRequest (paddedBody ++ crcBytes paddedBody) = .ok ⟨0, []⟩ ∧
    deserializeBatchResponse (paddedBody ++ crcBytes paddedBody ++ List.replicate 64 0) =
      .ok ⟨0, [], List.replicate 64 0⟩ ∧
    ¬ RequestCanonical (paddedBody ++ crcBytes paddedBody) ∧
    ¬ ResponseCanonical (paddedBody ++ crcBytes paddedBody ++ List.replicate 64 0) := by
  have hre : deserializeBatchRequest (paddedBody ++ crcBytes paddedBody) = .ok ⟨0, []⟩ := by
    rw [deserializeBatchRequest_append (by decide) (length_crcBytes _), verifyCrc_crcBytes]
    rfl
  have hr : deserializeBatchResponse (paddedBody ++ crcBytes paddedBody ++ List.replicate 64 0) =
      .ok ⟨0, [], List.replicate 64 0⟩ := by
    rw [deserializeBatchResponse_append (by decide) (length_crcBytes _) length_replicate, verifyCrc_crcBytes]
    rfl
  refine ⟨hre, hr, fun h => ?_, fun h => ?_⟩
  · have := congrArg List.length (h _ hre)
    simp [paddedBody, serializeBatchRequest, requestBody, length_crcBytes] at this
  · have := congrArg List.length (h _ hr)
    simp [paddedBody, serializeBatchResponse, signedBytes, responseBody, requestBody, length_crcBytes] at this

end Aeon.L3.BatchCanonical
