import Aeon.L2Store.CheckpointWal
import Aeon.L2Store.Images

/-!
# Damaged logs

A checkpoint WAL and a plaintext L2 segment with one byte changed and cut anywhere. The CRC of an L2
record does not cover its sequence number.

* `damage_detected`: both readers return exactly the records before change and cut, a changed
  sequence number apart;
* `damage_changes_seq`: a record that comes back under another number.
-/
namespace Aeon.L2.Corruption

open Function List Aeon.Core Aeon.L2.Body Aeon.L2.Checkpoint Aeon.L2.CheckpointWal

def Distinguishes (crc : Bytes → UInt32) (x : Bytes) : Prop := ∀ y, crc y = crc x → y = x

section Wal

variable {B : Bincode}

def appendWal (B : Bincode) (w : WalWriter) (d : Disk) :
    List CheckpointRecord → Except String (WalWriter × Disk × List CheckpointRecord)
  | [] => .ok (w, d, [])
  | r :: rs => do
    let (w, d, r) ← w.append B d r
    let (w, d, rs) ← appendWal B w d rs
    .ok (w, d, r :: rs)

lemma appendWal_file {rs before written : List CheckpointRecord}
    (hd : d.files w.path = some (walBytes B before)) (h : appendWal B w d rs = .ok (w', d', written)) :
    d'.files w.path = some (walBytes B (before ++ written)) := by
  induction rs generalizing w d before written with
  | nil => cases h; grind
  | cons r rs ih =>
    rw [appendWal, WalWriter.append_walBytes hd] at h; simp only [bind, Except.bind] at h
    split at h
    · cases h
    · rename_i res hr
      obtain ⟨w₁, d₁, rest⟩ := res; cases h
      have hd₁ : (d.writeFile w.path (walBytes B (before ++ [r.withId w.nextCheckpointId]))).files w.path =
          some (walBytes B (before ++ [r.withId w.nextCheckpointId])) := update_self ..
      have hf := ih (w := ⟨w.path, w.nextCheckpointId + 1⟩) hd₁ hr
      rwa [append_assoc] at hf

lemma nextWalRecord_damaged (hrt : B.RoundTrips r) (hcr : Distinguishes B.crc32 (B.serialize r))
    {post : Bytes} (hin : min q m < (walFrame B r).length) (hb : (walFrame B r ++ post)[q]? ≠ some b) :
    nextWalRecord B (damage (walFrame B r ++ post) q b m) = none := by
  rcases Nat.lt_or_ge q m with hqm | hmq
  · obtain ⟨hln, hc, hda⟩ := walFrame_fields (B := B) r post
    have hq : q < (walFrame B r ++ post).length := by rw [length_append]; omega
    have hm : (damage (walFrame B r ++ post) q b m).length ≤ m := length_take_le ..
    have hr : ((walFrame B r ++ post).drop walRecordHeaderSize).take (B.serialize r).length =
        B.serialize r := by rw [hda, take_left]
    rw [length_walFrame] at hin
    generalize hD : damage (walFrame B r ++ post) q b m = D at hm ⊢
    simp only [nextWalRecord]; split_ifs with h8 hL hne
    · rfl
    · rfl
    · rfl
    exfalso; rw [walRecordHeaderSize] at h8 hL hin hr hda
    have hs : ∀ i w, i + w ≤ D.length → q < i ∨ i + w ≤ q →
        (D.drop i).take w = ((walFrame B r ++ post).drop i).take w := fun i w hle ho =>
      hD ▸ field_undamaged (by omega) ho
    have hd : ∀ i w, i + w ≤ D.length → i ≤ q → q < i + w →
        (D.drop i).take w ≠ ((walFrame B r ++ post).drop i).take w := fun i w hle hi hw =>
      hD ▸ field_changed hi hw hq hb
    rcases Nat.lt_or_ge q 4 with hq4 | hq4
    · -- the length: another number of bytes is checked
      have hc' := hcr _ (UInt32.toNat_inj.mp (by
        rw [Decidable.not_not.mp hne, hs 4 4 (by omega) (.inl hq4), hc,
          leVal_leBytes (UInt32.toNat_lt _)]))
      have hl := congrArg List.length hc'
      rw [length_take, length_drop, Nat.min_eq_left (by rw [walRecordHeaderSize]; omega)] at hl
      refine hd 0 4 (by omega) (Nat.zero_le _) hq4 (leVal_inj ?_ ?_)
      · grind [length_leBytes]
      · rw [drop_zero, drop_zero, hln, leVal_leBytes hrt.2, hl]
    · have hl4 : leVal (D.take 4) = (B.serialize r).length := by
        have h := hs 0 4 (by omega) (.inr hq4)
        rw [drop_zero, drop_zero, hln] at h; rw [h, leVal_leBytes hrt.2]
      rw [hl4] at hL hne; rcases Nat.lt_or_ge q 8 with hq8 | hq8
      · -- the checksum itself
        refine hd 4 4 (by omega) hq4 hq8 (leVal_inj ?_ ?_)
        · rw [hc, length_take, length_drop, length_leBytes]; omega
        · rw [← Decidable.not_not.mp hne, walRecordHeaderSize,
            hs 8 _ (by omega) (.inl hq8), hr, hc, leVal_leBytes (UInt32.toNat_lt _)]
      · -- the record
        refine hd 8 (B.serialize r).length (by omega) hq8 (by omega) ?_; rw [hr]
        refine hcr _ (UInt32.toNat_inj.mp ?_); have hst := Decidable.not_not.mp hne
        rw [hs 4 4 (by omega) (.inr hq8), hc, leVal_leBytes (UInt32.toNat_lt _)] at hst
        exact hst
  · have hm : m < (walFrame B r).length := by omega
    rw [damage_of_le hmq, take_append_of_le_length (Nat.le_of_lt hm)]
    exact nextWalRecord_torn hrt hm

lemma readWalRecords_damaged (hrt : ∀ r ∈ rs, B.RoundTrips r)
    (hc : ∀ r ∈ rs, Distinguishes B.crc32 (B.serialize r)) (hp : walHeaderSize ≤ p)
    (hlt : p < (walBytes B rs).length) (hb : (walBytes B rs)[p]? ≠ some b) (hn : walHeaderSize ≤ n) :
    readWalRecords B (damage (walBytes B rs) p b n) =
      .ok (whole (frameSize B) (min p n - walHeaderSize) rs) := by
  have hh : walHeader.length = walHeaderSize := rfl
  obtain ⟨p, rfl⟩ := Nat.exists_eq_add_of_le hp
  obtain ⟨n, rfl⟩ := Nat.exists_eq_add_of_le hn
  rw [walBytes, length_append, hh] at hlt
  rw [walBytes, ← hh, getElem?_append_right (by omega), Nat.add_sub_cancel_left] at hb
  have hs : damage (walBytes B rs) (walHeaderSize + p) b (walHeaderSize + n) =
      walBytes B [] ++ damage (rs.flatMap (walFrame B)) p b n := by
    rw [walBytes, ← hh, damage_append]; rfl
  obtain ⟨pre, r, post, q, m, rfl, rfl, rfl, hin, hw, hsc⟩ := scan_damaged (n := n) (b := b)
    nextWalRecord_progress (fun r => (rfl : (walFrame B r).length = frameSize B r))
    (fun r hr rest => nextWalRecord_frame (hrt r hr) rest) (by omega : p < (rs.flatMap (walFrame B)).length)
  have hr : r ∈ pre ++ r :: post := mem_append_right _ mem_cons_self
  rw [flatMap_append, flatMap_cons, getElem?_append_right (by omega),
    Nat.add_sub_cancel_left] at hb
  rw [hs, readWalRecords_append (by simp), hsc,
    scan_of_none (nextWalRecord_damaged (hrt r hr) (hc r hr) hin hb), Nat.add_min_add_left,
    Nat.add_sub_cancel_left, show whole (frameSize B) _ _ = pre from hw]
  simp

end Wal

section Body

variable {Event : Type} {C : Codec Event}

def appendSegment (C : Codec Event) (s : Segment) (file : Bytes) :
    List (Nat × Event) → Except String (Segment × Bytes)
  | [] => .ok (s, file)
  | (seq, event) :: rs => do
    let (s, bytes) ← s.append C seq event
    appendSegment C s (file ++ bytes) rs

def recordBytes (C : Codec Event) (r : Nat × Event) : Bytes := frame C r.1 (payload C r.2)

structure Sound (C : Codec Event) (r : Nat × Event) : Prop where
  seq : r.1 < 2 ^ 64
  decode : ∀ b ∈ C.encode r.2, C.decode b = some r.2
  crc : ∀ b ∈ C.encode r.2, Distinguishes C.crc32 (leBytes 4 b.length ++ b)

lemma appendSegment_file {file file' : Bytes} (h : appendSegment C s file rs = .ok (s', file')) :
    file' = file ++ rs.flatMap (recordBytes C) ∧
      ∀ r ∈ rs, C.encode r.2 = some (payload C r.2) ∧ (payload C r.2).length < 2 ^ 32 := by
  induction rs generalizing s file with
  | nil => cases h; simp
  | cons r rs ih =>
    obtain ⟨seq, event⟩ := r; simp only [appendSegment, bind, Except.bind] at h; split at h
    · cases h
    · rename_i res hr
      obtain ⟨s₁, bytes⟩ := res; unfold Segment.append at hr; split at hr
      · cases hr
      · split at hr
        · cases hr
        · rename_i b hb
          split_ifs at hr with hl; cases hr
          have hp : payload C event = b := by rw [payload, hb]; rfl
          obtain ⟨hf, ha⟩ := ih h; refine ⟨?_, ?_⟩
          · grind [recordBytes]
          grind

lemma nextRecord_damaged {seq : Nat} (hl32 : b.length < 2 ^ 32)
    (hcr : Distinguishes C.crc32 (leBytes 4 b.length ++ b)) {post : Bytes}
    (hin : min q m < (frame C seq b).length) (hb : (frame C seq b ++ post)[q]? ≠ some x)
    (hse : q < 8 → m < (frame C seq b).length) :
    nextRecord C (damage (frame C seq b ++ post) q x m) = none := by
  rcases Nat.lt_or_ge q m with hqm | hmq
  · obtain ⟨-, hc, hln, hda⟩ := frame_fields (C := C) seq b post
    have hq : q < (frame C seq b ++ post).length := by rw [length_append]; omega
    have hm : (damage (frame C seq b ++ post) q x m).length ≤ m := length_take_le ..
    have hr : ((frame C seq b ++ post).drop recordHeaderSize).take b.length = b := by rw [hda, take_left]
    rw [length_frame] at hin hse
    generalize hD : damage (frame C seq b ++ post) q x m = D at hm ⊢; simp only [nextRecord]
    split_ifs with h16 hL hne
    · rfl
    · rfl
    · rfl
    exfalso; rw [recordHeaderSize] at h16 hL hin hr hda hse
    have hsa : ∀ i w, i + w ≤ D.length → q < i ∨ i + w ≤ q →
        (D.drop i).take w = ((frame C seq b ++ post).drop i).take w := fun i w hle ho =>
      hD ▸ field_undamaged (by omega) ho
    have hd : ∀ i w, i + w ≤ D.length → i ≤ q → q < i + w →
        (D.drop i).take w ≠ ((frame C seq b ++ post).drop i).take w := fun i w hle hi hw =>
      hD ▸ field_changed hi hw hq hb
    have hs := Decidable.not_not.mp hne; by_cases hf : 12 ≤ q ∧ q < 16
    · -- the length: another number of bytes is checked
      rw [hsa 8 4 (by omega) (.inr hf.1), hc, leVal_leBytes (UInt32.toNat_lt _)] at hs
      have hby := hcr _ (UInt32.toNat_inj.mp hs)
      have hl := congrArg List.length (append_inj_right hby (by simp))
      rw [length_take, length_drop, Nat.min_eq_left (by rw [recordHeaderSize]; omega)] at hl
      refine hd 12 4 (by omega) hf.1 hf.2 (leVal_inj ?_ ?_)
      · rw [hln, length_take, length_drop, length_leBytes]; omega
      · rw [hln, leVal_leBytes hl32, hl]
    · have hl4 : leVal ((D.drop 12).take 4) = b.length := by grind [leVal_leBytes]
      rw [hl4] at hL hs; rw [recordHeaderSize] at hs; by_cases hf' : 8 ≤ q ∧ q < 12
      · -- the checksum itself
        refine hd 8 4 (by omega) hf'.1 hf'.2 (leVal_inj ?_ ?_)
        · grind [length_leBytes]
        · rw [← hs, hsa 16 _ (by omega) (.inl (by omega)), hr, hc,
            leVal_leBytes (UInt32.toNat_lt _)]
      · -- the payload; a change in the sequence field comes with a cut in the record
        refine hd 16 b.length (by omega) (by omega) (by omega) ?_; rw [hr]
        rw [hsa 8 4 (by omega) (by omega), hc, leVal_leBytes (UInt32.toNat_lt _)] at hs
        exact append_inj_right (hcr _ (UInt32.toNat_inj.mp hs)) rfl
  · have hm : m < (frame C seq b).length := by omega
    rw [damage_of_le hmq, take_append_of_le_length (Nat.le_of_lt hm)]
    exact nextRecord_torn hl32 hm

lemma damage_seq {seq : Nat} {post : Bytes} (hq : q < 8) (hm : (frame C seq b).length ≤ m)
    (hb : (frame C seq b ++ post)[q]? ≠ some x) :
    ∃ seq' ≠ seq, seq' < 2 ^ 64 ∧ damage (frame C seq b ++ post) q x m =
      frame C seq' b ++ post.take (m - (frame C seq b).length) := by
  have hf : ((leBytes 8 seq).set q x).length = 8 := by rw [length_set, length_leBytes]
  have hv : leBytes 8 (leVal ((leBytes 8 seq).set q x)) = (leBytes 8 seq).set q x := by
    have h := leBytes_leVal ((leBytes 8 seq).set q x); rwa [hf] at h
  refine ⟨leVal ((leBytes 8 seq).set q x), fun heq => ?_, ?_, ?_⟩
  · -- the byte would be the one that was there
    rw [heq] at hv; refine hb ?_; simp only [frame, append_assoc]
    rw [getElem?_append_left (by rw [length_leBytes]; exact hq), hv,
      getElem?_set_self (by rw [length_leBytes]; exact hq)]
  · have h := leVal_lt ((leBytes 8 seq).set q x); rw [hf] at h; exact h
  · have hs : (frame C seq b ++ post).set q x =
        frame C (leVal ((leBytes 8 seq).set q x)) b ++ post := by
      simp only [frame, append_assoc, hv]
      rw [set_append_left _ _ (by rw [length_leBytes]; exact hq)]
    simp_all [length_frame, damage, take_append]

def recordStart (C : Codec Event) (pre : List (Nat × Event)) : Nat :=
  headerSize + (pre.flatMap (recordBytes C)).length

def InSeqField (C : Codec Event) (rs : List (Nat × Event)) (p n : Nat) : Prop :=
  ∃ pre r post, rs = pre ++ r :: post ∧ recordStart C pre ≤ p ∧ p < recordStart C pre + 8 ∧
    recordStart C (pre ++ [r]) ≤ n

section Damaged

variable {rs : List (Nat × Event)} {p n : Nat} {x : UInt8}
  (hsound : ∀ r ∈ rs, Sound C r)
  (hfits : ∀ r ∈ rs, C.encode r.2 = some (payload C r.2) ∧ (payload C r.2).length < 2 ^ 32)

lemma length_recordBytes (r : Nat × Event) : (recordBytes C r).length = recordSize C r := length_frame _ _

include hsound hfits

lemma nextRecord_recordBytes (r : Nat × Event) (hr : r ∈ rs) (rest : Bytes) :
    nextRecord C (recordBytes C r ++ rest) = some (.ok r, rest) :=
  nextRecord_frame (hsound r hr).seq (hfits r hr).2 ((hsound r hr).decode _ (hfits r hr).1) rest

lemma scan_take :
    scan (nextRecord C) ((rs.flatMap (recordBytes C)).take k) = (whole (recordSize C) k rs).map .ok := by
  rcases Nat.le_total k (rs.flatMap (recordBytes C)).length with hk | hk
  · obtain ⟨torn, ht, -, hto⟩ := take_frames (fun r _ => length_recordBytes (C := C) r) hk
    have hs := (whole_isPrefix (recordSize C) k rs).subset
    have he : scan (nextRecord C) torn = [] := by
      rcases hto with rfl | ⟨r, hr, m, hm, rfl⟩
      · rfl
      · exact scan_of_none (nextRecord_torn (hfits r hr).2 hm)
    rw [ht, scan_frames nextRecord_progress fun r hr =>
      nextRecord_recordBytes hsound hfits r (hs hr), he, append_nil]
  · have ha := scan_frames nextRecord_progress (nextRecord_recordBytes hsound hfits) []
    rw [scan_of_none nextRecord_nil, append_nil, append_nil] at ha
    rw [take_of_length_le hk, ha, whole_eq_self (fun r _ => length_recordBytes r) hk]

lemma iterRecords_damaged (hp : headerSize ≤ p) (hlt : p < (header ++ rs.flatMap (recordBytes C)).length)
    (hx : (header ++ rs.flatMap (recordBytes C))[p]? ≠ some x) (hn : headerSize ≤ n)
    (hse : ¬ InSeqField C rs p n) :
    iterRecords C (damage (header ++ rs.flatMap (recordBytes C)) p x n) =
      .ok ((whole (recordSize C) (min p n - headerSize) rs).map .ok) := by
  obtain ⟨p, rfl⟩ := Nat.exists_eq_add_of_le hp
  obtain ⟨n, rfl⟩ := Nat.exists_eq_add_of_le hn
  rw [length_append, length_header] at hlt
  rw [← length_header, getElem?_append_right (by omega), Nat.add_sub_cancel_left] at hx
  obtain ⟨pre, r, post, q, m, rfl, rfl, rfl, hin, hw, hs⟩ := scan_damaged (n := n) (b := x)
    nextRecord_progress (length_recordBytes (C := C)) (nextRecord_recordBytes hsound hfits)
    (by omega : p < (rs.flatMap (recordBytes C)).length)
  have hr : r ∈ pre ++ r :: post := mem_append_right _ mem_cons_self
  rw [flatMap_append, flatMap_cons, getElem?_append_right (by omega),
    Nat.add_sub_cancel_left] at hx
  have hc : q < 8 → m < (recordBytes C r).length := by
    refine fun hq => Nat.lt_of_not_le fun hle => hse ⟨pre, r, post, rfl, ?_, ?_, ?_⟩
    · rw [recordStart]; omega
    · rw [recordStart]; omega
    · rw [recordStart, flatMap_append, length_append, flatMap_singleton]; omega
  have hst := nextRecord_damaged (hfits r hr).2 ((hsound r hr).crc _ (hfits r hr).1) hin hx hc
  rw [← length_header, damage_append, iterRecords_header, hs, Nat.add_min_add_left,
    Nat.add_sub_cancel_left, hw]
  exact congrArg Except.ok ((congrArg _ (scan_of_none hst)).trans (append_nil _))

lemma iterRecords_seq_damaged {pre post : List (Nat × Event)} (hrs : rs = pre ++ r :: post)
    (hp : p = recordStart C pre + q) (hq : q < 8) (hx : (header ++ rs.flatMap (recordBytes C))[p]? ≠ some x)
    (hn : recordStart C (pre ++ [r]) ≤ n) :
    ∃ seq ≠ r.1, iterRecords C (damage (header ++ rs.flatMap (recordBytes C)) p x n) =
      .ok ((whole (recordSize C) (n - headerSize) (pre ++ (seq, r.2) :: post)).map .ok) := by
  subst hrs hp
  rw [recordStart, flatMap_append, length_append, flatMap_singleton] at hn
  obtain ⟨m, rfl⟩ : ∃ m, n = headerSize + ((pre.flatMap (recordBytes C)).length + m) :=
    ⟨n - headerSize - (pre.flatMap (recordBytes C)).length, by omega⟩
  have hr : r ∈ pre ++ r :: post := mem_append_right _ mem_cons_self
  have hm : ∀ c ∈ pre ++ post, c ∈ pre ++ r :: post := fun c hc =>
    (mem_append.mp hc).elim (mem_append_left _) fun h =>
      mem_append_right _ (mem_cons_of_mem _ h)
  rw [recordStart, Nat.add_assoc, ← length_header, getElem?_append_right (by omega),
    Nat.add_sub_cancel_left, flatMap_append, flatMap_cons,
    getElem?_append_right (by omega), Nat.add_sub_cancel_left] at hx
  obtain ⟨seq, hne, hlt, hd⟩ := damage_seq (m := m) hq (by rw [recordBytes] at hn; omega) hx
  refine ⟨seq, hne, ?_⟩
  have hpr : ∀ c ∈ pre, ∀ rest, nextRecord C (recordBytes C c ++ rest) = some (.ok c, rest) :=
    fun c hc => nextRecord_recordBytes hsound hfits c (mem_append_left _ hc)
  have hpo := scan_take (k := m - (recordBytes C r).length)
    (fun c hc => hsound c (hm c (mem_append_right _ hc)))
    (fun c hc => hfits c (hm c (mem_append_right _ hc)))
  have hnx := nextRecord_frame hlt (hfits r hr).2 ((hsound r hr).decode _ (hfits r hr).1)
    ((post.flatMap (recordBytes C)).take (m - (recordBytes C r).length))
  have hs : scan (nextRecord C) (damage ((pre ++ r :: post).flatMap (recordBytes C))
      ((pre.flatMap (recordBytes C)).length + q) x ((pre.flatMap (recordBytes C)).length + m)) =
      (pre ++ (seq, r.2) :: whole (recordSize C) (m - recordSize C r) post).map .ok := by
    rw [flatMap_append, flatMap_cons, damage_append, scan_frames nextRecord_progress hpr,
      map_append, map_cons, ← length_recordBytes, ← hpo]
    exact congrArg _ (hd ▸ scan_of_some nextRecord_progress hnx)
  have hsi : recordSize C (seq, r.2) ≤ m := by show recordSize C r ≤ m; rw [← length_recordBytes]; omega
  rw [recordStart, Nat.add_assoc, ← length_header, damage_append, iterRecords_header, hs,
    Nat.add_sub_cancel_left, whole_append length_recordBytes, whole, if_pos hsi]
  rfl

end Damaged

end Body

/-- **Damage is detected**, in a WAL and in a segment, but for the sequence numbers of a segment. -/
theorem damage_detected {Event : Type} (B : Bincode) (C : Codec Event) :
    (∀ (d₀ d d' : Disk) (path : String) (w w' : WalWriter) (rs written : List CheckpointRecord),
      d₀.files path = none → WalWriter.new B d₀ path = .ok (w, d) →
      appendWal B w d rs = .ok (w', d', written) →
      (∀ r ∈ written, B.RoundTrips r ∧ Distinguishes B.crc32 (B.serialize r)) →
      ∀ (file : Bytes) (p n : Nat) (x : UInt8), d'.files path = some file →
        walHeaderSize ≤ p → p < file.length → file[p]? ≠ some x → walHeaderSize ≤ n →
        readWalRecords B (damage file p x n) =
          .ok (whole (frameSize B) (min p n - walHeaderSize) written)) ∧
    (∀ (s s' : Segment) (rs : List (Nat × Event)) (file : Bytes),
      appendSegment C s header rs = .ok (s', file) → (∀ r ∈ rs, Sound C r) →
      ∀ (p n : Nat) (x : UInt8), headerSize ≤ p → p < file.length → file[p]? ≠ some x → headerSize ≤ n →
        (¬ InSeqField C rs p n → iterRecords C (damage file p x n) =
          .ok ((whole (recordSize C) (min p n - headerSize) rs).map .ok)) ∧
        (∀ pre r post q, rs = pre ++ r :: post → p = recordStart C pre + q → q < 8 →
          recordStart C (pre ++ [r]) ≤ n →
          ∃ seq ≠ r.1, iterRecords C (damage file p x n) =
            .ok ((whole (recordSize C) (n - headerSize) (pre ++ (seq, r.2) :: post)).map .ok))) := by
  refine ⟨?_, ?_⟩
  · intro d₀ d d' path w w' rs written hno hne ha hok file p n x hfi hp hlt hx hn
    rw [WalWriter.new, hno] at hne; cases hne
    have hh : (d₀.writeFile path walHeader).files path = some (walBytes B []) := update_self ..
    have hb := appendWal_file (w := ⟨path, 0⟩) hh ha; rw [hfi] at hb; cases hb
    exact readWalRecords_damaged (fun r hr => (hok r hr).1) (fun r hr => (hok r hr).2) hp hlt hx hn
  · intro s s' rs file ha hs p n x hp hlt hx hn; obtain ⟨rfl, hf⟩ := appendSegment_file ha
    exact ⟨iterRecords_damaged hs hf hp hlt hx hn, fun pre r post q hrs hpq hq hc =>
      iterRecords_seq_damaged hs hf hrs hpq hq hx hc⟩

def pinned (xs : List Bytes) (y : Bytes) : UInt32 := if y ∈ xs then crc32 y else 0

lemma pinned_distinguishes {xs : List Bytes} (h : (0 :: xs.map crc32).Nodup) (hx : x ∈ xs) :
    Distinguishes (pinned xs) x := by
  obtain ⟨h₀, hn⟩ := nodup_cons.mp h
  intro y hy; rw [pinned, pinned, if_pos hx] at hy; split_ifs at hy with hm
  · exact inj_on_of_nodup_map hn hm hx hy
  · exact absurd (hy ▸ mem_map_of_mem hx) h₀

def byteCodec : Codec UInt8 := ⟨fun e => some [e], List.head?, pinned ([7, 8, 9].map ([1, 0, 0, 0, ·]))⟩

lemma sound_byte (seq : Fin 3) (e : UInt8) (he : e ∈ [7, 8, 9]) : Sound byteCodec (seq, e) where
  seq := by have := seq.isLt; simp only; omega
  decode b hb := by cases hb; rfl
  crc b hb := by
    cases hb; exact pinned_distinguishes (by decide +kernel) (mem_map.mpr ⟨e, he, by simp [leBytes]⟩)

def pinnedBincode : Bincode :=
  { plainBincode with crc32 := pinned ([0, 1, 2].map fun n => plainBincode.serialize
    ((delivered n).withId n)) }

def threeCheckpoints : List CheckpointRecord := [delivered 0, (delivered 1).withId 1, (delivered 2).withId 2]

def threeRecords : List (Nat × UInt8) := [(0, 7), (1, 8), (2, 9)]

theorem damage_detected_three_records :
    readWalRecords pinnedBincode (damage (walBytes pinnedBincode threeCheckpoints) 100 255 150) =
      .ok [delivered 0] ∧
    (let file := header ++ threeRecords.flatMap (recordBytes byteCodec)
     iterRecords byteCodec (damage file 45 0 60) = .ok [.ok (0, 7)] ∧
     ∃ seq ≠ 1, iterRecords byteCodec (damage file 29 5 63) = .ok [.ok (0, 7), .ok (seq, 8),
       .ok (2, 9)]) := by
  have hm := damage_detected pinnedBincode byteCodec; refine ⟨?_, ?_⟩
  · have hn : (0 :: [0, 1, 2].map fun n =>
      crc32 (plainBincode.serialize ((delivered n).withId n))).Nodup := by
      decide +kernel
    refine hm.1 ⟨fun _ => none, fun _ => []⟩ _ _ "wal" _ _
      ([0, 1, 2].map delivered) threeCheckpoints rfl rfl rfl ?_ _
      100 150 255 (by decide +kernel) (by decide) (by decide +kernel) (by decide +kernel) (by decide)
    intro r hr; rw [threeCheckpoints, mem_cons, mem_pair] at hr
    rcases hr with rfl | rfl | rfl
    all_goals exact ⟨by decide +kernel, pinned_distinguishes (by rwa [List.map_map]) (by decide +kernel)⟩
  · have ha : appendSegment byteCodec ⟨0, none, headerSize⟩ header threeRecords =
        .ok (⟨0, some 2, 63⟩, header ++ threeRecords.flatMap (recordBytes byteCodec)) := by decide +kernel
    have hs : ∀ r ∈ threeRecords, Sound byteCodec r := by
      intro r hr; rw [threeRecords, mem_cons, mem_pair] at hr; rcases hr with rfl | rfl | rfl
      · exact sound_byte 0 7 (by decide)
      · exact sound_byte 1 8 (by decide)
      · exact sound_byte 2 9 (by decide)
    refine ⟨(hm.2 _ _ _ _ ha hs 45 60 0 (by decide) (by decide +kernel) (by decide +kernel) (by decide)).1 ?_,
      (hm.2 _ _ _ _ ha hs 29 63 5 (by decide) (by decide +kernel) (by decide +kernel) (by decide)).2
        [(0, 7)] (1, 8) [(2, 9)] 0 rfl rfl (by decide) (by decide +kernel)⟩
    rintro ⟨pre, r, post, hrs, hle, hlt, -⟩
    have hpre : pre ∈ threeRecords.inits := (mem_inits _ _).mpr ⟨r :: post, hrs.symm⟩
    have hst : ∀ pre ∈ threeRecords.inits,
      ¬ (recordStart byteCodec pre ≤ 45 ∧ 45 < recordStart byteCodec pre + 8) := by
      decide +kernel
    exact hst pre hpre ⟨hle, hlt⟩

theorem damage_changes_seq :
    ∃ (s : Segment) (file : Bytes), appendSegment byteCodec ⟨0, none, headerSize⟩ header [(0, 7)] = .ok
      (s, file) ∧
      Sound byteCodec (0, 7) ∧ headerSize ≤ 12 ∧ 12 < file.length ∧ file[12]? ≠ some 1 ∧
      whole (recordSize byteCodec) (min 12 file.length - headerSize) [(0, 7)] = [] ∧
      iterRecords byteCodec (damage file 12 1 file.length) = .ok [.ok (1, 7)] := by
  refine ⟨_, _, rfl, sound_byte 0 7 (by decide), ?_⟩; decide +kernel

end Aeon.L2.Corruption
