import Aeon.Core.LTS
import Aeon.L2Store.Checkpoint

/-!
# The ring of L3 checkpoints

`L3CheckpointStore` of `crates/aeon-engine/src/checkpoint.rs` over its whole life, failed calls
included. `ids` is a ghost: the ids of the appends that returned `Ok`.

* `ring_iff`: it keeps exactly the last `max_records` under growing ids iff that is not `Some(0)`;
* `ring_loses_record`: `Some(0)`.
-/
namespace Aeon.L2.CheckpointRing

open List Aeon.Core Aeon.L2.Checkpoint

structure St where
  disk : Disk
  writer : Option L3CheckpointStore
  ids : List Nat

inductive Lbl
  | reopen (up : Bool)
  | append (r : CheckpointRecord) (o : L3Outcome)

section Machine

variable (B : Bincode) (store : Nat) (maxRecords : Option Nat)

def step (s : St) : Lbl → Option St
  | .reopen up =>
    match L3CheckpointStore.openStore s.disk store maxRecords up with
    | .error _ => some { s with writer := none }
    | .ok w => some { s with writer := some w }
  | .append r o =>
    match s.writer with
    | none => none
    | some w =>
      match w.append B s.disk o r with
      | (w, d, .error _) => some { s with disk := d, writer := some w }
      | (w, d, .ok r) => some ⟨d, some w, s.ids ++ [r.checkpointId]⟩

def empty : St := ⟨⟨fun _ => none, fun _ => []⟩, none, []⟩

def machine : LTS St Lbl := .ofFn (· = empty) (step B store maxRecords)

def kept (n : Nat) : Nat := maxRecords.elim n (min · n)

structure Holds (s : St) (w : L3CheckpointStore) (d : Disk) (r : CheckpointRecord) : Prop where
  last : B.deserialize (B.serialize r) = some r → w.readLast B d true = .ok (some r)
  window : (d.l3 store).map Prod.fst =
    List.range' (w.nextCheckpointId - kept maxRecords w.nextCheckpointId) (kept maxRecords w.nextCheckpointId)
  increasing : ∀ id ∈ s.ids, id < r.checkpointId

end Machine

section Entries

variable {es : List (Nat × Bytes)} {lo top id : Nat} {b : Bytes}

def Window (es : List (Nat × Bytes)) (lo top : Nat) : Prop := es.map Prod.fst = List.range' lo (top - lo)

section

variable (h : Window es lo top)
include h

lemma Window.mem (he : e ∈ es) : lo ≤ e.1 ∧ e.1 < top := by
  have hm : e.1 ∈ List.range' lo (top - lo) := h ▸ List.mem_map_of_mem he; grind

lemma Window.put_eq (ht : id = top ∨ id + 1 = top) :
    Checkpoint.put es id b = es.filter (·.1 < id) ++ [(id, b)] := by
  have ha : es.filter (id < ·.1) = [] := by
    rw [filter_eq_nil_iff]; intro e he; have := h.mem he
    grind
  rw [Checkpoint.put, ha]

lemma Window.put (hlo : lo ≤ id) (ht : id = top ∨ id + 1 = top) :
    Window (Checkpoint.put es id b) lo (id + 1) := by
  have hk : (es.filter (·.1 < id)).map Prod.fst = List.range' lo (id - lo) := by
    have hm : (es.filter (·.1 < id)).map Prod.fst = (es.map Prod.fst).filter (· < id) := by
      rw [List.filter_map]; rfl
    rw [hm, h]; rcases ht with rfl | rfl
    · simp_all
    · rw [show id + 1 - lo = id - lo + 1 by omega, range'_1_concat, filter_append,
        filter_eq_self.mpr, filter_eq_nil_iff.mpr, append_nil]
      · grind
      grind
  rw [Window, h.put_eq ht, map_append, hk, show id + 1 - lo = id - lo + 1 by omega,
    range'_1_concat, show lo + (id - lo) = id by omega]
  rfl

lemma Window.purge {low : Nat} (hlo : lo ≤ low) (hl : low ≤ top) :
    Window (es.filter (low ≤ ·.1)) low top := by
  have hm : (es.filter (low ≤ ·.1)).map Prod.fst = (es.map Prod.fst).filter (low ≤ ·) := by
    rw [List.filter_map]; rfl
  have hs : List.range' lo (top - lo) = List.range' lo (low - lo) ++ List.range' low (top - low) := by
    rw [show top - lo = (low - lo) + (top - low) by omega, ← range'_append_1,
      show lo + (low - lo) = low by omega]
  simp_all [Window, filter_append, filter_eq_nil_iff.mpr, nil_append, filter_eq_self, mem_range'_1,
    decide_eq_true_eq]

lemma Window.max (hlt : lo < top) : ((es.map Prod.fst).max?).elim 0 (· + 1) = top := by
  have hm : (es.map Prod.fst).max? = some (top - 1) := by rw [h, max?_eq_some_iff]; grind
  grind

end

end Entries

section Invariant

variable {B : Bincode} {store : Nat} {maxRecords : Option Nat} {s s' : St}

/-- mirrors checkpoint.rs:390-392 -/
def lowWatermark (maxRecords : Option Nat) (next : Nat) : Nat := maxRecords.elim 0 (next - ·)

lemma lowWatermark_mono (h : n ≤ m) : lowWatermark maxRecords n ≤ lowWatermark maxRecords m := by
  cases maxRecords with
  | none => exact Nat.le_refl 0
  | some k => exact Nat.sub_le_sub_right h k

lemma lowWatermark_lt (h : maxRecords ≠ some 0) (hn : 0 < n) : lowWatermark maxRecords n < n := by
  cases maxRecords with
  | none => exact hn
  | some => grind [lowWatermark]

lemma sub_kept (n : Nat) : n - kept maxRecords n = lowWatermark maxRecords n ∧
    kept maxRecords n = n - lowWatermark maxRecords n := by
  cases maxRecords with
  | none => simp [kept, lowWatermark]
  | some => simp only [kept, lowWatermark, Option.elim_some]; omega

structure Inv (store : Nat) (maxRecords : Option Nat) (s : St) (lo top : Nat) : Prop where
  window : Window (s.disk.l3 store) lo top
  fresh : lo = top → top = 0
  low : lo ≤ lowWatermark maxRecords top
  ids : ∀ id ∈ s.ids, id < top
  writer : ∀ w ∈ s.writer, w.store = store ∧ w.maxRecords = maxRecords ∧
    (w.nextCheckpointId = top ∨ w.nextCheckpointId + 1 = top) ∧
    lo ≤ lowWatermark maxRecords w.nextCheckpointId ∧ ∀ id ∈ s.ids, id < w.nextCheckpointId

lemma lowWatermark_le (n : Nat) : lowWatermark maxRecords n ≤ n := by
  cases maxRecords with
  | none => exact Nat.zero_le n
  | some k => exact Nat.sub_le n k

lemma inv_empty : Inv store maxRecords empty 0 0 where
  window := rfl
  fresh _ := rfl
  low := Nat.zero_le _
  ids id h := by cases h
  writer w h := by cases h

structure Appended (B : Bincode) (store : Nat) (s : St) (w w' : L3CheckpointStore) (d' : Disk)
    (r : CheckpointRecord) (lo : Nat) : Prop where
  next : w' = { w with nextCheckpointId := w.nextCheckpointId + 1 }
  window : Window (d'.l3 store) lo (w.nextCheckpointId + 1)
  last : lo ≤ w.nextCheckpointId →
    (d'.l3 store).getLast? = some (w.nextCheckpointId, B.serialize (r.withId w.nextCheckpointId))

lemma append_cases {lo top : Nat} (h : Inv store maxRecords s lo top) (hw : s.writer = some w)
    {res : Except String CheckpointRecord} (ha : w.append B s.disk o r = (w', d', res)) :
    (∃ e, res = .error e ∧ w' = w ∧ (d' = s.disk ∨ Window (d'.l3 store) lo (w.nextCheckpointId + 1))) ∨
    (∃ e, res = .error e ∧ ∃ lo' ≤ lowWatermark maxRecords (w.nextCheckpointId + 1), lo ≤ lo' ∧
      Appended B store s w w' d' r lo') ∨
    (res = .ok (r.withId w.nextCheckpointId) ∧
      Appended B store s w w' d' r (lowWatermark maxRecords (w.nextCheckpointId + 1))) := by
  obtain ⟨hs, hm, hn, hl, -⟩ := h.writer w hw; obtain ⟨wstore, next, wmax⟩ := w
  simp only at hs hm hn hl; subst wstore wmax
  have hlo : lo ≤ next := Nat.le_trans hl (lowWatermark_le _)
  have hp := h.window.put (b := B.serialize (r.withId next)) hlo hn
  have hl' : lo ≤ lowWatermark maxRecords (next + 1) := Nat.le_trans hl (lowWatermark_mono (Nat.le_succ _))
  have hpu := hp.purge hl' (lowWatermark_le _)
  have heq := h.window.put_eq (b := B.serialize (r.withId next)) hn
  unfold L3CheckpointStore.append at ha; simp only at ha; split_ifs at ha with hfa hf hz
  · grind
  · cases ha; simp_all [Disk.writeL3]
  · -- nothing to purge
    cases ha
    have hl0 : lo = lowWatermark maxRecords (next + 1) := by
      have hz' : lowWatermark maxRecords (next + 1) = 0 := hz; omega
    refine .inr (.inr ⟨rfl, rfl, ?_, fun _ => ?_⟩)
    · simpa [Disk.writeL3, ← hl0] using hp
    · simp [Disk.writeL3, heq]
  · -- the purge keeps the new entry, unless the watermark is above it
    have hla : lowWatermark maxRecords (next + 1) ≤ next →
        ((Checkpoint.put (s.disk.l3 store) next (B.serialize (r.withId next))).filter
          (lowWatermark maxRecords (next + 1) ≤ ·.1)).getLast? =
            some (next, B.serialize (r.withId next)) := by
      intro hle; rw [heq, filter_append, filter_singleton, decide_eq_true hle]
      exact getLast?_concat
    have hd : Appended B store s ⟨store, next, maxRecords⟩ ⟨store, next + 1, maxRecords⟩
        (L3CheckpointStore.purgeBelow ⟨store, next + 1, maxRecords⟩
          (s.disk.writeL3 store (Checkpoint.put (s.disk.l3 store) next (B.serialize (r.withId next))))
          (lowWatermark maxRecords (next + 1))) r (lowWatermark maxRecords (next + 1)) := by
      refine ⟨rfl, ?_, fun hle => ?_⟩
      · simpa [L3CheckpointStore.purgeBelow, Disk.writeL3] using hpu
      · simpa [L3CheckpointStore.purgeBelow, Disk.writeL3] using hla hle
    split at ha
    · cases ha; refine .inr (.inl ⟨_, rfl, lo, hl', Nat.le_refl lo, rfl, ?_, fun _ => ?_⟩)
      · simpa [Disk.writeL3] using hp
      · simp [Disk.writeL3, heq]
    · cases ha; exact .inr (.inl ⟨_, rfl, _, Nat.le_refl _, hl', hd⟩)
    · cases ha; exact .inr (.inr ⟨rfl, hd⟩)

lemma Inv.reopen {lo top : Nat} (h : Inv store maxRecords s lo top)
    (hw : L3CheckpointStore.openStore s.disk store maxRecords up = .ok w) :
    Inv store maxRecords { s with writer := some w } lo top := by
  refine ⟨h.window, h.fresh, h.low, h.ids, ?_⟩; unfold L3CheckpointStore.openStore at hw
  split_ifs at hw; cases hw
  have hn : (((s.disk.l3 store).map Prod.fst).max?).elim 0 (· + 1) = top := by
    have hle : lo ≤ top := Nat.le_trans h.low (lowWatermark_le _)
    rcases Nat.lt_or_ge lo top with hlt | hge
    · exact h.window.max hlt
    · have ht := h.fresh (by omega)
      have hni : (s.disk.l3 store).map Prod.fst = [] := by rw [h.window, ht]; simp
      rw [hni, ht]; rfl
  rintro _ ⟨⟩
  exact ⟨rfl, rfl, .inl hn, by rw [hn]; exact h.low, fun id hid => by rw [hn]; exact h.ids id hid⟩

lemma Appended.inv {lo lo' top : Nat} (h : Inv store maxRecords s lo top) (hw : s.writer = some w)
    (ha : Appended B store s w w' d' r lo') (hm : maxRecords ≠ some 0)
    (hlo' : lo' ≤ lowWatermark maxRecords (w.nextCheckpointId + 1)) {ids : List Nat}
    (hi : ∀ id ∈ ids, id ≤ w.nextCheckpointId) :
    Inv store maxRecords ⟨d', some w', ids⟩ lo' (w.nextCheckpointId + 1) := by
  obtain ⟨hs, hm', -⟩ := h.writer w hw
  have hlt := lowWatermark_lt hm (Nat.succ_pos w.nextCheckpointId)
  refine ⟨ha.window, fun heq => ?_, hlo', fun id hid => Nat.lt_succ_of_le (hi id hid), ?_⟩
  · grind
  grind [ha.next]

lemma Inv.step {lo top : Nat} (h : Inv store maxRecords s lo top) (hm : maxRecords ≠ some 0)
    (hl : CheckpointRing.step B store maxRecords s l = some s') :
    ∃ lo' top', Inv store maxRecords s' lo' top' := by
  cases l with
  | reopen =>
    simp only [CheckpointRing.step] at hl; split at hl
    · obtain rfl := Option.some.inj hl
      exact ⟨lo, top, h.window, h.fresh, h.low, h.ids, fun w hw => by cases hw⟩
    · rename_i w hw
      obtain rfl := Option.some.inj hl; exact ⟨lo, top, h.reopen hw⟩
  | append =>
    simp only [CheckpointRing.step] at hl; split at hl
    · cases hl
    · rename_i w hw
      obtain ⟨hs, hma, hn, hlw, hi⟩ := h.writer w hw; split at hl
      · rename_i w' d' e ha
        obtain rfl := Option.some.inj hl
        rcases append_cases h hw ha with ⟨-, -, rfl, hd⟩ | ⟨-, -, lo', hlo', -, ha'⟩ | ⟨hr, -⟩
        · rcases hd with rfl | hwi
          · exact ⟨lo, top, h.window, h.fresh, h.low, h.ids, fun w₁ hw₁ => by cases hw₁; exact h.writer w' hw⟩
          · -- the entry is there, and will be written again
            have hlo := Nat.le_trans hlw (lowWatermark_le _)
            refine ⟨lo, w'.nextCheckpointId + 1, hwi, fun heq => by omega, ?_, fun id hid => ?_, ?_⟩
            · exact Nat.le_trans hlw (lowWatermark_mono (Nat.le_succ _))
            · grind
            grind
        · exact ⟨lo', _, ha'.inv h hw hm hlo' fun id hid => Nat.le_of_lt (hi id hid)⟩
        · cases hr
      · rename_i w' d' r' ha
        obtain rfl := Option.some.inj hl
        rcases append_cases h hw ha with ⟨e, he, -⟩ | ⟨e, he, -⟩ | ⟨hr, ha'⟩
        · cases he
        · cases he
        · cases hr; refine ⟨_, _, ha'.inv h hw hm (Nat.le_refl _) fun id hid => ?_⟩
          rcases mem_append.mp hid with hid | hid
          · exact Nat.le_of_lt (hi id hid)
          simp_all

lemma Inv.holds {lo top : Nat} (h : Inv store maxRecords s lo top) (hm : maxRecords ≠ some 0)
    (hw : s.writer = some w) (ha : w.append B s.disk o r = (w', d', .ok r')) :
    Holds B store maxRecords s w' d' r' := by
  obtain ⟨hs, -, -, -, hi⟩ := h.writer w hw
  rcases append_cases h hw ha with ⟨e, he, -⟩ | ⟨e, he, -⟩ | ⟨hr, hn, hwi, hl⟩
  · cases he
  · cases he
  · cases hr; subst hn; have hlt := lowWatermark_lt hm (Nat.succ_pos w.nextCheckpointId)
    refine ⟨fun hrt => ?_, ?_, hi⟩
    · rw [L3CheckpointStore.readLast, if_pos rfl]; grind
    · rw [(sub_kept _).1, (sub_kept _).2]; exact hwi

end Invariant

lemma append_zero (B : Bincode) {store : Nat} (hd : d.l3 store = []) (r : CheckpointRecord) :
    ∃ d', d'.l3 store = [] ∧ L3CheckpointStore.append B ⟨store, 0, some 0⟩ d .ok r =
      (⟨store, 1, some 0⟩, d', .ok (r.withId 0)) := by
  refine ⟨_, ?_, rfl⟩; simp [L3CheckpointStore.purgeBelow, Disk.writeL3, hd, Checkpoint.put]

lemma run_zero (B : Bincode) (store : Nat) : ∃ d, d.l3 store = [] ∧
    (machine B store (some 0)).Run empty [.reopen true, .append (delivered 1) .ok, .reopen true]
      ⟨d, some ⟨store, 0, some 0⟩, [0]⟩ := by
  obtain ⟨d, hd, hap⟩ := append_zero B (d := empty.disk) (rfl : empty.disk.l3 store = []) (delivered 1)
  have ho : step B store (some 0) empty (.reopen true) = some ⟨empty.disk, some ⟨store, 0, some 0⟩, []⟩ := rfl
  have hp : step B store (some 0) ⟨empty.disk, some ⟨store, 0, some 0⟩, []⟩ (.append (delivered 1) .ok) =
      some ⟨d, some ⟨store, 1, some 0⟩, [0]⟩ := by
    simp only [step, hap]; rfl
  have ha : step B store (some 0) ⟨d, some ⟨store, 1, some 0⟩, [0]⟩ (.reopen true) =
      some ⟨d, some ⟨store, 0, some 0⟩, [0]⟩ := by
    simp only [step, L3CheckpointStore.openStore, hd]; rfl
  exact ⟨d, hd, .cons ho (.cons hp (.cons ha (.nil _)))⟩

/-- **The checkpoint ring** is one for every cap but 0, in every run. -/
theorem ring_iff (B : Bincode) (store : Nat) (maxRecords : Option Nat) :
    (∀ ls s w w' d' o r r', (machine B store maxRecords).Run empty ls s → s.writer = some w →
      w.append B s.disk o r = (w', d', .ok r') → Holds B store maxRecords s w' d' r') ↔
    maxRecords ≠ some 0 := by
  constructor
  · rintro h rfl
    obtain ⟨d, hd, hr⟩ := run_zero B store
    obtain ⟨d', -, ha⟩ := append_zero B hd (delivered 2)
    have hh := h _ _ _ _ _ _ _ _ hr rfl ha
    exact absurd (hh.increasing 0 mem_cons_self) (Nat.lt_irrefl 0)
  · intro hm ls s w w' d' o r r' hr hw ha
    have hi : ∃ lo top, Inv store maxRecords s lo top := by
      refine hr.induct (I := fun t => ∃ lo top, Inv store maxRecords t lo top) (fun t l u ht hl => ?_)
        ⟨0, 0, inv_empty⟩
      obtain ⟨lo, top, ht⟩ := ht; exact ht.step hm hl
    obtain ⟨lo, top, hi⟩ := hi; exact hi.holds hm hw ha

theorem ring_loses_record : ∃ s w w' d' r',
    (machine plainBincode 0 (some 0)).Run empty [.reopen true, .append (delivered 1) .ok, .reopen true] s ∧
      s.writer = some w ∧ w.append plainBincode s.disk .ok (delivered 2) = (w', d', .ok r') ∧
      plainBincode.deserialize (plainBincode.serialize r') = some r' ∧
      w'.readLast plainBincode d' true = .ok none ∧ r'.checkpointId ∈ s.ids := by
  obtain ⟨d, hd, hr⟩ := run_zero plainBincode 0
  obtain ⟨d', hd', ha⟩ := append_zero plainBincode hd (delivered 2)
  refine ⟨_, _, _, _, _, hr, rfl, ha, by decide +kernel, ?_, mem_cons_self⟩
  rw [L3CheckpointStore.readLast, if_pos rfl, hd']; rfl

end Aeon.L2.CheckpointRing
