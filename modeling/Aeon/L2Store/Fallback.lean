import Aeon.Core.LTS
import Aeon.L2Store.Checkpoint

/-!
# Durability of the fallback checkpoint store

`FallbackCheckpointStore` (`crates/aeon-engine/src/eo2_recovery.rs`) over restarts; each label says
what the primary does in it. `last` is a ghost: the last append that returned `Ok`.

* `fallback_durable`: `read_last` returns it if WAL numbers are above those of the primary and the
  process is not restarted in fallback mode;
* `fallback_loses`: otherwise it need not.
-/
namespace Aeon.L2.Fallback

open List Option Function Aeon.Core Aeon.L2.Checkpoint

structure Cfg where
  store : Nat
  maxRecords : Option Nat
  walPath : String

structure St where
  disk : Disk
  store : FallbackCheckpointStore
  last : Option CheckpointRecord

inductive Lbl
  | append (r : CheckpointRecord) (o : L3Outcome)
  | recover (up : Bool) (o : L3Outcome)
  | restart (up : Bool)

def content (r : CheckpointRecord) : CheckpointRecord := r.withId 0

section Machine

variable (B : Bincode) (cfg : Cfg)

/-- mirrors eo2_recovery.rs:50-59 -/
def newStore (primary : L3CheckpointStore) : FallbackCheckpointStore :=
  { primary := primary, walPath := cfg.walPath }

def step (s : St) : Lbl → Option St
  | .append r o =>
    match s.store.append B s.disk o r with
    | (f, d, .ok r) => some ⟨d, f, some (content r)⟩
    | (f, d, .error _) => some ⟨d, f, s.last⟩
  | .recover up o =>
    let (f, d, _) := s.store.tryRecoverPrimary B s.disk up o
    some ⟨d, f, s.last⟩
  | .restart up =>
    match L3CheckpointStore.openStore s.disk cfg.store cfg.maxRecords up with
    | .error _ => none
    | .ok primary => some ⟨s.disk, newStore cfg primary, s.last⟩

def empty : St := ⟨⟨fun _ => none, fun _ => []⟩, newStore cfg ⟨cfg.store, 0, cfg.maxRecords⟩, none⟩

def machine : LTS St Lbl := .ofFn (· = empty cfg) (step B cfg)

def walRecords (d : Disk) : List CheckpointRecord :=
  match walReadAll B d cfg.walPath with
  | .ok rs => rs
  | .error _ => []

def walNextId (d : Disk) : Nat := nextId (walRecords B cfg d)

def Allowed (s : St) : Lbl → Prop
  | .append r o =>
    (B.RoundTrips (r.withId s.store.primary.nextCheckpointId) ∧
      B.RoundTrips (r.withId (walNextId B cfg s.disk))) ∧
    (s.store.inFallback = true ∨ o ≠ .ok → ∀ e ∈ s.disk.l3 cfg.store, e.1 < walNextId B cfg s.disk)
  | .recover _ _ => ∀ r ∈ walRecords B cfg s.disk,
      B.RoundTrips (r.withId s.store.primary.nextCheckpointId)
  | .restart _ => s.store.inFallback = false

instance (s : St) : ∀ l, Decidable (Allowed B cfg s l)
  | .append .. => inferInstanceAs (Decidable ((_ ∧ _) ∧ (_ → ∀ e ∈ s.disk.l3 cfg.store, _)))
  | .recover .. => inferInstanceAs (Decidable (∀ r ∈ walRecords B cfg s.disk, _))
  | .restart _ => inferInstanceAs (Decidable (s.store.inFallback = false))

def ReadsLast (s : St) (up : Bool) : Prop :=
  ∃ r, s.store.readLast B s.disk up = .ok r ∧ r.map content = s.last

end Machine

section Primary

variable {B : Bincode} {p : L3CheckpointStore} {d : Disk} {rs : List CheckpointRecord} {n : Nat}

structure PrimaryOk (B : Bincode) (d : Disk) (p : L3CheckpointStore) (rs : List CheckpointRecord) : Prop where
  l3 : d.l3 p.store = entries B rs
  ascending : Ascending rs
  roundTrips : ∀ r ∈ rs, B.RoundTrips r
  ids : ∀ r ∈ rs, r.checkpointId ≤ p.nextCheckpointId

def putLast (rs : List CheckpointRecord) (n : Nat) (r : CheckpointRecord) : List CheckpointRecord :=
  rs.filter (·.checkpointId < n) ++ [r.withId n]

lemma getLast?_putLast (rs : List CheckpointRecord) (n : Nat) (r : CheckpointRecord) :
    (putLast rs n r).getLast? = some (r.withId n) :=
  getLast?_concat

lemma getLast?_filter_putLast (rs : List CheckpointRecord) {low : Nat} (h : low ≤ n) (r : CheckpointRecord) :
    ((putLast rs n r).filter (low ≤ ·.checkpointId)).getLast? = some (r.withId n) := by
  have hk : low ≤ (r.withId n).checkpointId := h
  grind [putLast, filter_singleton]

lemma mem_putLast (h : x ∈ putLast rs n r) : x ∈ rs ∨ x = r.withId n := by
  rcases mem_append.mp h with h | h
  · grind
  grind

lemma put_entries (h : ∀ r ∈ rs, r.checkpointId ≤ n) (r : CheckpointRecord) :
    put (entries B rs) n (B.serialize (r.withId n)) = entries B (putLast rs n r) := by
  have hno : (entries B rs).filter (n < ·.1) = [] := by
    rw [filter_eq_nil_iff]; intro e he; obtain ⟨x, hx, rfl⟩ := List.mem_map.mp he
    grind
  rw [put, hno, entries, entries, putLast, List.filter_map, map_append]; rfl

lemma PrimaryOk.put (h : PrimaryOk B d p rs) (hr : B.RoundTrips (r.withId p.nextCheckpointId)) :
    PrimaryOk B (d.writeL3 p.store (entries B (putLast rs p.nextCheckpointId r))) p
      (putLast rs p.nextCheckpointId r) where
  l3 := update_self _ _ _
  ascending := by
    refine pairwise_append.mpr ⟨h.ascending.filter _, pairwise_singleton _ _, ?_⟩
    intro a ha b hb; rw [mem_singleton.mp hb]; simpa using (mem_filter.mp ha).2
  roundTrips x hx := by
    rcases mem_putLast hx with hx | rfl
    · exact h.roundTrips x hx
    · exact hr
  ids x hx := by
    rcases mem_putLast hx with hx | rfl
    · exact h.ids x hx
    · exact Nat.le_refl _

lemma PrimaryOk.bump (h : PrimaryOk B d p rs) :
    PrimaryOk B d { p with nextCheckpointId := p.nextCheckpointId + 1 } rs :=
  ⟨h.l3, h.ascending, h.roundTrips, fun r hr => Nat.le_succ_of_le (h.ids r hr)⟩

lemma PrimaryOk.purgeBelow (h : PrimaryOk B d p rs) (low : Nat) :
    PrimaryOk B (p.purgeBelow d low) p (rs.filter (low ≤ ·.checkpointId)) where
  l3 := by
    have hl3 : (p.purgeBelow d low).l3 p.store = (d.l3 p.store).filter (low ≤ ·.1) := update_self _ _ _
    rw [hl3, h.l3, entries, List.filter_map]; rfl
  ascending := h.ascending.filter _
  roundTrips r hr := h.roundTrips r (mem_of_mem_filter hr)
  ids r hr := h.ids r (mem_of_mem_filter hr)

lemma PrimaryOk.append (h : PrimaryOk B d p rs) (hma : p.maxRecords ≠ some 0) (o : L3Outcome)
    (hr : B.RoundTrips (r.withId p.nextCheckpointId)) :
    ∃ p' d' res, p.append B d o r = (p', d', res) ∧ p'.store = p.store ∧
      p'.maxRecords = p.maxRecords ∧ d'.files = d.files ∧
      ((p' = p ∧ d' = d ∧ o ≠ .ok ∧ ∃ e, res = .error e) ∨
        ∃ rs', PrimaryOk B d' p' rs' ∧ rs'.getLast? = some (r.withId p.nextCheckpointId) ∧
          (res = .ok (r.withId p.nextCheckpointId) ∨ o ≠ .ok ∧ ∃ e, res = .error e)) := by
  have hp := h.put hr; have hl := getLast?_putLast rs p.nextCheckpointId r
  rw [L3CheckpointStore.append, h.l3, put_entries h.ids]; by_cases h₁ : o = .putFailed
  · rw [if_pos h₁]
    exact ⟨p, d, _, rfl, rfl, rfl, rfl, .inl ⟨rfl, rfl, by rw [h₁]; decide, _, rfl⟩⟩
  rw [if_neg h₁]; by_cases h₂ : o = .putUnflushed
  · rw [if_pos h₂]
    exact ⟨p, _, _, rfl, rfl, rfl, rfl, .inr ⟨_, hp, hl, .inr ⟨by rw [h₂]; decide, _, rfl⟩⟩⟩
  rw [if_neg h₂]; by_cases h₃ : p.maxRecords.elim 0 (p.nextCheckpointId + 1 - ·) = 0
  · exact ⟨_, _, _, if_pos h₃, rfl, rfl, rfl, .inr ⟨_, hp.bump, hl, .inl rfl⟩⟩
  · -- the purge keeps the last record
    have hlo : p.maxRecords.elim 0 (p.nextCheckpointId + 1 - ·) ≤ p.nextCheckpointId := by
      rcases hm : p.maxRecords with _ | m
      · exact Nat.zero_le _
      grind
    have hpu := hp.bump.purgeBelow (p.maxRecords.elim 0 (p.nextCheckpointId + 1 - ·))
    have hl' := getLast?_filter_putLast rs hlo r
    cases o with
    | putFailed => exact absurd rfl h₁
    | putUnflushed => exact absurd rfl h₂
    | ok => exact ⟨_, _, _, if_neg h₃, rfl, rfl, rfl, .inr ⟨_, hpu, hl', .inl rfl⟩⟩
    | purgeFailed =>
      exact ⟨_, _, _, if_neg h₃, rfl, rfl, rfl, .inr ⟨_, hp.bump, hl, .inr ⟨by decide, _, rfl⟩⟩⟩
    | purgeUnflushed =>
      exact ⟨_, _, _, if_neg h₃, rfl, rfl, rfl, .inr ⟨_, hpu, hl', .inr ⟨by decide, _, rfl⟩⟩⟩

lemma PrimaryOk.openStore (h : PrimaryOk B d p rs) :
    ∃ p', L3CheckpointStore.openStore d p.store p.maxRecords true = .ok p' ∧
      p'.store = p.store ∧ p'.maxRecords = p.maxRecords ∧ PrimaryOk B d p' rs :=
  ⟨_, L3CheckpointStore.openStore_entries p.store p.maxRecords h.l3 h.ascending, rfl, rfl,
    h.l3, h.ascending, h.roundTrips, fun r hr => Nat.le_of_lt (h.ascending.lt_nextId r hr)⟩

end Primary

section Durability

variable {B : Bincode} {cfg : Cfg} {s s' : St} {d : Disk} {f : FallbackCheckpointStore}
  {last : Option CheckpointRecord} {rs ws : List CheckpointRecord}

structure WalOk (B : Bincode) (path : String) (d : Disk) (ws : List CheckpointRecord) : Prop where
  file : d.files path = none ∧ ws = [] ∨ d.files path = some (walBytes B ws)
  roundTrips : ∀ w ∈ ws, B.RoundTrips w

lemma WalOk.readAll {path : String} (h : WalOk B path d ws) : walReadAll B d path = .ok ws := by
  rcases h.file with ⟨hn, hws⟩ | hf
  · rw [walReadAll, hn, hws]
  · rw [walReadAll, hf]; exact readWalRecords_walBytes h.roundTrips

lemma WalOk.walRecords_eq (h : WalOk B cfg.walPath d ws) : walRecords B cfg d = ws := by
  rw [walRecords, h.readAll]

lemma WalOk.readLast {path : String} (h : WalOk B path d ws) (hw : ws.getLast? = some w) :
    d.files path = some (walBytes B ws) ∧ walReadLast B d path = .ok (some w) := by
  have hf : d.files path = some (walBytes B ws) := by grind [h.file]
  exact ⟨hf, by rw [walReadLast_walBytes hf h.roundTrips, hw]⟩

inductive Mode (f : FallbackCheckpointStore) (last : Option CheckpointRecord)
    (rs ws : List CheckpointRecord) : Prop
  | primary (hf : f.inFallback = false) (hwal : f.wal = none)
      (hlast : rs.getLast?.map content = last)
  | fallback (w : CheckpointRecord) (hf : f.inFallback = true)
      (hwal : f.wal = some ⟨f.walPath, nextId ws⟩) (hw : ws.getLast? = some w)
      (hlast : last = some (content w))
      (hids : ∀ r ∈ rs.getLast?, r.checkpointId < w.checkpointId ∨ content r = content w)

structure Inv (B : Bincode) (cfg : Cfg) (s : St) (rs ws : List CheckpointRecord) : Prop where
  store : s.store.primary.store = cfg.store
  maxRecords : s.store.primary.maxRecords = cfg.maxRecords
  walPath : s.store.walPath = cfg.walPath
  primary : PrimaryOk B s.disk s.store.primary rs
  wal : WalOk B cfg.walPath s.disk ws
  mode : Mode s.store s.last rs ws

lemma inv_empty : Inv B cfg (empty cfg) [] [] :=
  ⟨rfl, rfl, rfl, ⟨rfl, .nil, fun _ h => (by cases h), fun _ h => (by cases h)⟩,
    ⟨.inl ⟨rfl, rfl⟩, fun _ h => (by cases h)⟩, .primary rfl rfl rfl⟩

lemma engageFallback_spec (hw : f.wal = none) (h : WalOk B f.walPath d ws) : ∃ d', f.engageFallback B d = .ok
        ({ f with wal := some ⟨f.walPath, nextId ws⟩, inFallback := true }, d') ∧
      d'.files f.walPath = some (walBytes B ws) ∧ d'.l3 = d.l3 := by
  rcases h.file with ⟨hn, rfl⟩ | hf
  · refine ⟨d.writeFile f.walPath walHeader, ?_, ?_, rfl⟩
    · simp only [FallbackCheckpointStore.engageFallback, hw, WalWriter.new, hn]; rfl
    · exact update_self _ _ _
  · refine ⟨d, ?_, hf, rfl⟩
    simp only [FallbackCheckpointStore.engageFallback, hw, WalWriter.new_walBytes hf h.roundTrips]
    rfl

lemma appendWal_spec (hs : f.primary.store = cfg.store) (hm : f.primary.maxRecords = cfg.maxRecords)
    (hpa : f.walPath = cfg.walPath) (hp : PrimaryOk B d f.primary rs) (hf : f.inFallback = true)
    (hw : f.wal = some ⟨f.walPath, nextId ws⟩) (hfi : d.files f.walPath = some (walBytes B ws))
    (hws : ∀ w ∈ ws, B.RoundTrips w) (hr : B.RoundTrips (r.withId (nextId ws)))
    (hi : ∀ x ∈ rs.getLast?, x.checkpointId < nextId ws ∨ content x = content r) :
    ∃ f' d' r', f.appendWal B d r = (f', d', .ok r') ∧
      Inv B cfg ⟨d', f', some (content r')⟩ rs (ws ++ [r.withId (nextId ws)]) := by
  have ha : f.appendWal B d r = ({ f with wal := some ⟨f.walPath, nextId ws + 1⟩ },
      d.writeFile f.walPath (walBytes B (ws ++ [r.withId (nextId ws)])),
      .ok (r.withId (nextId ws))) := by
    simp only [FallbackCheckpointStore.appendWal, hw]
    rw [WalWriter.append_walBytes (w := ⟨f.walPath, nextId ws⟩) hfi]
  refine ⟨_, _, _, ha, hs, hm, hpa, ⟨hp.l3, hp.ascending, hp.roundTrips, hp.ids⟩,
    ⟨.inr ?_, ?_⟩, .fallback (r.withId (nextId ws)) hf ?_ getLast?_concat rfl hi⟩
  · rw [← hpa]; exact update_self _ _ _
  · grind
  · rw [nextId_concat]; rfl

section AppendEqs

variable {d' d'' : Disk} {o : L3Outcome} {r r' : CheckpointRecord} {p' : L3CheckpointStore}
  {f' : FallbackCheckpointStore}

lemma append_fallback (hf : f.inFallback = true) : f.append B d o r = f.appendWal B d r := by
  rw [FallbackCheckpointStore.append, if_pos hf]

lemma append_primary (hf : f.inFallback = false) (hp : f.primary.append B d o r = (p', d', .ok r')) :
    f.append B d o r = ({ f with primary := p' }, d', .ok r') := by
  rw [FallbackCheckpointStore.append, if_neg (by rw [hf]; decide), hp]

lemma append_failed (hf : f.inFallback = false) (hp : f.primary.append B d o r = (p', d', .error e))
    (he : ({ f with primary := p' } : FallbackCheckpointStore).engageFallback B d' = .ok (f', d'')) :
    f.append B d o r = f'.appendWal B d'' r := by
  rw [FallbackCheckpointStore.append, if_neg (by rw [hf]; decide), hp]; simp only [he]

end AppendEqs

lemma Inv.append (h : Inv B cfg s rs ws) (hma : cfg.maxRecords ≠ some 0) (ha : Allowed B cfg s (.append r o))
    (hs : step B cfg s (.append r o) = some s') : ∃ rs ws, Inv B cfg s' rs ws := by
  obtain ⟨⟨hrp, hrw⟩, hab⟩ := ha; rw [walNextId, h.wal.walRecords_eq] at hrw hab
  have hb : s.store.inFallback = true ∨ o ≠ .ok → ∀ x ∈ rs.getLast?, x.checkpointId < nextId ws := by
    intro hc x hx; have he := hab hc (x.checkpointId, B.serialize x)
    rw [← h.store, h.primary.l3] at he
    exact he (List.mem_map.mpr ⟨x, mem_of_mem_getLast? hx, rfl⟩)
  cases h.mode with
  | fallback w hf hwa hw =>
    have hfi : s.disk.files s.store.walPath = some (walBytes B ws) := h.walPath ▸ (h.wal.readLast hw).1
    obtain ⟨f', d', r', hap, hi⟩ := appendWal_spec h.store h.maxRecords h.walPath h.primary hf hwa
      hfi h.wal.roundTrips hrw fun x hx => .inl (hb (.inl hf) x hx)
    simp only [step, append_fallback hf, hap] at hs; cases hs; exact ⟨_, _, hi⟩
  | primary hf hwa =>
    obtain ⟨p', d', res, hap, hst, hm, hfl, hr⟩ := h.primary.append (h.maxRecords ▸ hma) o hrp
    have hw' : WalOk B cfg.walPath d' ws := ⟨hfl ▸ h.wal.file, h.wal.roundTrips⟩
    have hfa : ∀ e rs', res = .error e → o ≠ .ok → PrimaryOk B d' p' rs' →
        (∀ x ∈ rs'.getLast?, x.checkpointId < nextId ws ∨ content x = content r) →
        ∃ rs ws, Inv B cfg s' rs ws := by
      intro e rs' he ho hp' hid
      obtain ⟨d'', hen, hfi, hl3⟩ := engageFallback_spec (f := { s.store with primary := p' }) hwa
        (h.walPath ▸ hw')
      have hp'' : PrimaryOk B d'' p' rs' := ⟨hl3 ▸ hp'.l3, hp'.ascending, hp'.roundTrips, hp'.ids⟩
      obtain ⟨f', d₃, r', hwp, hi⟩ := appendWal_spec
        (f := { s.store with primary := p', wal := some ⟨s.store.walPath, nextId ws⟩, inFallback := true })
        (hst.trans h.store) (hm.trans h.maxRecords) h.walPath hp'' rfl rfl hfi
        h.wal.roundTrips hrw hid
      simp only [step, append_failed hf (he ▸ hap) hen, hwp] at hs; cases hs
      exact ⟨_, _, hi⟩
    rcases hr with ⟨rfl, rfl, ho, e, he⟩ | ⟨rs', hp', hl', hok | ⟨ho, e, he⟩⟩
    · exact hfa e rs he ho h.primary fun x hx => .inl (hb (.inr ho) x hx)
    · simp only [step, append_primary hf (hok ▸ hap)] at hs; cases hs
      exact ⟨rs', ws, hst.trans h.store, hm.trans h.maxRecords, h.walPath, hp', hw',
        .primary hf hwa (by rw [hl']; rfl)⟩
    · refine hfa e rs' he ho hp' fun x hx => .inr ?_; rw [hl'] at hx; cases hx; rfl

section RecoverEqs

/-! `try_recover_primary` when the primary answers. -/

variable {d' : Disk} {o : L3Outcome} {n : Nat} {w : CheckpointRecord} {p' : L3CheckpointStore}

lemma recover_behind (hf : f.inFallback = true) (hw : f.wal = some ⟨f.walPath, n⟩)
    (hre : f.primary.readLast B d true = .ok last) (hr : walReadLast B d f.walPath = .ok (some w))
    (ha : last.any (w.checkpointId ≤ ·.checkpointId) = true) :
    f.tryRecoverPrimary B d true o = ({ f with inFallback := false, wal := none }, d, .ok true) := by
  rw [FallbackCheckpointStore.tryRecoverPrimary, if_neg (by rw [hf]; decide)]
  simp [hw, hre, hr, ha]

lemma recover_replayed (hf : f.inFallback = true) (hw : f.wal = some ⟨f.walPath, n⟩)
    (hre : f.primary.readLast B d true = .ok last) (hr : walReadLast B d f.walPath = .ok (some w))
    (ha : ¬ last.any (w.checkpointId ≤ ·.checkpointId) = true)
    (hap : f.primary.append B d o w = (p', d', .ok r)) :
    f.tryRecoverPrimary B d true o = ({ f with primary := p', inFallback := false, wal := none }, d',
      .ok true) := by
  rw [FallbackCheckpointStore.tryRecoverPrimary, if_neg (by rw [hf]; decide)]; grind

lemma recover_failed (hf : f.inFallback = true) (hw : f.wal = some ⟨f.walPath, n⟩)
    (hre : f.primary.readLast B d true = .ok last) (hr : walReadLast B d f.walPath = .ok (some w))
    (ha : ¬ last.any (w.checkpointId ≤ ·.checkpointId) = true)
    (hap : f.primary.append B d o w = (p', d', .error e)) :
    f.tryRecoverPrimary B d true o = ({ f with primary := p' }, d', .ok false) := by
  rw [FallbackCheckpointStore.tryRecoverPrimary, if_neg (by rw [hf]; decide)]; grind

end RecoverEqs

lemma Inv.recover (h : Inv B cfg s rs ws) (hma : cfg.maxRecords ≠ some 0)
    (ha : Allowed B cfg s (.recover up o)) (hs : step B cfg s (.recover up o) = some s') :
    ∃ rs ws, Inv B cfg s' rs ws := by
  cases h.mode with
  | primary hf =>
    simp only [step, FallbackCheckpointStore.tryRecoverPrimary, hf] at hs; cases hs
    exact ⟨rs, ws, h⟩
  | fallback w hf hwa hw hl =>
    obtain ⟨hfl, hre⟩ := h.wal.readLast hw; rw [← h.walPath] at hre
    cases up with
    | false =>
      have hrs : s.store.tryRecoverPrimary B s.disk false o = (s.store, s.disk, .ok false) := by
        rw [FallbackCheckpointStore.tryRecoverPrimary, if_neg (by rw [hf]; decide), hwa]
        rfl
      simp only [step, hrs] at hs; cases hs; exact ⟨rs, ws, h⟩
    | true =>
      have hra := L3CheckpointStore.readLast_entries h.primary.l3 h.primary.roundTrips
      by_cases han : rs.getLast?.any (w.checkpointId ≤ ·.checkpointId) = true
      · -- the primary's last record is the WAL's
        simp only [step, recover_behind hf hwa hra hre han] at hs; cases hs
        refine ⟨rs, ws, h.store, h.maxRecords, h.walPath, h.primary, h.wal, .primary rfl rfl ?_⟩
        grind
      · have hrw : B.RoundTrips (w.withId s.store.primary.nextCheckpointId) :=
          ha w (h.wal.walRecords_eq.symm ▸ mem_of_mem_getLast? hw)
        obtain ⟨p', d', res, hap, hst, hm, hfi, ho⟩ := h.primary.append (h.maxRecords ▸ hma) o hrw
        have hw' : WalOk B cfg.walPath d' ws := ⟨hfi ▸ h.wal.file, h.wal.roundTrips⟩
        rcases ho with ⟨rfl, rfl, -, e, rfl⟩ | ⟨rs', hp', hl', rfl | ⟨-, e, rfl⟩⟩
        · simp only [step, recover_failed hf hwa hra hre han hap] at hs; cases hs
          exact ⟨rs, ws, h⟩
        · simp only [step, recover_replayed hf hwa hra hre han hap] at hs; cases hs
          exact ⟨rs', ws, hst.trans h.store, hm.trans h.maxRecords, h.walPath, hp', hw',
            .primary rfl rfl (by rw [hl', hl]; rfl)⟩
        · -- the record may have reached the primary, under its own number
          simp only [step, recover_failed hf hwa hra hre han hap] at hs; cases hs
          refine ⟨rs', ws, hst.trans h.store, hm.trans h.maxRecords, h.walPath, hp', hw',
            .fallback w hf hwa hw hl fun r hr => .inr ?_⟩
          rw [hl'] at hr; cases hr; rfl

lemma Inv.restart (h : Inv B cfg s rs ws) (ha : Allowed B cfg s (.restart up))
    (hs : step B cfg s (.restart up) = some s') : ∃ rs ws, Inv B cfg s' rs ws := by
  cases h.mode with
  | fallback w hf => exact absurd (hf.symm.trans ha) (by decide)
  | primary hf hw hl =>
    cases up with
    | false => cases hs
    | true =>
      obtain ⟨p', ho, hst, hm, hp'⟩ := h.primary.openStore; rw [h.store, h.maxRecords] at ho
      simp only [step, ho] at hs; cases hs
      exact ⟨rs, ws, hst.trans h.store, hm.trans h.maxRecords, rfl, hp', h.wal, .primary rfl rfl hl⟩

lemma Inv.readsLast (h : Inv B cfg s rs ws) (hup : up = true ∨ s.store.inFallback = true) :
    ReadsLast B s up := by
  have hre := L3CheckpointStore.readLast_entries h.primary.l3 h.primary.roundTrips
  cases h.mode with
  | primary hf hwa hl =>
    obtain rfl : up = true := hup.resolve_right (by rw [hf]; decide)
    refine ⟨rs.getLast?, ?_, hl⟩
    simp only [FallbackCheckpointStore.readLast, hwa, hre, elim_none]
    cases rs.getLast? <;> rfl
  | fallback w hf hwa hw hl =>
    have hr := (h.wal.readLast hw).2; rw [← h.walPath] at hr
    rw [ReadsLast, FallbackCheckpointStore.readLast, hwa, elim_some, hr, hl]
    cases up with
    | false => exact ⟨some w, rfl, rfl⟩
    | true => grind

theorem fallback_durable (hm : cfg.maxRecords ≠ some 0)
    (h : ((machine B cfg).restrict (Allowed B cfg)).Reachable s) :
    ∀ up, up = true ∨ s.store.inFallback = true → ReadsLast B s up := by
  have hi : ((machine B cfg).restrict (Allowed B cfg)).Inductive fun s => ∃ rs ws, Inv B cfg s rs ws := by
    refine ⟨fun s₀ h₀ => h₀ ▸ ⟨[], [], inv_empty⟩, ?_⟩; rintro s l s' ⟨rs, ws, hs⟩ ⟨ha, hst⟩
    cases l with
    | append => exact hs.append hm ha hst
    | recover => exact hs.recover hm ha hst
    | restart => exact hs.restart ha hst
  obtain ⟨rs, ws, hs⟩ := hi.reachable h; exact fun up hup => hs.readsLast hup

end Durability

def local0 : Cfg := ⟨0, none, "wal"⟩

def lastRead (up : Bool) (s : St) : Option (Option CheckpointRecord × Option CheckpointRecord) :=
  match s.store.readLast plainBincode s.disk up with
  | .ok r => some (r, s.last)
  | .error _ => none

lemma run_of_lastRead {r last : Option CheckpointRecord}
    (h : (LTS.exec (step plainBincode local0) (empty local0) ls).bind (lastRead up) = some (r, last)) :
    ∃ s, (machine plainBincode local0).Run (empty local0) ls s ∧ s.last = last ∧
      s.store.readLast plainBincode s.disk up = .ok r := by
  obtain ⟨s, hs, hv⟩ := bind_eq_some_iff.mp h; refine ⟨s, LTS.run_of_exec hs, ?_⟩
  grind [lastRead]

theorem fallback_loses : (∃ s, (machine plainBincode local0).Run (empty local0)
        [.append (delivered 1) .ok, .append (delivered 2) .putFailed, .recover true .ok] s ∧
      s.last = some (delivered 2) ∧
      s.store.readLast plainBincode s.disk true = .ok (some (delivered 1))) ∧
    (∃ s, (machine plainBincode local0).Run (empty local0) [.append (delivered 1) .putFailed,
      .restart true] s ∧
      s.last = some (delivered 1) ∧ s.store.readLast plainBincode s.disk true = .ok none) ∧
    ∃ s, (machine plainBincode local0).Run (empty local0) [.append (delivered 1) .ok] s ∧
      s.last = some (delivered 1) ∧ s.store.readLast plainBincode s.disk false = .ok none := by
  exact ⟨run_of_lastRead (by decide +kernel), run_of_lastRead (by decide +kernel),
    run_of_lastRead (by decide +kernel)⟩

def aheadRun : List Lbl :=
  [.append (delivered 1) .putFailed, .append (delivered 2) .ok, .recover true .ok, .restart true,
    .append (delivered 3) .putUnflushed]

theorem fallback_durable_ahead :
    ∃ s, ((machine plainBincode local0).restrict (Allowed plainBincode local0)).Run (empty local0)
        aheadRun s ∧ s.last = some (delivered 3) ∧ ∀ up, ReadsLast plainBincode s up := by
  have h : (LTS.exec (fun s l => if Allowed plainBincode local0 s l
      then step plainBincode local0 s l else none) (empty local0) aheadRun).map
      (fun s => (s.last, s.store.inFallback)) = some (some (delivered 3), true) := by decide +kernel
  obtain ⟨s, hs, hv⟩ := map_eq_some_iff.mp h
  have hr : ((machine plainBincode local0).restrict (Allowed plainBincode local0)).Run
      (empty local0) aheadRun s := LTS.run_restrict_of_exec hs
  refine ⟨s, hr, congrArg Prod.fst hv, fun up => ?_⟩
  exact fallback_durable (by decide) ⟨_, _, rfl, hr⟩ up (.inr (congrArg Prod.snd hv))

end Aeon.L2.Fallback
