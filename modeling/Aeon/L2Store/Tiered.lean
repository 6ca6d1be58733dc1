import Aeon.Core.HashMap
import Aeon.Core.LTS
import Aeon.Core.Tiers
import Aeon.L2Store.StateLog

/-!
# The tiered state store

`TieredStore` of `crates/aeon-state/src/tiered.rs`. A read asks L1, L2, L3 in turn, a write goes to
L1 and L3, a deletion to all. L1 does not survive the process. L3 is a map.

* `store_is_map`: reads return what was last put while L2 is only opened on a file without other
  values than L3;
* `transfer_exact_iff`: what a partition transfer makes readable;
* `demoted_value_reappears`: after a restart.
-/
namespace Aeon.L2.Tiered

open List Option Function Aeon.Core Aeon.Core.KeyedLog Aeon.L2.StateLog

/-- mirrors l1.rs:19-25 -/
structure L1Store where
  data : HashMap Bytes Bytes
  approxBytes : UInt64

namespace L1Store

def new : L1Store := ⟨∅, 0⟩

/-- mirrors l1.rs:61-69 -/
def scanPrefix (it : Listing Bytes Bytes) (start : Bytes) : Listing Bytes Bytes :=
  it.filter fun e => start.isPrefixOf e.1

/-- mirrors l1.rs:91-93 -/
def get (s : L1Store) (key : Bytes) : Option Bytes := s.data.lookup key

/-- mirrors l1.rs:95-122 -/
def put (s : L1Store) (key value : Bytes) : L1Store :=
  let keyLen := UInt64.ofNat key.length
  let valLen := UInt64.ofNat value.length
  match s.data.lookup key with
  | some existing =>
    let oldLen := UInt64.ofNat existing.length
    { data := s.data.insert key value
      approxBytes :=
        if valLen > oldLen then s.approxBytes + (valLen - oldLen) else s.approxBytes - (oldLen - valLen) }
  | none => { data := s.data.insert key value, approxBytes := s.approxBytes + (keyLen + valLen) }

/-- mirrors l1.rs:124-131 -/
def delete (s : L1Store) (key : Bytes) : L1Store :=
  match s.data.lookup key with
  | some v =>
    { data := s.data.erase key
      approxBytes := s.approxBytes - UInt64.ofNat (key.length + v.length) }
  | none => s

end L1Store

/-- mirrors tiered.rs:20-37 -/
structure TieredConfig where
  l1MaxBytes : UInt64
  l2Enabled : Bool
  l3Enabled : Bool
  l2Path : Option String
  l3Config : Option String
deriving DecidableEq

structure Files where
  l2 : Bytes
  l3 : Bytes → Option Bytes

/-- mirrors tiered.rs:93-102 -/
structure TieredStore where
  l1 : L1Store
  l2 : Option L2Store
  l3 : Option (Bytes → Option Bytes)
  config : TieredConfig

namespace TieredStore

/-- mirrors tiered.rs:123-132 -/
def openL2 (config : TieredConfig) (files : Files) : Except String (Option L2Store) :=
  if config.l2Enabled then
    match config.l2Path with
    | none => .error "L2 enabled but l2_path not configured"
    | some _ => (L2Store.openFile files.l2).map some
  else .ok none

/-- mirrors tiered.rs:54-82, 134-138 -/
def openL3Backend (config : TieredConfig) (files : Files) : Except String (Option (Bytes → Option Bytes)) :=
  if config.l3Enabled then
    match config.l3Config with
    | none => .error "L3 Redb enabled but l3_config not set"
    | some _ => .ok (some files.l3)
  else .ok none

/-- mirrors tiered.rs:116-147 -/
def withConfig (config : TieredConfig) (files : Files) : Except String TieredStore := do
  let l2 ← openL2 config files
  let l3 ← openL3Backend config files
  return ⟨.new, l2, l3, config⟩

/-- mirrors tiered.rs:205-208 -/
def l1OverThreshold (s : TieredStore) : Bool := s.l1.approxBytes > s.config.l1MaxBytes

/-- mirrors tiered.rs:282-295 -/
def demoteKeys (maxBytes : UInt64) : List Bytes → L1Store → L2Store → Nat → L1Store × L2Store × Nat
  | [], l1, l2, demoted => (l1, l2, demoted)
  | key :: keys, l1, l2, demoted =>
    match l1.get key with
    | none => demoteKeys maxBytes keys l1 l2 demoted
    | some value =>
      let l2 := l2.put key value
      let l1 := l1.delete key
      if l1.approxBytes > maxBytes then demoteKeys maxBytes keys l1 l2
        (demoted + 1) else (l1, l2, demoted + 1)

/-- mirrors tiered.rs:262-298 -/
def demoteToL2 (s : TieredStore) (it : Listing Bytes Bytes) (maxEntries : Nat) : TieredStore × Nat :=
  match s.l2 with
  | none => (s, 0)
  | some l2 =>
    if s.l1OverThreshold then
      let keysToDemote := ((L1Store.scanPrefix it []).take maxEntries).map Sigma.fst
      let (l1, l2, demoted) := demoteKeys s.config.l1MaxBytes keysToDemote s.l1 l2 0
      ({ s with l1 := l1, l2 := some l2 }, demoted)
    else (s, 0)

def getL2 (s : TieredStore) (key : Bytes) : Except String (Option Bytes) :=
  match s.l2 with
  | some l2 => l2.get key
  | none => .ok none

/-- mirrors tiered.rs:336-362 -/
def get (s : TieredStore) (key : Bytes) : Except String (Option Bytes) × TieredStore :=
  match s.l1.get key with
  | some value => (.ok (some value), s)
  | none =>
    match s.getL2 key with
    | .error e => (.error e, s)
    | .ok (some value) => (.ok (some value), { s with l1 := s.l1.put key value })
    | .ok none =>
      match s.l3.bind fun l3 => l3 key with
      | some value => (.ok (some value), { s with l1 := s.l1.put key value })
      | none => (.ok none, s)

/-- mirrors tiered.rs:364-375 -/
def put (s : TieredStore) (key value : Bytes) : TieredStore := { s with
    l1 := s.l1.put key value
    l3 := s.l3.map fun l3 => update l3 key (some value) }

/-- mirrors tiered.rs:377-394 -/
def delete (s : TieredStore) (key : Bytes) : TieredStore := { s with
    l1 := s.l1.delete key
    l2 := s.l2.map fun l2 => l2.delete key
    l3 := s.l3.map fun l3 => update l3 key none }

end TieredStore

structure St where
  store : TieredStore
  files : Files

def St.onDisk (s : St) : Files where
  l2 := match s.store.l2 with
    | some l2 => l2.file
    | none => s.files.l2
  l3 := s.store.l3.getD s.files.l3

inductive Lbl
  | put (key value : Bytes)
  | get (key : Bytes)
  | delete (key : Bytes)
  | demote (maxEntries : Nat) (it : Listing Bytes Bytes)
  | restart (config : TieredConfig)

def step (s : St) : Lbl → Option St
  | .put key value => some { s with store := s.store.put key value }
  | .get key => some { s with store := (s.store.get key).2 }
  | .delete key => some { s with store := s.store.delete key }
  | .demote maxEntries it =>
    if Lists it s.store.l1.data then some { s with store := (s.store.demoteToL2 it maxEntries).1 } else none
  | .restart config =>
    if config.l3Enabled ∧ config.l2Path = s.store.config.l2Path ∧
      config.l3Config = s.store.config.l3Config then
      match TieredStore.withConfig config s.onDisk with
      | .ok store => some ⟨store, s.onDisk⟩
      | .error _ => none
    else none

def noFiles : Files := ⟨[], fun _ => none⟩

def Initial (s : St) : Prop :=
  s.store.config.l3Enabled ∧ TieredStore.withConfig s.store.config noFiles = .ok s.store ∧ s.files = noFiles

def machine : LTS St Lbl := LTS.ofFn Initial step

def Lbl.entry : Lbl → Option (Entry Bytes Bytes)
  | .put key value => some (key, some value)
  | .delete key => some (key, none)
  | _ => none

def lastPut (ls : List Lbl) : Bytes → Option Bytes := contents (ls.filterMap Lbl.entry)

def UpToDate (files : Files) : Prop := ∀ e ∈ entriesOf files.l2,
    contents (entriesOf files.l2) e.1 = none ∨ contents (entriesOf files.l2) e.1 = files.l3 e.1
  deriving Decidable

def Allowed (s : St) : Lbl → Prop
  | .demote maxEntries it => ∀ e ∈ it.take maxEntries, Short (e.1, some e.2)
  | .restart config => config.l2Enabled = true → UpToDate s.onDisk
  | _ => True

instance decidableAllowed (s : St) (l : Lbl) : Decidable (Allowed s l) := by
  cases l <;> dsimp only [Allowed] <;> infer_instance

inductive Lower (file : Bytes) : Option L2Store → (Bytes → Option Bytes) → Prop
  | opened {l2 : L2Store} {log : List (Entry Bytes Bytes)} : Holds l2 log →
    Lower file (some l2) (contents log)
  | created : file = [] → Lower file none fun _ => none
  | closed {log : List (Entry Bytes Bytes)} :
      file = image log → (∀ e ∈ log, Short e) → Lower file none fun _ => none

structure Inv (m : Bytes → Option Bytes) (s : St) : Prop where
  l3 : s.store.l3 = some m
  tiers : ∃ l, Lower s.files.l2 s.store.l2 l ∧ Tiers m s.store.l1.get l

section L1

variable {s : L1Store}

lemma get_new : L1Store.new.get = fun _ => none := by rfl

lemma get_put (key value : Bytes) : (s.put key value).get = update s.get key (some value) := by
  have hd : (s.put key value).data = s.data.insert key value := by rw [L1Store.put]; split <;> rfl
  funext j; rw [L1Store.get, hd]; by_cases hj : j = key
  · subst hj; simp
  · rw [Finmap.lookup_insert_of_ne _ hj, update_of_ne hj]; rfl

lemma get_delete (key : Bytes) : (s.delete key).get = update s.get key none := by
  funext j; rw [L1Store.delete]
  cases hk : s.data.lookup key with
  | none => have hn : s.get key = none := hk; grind
  | some =>
    by_cases hj : j = key
    · subst hj; rw [update_self]; exact Finmap.lookup_erase _ _
    · rw [update_of_ne hj]; exact Finmap.lookup_erase_ne hj

end L1

section Ops

variable {m : Bytes → Option Bytes} {s : St} {key value : Bytes}

lemma Lower.getL2 {store : TieredStore} {file : Bytes} (h : Lower file store.l2 l) (key : Bytes) :
    store.getL2 key = .ok (l key) := by
  rw [TieredStore.getL2]; generalize store.l2 = l2 at h
  cases h with
  | opened hh => exact hh.get key
  | created | closed => rfl

lemma Lower.delete {file : Bytes} {l2 : Option L2Store} (h : Lower file l2 l) (key : Bytes) :
    Lower file (l2.map fun l2 => l2.delete key) (update l key none) := by
  have hn : update (fun _ : Bytes => (none : Option Bytes)) key none = fun _ => none := update_eq_self key _
  cases h with
  | opened hh => obtain ⟨log', hh', hc⟩ := hh.delete key; rw [← hc]; exact .opened hh'
  | created hf => rw [hn]; exact .created hf
  | closed hf hs => rw [hn]; exact .closed hf hs

lemma get_keeps (store : TieredStore) (key : Bytes) :
    (store.get key).2.l2 = store.l2 ∧ (store.get key).2.l3 = store.l3 := by
  rw [TieredStore.get]; repeat' split
  all_goals exact ⟨rfl, rfl⟩

lemma Inv.get (h : Inv m s) (key : Bytes) :
    (s.store.get key).1 = .ok (m key) ∧ Inv m { s with store := (s.store.get key).2 } := by
  obtain ⟨l, hl, ht⟩ := h.tiers
  have hp : ∀ v, m key = some v → Inv m { s with store := { s.store with l1 := s.store.l1.put key v } } :=
    fun v hv => ⟨h.l3, l, hl, by rw [get_put]; exact ht.promote hv⟩
  rw [TieredStore.get, hl.getL2]
  cases hl1 : s.store.l1.get key with
  | some v =>
    have hm : m key = some v := ht key v (by rw [hl1, some_or])
    exact ⟨by rw [hm], h⟩
  | none =>
    cases hl2 : l key with
    | some v => have hm : m key = some v := ht key v (by rw [hl1, hl2, none_or]); grind
    | none =>
      simp only [h.l3, bind_some]
      cases hm : m key with
      | some v => exact ⟨rfl, h.l3 ▸ hp v hm⟩
      | none => exact ⟨rfl, h.l3 ▸ h⟩

lemma Inv.put (h : Inv m s) (key value : Bytes) :
    Inv (update m key (some value)) { s with store := s.store.put key value } := by
  obtain ⟨l, hl, ht⟩ := h.tiers; refine ⟨?_, l, hl, ?_⟩
  · simp [TieredStore.put, h.l3]
  · simp only [TieredStore.put, get_put]; exact ht.write key value

lemma Inv.delete (h : Inv m s) (key : Bytes) :
    Inv (update m key none) { s with store := s.store.delete key } := by
  obtain ⟨l, hl, ht⟩ := h.tiers; refine ⟨?_, update l key none, hl.delete key, ?_⟩
  · simp [TieredStore.delete, h.l3]
  · simp only [TieredStore.delete, get_delete]; exact ht.erase key

lemma demoteKeys_tiers (maxBytes : UInt64) (demoted : Nat) {keys : List Bytes}
    {log : List (Entry Bytes Bytes)} (hh : Holds l2 log) (ht : Tiers m l1.get (contents log))
    (hs : ∀ key ∈ keys, ∀ v, l1.get key = some v → Short (key, some v)) :
    ∃ log', Holds (TieredStore.demoteKeys maxBytes keys l1 l2 demoted).2.1 log' ∧
      Tiers m (TieredStore.demoteKeys maxBytes keys l1 l2 demoted).1.get (contents log') := by
  induction keys generalizing l1 l2 demoted log with
  | nil => exact ⟨log, hh, ht⟩
  | cons key keys ih =>
    rw [TieredStore.demoteKeys]
    cases hke : l1.get key with
    | none => exact ih demoted hh ht fun k hk => hs k (mem_cons_of_mem _ hk)
    | some value =>
      have hp := hh.put (hs key mem_cons_self value hke)
      have hm : Tiers m (l1.delete key).get (contents (log ++ [(key, some value)])) := by
        rw [get_delete, contents_snoc]; exact ht.demote hke
      dsimp only; split_ifs
      · refine ih (demoted + 1) hp hm fun k hk v hv => hs k (mem_cons_of_mem _ hk) v ?_
        rw [get_delete] at hv; grind
      · exact ⟨_, hp, hm⟩

lemma demoteToL2_tiers {store : TieredStore} {file : Bytes} {maxEntries : Nat} (hl : Lower file store.l2 l)
    (ht : Tiers m store.l1.get l) (hit : Lists it store.l1.data)
    (hs : ∀ e ∈ it.take maxEntries, Short (e.1, some e.2)) :
    (store.demoteToL2 it maxEntries).1.l3 = store.l3 ∧ ∃ l',
      Lower file (store.demoteToL2 it maxEntries).1.l2 l' ∧
      Tiers m (store.demoteToL2 it maxEntries).1.l1.get l' := by
  rw [TieredStore.demoteToL2]
  cases hl2 : store.l2 with
  | none => exact ⟨rfl, l, hl, ht⟩
  | some l2 =>
    dsimp only; split_ifs
    · rw [hl2] at hl; obtain ⟨log, hh, rfl⟩ : ∃ log, Holds l2 log ∧ l = contents log := by
        cases hl with
        | opened hh => exact ⟨_, hh, rfl⟩
      have hk : ∀ key ∈ ((L1Store.scanPrefix it []).take maxEntries).map Sigma.fst,
          ∀ v, store.l1.get key = some v → Short (key, some v) := by
        have hsc : L1Store.scanPrefix it [] = it := filter_true it; rw [hsc]
        intro key hke v hv; obtain ⟨e, he, rfl⟩ := List.mem_map.mp hke
        have hlo : store.l1.data.lookup e.1 = some e.2 := hit.mem_iff.mp (mem_of_mem_take he)
        have hva : e.2 = v := Option.some.inj (hlo.symm.trans hv); exact hva ▸ hs e he
      obtain ⟨log', hh', ht'⟩ := demoteKeys_tiers store.config.l1MaxBytes 0 hh ht hk
      exact ⟨rfl, _, .opened hh', ht'⟩
    · exact ⟨rfl, l, hl, ht⟩

lemma Inv.demoteToL2 {maxEntries : Nat} (h : Inv m s) (hit : Lists it s.store.l1.data)
    (hs : ∀ e ∈ it.take maxEntries, Short (e.1, some e.2)) :
    Inv m { s with store := (s.store.demoteToL2 it maxEntries).1 } := by
  obtain ⟨l, hl, ht⟩ := h.tiers; obtain ⟨hl3, hl'⟩ := demoteToL2_tiers hl ht hit hs
  exact ⟨hl3.trans h.l3, hl'⟩

end Ops

section Restart

variable {m : Bytes → Option Bytes} {s s' : St} {config : TieredConfig}

lemma Lower.onDisk (h : Lower s.files.l2 s.store.l2 l) :
    s.onDisk.l2 = [] ∨ ∃ log, s.onDisk.l2 = image log ∧ ∀ e ∈ log, Short e := by
  rw [St.onDisk]; generalize s.store.l2 = l2 at h
  cases h with
  | opened hh => exact .inr ⟨_, hh.file, hh.short⟩
  | created hf => exact .inl hf
  | closed hf hs => exact .inr ⟨_, hf, hs⟩

lemma openFile_lower {file : Bytes} (hf : file = [] ∨ ∃ log, file = image log ∧ ∀ e ∈ log, Short e) :
    ∃ l2, L2Store.openFile file = .ok l2 ∧ Lower file (some l2) (contents (entriesOf file)) := by
  rcases hf with rfl | ⟨log, rfl, hs⟩
  · obtain ⟨l2, ho, hh⟩ := open_empty; exact ⟨l2, ho, .opened hh⟩
  · obtain ⟨l2, ho, hh⟩ := open_image hs; rw [entriesOf_image hs]
    exact ⟨l2, ho, .opened hh⟩

lemma upToDate_iff {files : Files} :
    UpToDate files ↔ Tiers files.l3 (fun _ => none) (contents (entriesOf files.l2)) := by
  constructor
  · intro h key v hv; rw [none_or] at hv
    rcases h (key, some v) (exists_of_contents hv) with hn | hs
    · grind
    · exact hs ▸ hv
  · intro h e _
    cases hv : contents (entriesOf files.l2) e.1 with
    | none => exact .inl rfl
    | some v => exact .inr (h e.1 v (by rw [none_or, hv])).symm

lemma withConfig_spec {files : Files} {store : TieredStore}
    (hf : files.l2 = [] ∨ ∃ log, files.l2 = image log ∧ ∀ e ∈ log, Short e)
    (h : TieredStore.withConfig config files = .ok store) :
    store.l1 = .new ∧ (store.l3 = if config.l3Enabled then some files.l3 else none) ∧
      Lower files.l2 store.l2 (if config.l2Enabled then contents (entriesOf files.l2) else fun _ =>
        none) := by
  obtain ⟨l2, hl2, hr⟩ := bind_eq_ok.mp h; obtain ⟨l3, hl3, hs⟩ := bind_eq_ok.mp hr
  cases hs; refine ⟨rfl, ?_, ?_⟩
  · grind [TieredStore.openL3Backend]
  · rw [TieredStore.openL2] at hl2; split_ifs at hl2 ⊢
    · obtain ⟨opened, ho, hl⟩ := openFile_lower hf; rw [ho] at hl2; split at hl2
      · cases hl2
      · cases hl2; exact hl
    · cases hl2; rcases hf with hf | ⟨log, hf, hsh⟩
      · exact .created hf
      · exact .closed hf hsh

lemma Inv.onDisk_l3 (h : Inv m s) : s.onDisk.l3 = m := by rw [St.onDisk, h.l3]; rfl

lemma started_of_restart (hs : step s (.restart config) = some s') :
    config.l3Enabled ∧ TieredStore.withConfig config s.onDisk = .ok s'.store ∧ s'.files = s.onDisk := by
  rw [step] at hs; split_ifs at hs with hg; split at hs
  · rename_i store hst
    grind
  · cases hs

lemma Inv.restart (h : Inv m s) (hs : step s (.restart config) = some s') (ha : Allowed s (.restart config)) :
    Inv m s' := by
  obtain ⟨l, hl, -⟩ := h.tiers; obtain ⟨hc, hst, hf⟩ := started_of_restart hs
  obtain ⟨hl1, hl3, hl'⟩ := withConfig_spec hl.onDisk hst; rw [← hf] at hl'
  rw [if_pos hc, h.onDisk_l3] at hl3; refine ⟨hl3, _, hl', ?_⟩; rw [hl1, get_new, hf]; split_ifs with hl2
  · have hup := upToDate_iff.mp (ha hl2); rwa [h.onDisk_l3] at hup
  · intro key v hv; cases hv

lemma Inv.restart_iff (h : Inv m s) (hs : step s (.restart config) = some s') :
    (∀ key, (s'.store.get key).1 = .ok (m key)) ↔ Allowed s (.restart config) := by
  constructor
  · -- L1 is empty, so each value of the file is read
    intro hg hl2; obtain ⟨l, hl, -⟩ := h.tiers; obtain ⟨hc, hst, -⟩ := started_of_restart hs
    obtain ⟨hl1, -, hl'⟩ := withConfig_spec hl.onDisk hst; rw [hl2, if_pos rfl] at hl'
    rw [upToDate_iff, h.onDisk_l3]; intro key v hv; have hk := hg key
    simp_all [none_or, TieredStore.get, hl'.getL2, get_new]
  · intro ha key; exact ((h.restart hs ha).get key).1

end Restart

section Run

variable {s s' : St} {ls : List Lbl} {l : Lbl}

lemma lastPut_snoc_of_entry (h : l.entry = some e) : lastPut (ls ++ [l]) = update (lastPut ls) e.1 e.2 := by
  rw [lastPut, filterMap_append, filterMap_cons_some h, filterMap_nil, contents_snoc]
  rfl

lemma lastPut_snoc_of_none (h : l.entry = none) : lastPut (ls ++ [l]) = lastPut ls := by grind [lastPut]

lemma Inv.start (h : Initial s) : Inv (lastPut []) s := by
  obtain ⟨hc, hs, hf⟩ := h; obtain ⟨hl1, hl3, hl⟩ := withConfig_spec (.inl rfl) hs
  rw [if_pos hc] at hl3; rw [← hf] at hl; refine ⟨hl3, _, hl, ?_⟩; rw [hl1, get_new, hf]
  intro key v hv; split_ifs at hv <;> cases hv

lemma Inv.step (h : Inv (lastPut ls) s) (ha : Allowed s l) (hs : step s l = some s') :
    Inv (lastPut (ls ++ [l])) s' := by
  cases l with
  | put key value => cases hs; rw [lastPut_snoc_of_entry rfl]; exact h.put key value
  | get key => cases hs; rw [lastPut_snoc_of_none rfl]; exact (h.get key).2
  | delete key => cases hs; rw [lastPut_snoc_of_entry rfl]; exact h.delete key
  | demote =>
    rw [Tiered.step, ite_none_right_eq_some] at hs; obtain ⟨hit, hs⟩ := hs; cases hs
    rw [lastPut_snoc_of_none rfl]; exact h.demoteToL2 hit ha
  | restart => rw [lastPut_snoc_of_none rfl]; exact h.restart hs ha

lemma Inv.run {s₀ : St} (hin : Initial s₀) (hr : (machine.restrict Allowed).Run s₀ ls s) :
    Inv (lastPut ls) s := by
  refine LTS.Run.induct_labels (I := fun ls s => Inv (lastPut ls) s) (.start hin) ?_ hr
  intro ls t l u h hst; exact h.step hst.1 hst.2

theorem store_is_map {s₀ s : St} {ls : List Lbl} (hin : Initial s₀)
    (hr : (machine.restrict Allowed).Run s₀ ls s) :
    (∀ key, (s.store.get key).1 = .ok (lastPut ls key)) ∧ ∀ config s', step s (.restart config) = some s' →
        ((∀ key, (s'.store.get key).1 = .ok (lastPut ls key)) ↔ Allowed s (.restart config)) := by
  have hi := Inv.run hin hr
  exact ⟨fun key => (hi.get key).1, fun config s' hs => hi.restart_iff hs⟩

end Run

def smallL1 (l2Enabled : Bool) : TieredConfig := ⟨0, l2Enabled, true, some "l2.dat", some "l3.redb"⟩

def fresh (config : TieredConfig) : Option St :=
  match TieredStore.withConfig config noFiles with
  | .ok store => some ⟨store, noFiles⟩
  | .error _ => none

lemma fresh_initial {config : TieredConfig} (hc : config.l3Enabled) (h : fresh config = some s) :
    Initial s := by
  rw [fresh] at h; split at h
  · rename_i store hs
    cases h
    have hk : store.config = config := by
      obtain ⟨l2, -, hr⟩ := bind_eq_ok.mp hs; obtain ⟨l3, -, hd⟩ := bind_eq_ok.mp hr
      cases hd; rfl
    exact ⟨hk ▸ hc, hk ▸ hs, rfl⟩
  · cases h

def overwritten : List Lbl := [.put [107] [1], .demote 1 [⟨[107], [1]⟩], .put [107] [2],
    .restart (smallL1 true)]

theorem demoted_value_reappears : ∃ s₀ s, Initial s₀ ∧ machine.Run s₀ overwritten s ∧
    lastPut overwritten [107] = some [2] ∧ (s.store.get [107]).1 = .ok (some [1]) := by
  have hv : ((fresh (smallL1 true)).bind fun s₀ => LTS.exec step s₀ overwritten).map
      (fun s => (s.store.get [107]).1) = some (.ok (some [1])) := by decide +kernel
  obtain ⟨s, hs, hg⟩ := map_eq_some_iff.mp hv
  obtain ⟨s₀, h₀, he⟩ := bind_eq_some_iff.mp hs
  exact ⟨s₀, s, fresh_initial rfl h₀, LTS.run_of_exec he, by decide, hg⟩

def deleted : List Lbl :=
  [.put [107] [1], .put [106] [2], .demote 2 [⟨[107], [1]⟩, ⟨[106], [2]⟩], .delete [107], .get [106],
    .restart (smallL1 false), .get [106], .restart (smallL1 true)]

theorem store_is_map_deleted : ∃ s₀ s, Initial s₀ ∧ (machine.restrict Allowed).Run s₀ deleted s ∧
    (s.store.get [107]).1 = .ok none ∧ (s.store.get [106]).1 = .ok (some [2]) := by
  have hv : ((fresh (smallL1 true)).bind fun s₀ =>
      LTS.exec (fun s l => if Allowed s l then step s l else none) s₀ deleted).isSome := by decide +kernel
  obtain ⟨s, hs⟩ := isSome_iff_exists.mp hv
  obtain ⟨s₀, h₀, he⟩ := bind_eq_some_iff.mp hs
  have hr : (machine.restrict Allowed).Run s₀ deleted s := LTS.run_restrict_of_exec he
  have hm := (store_is_map (fresh_initial rfl h₀) hr).1
  exact ⟨s₀, s, fresh_initial rfl h₀, hr, hm [107], hm [106]⟩

namespace TieredStore

/-- mirrors tiered.rs:304-309 -/
def exportPartition (s : TieredStore) (start : Bytes) : Bytes → Option Bytes :=
  match s.l3 with
  | some l3 => fun key => if start <+: key then l3 key else none
  | none => fun _ => none

/-- mirrors tiered.rs:315-326 -/
def importPartition (s : TieredStore) (entries : Bytes → Option Bytes) : TieredStore :=
  { s with l3 := s.l3.map fun l3 key => (entries key).or (l3 key) }

def copy (s : TieredStore) (key : Bytes) : Option Bytes := (s.l1.get key).or (s.getL2 key).toOption.join

end TieredStore

def Demotable (_ : St) : Lbl → Prop
  | .demote maxEntries it => ∀ e ∈ it.take maxEntries, Short (e.1, some e.2)
  | _ => True

lemma Allowed.demotable {s : St} {l : Lbl} (h : Allowed s l) : Demotable s l := by cases l <;> trivial

structure Kept (m : Bytes → Option Bytes) (s : St) : Prop where
  l3 : s.store.l3 = some m
  lower : ∃ l, Lower s.files.l2 s.store.l2 l

section Transfer

variable {s₀ s t₀ t : St} {ls ls' : List Lbl} {l : Lbl} {m m' : Bytes → Option Bytes}

lemma Inv.kept (h : Inv m s) : Kept m s := ⟨h.l3, h.tiers.imp fun _ hl => hl.1⟩

lemma Kept.get (h : Kept m s) (key : Bytes) : (s.store.get key).1 = .ok ((s.store.copy key).or (m key)) := by
  obtain ⟨l, hl⟩ := h.lower; rw [TieredStore.get, TieredStore.copy, hl.getL2, h.l3]
  rcases s.store.l1.get key with _ | v <;> rcases l key with _ | v <;> rcases hm : m key with _ | v <;>
    simp [Except.toOption, hm]

lemma Kept.step (h : Kept (lastPut ls) s) (hd : Demotable s l) (hs : step s l = some s') :
    Kept (lastPut (ls ++ [l])) s' := by
  obtain ⟨lo, hl⟩ := h.lower
  cases l with
  | put => cases hs; rw [lastPut_snoc_of_entry rfl]; exact ⟨by simp [TieredStore.put, h.l3], lo, hl⟩
  | get key =>
    cases hs; rw [lastPut_snoc_of_none rfl]; obtain ⟨hl2, hl3⟩ := get_keeps s.store key
    exact ⟨hl3.trans h.l3, lo, by dsimp only; rwa [hl2]⟩
  | delete key =>
    cases hs; rw [lastPut_snoc_of_entry rfl]; exact ⟨by simp [TieredStore.delete, h.l3], _, hl.delete key⟩
  | demote =>
    rw [Tiered.step, ite_none_right_eq_some] at hs; obtain ⟨hit, hs⟩ := hs; cases hs
    obtain ⟨hl3, l', hl', -⟩ := demoteToL2_tiers (m := fun k => (s.store.l1.get k).or (lo k)) hl
      (fun _ _ h => h) hit hd
    rw [lastPut_snoc_of_none rfl]; exact ⟨hl3.trans h.l3, l', hl'⟩
  | restart =>
    obtain ⟨hc, hst, hf⟩ := started_of_restart hs; obtain ⟨-, hl3, hl'⟩ := withConfig_spec hl.onDisk hst
    have hd : s.onDisk.l3 = lastPut ls := by rw [St.onDisk, h.l3]; rfl
    rw [lastPut_snoc_of_none rfl]; exact ⟨by rw [hl3, if_pos hc, hd], _, hf ▸ hl'⟩

lemma Kept.run (hin : Initial s₀) (hr : (machine.restrict Demotable).Run s₀ ls s) : Kept (lastPut ls) s := by
  refine LTS.Run.induct_labels (I := fun ls s => Kept (lastPut ls) s) (Inv.start hin).kept ?_ hr
  intro ls t l u h hst; exact h.step hst.1 hst.2

lemma Kept.import (hs : Kept m s) (ht : Kept m' t) (start key : Bytes) :
    ((t.store.importPartition (s.store.exportPartition start)).get key).1 =
      .ok ((t.store.copy key).or ((if start <+: key then m key else none).or (m' key))) := by
  have hk : Kept (fun key => (if start <+: key then m key else none).or (m' key))
      { t with store := t.store.importPartition (s.store.exportPartition start) } :=
    ⟨by simp [TieredStore.importPartition, TieredStore.exportPartition, hs.l3, ht.l3], ht.lower⟩
  exact hk.get key

lemma transfer_iff (hs : Kept m s) (ht : Kept m' t) (start : Bytes) :
    (∀ key, ((t.store.importPartition (s.store.exportPartition start)).get key).1 =
      if start <+: key then (s.store.get key).1 else (t.store.get key).1) ↔
    ∀ key, start <+: key →
      (t.store.copy key).or ((m key).or (m' key)) = (s.store.copy key).or (m key) := by
  refine forall_congr' fun key => ?_; rw [hs.import ht, hs.get, ht.get]
  by_cases hp : start <+: key <;> simp [hp]

theorem transfer_exact_iff (hs₀ : Initial s₀) (hs : (machine.restrict Demotable).Run s₀ ls s)
    (ht₀ : Initial t₀) (ht : (machine.restrict Demotable).Run t₀ ls' t) (start : Bytes) :
    ((∀ key, ((t.store.importPartition (s.store.exportPartition start)).get key).1 =
        if start <+: key then (s.store.get key).1 else (t.store.get key).1) ↔
      ∀ key, start <+: key → (t.store.copy key).or ((lastPut ls key).or (lastPut ls' key)) =
        (s.store.copy key).or (lastPut ls key)) ∧
    ((∀ key, (s.store.get key).1 = .ok (lastPut ls key)) →
      (∀ key, (t.store.get key).1 = .ok (lastPut ls' key)) →
      ((∀ key, ((t.store.importPartition (s.store.exportPartition start)).get key).1 =
          if start <+: key then (s.store.get key).1 else (t.store.get key).1) ↔
        ∀ key, start <+: key → lastPut ls' key = lastPut ls key ∨
          t.store.copy key = none ∧ (lastPut ls key).isSome)) := by
  have hks := Kept.run hs₀ hs; have hkt := Kept.run ht₀ ht
  refine ⟨transfer_iff hks hkt start, fun has hat => (transfer_iff hks hkt start).trans
    (forall₂_congr fun key _ => ?_)⟩
  have hc := (hks.get key).symm.trans (has key); have hc' := (hkt.get key).symm.trans (hat key)
  rw [Except.ok.injEq] at hc hc'; rw [hc]
  cases hco : t.store.copy key <;> cases hm : lastPut ls key <;> cases hm' : lastPut ls' key <;> grind

end Transfer

def l3Only : TieredStore := ⟨.new, none, some fun _ => none, smallL1 false⟩

def sending : List Lbl := [.put [1, 1] [7], .demote 1 [⟨[1, 1], [7]⟩], .put [1, 2] [6]]

def receiving : List Lbl := [.put [1, 2] [5], .put [2] [3], .restart (smallL1 false)]

theorem transfer_exact_older : ∃ s₀ s t₀ t, Initial s₀ ∧ (machine.restrict Demotable).Run s₀ sending s ∧
    Initial t₀ ∧ (machine.restrict Demotable).Run t₀ receiving t ∧
    (t.store.get [1, 2]).1 = .ok (some [5]) ∧ ∀ key,
      ((t.store.importPartition (s.store.exportPartition [1])).get key).1 =
        if [1] <+: key then (s.store.get key).1 else (t.store.get key).1 := by
  have hv : ((fresh (smallL1 true)).bind fun s₀ =>
      LTS.exec (fun s l => if Allowed s l then step s l else none) s₀ sending).isSome := by decide +kernel
  obtain ⟨s, hs⟩ := isSome_iff_exists.mp hv; obtain ⟨s₀, h₀, he⟩ := bind_eq_some_iff.mp hs
  have hr : (machine.restrict Allowed).Run s₀ sending s := LTS.run_restrict_of_exec he
  have hr' : (machine.restrict Allowed).Run ⟨l3Only, noFiles⟩ receiving _ :=
    .cons ⟨trivial, rfl⟩ (.cons ⟨trivial, rfl⟩ (.cons ⟨nofun, rfl⟩ (.nil _)))
  have hi := fresh_initial rfl h₀; have hi' : Initial ⟨l3Only, noFiles⟩ := ⟨rfl, rfl, rfl⟩
  have hd := hr.restrict_mono fun _ _ => Allowed.demotable
  have hd' := hr'.restrict_mono fun _ _ => Allowed.demotable
  refine ⟨s₀, s, _, _, hi, hd, hi', hd', ((Inv.run hi' hr').get [1, 2]).1, ?_⟩
  refine ((transfer_exact_iff hi hd hi' hd' [1]).2 (fun key => ((Inv.run hi hr).get key).1)
    fun key => ((Inv.run hi' hr').get key).1).mpr fun key hp => ?_
  by_cases h2 : key = [1, 2]
  · subst h2; exact .inr ⟨rfl, rfl⟩
  · by_cases h1 : key = [1, 1]
    · subst h1; exact .inr ⟨rfl, rfl⟩
    · have h3 : key ≠ [2] := by rintro rfl; exact absurd hp (by decide)
      left
      have hs : lastPut sending = update (update (fun _ => none) [1, 1] (some [7])) [1, 2] (some [6]) := rfl
      have ht : lastPut receiving = update (update (fun _ => none) [1, 2] (some [5])) [2] (some [3]) := rfl
      simp [hs, ht, h1, h2, h3]

theorem transfer_hidden : ((l3Only.put [1] [7]).get [1]).1 = .ok (some [7]) ∧
    (((l3Only.put [1] [5]).importPartition ((l3Only.put [1] [7]).exportPartition [])).get [1]).1 = .ok
      (some [5]) := by
  decide +kernel

end Aeon.L2.Tiered
