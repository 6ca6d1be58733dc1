import Aeon.Core.LTS
import Aeon.Core.Tickets
import Aeon.L1Types.Event
import Mathlib.Data.List.Nodup

/-!
# Event ids

`CoreLocalUuidGenerator` (`crates/aeon-types/src/uuid.rs`). A filler thread mints ids into a ring;
`next_uuid` takes one, or mints one while the ring is empty. A clock may read anything.

* `ids_distinct`: when all ids ever returned are different;
* `ids_repeat`: a clock that goes back, and two generators started in one millisecond.
-/
namespace Aeon.Types

open List Option Aeon.Core

/-- mirrors uuid.rs:160-192 -/
def buildUuid (timestampMs : BitVec 64) (counter : BitVec 16) (coreId : BitVec 8) (random : BitVec 64) :
    Uuid :=
  let verCounter : BitVec 16 := (0x7#16 <<< 12) ||| (counter &&& 0x0FFF#16)
  let variantCore : BitVec 8 := 0b10000000#8 ||| (coreId &&& 0x3F#8)
  timestampMs.setWidth 48 ++ verCounter ++ variantCore ++ random.setWidth 56

lemma toNat_verCounter (counter : BitVec 16) :
    ((0x7#16 <<< 12) ||| (counter &&& 0x0FFF#16)).toNat = 0x7000 + counter.toNat % 2 ^ 12 := by
  have hm : (counter &&& 0x0FFF#16).toNat = counter.toNat % 2 ^ 12 := by
    rw [BitVec.toNat_and]; exact Nat.and_two_pow_sub_one_eq_mod counter.toNat 12
  rw [BitVec.toNat_or, hm]
  exact (Nat.two_pow_add_eq_or_of_lt (Nat.mod_lt counter.toNat (Nat.two_pow_pos 12)) 7).symm

lemma toNat_variantCore (coreId : BitVec 8) :
    (0b10000000#8 ||| (coreId &&& 0x3F#8)).toNat = 0x80 + coreId.toNat % 2 ^ 6 := by
  have hm : (coreId &&& 0x3F#8).toNat = coreId.toNat % 2 ^ 6 := by
    rw [BitVec.toNat_and]; exact Nat.and_two_pow_sub_one_eq_mod coreId.toNat 6
  rw [BitVec.toNat_or, hm]
  exact (Nat.two_pow_add_eq_or_of_lt (Nat.mod_lt coreId.toNat (Nat.two_pow_pos 6)) 2).symm

lemma toNat_append (x : BitVec v) (y : BitVec w) : (x ++ y).toNat = x.toNat * 2 ^ w + y.toNat := by
  rw [BitVec.toNat_append, Nat.shiftLeft_eq, Nat.mul_comm, ← Nat.two_pow_add_eq_or_of_lt y.isLt]

lemma append_inj {v w : Nat} {x x' : BitVec v} {y y' : BitVec w} (h : x ++ y = x' ++ y') :
    x = x' ∧ y = y' := by
  have hn := congrArg BitVec.toNat h; rw [toNat_append, toNat_append] at hn
  have hy : y.toNat = y'.toNat := by
    have hm := congrArg (· % 2 ^ w) hn
    simpa [Nat.mod_eq_of_lt y.isLt, Nat.mod_eq_of_lt y'.isLt] using hm
  rw [hy, Nat.add_right_cancel_iff] at hn
  exact ⟨BitVec.eq_of_toNat_eq (Nat.eq_of_mul_eq_mul_right (Nat.two_pow_pos w) hn), BitVec.eq_of_toNat_eq hy⟩

lemma buildUuid_inj {ms ms' : BitVec 64} {c c' : BitVec 16} {core core' : BitVec 8} {r r' : BitVec 64}
    (h : buildUuid ms c core r = buildUuid ms' c' core' r') :
    ms.toNat % 2 ^ 48 = ms'.toNat % 2 ^ 48 ∧ c.toNat % 2 ^ 12 = c'.toNat % 2 ^ 12 ∧
      core.toNat % 2 ^ 6 = core'.toNat % 2 ^ 6 ∧ r.toNat % 2 ^ 56 = r'.toNat % 2 ^ 56 := by
  obtain ⟨h, hr⟩ := append_inj h; obtain ⟨h, hco⟩ := append_inj h
  obtain ⟨hms, hc⟩ := append_inj h; have hc := congrArg BitVec.toNat hc
  have hco := congrArg BitVec.toNat hco; rw [toNat_verCounter, toNat_verCounter] at hc
  rw [toNat_variantCore, toNat_variantCore] at hco; refine ⟨?_, by omega, by omega, ?_⟩
  · simpa using congrArg BitVec.toNat hms
  · simpa using congrArg BitVec.toNat hr

/-- mirrors uuid.rs:19-27 -/
structure CoreLocalUuidGenerator where
  coreId : BitVec 8
  pool : List Uuid := []
  filling : Bool := true
  counter : BitVec 16 := 0
  fillLastMs : BitVec 64 := 0
  rngState : BitVec 64
  fallbackCounter : BitVec 16 := 0
  lastMs : BitVec 64 := 0

namespace CoreLocalUuidGenerator

def poolCapacity : Nat := 65536

/-- mirrors uuid.rs:34-60, 118 -/
def new (coreId : BitVec 8) : CoreLocalUuidGenerator :=
  { coreId, rngState := (coreId.setWidth 64 + 1) * 6364136223846793005 + 1 }

/-- mirrors uuid.rs:64-76 -/
def newFallbackOnly (coreId : BitVec 8) : CoreLocalUuidGenerator := { new coreId with filling := false }

def draw (rngState : BitVec 64) : BitVec 64 :=
  let rngState := rngState ^^^ (rngState <<< 13)
  let rngState := rngState ^^^ (rngState >>> 7)
  rngState ^^^ (rngState <<< 17)

end CoreLocalUuidGenerator

structure Mint where
  gen : Nat
  inline : Bool
  ms : BitVec 64
  counter : BitVec 16
  coreId : BitVec 8
  random : BitVec 64

def Mint.uuid (m : Mint) : Uuid := buildUuid m.ms m.counter m.coreId m.random

namespace CoreLocalUuidGenerator

variable (g : CoreLocalUuidGenerator)

def fillMint (i : Nat) (now : BitVec 64) : Mint where
  gen := i
  inline := false
  ms := now
  counter := if g.fillLastMs < now then 0 else g.counter
  coreId := g.coreId
  random := draw g.rngState

/-- mirrors uuid.rs:114-147 -/
def fill (i : Nat) (now : BitVec 64) : CoreLocalUuidGenerator :=
  let m := g.fillMint i now
  { g with
    fillLastMs := if g.fillLastMs < now then now else g.fillLastMs
    rngState := m.random
    counter := (m.counter + 1) &&& 0x0FFF#16
    pool := if g.pool.length < poolCapacity then g.pool ++ [m.uuid] else g.pool }

def inlineMint (i : Nat) (now : BitVec 64) : Mint where
  gen := i
  inline := true
  ms := now
  counter := if g.lastMs < now then 0 else g.fallbackCounter
  coreId := g.coreId
  random := 0

/-- mirrors uuid.rs:90-111 -/
def generateInline (i : Nat) (now : BitVec 64) : CoreLocalUuidGenerator := { g with
    lastMs := if g.lastMs < now then now else g.lastMs
    fallbackCounter := (g.inlineMint i now).counter + 1 }

end CoreLocalUuidGenerator

namespace Uuids

structure State where
  gens : List CoreLocalUuidGenerator := []
  minted : List Mint := []
  returned : List Uuid := []

inductive Label
  | new (coreId : BitVec 8)
  | newFallbackOnly (coreId : BitVec 8)
  | fill (i : Nat) (now : BitVec 64)
  | nextUuid (i : Nat) (now : BitVec 64)

variable (s : State)

/-- mirrors uuid.rs:34-147 -/
def step : Label → Option State
  | .new coreId =>
    if coreId < 64 then some { s with gens := s.gens ++ [.new coreId] } else none
  | .newFallbackOnly coreId =>
    if coreId < 64 then some { s with gens := s.gens ++ [.newFallbackOnly coreId] } else none
  | .fill i now => do
    let g ← s.gens[i]?
    if g.filling then
      some { s with gens := s.gens.set i (g.fill i now), minted := s.minted ++ [g.fillMint i now] }
    else none
  | .nextUuid i now => do
    let g ← s.gens[i]?
    match g.pool with
    | id :: rest =>
      some { s with gens := s.gens.set i { g with pool := rest }, returned := s.returned ++ [id] }
    | [] =>
      let m := g.inlineMint i now
      some
        { gens := s.gens.set i (g.generateInline i now)
          minted := s.minted ++ [m]
          returned := s.returned ++ [m.uuid] }

def system : LTS State Label := LTS.ofFn (· = {}) step

def State.path (i : Nat) (inline : Bool) : List Mint :=
  s.minted.filter fun m => m.gen = i && m.inline = inline

def MayMint (i : Nat) (inline : Bool) (coreId : BitVec 8) (now : BitVec 64) : Prop :=
  now.toNat < 2 ^ 48 ∧ (∀ m ∈ s.path i inline, m.ms.toNat ≤ now.toNat) ∧
    (s.path i inline).countP (fun m => m.ms.toNat = now.toNat) < 4096 ∧
    ∀ m ∈ s.minted, m.gen ≠ i → m.coreId = coreId → m.ms ≠ now
  deriving Decidable

def Allowed : Label → Prop
  | .new _ | .newFallbackOnly _ => True
  | .fill i now => ∀ g ∈ s.gens[i]?, MayMint s i false g.coreId now ∧
      (CoreLocalUuidGenerator.draw g.rngState).toNat % 2 ^ 56 ≠ 0
  | .nextUuid i now => ∀ g ∈ s.gens[i]?, g.pool = [] → MayMint s i true g.coreId now

structure Counts (s : State) (i : Nat) (g : CoreLocalUuidGenerator) : Prop where
  core : g.coreId.toNat < 64
  own : ∀ m ∈ s.minted, m.gen = i → m.coreId = g.coreId
  filler : ∃ next, Tickets (·.ms.toNat) (·.counter.toNat) (s.path i false) g.fillLastMs.toNat next ∧
    g.counter.toNat = next % 2 ^ 12
  inline : Tickets (·.ms.toNat) (·.counter.toNat) (s.path i true) g.lastMs.toNat g.fallbackCounter.toNat ∧
    g.fallbackCounter.toNat ≤ 2 ^ 12

structure Inv (s : State) : Prop where
  counts : ∀ i g, s.gens[i]? = some g → Counts s i g
  known : ∀ m ∈ s.minted, m.gen < s.gens.length
  fields : ∀ m ∈ s.minted, m.ms.toNat < 2 ^ 48 ∧ m.counter.toNat < 2 ^ 12 ∧ m.coreId.toNat < 2 ^ 6 ∧
    (m.inline = true ↔ m.random.toNat % 2 ^ 56 = 0)
  distinct : (s.minted.map Mint.uuid).Nodup
  held : ∀ id, (s.returned ++ s.gens.flatMap (·.pool)).count id ≤ (s.minted.map Mint.uuid).count id

variable {s : State} {i : Nat} {g g' : CoreLocalUuidGenerator} {m : Mint} {now : BitVec 64}

lemma path_mint (gens : List CoreLocalUuidGenerator) (returned : List Uuid) (j : Nat) (b : Bool) :
    State.path { s with gens, minted := s.minted ++ [m], returned } j b =
      if m.gen = j ∧ m.inline = b then s.path j b ++ [m] else s.path j b := by
  unfold State.path; grind

lemma mem_path : m ∈ s.path j b ↔ m ∈ s.minted ∧ m.gen = j ∧ m.inline = b := by simp [State.path]

lemma Inv.fresh (h : Inv s) (hg : s.gens[i]? = some g) (hco : m.coreId = g.coreId)
    (hm : MayMint s i m.inline g.coreId m.ms)
    (hn : ∀ a ∈ s.path i m.inline, a.ms.toNat = m.ms.toNat → a.counter.toNat ≠ m.counter.toNat)
    (hcu : m.counter.toNat < 2 ^ 12) (hra : m.inline = true ↔ m.random.toNat % 2 ^ 56 = 0) :
    m.uuid ∉ s.minted.map Mint.uuid := by
  intro hme; obtain ⟨a, ha, heq⟩ := List.mem_map.mp hme
  obtain ⟨hms, hc, hk, hr⟩ := buildUuid_inj heq
  obtain ⟨ham, hac, hak, har⟩ := h.fields a ha
  have hmc : m.coreId.toNat < 2 ^ 6 := by rw [hco]; exact (h.counts i g hg).core
  have hmm := hm.1; have hi : a.inline = m.inline := by rw [Bool.eq_iff_iff, har, hra, hr]
  by_cases hai : a.gen = i
  · exact hn a (mem_path.mpr ⟨ha, hai, hi⟩) (by omega) (by omega)
  · refine hm.2.2.2 a ha hai (BitVec.eq_of_toNat_eq ?_) (BitVec.eq_of_toNat_eq (by omega))
    rw [← hco]; omega

lemma Counts.mint_other (h : Counts s j g) (hj : m.gen ≠ j) (gens : List CoreLocalUuidGenerator)
    (returned : List Uuid) : Counts { s with gens, minted := s.minted ++ [m], returned } j g where
  core := h.core
  own a ha haj := by
    rcases mem_append.mp ha with ha | ha
    · exact h.own a ha haj
    · rw [mem_singleton.mp ha] at haj; exact absurd haj hj
  filler := by rw [path_mint, if_neg fun hm => hj hm.1]; exact h.filler
  inline := by rw [path_mint, if_neg fun hm => hj hm.1]; exact h.inline

lemma Counts.of_same (h : Counts s i g) (hm : s'.minted = s.minted) (hco : g'.coreId = g.coreId)
    (hms : g'.fillLastMs = g.fillLastMs) (hc : g'.counter = g.counter) (hl : g'.lastMs = g.lastMs)
    (hf : g'.fallbackCounter = g.fallbackCounter) : Counts s' i g' := by
  have hp : ∀ b, s'.path i b = s.path i b := by grind [State.path]
  constructor
  · rw [hco]; exact h.core
  · rw [hm, hco]; exact h.own
  · rw [hp, hms, hc]; exact h.filler
  · rw [hp, hl, hf]; exact h.inline

lemma Inv.mint (h : Inv s) (hg : s.gens[i]? = some g) (hge : m.gen = i) (hco : m.coreId = g.coreId)
    (hm : MayMint s i m.inline g.coreId m.ms)
    (hn : ∀ a ∈ s.path i m.inline, a.ms.toNat = m.ms.toNat → a.counter.toNat ≠ m.counter.toNat)
    (hc : m.counter.toNat < 2 ^ 12) (hr : m.inline = true ↔ m.random.toNat % 2 ^ 56 = 0)
    {returned : List Uuid}
    (hcu : Counts { s with gens := s.gens.set i g', minted := s.minted ++ [m], returned } i g')
    (hh : ∀ id, (returned ++ (s.gens.set i g').flatMap (·.pool)).count id ≤
      ((s.minted ++ [m]).map Mint.uuid).count id) :
    Inv { s with gens := s.gens.set i g', minted := s.minted ++ [m], returned } where
  counts j gj hj := by
    rw [getElem?_set] at hj; split_ifs at hj with hij hlt
    · cases hj; rw [← hij]; exact hcu
    · exact (h.counts j gj hj).mint_other (by rw [hge]; exact hij) _ _
  known a ha := by
    rw [length_set]; rcases mem_append.mp ha with ha | ha
    · exact h.known a ha
    · rw [mem_singleton.mp ha, hge]; exact (List.getElem?_eq_some_iff.mp hg).1
  fields a ha := by
    rcases mem_append.mp ha with ha | ha
    · exact h.fields a ha
    · rw [mem_singleton.mp ha, hco]; exact ⟨hm.1, hc, (h.counts i g hg).core, hr⟩
  distinct := by
    rw [map_append, map_singleton, nodup_append]
    refine ⟨h.distinct, by simp, fun a ha b hb hab => ?_⟩; rw [mem_singleton] at hb
    rw [hab, hb] at ha; exact h.fresh hg hco hm hn hc hr ha
  held := hh

lemma count_pools_set (hg : s.gens[i]? = some g) (g' : CoreLocalUuidGenerator) (id : Uuid) :
    ((s.gens.set i g').flatMap (·.pool)).count id + g.pool.count id =
      (s.gens.flatMap (·.pool)).count id + g'.pool.count id := by
  obtain ⟨hlt, rfl⟩ := List.getElem?_eq_some_iff.mp hg
  obtain ⟨l₁, l₂, hl, -, hs⟩ : ∃ l₁ l₂, s.gens = l₁ ++ s.gens[i] :: l₂ ∧ l₁.length = i ∧
    s.gens.set i g' = l₁ ++ g' :: l₂ := exists_of_set hlt
  grind

lemma ite_later {last now : BitVec 64} (h : last.toNat ≤ now.toNat) :
    now.toNat = (if last < now then now else last).toNat := by grind [BitVec.lt_def]

lemma Counts.own_mint (h : Counts s i g) (hc : m.coreId = g.coreId) :
    ∀ a ∈ s.minted ++ [m], a.gen = i → a.coreId = g.coreId := by
  intro a ha hai; rcases mem_append.mp ha with ha | ha
  · exact h.own a ha hai
  grind

lemma toNat_counter_succ {counter : BitVec 16} (h : counter.toNat < 2 ^ 12) :
    (counter + 1 &&& 0x0FFF#16).toNat = (counter.toNat + 1) % 2 ^ 12 := by
  have ha : (counter + 1).toNat = counter.toNat + 1 := by grind
  rw [BitVec.toNat_and, ha]; exact Nat.and_two_pow_sub_one_eq_mod (counter.toNat + 1) 12

lemma Inv.fill (h : Inv s) (hg : s.gens[i]? = some g) (hm : MayMint s i false g.coreId now)
    (hd : (CoreLocalUuidGenerator.draw g.rngState).toNat % 2 ^ 56 ≠ 0) :
    Inv { s with gens := s.gens.set i (g.fill i now), minted := s.minted ++ [g.fillMint i now] } := by
  have hc := h.counts i g hg; obtain ⟨next, hT, hne⟩ := hc.filler; have hb := hm.2.1
  have hco := hm.2.2.1; have hl := hT.last_le hb
  have hn : (g.fillMint i now).counter.toNat = if g.fillLastMs.toNat < now.toNat then 0 else next := by
    simp only [CoreLocalUuidGenerator.fillMint, BitVec.lt_def]; split_ifs with hlt
    · rfl
    · have hno := hT.count; grind
  have hlt : (g.fillMint i now).counter.toNat < 2 ^ 12 := by rw [hT.number_eq_count hb hn]; exact hco
  have hp := hT.issue hb (by rfl) hn; rw [ite_later hl] at hp
  refine h.mint hg rfl rfl hm (hT.fresh hb hn) hlt ?_ ⟨hc.core, hc.own_mint rfl, ?_, ?_⟩ fun id => ?_
  · simpa [CoreLocalUuidGenerator.fillMint] using hd
  · rw [path_mint, if_pos ⟨rfl, rfl⟩]; exact ⟨_, hp, toNat_counter_succ hlt⟩
  · rw [path_mint, if_neg (by simp [CoreLocalUuidGenerator.fillMint])]; exact hc.inline
  · -- the ring takes the id or drops it
    have hpo : (g.fill i now).pool.count id ≤ g.pool.count id + [(g.fillMint i now).uuid].count id := by
      simp only [CoreLocalUuidGenerator.fill]; split_ifs
      · exact Nat.le_of_eq count_append
      · exact Nat.le_add_right _ _
    have hs := count_pools_set hg (g.fill i now) id; have hh := h.held id; grind

lemma Inv.inline (h : Inv s) (hg : s.gens[i]? = some g) (hm : MayMint s i true g.coreId now) : Inv
      { gens := s.gens.set i (g.generateInline i now)
        minted := s.minted ++ [g.inlineMint i now]
        returned := s.returned ++ [(g.inlineMint i now).uuid] } := by
  have hc := h.counts i g hg; obtain ⟨hT, hle⟩ := hc.inline; have hb := hm.2.1
  have hco := hm.2.2.1; have hl := hT.last_le hb
  have hn : (g.inlineMint i now).counter.toNat =
      if g.lastMs.toNat < now.toNat then 0 else g.fallbackCounter.toNat := by
    simp only [CoreLocalUuidGenerator.inlineMint, BitVec.lt_def]; split_ifs with hlt
    · rfl
    · rfl
  have hlt : (g.inlineMint i now).counter.toNat < 2 ^ 12 := by rw [hT.number_eq_count hb hn]; exact hco
  have hne : ((g.inlineMint i now).counter + 1).toNat = (g.inlineMint i now).counter.toNat + 1 := by grind
  have hp := hT.issue hb (by rfl) hn; rw [ite_later hl, ← hne] at hp
  refine h.mint hg rfl rfl hm (hT.fresh hb hn) hlt ?_ ⟨hc.core, hc.own_mint rfl, ?_, ?_⟩ fun id => ?_
  · simp [CoreLocalUuidGenerator.inlineMint]
  · rw [path_mint, if_neg (by simp [CoreLocalUuidGenerator.inlineMint])]; exact hc.filler
  · rw [path_mint, if_pos ⟨rfl, rfl⟩]; refine ⟨hp, ?_⟩
    change ((g.inlineMint i now).counter + 1).toNat ≤ 2 ^ 12; omega
  · have hs : _ = _ + g.pool.count id := count_pools_set hg (g.generateInline i now) id
    have hh := h.held id; rw [count_append] at hh
    rw [count_append, count_append, map_append, count_append, map_singleton]
    omega

lemma Inv.pop (h : Inv s) (hg : s.gens[i]? = some g) {id : Uuid} {rest : List Uuid}
    (hp : g.pool = id :: rest) :
    Inv { s with gens := s.gens.set i { g with pool := rest }, returned := s.returned ++ [id] } where
  counts j gj hj := by
    rw [getElem?_set] at hj; split_ifs at hj with hij hlt
    · cases hj; rw [← hij]; exact (h.counts i g hg).of_same rfl rfl rfl rfl rfl rfl
    · exact (h.counts j gj hj).of_same rfl rfl rfl rfl rfl rfl
  known a ha := by rw [length_set]; exact h.known a ha
  fields := h.fields
  distinct := h.distinct
  held id' := by
    have hs : _ = _ + rest.count id' := count_pools_set hg { g with pool := rest } id'
    have hh := h.held id'; rw [hp] at hs; rw [count_append] at hh
    rw [count_append, count_append]
    simp only [count_cons, count_nil] at hs ⊢; omega

lemma Inv.new (h : Inv s) (hco : g.coreId < 64) (hfi : g.fillLastMs = 0) (hc : g.counter = 0)
    (hl : g.lastMs = 0) (hf : g.fallbackCounter = 0) (hpo : g.pool = []) :
    Inv { s with gens := s.gens ++ [g] } where
  counts j gj hj := by
    rcases Nat.lt_or_ge j s.gens.length with hlt | hge
    · rw [getElem?_append_left hlt] at hj
      exact (h.counts j gj hj).of_same rfl rfl rfl rfl rfl rfl
    · have hp : ∀ b, State.path { s with gens := s.gens ++ [g] } j b = [] := by
        intro b; rw [eq_nil_iff_forall_not_mem]; intro a ha
        obtain ⟨hm, hg, -⟩ := mem_path.mp ha; have := h.known a hm; omega
      rw [getElem?_append_right hge] at hj
      obtain rfl := mem_singleton.mp (mem_of_getElem? hj)
      refine ⟨hco, fun a ha hg => ?_, ⟨0, ?_, ?_⟩, ?_, ?_⟩
      · have := h.known a ha; omega
      · rw [hp, hfi]; exact Tickets.nil
      · rw [hc]; rfl
      · rw [hp, hl, hf]; exact Tickets.nil
      · rw [hf]; exact Nat.zero_le _
  known a ha := by rw [length_append]; exact Nat.lt_add_right _ (h.known a ha)
  fields := h.fields
  distinct := h.distinct
  held id := by
    simp only [flatMap_append, flatMap_singleton, hpo, append_nil]
    exact h.held id

lemma inv_start : Inv {} where
  counts i g h := by simp at h
  known m h := by simp at h
  fields m h := by simp at h
  distinct := nodup_nil
  held id := Nat.le_refl _

lemma Inv.step (h : Inv s) (ha : Allowed s l) (hs : step s l = some s') :
    Inv s' := by
  cases l with
  | new | newFallbackOnly =>
    obtain ⟨hc, hs'⟩ := ite_none_right_eq_some.mp hs; cases hs'
    exact h.new hc rfl rfl rfl rfl rfl
  | fill =>
    obtain ⟨g, hg, hs'⟩ := bind_eq_some_iff.mp hs
    obtain ⟨hf, hs'⟩ := ite_none_right_eq_some.mp hs'; cases hs'
    obtain ⟨hm, hd⟩ := ha g hg; exact h.fill hg hm hd
  | nextUuid =>
    obtain ⟨g, hg, hs'⟩ := bind_eq_some_iff.mp hs
    rcases hp : g.pool with _ | ⟨id, rest⟩
    · rw [hp] at hs'; cases hs'; exact h.inline hg (ha g hg hp)
    · rw [hp] at hs'; cases hs'; exact h.pop hg hp

theorem ids_distinct {labels : List Label} {s : State} (hr : (system.restrict Allowed).Run {} labels s) :
    s.returned.Nodup := by
  have h : Inv s := by refine hr.induct (fun t l u ht hl => ?_) inv_start; exact ht.step hl.1 hl.2
  rw [nodup_iff_count_le_one]; intro id; have hh := h.held id
  grind [h.distinct]

instance decidableAllowed (s : State) (l : Label) : Decidable (Allowed s l) := by
  cases l <;> dsimp only [Allowed] <;> infer_instance

theorem ids_distinct_two_sources : ∃ s : State, s.returned.length = 5 ∧ s.returned.Nodup := by
  have h : (LTS.exec (fun s l => if Allowed s l then step s l else none) {}
      [.new 0, .new 0, .fill 0 7, .fill 0 7, .nextUuid 0 7, .nextUuid 0 7, .nextUuid 0 7, .fill 1 8, .nextUuid
        1 9,
        .nextUuid 1 9]).map (·.returned.length) = some 5 := by decide +kernel
  obtain ⟨s, hs, hl⟩ := map_eq_some_iff.mp h
  exact ⟨s, hl, ids_distinct (LTS.run_restrict_of_exec hs)⟩

theorem ids_repeat :
    (∃ s, system.Run {} [.newFallbackOnly 0, .nextUuid 0 99, .nextUuid 0 99, .nextUuid 0 100, .nextUuid 0 99]
      s ∧
      s.returned.length = 4 ∧ s.returned[1]? = s.returned[3]?) ∧
    ∃ s, system.Run {} [.new 0, .new 0, .fill 0 99, .fill 1 99, .nextUuid 0 99, .nextUuid 1 99] s ∧
      s.returned.length = 2 ∧ s.returned[0]? = s.returned[1]? := by
  constructor
  · exact LTS.exists_run (by decide +kernel)
  · exact LTS.exists_run (by decide +kernel)

end Uuids

end Aeon.Types
