import Aeon.Core.LTS
import Aeon.Core.Path
import Aeon.L2Store.Checkpoint

/-!
# Checkpoints of several pipelines

`build_sink_task_ctx` (`crates/aeon-engine/src/pipeline.rs`) opens a writer for every sink task;
neither the WAL path nor the L3 key names the pipeline or the partition. Tasks start, append, probe
and stop in any order.

* `checkpoint_isolation`: tasks with places of their own read back their own last record;
* `checkpoint_isolation_broken`: two pipelines, and two partitions, share one.
-/
namespace Aeon.L3.CheckpointIsolation

open List Option Function Aeon.Core Aeon.Core.Path Aeon.Types Aeon.L2.Checkpoint

/-- mirrors crates/aeon-engine/src/delivery.rs:61-76 -/
inductive CheckpointBackend
  | wal
  | stateStore
  | none

structure Config where
  backend : CheckpointBackend
  dir : Option Text
  durability : DurabilityMode
  l3CheckpointStore : Option Nat
  l3MaxRecords : Option Nat

structure Env where
  cwd : List Text
  checkpointDir : Option Text
  tempDir : Text

/-- mirrors pipeline.rs:1174-1180 -/
def checkpointDir (env : Env) (cfg : Config) : Text :=
  cfg.dir.getD (env.checkpointDir.getD (join env.tempDir "aeon-checkpoints".toList))

def checkpointFile (env : Env) (cfg : Config) (name : String) : String :=
  .ofList ((resolve env.cwd (join (checkpointDir env cfg) name.toList)).flatMap ('/' :: ·))

section Build

variable (B : Bincode) (env : Env)

/-- mirrors pipeline.rs:1182-1256 -/
def buildCheckpointWriter (cfg : Config) (d : Disk) (up : Bool) : Option CheckpointPersist × Disk :=
  match cfg.backend with
  | .wal =>
    match WalWriter.new B d (checkpointFile env cfg "pipeline.wal") with
    | .ok (w, d) => (some (.wal w), d)
    | .error _ => (none, d)
  | .stateStore =>
    match cfg.l3CheckpointStore with
    | none => (none, d)
    | some l3 =>
      match L3CheckpointStore.openStore d l3 cfg.l3MaxRecords up with
      | .error _ => (none, d)
      | .ok store =>
        if cfg.durability = .none then (some (.l3 store), d)
        else (some (.fallback ⟨store, checkpointFile env cfg "fallback.wal", none, false⟩), d)
  | .none => (none, d)

/-- mirrors pipeline.rs:1914-1926 -/
def readBack (cfg : Config) (d : Disk) : Option CheckpointRecord :=
  match buildCheckpointWriter B env cfg d true with
  | (none, _) => none
  | (some w, d) =>
    match w.readLast B d true with
    | .ok r => r
    | .error _ => none

inductive Place
  | file (path : String)
  | l3 (store : Nat)

def Config.place (cfg : Config) : Option Place :=
  match cfg.backend with
  | .wal => some (.file (checkpointFile env cfg "pipeline.wal"))
  | .stateStore => cfg.l3CheckpointStore.map .l3
  | .none => none

def recordsAt (d : Disk) : Place → List CheckpointRecord
  | .file path =>
    match d.files path with
    | none => []
    | some data =>
      match readWalRecords B data with
      | .ok rs => rs
      | .error _ => []
  | .l3 store => (d.l3 store).filterMap fun e => B.deserialize e.2

structure Task where
  pipeline : String
  partition : PartitionId
  deriving DecidableEq

structure Inst where
  task : Task
  writer : Option CheckpointPersist

structure St where
  disk : Disk
  live : Nat → Option Inst
  last : Task → Option CheckpointRecord

inductive Lbl
  | start (i : Nat) (t : Task) (up : Bool)
  | append (i : Nat) (r : CheckpointRecord) (o : L3Outcome)
  | recover (i : Nat) (up : Bool) (o : L3Outcome)
  | stop (i : Nat)

variable (cfg : Task → Config)

variable (s : St)

def start (i : Nat) (t : Task) (up : Bool) : St :=
  let (w, d) := buildCheckpointWriter B env (cfg t) s.disk up
  { s with disk := d, live := update s.live i (some ⟨t, w⟩) }

def appendBy (i : Nat) (t : Task) (w : CheckpointPersist) (r : CheckpointRecord) (o : L3Outcome) : St :=
  match w.append B s.disk o r with
  | (w, d, .error _) => { s with disk := d, live := update s.live i (some ⟨t, some w⟩) }
  | (w, d, .ok r) =>
    { disk := d, live := update s.live i (some ⟨t, some w⟩),
      last := update s.last t (some r) }

def recoverBy (i : Nat) (t : Task) (w : CheckpointPersist) (up : Bool) (o : L3Outcome) : St :=
  let (w, d, _) := w.tryRecoverPrimary B s.disk up o
  { s with disk := d, live := update s.live i (some ⟨t, some w⟩) }

def step : Lbl → Option St
  | .start i t up =>
    match s.live i with
    | none => some (start B env cfg s i t up)
    | some _ => none
  | .append i r o =>
    match s.live i with
    | some ⟨t, some w⟩ => some (appendBy B s i t w r o)
    | _ => none
  | .recover i up o =>
    match s.live i with
    | some ⟨t, some w⟩ => some (recoverBy B s i t w up o)
    | _ => none
  | .stop i => some { s with live := update s.live i none }

def empty : St := ⟨⟨fun _ => none, fun _ => []⟩, fun _ => none, fun _ => none⟩

def machine : LTS St Lbl := .ofFn (· = empty) (step B env cfg)

structure Exclusive : Prop where
  place : ∀ t t', (cfg t).place env = (cfg t').place env → (cfg t).place env ≠ none → t = t'
  maxRecords : ∀ t, (cfg t).l3MaxRecords ≠ some 0

def Allowed : Lbl → Prop
  | .start _ t up => up = true ∧ ∀ j inst, s.live j = some inst → inst.task ≠ t
  | .append i r o => o = .ok ∧ ∀ t w, s.live i = some ⟨t, some w⟩ →
      B.RoundTrips (r.withId w.nextCheckpointId)
  | .recover .. => True
  | .stop _ => True

def appender : Lbl → Option Task
  | .append i .. => (s.live i).map Inst.task
  | _ => none

def KeepsOthers (l : Lbl) (s' : St) : Prop := ∀ t p, (cfg t).place env = some p → appender s l ≠ some t →
    recordsAt B s'.disk p = recordsAt B s.disk p

end Build

section Place

variable {B : Bincode} {env : Env} {cfg : Config} {d d' : Disk} {rs : List CheckpointRecord}

def Holds (B : Bincode) (d : Disk) (rs : List CheckpointRecord) : Option Place → Prop
  | none => rs = []
  | some (.file path) => d.files path = none ∧ rs = [] ∨ d.files path = some (walBytes B rs)
  | some (.l3 store) => d.l3 store = entries B rs ∧ Ascending rs

def WriterOk (env : Env) (cfg : Config) (d : Disk) (rs : List CheckpointRecord) : CheckpointPersist → Prop
  | .wal w => cfg.place env = some (.file w.path) ∧ d.files w.path ≠ none ∧
      w.nextCheckpointId = nextId rs
  | .l3 s => cfg.place env = some (.l3 s.store) ∧ s.nextCheckpointId = nextId rs ∧
      s.maxRecords = cfg.l3MaxRecords
  | .fallback f => f.inFallback = false ∧ f.wal = none ∧
      cfg.place env = some (.l3 f.primary.store) ∧ f.primary.nextCheckpointId = nextId rs ∧
      f.primary.maxRecords = cfg.l3MaxRecords

def Agree (d d' : Disk) : Place → Prop
  | .file path => d'.files path = d.files path
  | .l3 store => d'.l3 store = d.l3 store

lemma Agree.rfl {p : Place} : Agree d d p := by cases p <;> exact Eq.refl _

lemma agree_writeFile {path : String} (h : p ≠ .file path) : Agree d (d.writeFile path b) p := by
  cases p with
  | file => exact update_of_ne (fun he => h (congrArg Place.file he)) _ _
  | l3 => exact Eq.refl _

lemma agree_writeL3 {store : Nat} (h : p ≠ .l3 store) : Agree d (d.writeL3 store es) p := by
  cases p with
  | file => exact Eq.refl _
  | l3 => exact update_of_ne (fun he => h (congrArg Place.l3 he)) _ _

lemma Holds.agree {p : Option Place} (h : Holds B d rs p) (ha : ∀ q ∈ p, Agree d d' q) : Holds B d' rs p := by
  rcases p with _ | path | store
  · exact h
  · have := ha _ (Eq.refl _); simp only [Agree] at this; rwa [Holds, this]
  · have := ha _ (Eq.refl _); simp only [Agree] at this; rwa [Holds, this]

variable {w : CheckpointPersist}

lemma WriterOk.agree (h : WriterOk env cfg d rs w) (ha : ∀ q ∈ cfg.place env, Agree d d' q) :
    WriterOk env cfg d' rs w := by
  cases w with
  | wal =>
    have := ha _ h.1; simp only [Agree] at this
    exact ⟨h.1, by rw [this]; exact h.2.1, h.2.2⟩
  | l3 | fallback => exact h

lemma recordsAt_agree {p : Place} (h : Agree d d' p) : recordsAt B d' p = recordsAt B d p := by
  cases p <;> (simp only [Agree] at h; simp only [recordsAt, h])

lemma recordsAt_holds {p : Place} (h : Holds B d rs (some p)) (hrt : ∀ r ∈ rs, B.RoundTrips r) :
    recordsAt B d p = rs := by
  cases p with
  | file =>
    rcases h with ⟨hn, rfl⟩ | hs
    · simp only [recordsAt, hn]
    · simp only [recordsAt, hs, readWalRecords_walBytes hrt]
  | l3 =>
    rw [recordsAt, h.1, entries, filterMap_map]
    exact (filterMap_congr fun r hr => (hrt r hr).1).trans filterMap_some

lemma build_spec (h : Holds B d rs (cfg.place env)) (hrt : ∀ r ∈ rs, B.RoundTrips r) :
    ∃ w d', buildCheckpointWriter B env cfg d true = (w, d') ∧ Holds B d' rs (cfg.place env) ∧
      (∀ w' ∈ w, WriterOk env cfg d' rs w') ∧ (w = none → cfg.place env = none) ∧
      ∀ p, cfg.place env ≠ some p → Agree d d' p := by
  cases hb : cfg.backend with
  | wal =>
    have hp : cfg.place env = some (.file (checkpointFile env cfg "pipeline.wal")) := by
      simp only [Config.place, hb]
    rw [hp] at h; simp only [buildCheckpointWriter, hb]; rcases h with ⟨hn, rfl⟩ | hs
    · -- a fresh file gets its header
      have hnw : WalWriter.new B d (checkpointFile env cfg "pipeline.wal") =
          .ok (⟨checkpointFile env cfg "pipeline.wal", 0⟩,
            d.writeFile (checkpointFile env cfg "pipeline.wal") walHeader) := by simp only [WalWriter.new, hn]
      have hf : (d.writeFile (checkpointFile env cfg "pipeline.wal") walHeader).files
          (checkpointFile env cfg "pipeline.wal") = some (walBytes B []) :=
        (update_self _ _ _).trans (by simp [walBytes])
      rw [hnw]; refine ⟨_, _, rfl, by rw [hp]; exact .inr hf, ?_, by simp, ?_⟩
      · rintro _ ⟨⟩; exact ⟨hp, by rw [hf]; simp, rfl⟩
      · intro p hne; exact agree_writeFile fun he => hne (by rw [hp, he])
    · rw [WalWriter.new_walBytes hs hrt]
      refine ⟨_, _, rfl, by rw [hp]; exact .inr hs, ?_, by simp, fun _ _ => Agree.rfl⟩
      rintro _ ⟨⟩; exact ⟨hp, by rw [hs]; simp, rfl⟩
  | stateStore =>
    cases hl : cfg.l3CheckpointStore with
    | none =>
      have hp : cfg.place env = none := by simp only [Config.place, hb, hl, map_none]
      simp only [buildCheckpointWriter, hb, hl]
      exact ⟨_, _, rfl, h, by simp, fun _ => hp, fun _ _ => Agree.rfl⟩
    | some store =>
      have hp : cfg.place env = some (.l3 store) := by simp only [Config.place, hb, hl, map_some]
      rw [hp] at h
      simp only [buildCheckpointWriter, hb, hl,
        L3CheckpointStore.openStore_entries store cfg.l3MaxRecords h.1 h.2]
      split_ifs with hd
      · refine ⟨_, _, rfl, by rw [hp]; exact h, ?_, by simp, fun _ _ => Agree.rfl⟩
        rintro _ ⟨⟩; exact ⟨hp, rfl, rfl⟩
      · refine ⟨_, _, rfl, by rw [hp]; exact h, ?_, by simp, fun _ _ => Agree.rfl⟩
        rintro _ ⟨⟩; exact ⟨rfl, rfl, hp, rfl, rfl⟩
  | none =>
    have hp : cfg.place env = none := by simp only [Config.place, hb]
    simp only [buildCheckpointWriter, hb]
    exact ⟨_, _, rfl, h, by simp, fun _ => hp, fun _ _ => Agree.rfl⟩

lemma l3_append_spec {s : L3CheckpointStore} (hma : cfg.l3MaxRecords ≠ some 0)
    (hp : cfg.place env = some (.l3 s.store)) (hn : s.nextCheckpointId = nextId rs)
    (hm : s.maxRecords = cfg.l3MaxRecords) (h : Holds B d rs (cfg.place env)) (r : CheckpointRecord) :
    ∃ d' rs', s.append B d .ok r = ({ s with nextCheckpointId := s.nextCheckpointId + 1 }, d',
        .ok (r.withId s.nextCheckpointId)) ∧
      Holds B d' rs' (cfg.place env) ∧ s.nextCheckpointId + 1 = nextId rs' ∧
      rs'.getLast? = some (r.withId s.nextCheckpointId) ∧
      (∀ x ∈ rs', x ∈ rs ∨ x = r.withId s.nextCheckpointId) ∧
      ∀ p, cfg.place env ≠ some p → Agree d d' p := by
  rw [hp] at h ⊢; rw [← hm] at hma
  have ha : Ascending (rs ++ [r.withId s.nextCheckpointId]) := h.2.concat hn
  refine ⟨_, _, L3CheckpointStore.append_entries h.1 h.2 hn r, ⟨update_self _ _ _, ?_⟩, ?_,
    getLast?_retain hma _ _, ?_, ?_⟩
  · exact List.Pairwise.filter _ ha
  · rw [nextId_retain hma, withId_checkpointId]
  · intro x hx; simpa using mem_of_mem_filter hx
  · intro p hne; exact agree_writeL3 fun he => hne (by rw [he])

lemma append_spec (hma : cfg.l3MaxRecords ≠ some 0) (hw : WriterOk env cfg d rs w)
    (h : Holds B d rs (cfg.place env)) (r : CheckpointRecord) :
    ∃ w' d' rs', w.append B d .ok r = (w', d', .ok (r.withId w.nextCheckpointId)) ∧
      Holds B d' rs' (cfg.place env) ∧ WriterOk env cfg d' rs' w' ∧
      rs'.getLast? = some (r.withId w.nextCheckpointId) ∧
      (∀ x ∈ rs', x ∈ rs ∨ x = r.withId w.nextCheckpointId) ∧
      ∀ p, cfg.place env ≠ some p → Agree d d' p := by
  cases w with
  | wal w =>
    obtain ⟨hp, hne, hn⟩ := hw; rw [hp] at h
    have hfi : d.files w.path = some (walBytes B rs) := h.resolve_left fun hno => hne hno.1
    have ha : (CheckpointPersist.wal w).append B d .ok r =
        (.wal { w with nextCheckpointId := w.nextCheckpointId + 1 },
          d.writeFile w.path (walBytes B (rs ++ [r.withId w.nextCheckpointId])),
          .ok (r.withId w.nextCheckpointId)) := by simp only [CheckpointPersist.append,
          WalWriter.append_walBytes hfi]
    refine ⟨_, _, rs ++ [r.withId w.nextCheckpointId], ha, ?_, ?_,
      getLast?_concat, by simp [CheckpointPersist.nextCheckpointId], ?_⟩
    · rw [hp]; exact .inr (update_self _ _ _)
    · exact ⟨hp, by simp [Disk.writeFile], by rw [nextId_concat, withId_checkpointId]⟩
    · intro p hq; exact agree_writeFile fun he => hq (by rw [hp, he])
  | l3 s =>
    obtain ⟨hp, hn, hm⟩ := hw
    obtain ⟨d', rs', ha, hh, hnx, hl, hs, hag⟩ := l3_append_spec hma hp hn hm h r
    refine ⟨.l3 { s with nextCheckpointId := s.nextCheckpointId + 1 }, d', rs', ?_, hh, ⟨hp, hnx, hm⟩, hl, hs,
      hag⟩
    simp only [CheckpointPersist.append, ha, CheckpointPersist.nextCheckpointId]
  | fallback f =>
    obtain ⟨hf, hwa, hp, hn, hm⟩ := hw
    obtain ⟨d', rs', ha, hh, hnx, hl, hs, hag⟩ := l3_append_spec hma hp hn hm h r
    have hid : (CheckpointPersist.fallback f).nextCheckpointId = f.primary.nextCheckpointId := by
      simp only [CheckpointPersist.nextCheckpointId, FallbackCheckpointStore.nextCheckpointId, hf]
    rw [hid]
    refine ⟨.fallback { f with primary := { f.primary with
        nextCheckpointId := f.primary.nextCheckpointId + 1 } }, d', rs', ?_, hh,
      ⟨hf, hwa, hp, hnx, hm⟩, hl, hs, hag⟩
    simp [CheckpointPersist.append, FallbackCheckpointStore.append, hf, ha]

lemma tryRecoverPrimary_spec (hw : WriterOk env cfg d rs w) (up : Bool) (o : L3Outcome) :
    ∃ res, w.tryRecoverPrimary B d up o = (w, d, res) := by
  cases w with
  | wal | l3 => exact ⟨_, rfl⟩
  | fallback =>
    simp [CheckpointPersist.tryRecoverPrimary, FallbackCheckpointStore.tryRecoverPrimary, hw.1,
      Bool.not_false]

lemma readBack_spec (h : Holds B d rs (cfg.place env)) (hrt : ∀ r ∈ rs, B.RoundTrips r) :
    readBack B env cfg d = rs.getLast? := by
  obtain ⟨w, d', hb, hh, hw, hno, -⟩ := build_spec h hrt; simp only [readBack, hb]
  rcases w with _ | w
  · rw [hno rfl] at h; rw [h]; rfl
  · have hok := hw w rfl
    cases w with
    | wal =>
      rw [hok.1] at hh; have hf := hh.resolve_left fun hn => hok.2.1 hn.1
      simp only [CheckpointPersist.readLast, walReadLast_walBytes hf hrt]
    | l3 =>
      rw [hok.1] at hh
      simp only [CheckpointPersist.readLast, L3CheckpointStore.readLast_entries hh.1 hrt]
    | fallback =>
      obtain ⟨-, hwa, hp, -, -⟩ := hok; rw [hp] at hh
      simp only [CheckpointPersist.readLast, FallbackCheckpointStore.readLast, hwa,
        L3CheckpointStore.readLast_entries hh.1 hrt, elim_none]
      rcases rs.getLast? with _ | r <;> rfl

end Place

section Tasks

variable {B : Bincode} {env : Env} {cfg : Task → Config} {s s' : St} {t : Task}

structure TaskOk (B : Bincode) (env : Env) (cfg : Task → Config) (s : St) (t : Task)
    (rs : List CheckpointRecord) : Prop where
  holds : Holds B s.disk rs ((cfg t).place env)
  roundTrips : ∀ r ∈ rs, B.RoundTrips r
  last : s.last t = rs.getLast?
  writer : ∀ i w, s.live i = some ⟨t, some w⟩ → WriterOk env (cfg t) s.disk rs w

structure Inv (B : Bincode) (env : Env) (cfg : Task → Config) (s : St) : Prop where
  task : ∀ t, ∃ rs, TaskOk B env cfg s t rs
  one : ∀ i j a b, s.live i = some a → s.live j = some b → a.task = b.task → i = j

lemma inv_empty : Inv B env cfg empty := by
  refine ⟨fun t => ⟨[], ?_, by simp, rfl, fun i w h => by cases h⟩, fun i j a b h => by cases h⟩
  rcases (cfg t).place env with _ | _ | _
  · exact rfl
  · exact .inl ⟨rfl, rfl⟩
  · exact ⟨rfl, List.Pairwise.nil⟩

lemma Exclusive.agree (hx : Exclusive env cfg) {d d' : Disk} {t t' : Task} (hne : t' ≠ t)
    (hag : ∀ p, (cfg t).place env ≠ some p → Agree d d' p) :
    ∀ q ∈ (cfg t').place env, Agree d d' q := by
  intro q hq; refine hag q fun hp => hne (hx.place t' t (hq.trans hp.symm) ?_); grind

lemma TaskOk.other (hx : Exclusive env cfg) {t' : Task} {rs : List CheckpointRecord}
    (h : TaskOk B env cfg s t' rs) (hne : t' ≠ t) {i : Nat} {w : Option CheckpointPersist}
    (hag : ∀ p, (cfg t).place env ≠ some p → Agree s.disk s'.disk p)
    (hl : s'.live = update s.live i (some ⟨t, w⟩)) (hla : s'.last t' = s.last t') :
    TaskOk B env cfg s' t' rs := by
  have ha := hx.agree hne hag
  refine ⟨h.holds.agree ha, h.roundTrips, hla.trans h.last, fun j w' hj => ?_⟩
  rw [hl] at hj; by_cases hij : j = i
  · grind
  · rw [update_of_ne hij] at hj; exact (h.writer j w' hj).agree ha

lemma one_update {live : Nat → Option Inst} {i : Nat} {inst : Inst}
    (h : ∀ i j a b, live i = some a → live j = some b → a.task = b.task → i = j)
    (hn : ∀ j a, live j = some a → a.task = inst.task → j = i) :
    ∀ j k a b, update live i (some inst) j = some a →
      update live i (some inst) k = some b → a.task = b.task → j = k := by grind

lemma inv_step (hx : Exclusive env cfg) (h : Inv B env cfg s) {l : Lbl} (ha : Allowed B s l)
    (hs : step B env cfg s l = some s') : Inv B env cfg s' ∧ KeepsOthers B env cfg s l s' := by
  cases l with
  | start i t =>
    obtain ⟨rfl, hf⟩ := ha; simp only [step] at hs; split at hs
    case h_2 => cases hs
    case h_1 hi =>
      obtain ⟨rs, hok⟩ := h.task t
      obtain ⟨w, d', hb, hh, hw, -, hag⟩ := build_spec hok.holds hok.roundTrips
      have hs' : s' = { s with disk := d', live := update s.live i (some ⟨t, w⟩) } := by simp_all [start]
      subst hs'
      have ho := @one_update _ i ⟨t, w⟩ h.one fun j a hj hat => absurd hat (hf j a hj)
      refine ⟨⟨fun t' => ?_, ho⟩, fun t' p hp _ => ?_⟩
      · by_cases ht : t' = t
        · subst ht; refine ⟨rs, hh, hok.roundTrips, hok.last, fun j w' hj => ?_⟩; grind
        · obtain ⟨rs', hok'⟩ := h.task t'; exact ⟨rs', hok'.other hx ht hag rfl rfl⟩
      · by_cases ht : t' = t
        · grind [hok.holds, recordsAt_holds, hok.roundTrips]
        · exact recordsAt_agree (hx.agree ht hag p hp)
  | append i r =>
    obtain ⟨rfl, hrt⟩ := ha; simp only [step] at hs; split at hs
    case h_2 => cases hs
    case h_1 t w hi =>
      obtain ⟨rs, hok⟩ := h.task t
      obtain ⟨w', d', rs', hap, hh, hw', hla, hsu, hag⟩ :=
        append_spec (hx.maxRecords t) (hok.writer i w hi) hok.holds r
      have hs' : s' = ⟨d', update s.live i (some ⟨t, some w'⟩),
          update s.last t (some (r.withId w.nextCheckpointId))⟩ := by
        simp only [appendBy, hap] at hs; exact (Option.some.inj hs).symm
      subst hs'
      have ho := @one_update _ i ⟨t, some w'⟩ h.one fun j a hj hat => h.one j i a _ hj hi hat
      refine ⟨⟨fun t' => ?_, ho⟩, fun t' p hp hne => ?_⟩
      · by_cases ht : t' = t
        · subst ht; refine ⟨rs', hh, fun x hx' => ?_, ?_, fun j w'' hj => ?_⟩
          · rcases hsu x hx' with hx' | rfl
            · exact hok.roundTrips x hx'
            · exact hrt t' w hi
          · grind
          · simp only [update_apply] at hj; split_ifs at hj with hji
            · cases hj; exact hw'
            · exact absurd (h.one j i _ _ hj hi rfl) hji
        · obtain ⟨rs'', hok'⟩ := h.task t'
          exact ⟨rs'', hok'.other hx ht hag rfl (update_of_ne ht _ _)⟩
      · have ht : t' ≠ t := by rintro rfl; exact hne (by simp [appender, hi])
        exact recordsAt_agree (hx.agree ht hag p hp)
  | recover i up o =>
    simp only [step] at hs; split at hs
    case h_2 => cases hs
    case h_1 t w hi =>
      obtain ⟨rs, hok⟩ := h.task t
      obtain ⟨res, hr⟩ := tryRecoverPrimary_spec (B := B) (hok.writer i w hi) up o
      have hs' : s' = s := by
        simp only [recoverBy, hr] at hs
        rw [← Option.some.inj hs, ← hi, update_eq_self]
      subst hs'; exact ⟨h, fun _ _ _ _ => rfl⟩
  | stop i =>
    simp only [step] at hs; cases hs
    have hl : ∀ j a, update s.live i none j = some a → s.live j = some a := by grind
    refine ⟨⟨fun t => ?_, fun j k a b hj hk => h.one j k a b (hl j a hj) (hl k b hk)⟩, fun _ _ _ _ => rfl⟩
    obtain ⟨rs, hok⟩ := h.task t
    exact ⟨rs, hok.holds, hok.roundTrips, hok.last, fun j w hj => hok.writer j w (hl j _ hj)⟩

theorem checkpoint_isolation (hx : Exclusive env cfg)
    (h : ((machine B env cfg).restrict (Allowed B)).Reachable s) :
    (∀ t, readBack B env (cfg t) s.disk = s.last t) ∧
    ∀ l s', ((machine B env cfg).restrict (Allowed B)).step s l s' → KeepsOthers B env cfg s l s' := by
  have hi : ((machine B env cfg).restrict (Allowed B)).Inductive (Inv B env cfg) :=
    ⟨fun s₀ h₀ => h₀ ▸ inv_empty, fun _ _ _ hs hst => (inv_step hx hs hst.1 hst.2).1⟩
  have hs := hi.reachable h
  refine ⟨fun t => ?_, fun l s' hst => (inv_step hx hs hst.1 hst.2).2⟩
  obtain ⟨rs, hok⟩ := hs.task t; rw [readBack_spec hok.holds hok.roundTrips, hok.last]

end Tasks

/-- mirrors pipeline_supervisor.rs:666-668, 1235-1288 -/
def supervisorConfig (l3 : Option Nat) (backend : CheckpointBackend) (durability : DurabilityMode)
    (maxRecords : Option Nat) : Config where
  backend := if durability = .none then .none else backend
  dir := none
  durability := durability
  l3CheckpointStore := l3
  l3MaxRecords := maxRecords

def tmpEnv : Env := ⟨[], none, "/tmp".toList⟩

def orders : Task := ⟨"orders", 0⟩

def billing : Task := ⟨"billing", 0⟩

def sharedL3 : Task → Config := fun _ => supervisorConfig (some 0) .stateStore .orderedBatch none

def sharedWal : Task → Config := fun _ => supervisorConfig none .wal .orderedBatch none

def oneCheckpoint (t t' : Task) : List Lbl := [.start 0 t true, .start 1 t' true, .append 0 (delivered 7) .ok]

theorem checkpoint_isolation_broken :
    (∃ s s', (machine plainBincode tmpEnv sharedL3).Run empty (oneCheckpoint orders billing) s ∧
      (machine plainBincode tmpEnv sharedL3).step s (.append 1 (delivered 8) .ok) s' ∧
      recordsAt plainBincode s.disk (.l3 0) = [delivered 7] ∧
      recordsAt plainBincode s'.disk (.l3 0) = [delivered 8] ∧
      s'.last orders = some (delivered 7) ∧
      readBack plainBincode tmpEnv (sharedL3 orders) s'.disk = some (delivered 8)) ∧
    ∃ s, (machine plainBincode tmpEnv sharedWal).Run empty
        (oneCheckpoint orders { orders with partition := 1 } ++ [.append 1 (delivered 8) .ok]) s ∧
      s.last orders = some (delivered 7) ∧
      readBack plainBincode tmpEnv (sharedWal orders) s.disk = some ((delivered 8).withId 0) := by
  refine ⟨⟨_, _, LTS.run_exec_get (by decide +kernel), (some_get ?_).symm, ?_⟩,
    _, LTS.run_exec_get (by decide +kernel), ?_⟩
  all_goals decide +kernel

def ownPlaces (t : Task) : Config :=
  if t = orders then supervisorConfig (some 0) .stateStore .orderedBatch (some 1)
  else if t = billing then supervisorConfig none .wal .orderedBatch none
  else supervisorConfig none .none .none none

lemma ownPlaces_exclusive : Exclusive tmpEnv ownPlaces := by
  have hp : ∀ t, (ownPlaces t).place tmpEnv = if t = orders then some (.l3 0)
      else if t = billing then some (.file "/tmp/aeon-checkpoints/pipeline.wal") else none := by
    intro t; simp only [ownPlaces]; split_ifs <;> rfl
  refine ⟨fun t t' h hne => ?_, fun t => ?_⟩
  · grind
  grind [ownPlaces, supervisorConfig]

def ownRun : Option St := LTS.exec (step plainBincode tmpEnv ownPlaces) empty
  (oneCheckpoint orders billing ++ [.append 1 (delivered 8) .ok])

lemma ownRun_isSome : ownRun.isSome = true := by decide +kernel

theorem checkpoint_isolation_own_places :
    ((machine plainBincode tmpEnv ownPlaces).restrict (Allowed plainBincode)).Reachable
      (ownRun.get ownRun_isSome) ∧
    (ownRun.get ownRun_isSome).last orders = some (delivered 7) ∧
    ∀ t, readBack plainBincode tmpEnv (ownPlaces t) (ownRun.get ownRun_isSome).disk =
      (ownRun.get ownRun_isSome).last t := by
  have hrt : ∀ n : Fin 10, plainBincode.RoundTrips (delivered n) := by
    unfold Bincode.RoundTrips; decide +kernel
  have hr : ((machine plainBincode tmpEnv ownPlaces).restrict (Allowed plainBincode)).Reachable
      (ownRun.get ownRun_isSome) := by
    refine ⟨empty, _, rfl, LTS.run_restrict ?_ (some_get ownRun_isSome).symm⟩
    refine ⟨⟨rfl, fun j inst h => by cases h⟩, _, rfl, ⟨rfl, fun j inst h => ?_⟩, _, rfl,
      ⟨rfl, fun t w h => ?_⟩, _, rfl, ⟨rfl, fun t w h => ?_⟩, _, rfl, trivial⟩
    · by_cases hj : j = 0
      · subst hj; cases h; decide
      · have hn := h.symm.trans (update_of_ne hj _ _); cases hn
    · cases h; exact hrt 7
    · cases h; exact hrt 8
  exact ⟨hr, by decide +kernel, (checkpoint_isolation ownPlaces_exclusive hr).1⟩

end Aeon.L3.CheckpointIsolation
