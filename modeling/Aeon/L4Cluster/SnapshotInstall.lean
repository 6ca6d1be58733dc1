import Aeon.L4Cluster.Snapshot

/-!
# A snapshot that cannot be installed

`install_snapshot` and `hydrate_from_l3` of `crates/aeon-cluster/src/store.rs`: bytes are written to
L3 before they are decoded.

* `install_atomic_iff`: when a failed installation leaves everything as it was;
* `install_replaces_stored`: an undecodable payload from the leader.
-/
namespace Aeon.L4.SnapshotInstall

open Aeon.Core Aeon.L4.Cluster Aeon.L4.Snapshot

variable {M K B : Type}

structure Formats (M K B : Type) where
  metaBytes : SnapshotMeta M → Except String B
  parseMeta : B → Except String (SnapshotMeta M)
  fromBytes : B → Except String ClusterSnapshot
  decrypt : K → B → Except String B

structure Store (M K B : Type) extends StateMachineStore M where
  sharedState : ClusterSnapshot := {}
  encryptionKey : Option K := none
  snapshotStore : Option (Option B × Option B) := none

inductive Persisted
  | ok
  | writeFailed (written : Bool) (e : String)
  | flushFailed (e : String)
  deriving DecidableEq

def Persisted.written : Persisted → Bool
  | ok => true
  | writeFailed written _ => written
  | flushFailed _ => true

section Calls

variable (F : Formats M K B)

def plain (key : Option K) (raw : B) : Except String B :=
  match key with
  | none => .ok raw
  | some k => F.decrypt k raw

variable (n : Store M K B) (info : SnapshotMeta M)

/-- mirrors store.rs:587-610 -/
def persistSnapshotBytes (raw : B) (io : Persisted) :
    Except String Unit × Store M K B :=
  match n.snapshotStore, F.metaBytes info with
  | none, _ => (.ok (), n)
  | some _, .error e => (.error ("cluster error: snapshot meta serialization failed: " ++ e), n)
  | some _, .ok bytes =>
    let n := if io.written then { n with snapshotStore := some (some bytes, some raw) } else n
    match io with
    | .ok => (.ok (), n)
    | .writeFailed _ e | .flushFailed e => (.error e, n)

/-- mirrors store.rs:709-760 -/
def installSnapshot (raw : B) (io : Persisted) :
    Except String Unit × Store M K B :=
  match plain F n.encryptionKey raw with
  | .error e => (.error ("snapshot decryption failed: " ++ e), n)
  | .ok data =>
    match persistSnapshotBytes F n info raw io with
    | (.error e, n) => (.error ("snapshot persistence failed: " ++ e), n)
    | (.ok (), n) =>
      match F.fromBytes data with
      | .error e => (.error e, n)
      | .ok state =>
        (.ok (), { n with
          state
          lastAppliedLog := info.lastLogId
          lastMembership := info.lastMembership
          sharedState := state })

/-- mirrors store.rs:307-373 -/
def restart (m₀ : M) (n : Store M K B) : Except String (Store M K B) :=
  let fresh : Store M K B :=
    { StateMachineStore.new m₀ with encryptionKey := n.encryptionKey, snapshotStore := n.snapshotStore }
  match n.snapshotStore with
  | some (some metaBytes, some raw) => do
    let info ← (F.parseMeta metaBytes).mapError ("corrupt raft snapshot meta: " ++ ·)
    let data ← (plain F n.encryptionKey raw).mapError ("raft snapshot decryption failed: " ++ ·)
    let state ← (F.fromBytes data).mapError ("corrupt raft snapshot data: " ++ ·)
    return { fresh with
      state
      lastAppliedLog := info.lastLogId
      lastMembership := info.lastMembership
      sharedState := state }
  | _ => .ok fresh

structure Untouched (n n' : Store M K B) : Prop where
  memory : n'.toStateMachineStore = n.toStateMachineStore
  shared : n'.sharedState = n.sharedState
  stored : n'.snapshotStore = n.snapshotStore
  restarts : ∀ m₀, restart F m₀ n' = restart F m₀ n

def Atomic (raw : B) (io : Persisted) : Prop :=
  ∀ e n', installSnapshot F n info raw io = (.error e, n') → Untouched F n n'

def Replaces (raw : B) (io : Persisted) (bytes : B) : Prop :=
  (∃ data, plain F n.encryptionKey raw = .ok data) ∧ n.snapshotStore.isSome ∧
    F.metaBytes info = .ok bytes ∧ io.written = true

def Safe (raw : B) (io : Persisted) : Prop :=
  ∀ bytes, Replaces F n info raw io bytes → n.snapshotStore = some (some bytes, some raw) ∨
    io = .ok ∧ ∀ data, plain F n.encryptionKey raw = .ok data → ∃ state, F.fromBytes data = .ok state

end Calls

variable {F : Formats M K B} {n : Store M K B} {info : SnapshotMeta M} {raw : B} {io : Persisted}

lemma Untouched.refl (n : Store M K B) : Untouched F n n := ⟨rfl, rfl, rfl, fun _ => rfl⟩

lemma persist_cases (F : Formats M K B) (n : Store M K B) (info : SnapshotMeta M) (raw : B) (io : Persisted) :
    (persistSnapshotBytes F n info raw io).2 = n ∧
      (n.snapshotStore = none ∨ io.written = false ∨ ∀ bytes, F.metaBytes info ≠ .ok bytes) ∨
    ∃ bytes, F.metaBytes info = .ok bytes ∧ n.snapshotStore.isSome ∧ io.written = true ∧
      (persistSnapshotBytes F n info raw io).2 = { n with snapshotStore := some (some bytes, some raw) } ∧
      ((persistSnapshotBytes F n info raw io).1 = .ok () ↔ io = .ok) := by
  grind [Persisted.written, persistSnapshotBytes]

lemma install_error_iff {data : B} (hp : plain F n.encryptionKey raw = .ok data) (n' : Store M K B) :
    (∃ e, installSnapshot F n info raw io = (.error e, n')) ↔ (persistSnapshotBytes F n info raw io).2 = n' ∧
        ((persistSnapshotBytes F n info raw io).1 ≠ .ok () ∨ ∀ state, F.fromBytes data ≠ .ok state) := by
  unfold installSnapshot; rw [hp]
  rcases persistSnapshotBytes F n info raw io with ⟨_ | _, m⟩ <;> cases h : F.fromBytes data <;> simp [h]

/-- **Atomic installation.** For every store, snapshot and outcome of the write. -/
theorem install_atomic_iff (F : Formats M K B) (n : Store M K B) (info : SnapshotMeta M) (raw : B)
    (io : Persisted) : Atomic F n info raw io ↔ Safe F n info raw io := by
  cases hp : plain F n.encryptionKey raw with
  | error => simp +contextual [Atomic, Safe, Replaces, installSnapshot, hp, Untouched.refl]
  | ok data =>
    have hA : Atomic F n info raw io ↔ ∀ n', (∃ e, installSnapshot F n info raw io = (.error e, n')) →
        Untouched F n n' := ⟨fun h n' ⟨e, he⟩ => h e n' he, fun h e n' he => h n' ⟨e, he⟩⟩
    simp only [hA, install_error_iff hp, Safe, Replaces, hp, Except.ok.injEq, exists_eq', true_and,
      forall_eq']
    rcases persist_cases F n info raw io with ⟨hsa, hno⟩ | ⟨bytes, hm, hs, hw, hn, hok⟩
    · -- nothing is written: there is nothing to undo, and the condition is empty
      rw [hsa]; refine iff_of_true (fun n' h => h.1 ▸ Untouched.refl n) ?_; grind
    · -- the bytes are written: a failure is undone only if they were there
      rw [hn]; constructor
      · rintro h _ ⟨-, hm', -⟩; obtain rfl : bytes = _ := Except.ok.inj (hm.symm.trans hm')
        by_cases hg : io = .ok ∧ ∃ state, F.fromBytes data = .ok state
        · exact .inr hg
        · refine .inl (h _ ⟨rfl, ?_⟩).stored.symm; rw [Ne, hok]; grind
      · rintro h n' ⟨rfl, hb⟩; rcases h bytes ⟨hs, hm, hw⟩ with hst | ⟨hio, state, hd⟩
        · rw [← hst]; exact Untouched.refl n
        grind

def oneByte : Formats Unit Unit Nat where
  metaBytes _ := .ok 0
  parseMeta _ := .ok ⟨none, ⟨none, ()⟩, ""⟩
  fromBytes b := if b = 0 then .ok {} else .error "unexpected end of file"
  decrypt _ b := .ok b

theorem install_replaces_stored :
    let n : Store Unit Unit Nat := { StateMachineStore.new () with snapshotStore := some (some 0, some 0) }
    let r := installSnapshot oneByte n ⟨none, ⟨none, ()⟩, "s"⟩ 1 .ok
    r.1 = .error "unexpected end of file" ∧ ¬ Atomic oneByte n ⟨none, ⟨none, ()⟩, "s"⟩ 1 .ok ∧
      (restart oneByte () n).toOption.isSome ∧
      (restart oneByte () r.2).toOption.isSome = false := by
  refine ⟨rfl, ?_, rfl, rfl⟩; intro h; cases (h _ _ rfl).stored

end Aeon.L4.SnapshotInstall
