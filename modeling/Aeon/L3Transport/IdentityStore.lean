import Aeon.Core.LTS
import Aeon.L3Transport.Session

/-!
# Processor identities and their connection counts

`crates/aeon-engine/src/identity_store.rs` and the handshake of `transport/session.rs`: two
concurrent maps. A step is one operation on a map.

* `limits_hold`: in `careful` runs each counter is the number of live sessions, within
  `max_instances`;
* `limits_broken`: two handshakes at a time, and a `restore` under a live session.
-/
namespace Aeon.L3.IdentityStore

open List Option Function Aeon.Core Aeon.Types Aeon.L3.BatchWire Aeon.L3.Session

/-- mirrors identity_store.rs:15-20 -/
structure Store where
  identities : String → Option ProcessorIdentity := fun _ => none
  connections : String → Option UInt32 := fun _ => none

namespace Store

variable (st : Store)

def insertIdentity (id : ProcessorIdentity) : Store :=
  { st with identities := update st.identities id.fingerprint (some id) }

def setCounter (fp : String) (n : Option UInt32) : Store :=
  { st with connections := update st.connections fp n }

def orInsertCounter (fp : String) : Store :=
  match st.connections fp with
  | some _ => st
  | none => st.setCounter fp (some 0)

def clearIdentities : Store := { st with identities := fun _ => none }

def clearConnections : Store := { st with connections := fun _ => none }

/-- mirrors identity_store.rs:75-82 -/
def revoke (fp : String) (revokedAt : Int) : Store :=
  let revoked (id : ProcessorIdentity) := { id with revokedAt := id.revokedAt.or (some revokedAt) }
  { st with identities := update st.identities fp ((st.identities fp).map revoked) }

/-- mirrors identity_store.rs:86-90 -/
def connect (fp : String) : Store :=
  match st.connections fp with
  | some n => st.setCounter fp (some (n + 1))
  | none => st

/-- mirrors identity_store.rs:93-97 -/
def disconnect (fp : String) : Store :=
  match st.connections fp with
  | some n => st.setCounter fp (some (n - 1))
  | none => st

/-- mirrors identity_store.rs:100-105 -/
def activeConnections (fp : String) : UInt32 := (st.connections fp).getD 0

end Store

inductive Task
  | idle
  | registering (identity : ProcessorIdentity)
  | counting (fp : String)
  | clearing (ids : List ProcessorIdentity)
  | restoring (ids : List ProcessorIdentity)
  | restoringCounter (fp : String) (ids : List ProcessorIdentity)
  | verified (identity : ProcessorIdentity) (requested : List String)
  | authorized (identity : ProcessorIdentity)
  | live (fp : String)
  deriving DecidableEq

namespace Task

def isLive (fp : String) : Task → Bool
  | live fp' => fp' = fp
  | _ => false

def isAuthorized (fp : String) : Task → Bool
  | authorized id => id.fingerprint = fp
  | _ => false

def handshake : Task → Option ProcessorIdentity
  | verified id _ => some id
  | authorized id => some id
  | _ => none

def isQuiet : Task → Bool
  | live _ => false
  | t => t.handshake.isNone

end Task

structure St where
  store : Store := {}
  tasks : List Task

namespace St

def move (s : St) (i : Nat) (t : Task) (store : Store) : St := ⟨store, s.tasks.set i t⟩

def live (s : St) (fp : String) : Nat := s.tasks.countP (·.isLive fp)

def authorized (s : St) (fp : String) : Nat := s.tasks.countP (·.isAuthorized fp)

end St

inductive Lbl
  | register (i : Nat) (identity : ProcessorIdentity)
  | revoke (fp : String) (revokedAt : Int)
  | restore (i : Nat) (ids : List ProcessorIdentity)
  | lookup (i : Nat) (fp : String) (reg : Register) (nonce : String)
  | run (i : Nat)
  | leave (i : Nat)

section Machine

variable (A : Auth)

/-- mirrors session.rs:618-647 -/
def lookup (st : Store) (fp : String) (reg : Register) (nonce : String) : Task :=
  match st.identities fp with
  | some id =>
    if id.publicKey = reg.publicKey ∧ id.isActive then
      match verifyChallenge A id nonce reg.challengeSignature with
      | .ok true => .verified id reg.requestedPipelines
      | _ => .idle
    else .idle
  | none => .idle

def run (s : St) (i : Nat) : Task → Option St
  | .registering id => some (s.move i (.counting id.fingerprint) (s.store.insertIdentity id))
  | .counting fp => some (s.move i .idle (s.store.orInsertCounter fp))
  | .clearing ids => some (s.move i (.restoring ids) s.store.clearConnections)
  | .restoring [] => some (s.move i .idle s.store)
  | .restoring (id :: ids) =>
    some (s.move i (.restoringCounter id.fingerprint ids) (s.store.insertIdentity id))
  | .restoringCounter fp ids => some (s.move i (.restoring ids) (s.store.setCounter fp (some 0)))
  | .verified id requested =>
    match checkAuthorization id requested (s.store.activeConnections id.fingerprint) with
    | .ok _ => some (s.move i (.authorized id) s.store)
    | .error _ => some (s.move i .idle s.store)
  | .authorized id => some (s.move i (.live id.fingerprint) (s.store.connect id.fingerprint))
  | .live fp => some (s.move i .idle (s.store.disconnect fp))
  | .idle => none

/-- mirrors identity_store.rs:34-52, 136-145, transport/session.rs:587-704 -/
def step (s : St) : Lbl → Option St
  | .register i id =>
    if s.tasks[i]? = some .idle then
      if (s.store.identities id.fingerprint).any ProcessorIdentity.isActive then some s
      else some (s.move i (.registering id) s.store)
    else none
  | .revoke fp revokedAt => some { s with store := s.store.revoke fp revokedAt }
  | .restore i ids =>
    if s.tasks[i]? = some .idle then some (s.move i (.clearing ids) s.store.clearIdentities) else none
  | .lookup i fp reg nonce =>
    if s.tasks[i]? = some .idle then some (s.move i (lookup A s.store fp reg nonce) s.store) else none
  | .run i => s.tasks[i]?.bind (run s i)
  | .leave i =>
    if (s.tasks[i]?.bind Task.handshake).isSome then some (s.move i .idle s.store) else none

def Starts (s : St) : Prop := s.store = {} ∧ ∀ t ∈ s.tasks, t = .idle

def machine : LTS St Lbl := .ofFn Starts (step A)

end Machine

structure Limits (s : St) : Prop where
  counted : ∀ fp, (s.store.activeConnections fp).toNat = s.live fp
  bounded : ∀ fp id, s.store.identities fp = some id → s.live fp ≤ id.maxInstances.toNat
  noWrap : ∀ (i : Nat) fp, s.tasks[i]? = some (Task.live fp) → s.store.activeConnections fp ≠ 0

variable (s : St)

def noHandshake (fp : String) : Bool := s.tasks.all fun t => t.handshake.all fun id => id.fingerprint ≠ fp

def fits (id : ProcessorIdentity) : Bool :=
  noHandshake s id.fingerprint && s.live id.fingerprint ≤ id.maxInstances.toNat

def carefulRun : Task → Bool
  | .registering id => fits s id
  | .clearing _ => s.tasks.all Task.isQuiet
  | .restoring (id :: _) => fits s id
  | .restoringCounter fp _ => s.live fp = 0
  | .verified id _ => s.authorized id.fingerprint = 0
  | _ => true

def careful : Lbl → Bool
  | .restore _ _ => s.tasks.all Task.isQuiet
  | .lookup _ fp _ _ => (s.store.connections fp).isSome
  | .run i => s.tasks[i]?.all (carefulRun s)
  | _ => true

namespace Store

variable (st : Store) (fp fp' : String)

lemma active_setCounter (n : UInt32) :
    (st.setCounter fp (some n)).activeConnections fp' = if fp' = fp then n else st.activeConnections fp' := by
  unfold activeConnections setCounter; grind

lemma active_orInsertCounter : (st.orInsertCounter fp).activeConnections fp' = st.activeConnections fp' := by
  unfold orInsertCounter; split
  · rfl
  · rename_i hn
    rw [active_setCounter]; simp_all [activeConnections]

variable {st fp} in
lemma active_connect (h : st.connections fp ≠ none) : (st.connect fp).activeConnections fp' =
      if fp' = fp then st.activeConnections fp + 1 else st.activeConnections fp' := by
  obtain ⟨n, hn⟩ := ne_none_iff_exists'.mp h; rw [connect, hn]
  simp only [active_setCounter]
  rw [show st.activeConnections fp = n by rw [activeConnections, hn]; rfl]

variable {st fp} in
lemma active_disconnect (h : st.activeConnections fp ≠ 0) : (st.disconnect fp).activeConnections fp' =
      if fp' = fp then st.activeConnections fp - 1 else st.activeConnections fp' := by
  cases hn : st.connections fp with
  | none => exact absurd (by rw [activeConnections, hn]; rfl) h
  | some => rw [disconnect, hn]; simp only [active_setCounter]; simp [activeConnections, hn]

section Keeps

variable {st fp fp'}

lemma setCounter_keeps (n : UInt32) (h : st.connections fp' ≠ none) :
    (st.setCounter fp (some n)).connections fp' ≠ none := by
  by_cases hfp : fp' = fp
  · subst hfp
    exact fun hn => absurd ((update_self ..).symm.trans hn) (some_ne_none n)
  · exact fun hn => h ((update_of_ne hfp ..).symm.trans hn)

section

variable (h : st.connections fp' ≠ none)
include h

lemma orInsertCounter_keeps : (st.orInsertCounter fp).connections fp' ≠ none := by
  unfold orInsertCounter; split
  · exact h
  · exact setCounter_keeps 0 h

lemma connect_keeps : (st.connect fp).connections fp' ≠ none := by
  unfold connect; split
  · exact setCounter_keeps _ h
  · exact h

lemma disconnect_keeps : (st.disconnect fp).connections fp' ≠ none := by
  unfold disconnect; split
  · exact setCounter_keeps _ h
  · exact h

end

end Keeps

lemma identities_revoke (revokedAt : Int) : ∃ f : ProcessorIdentity → ProcessorIdentity,
      (∀ id, (f id).fingerprint = id.fingerprint ∧ (f id).maxInstances = id.maxInstances) ∧
      (st.revoke fp revokedAt).identities fp' = (st.identities fp').map f := by
  by_cases h : fp' = fp
  · subst h
    exact ⟨fun id => { id with revokedAt := id.revokedAt.or (some revokedAt) }, fun _ => ⟨rfl, rfl⟩,
      update_self ..⟩
  · exact ⟨id, fun _ => ⟨rfl, rfl⟩, (update_of_ne h ..).trans map_id_apply.symm⟩

end Store

section Count

variable {s : St} {i : Nat} {t : Task}

lemma countP_move (p : Task → Bool) (h : s.tasks[i]? = some t) (t' : Task) (store : Store) :
    (s.move i t' store).tasks.countP p + (p t).toNat = s.tasks.countP p + (p t').toNat := by grind [St.move]

section

variable (h : s.tasks[i]? = some t)
include h

lemma live_move (t' : Task) (store : Store) (fp : String) :
    (s.move i t' store).live fp + (t.isLive fp).toNat = s.live fp + (t'.isLive fp).toNat :=
  countP_move (·.isLive fp) h t' store

lemma authorized_move (t' : Task) (store : Store) (fp : String) :
    (s.move i t' store).authorized fp + (t.isAuthorized fp).toNat = s.authorized fp +
      (t'.isAuthorized fp).toNat :=
  countP_move (·.isAuthorized fp) h t' store

lemma live_move_eq (hl : ∀ fp, t.isLive fp = t'.isLive fp) (store : Store) (fp : String) :
    (s.move i t' store).live fp = s.live fp := by
  have hm := live_move h t' store fp; grind

lemma authorized_move_le (ha : ∀ fp, t'.isAuthorized fp = true → t.isAuthorized fp = true) (store : Store)
    (fp : String) :
    (s.move i t' store).authorized fp ≤ s.authorized fp := by
  have hm := authorized_move h t' store fp; have hle := Bool.toNat_le_toNat (ha fp); omega

end

lemma live_eq_zero (h : s.tasks.all Task.isQuiet = true) (fp : String) : s.live fp = 0 := by
  refine countP_eq_zero.mpr fun t ht hl => ?_; have hq := List.all_eq_true.mp h t ht
  cases t <;> simp [Task.isLive, Task.isQuiet] at hl hq

lemma handshake_of_quiet (h : s.tasks.all Task.isQuiet = true) (hu : u ∈ s.tasks) : u.handshake = none := by
  have hq := List.all_eq_true.mp h u hu
  cases u <;> simp [Task.handshake, Task.isQuiet] at hq ⊢

end Count

def Known (store : Store) (id : ProcessorIdentity) : Prop :=
  (∃ id', store.identities id.fingerprint = some id' ∧ id'.maxInstances = id.maxInstances) ∧
    store.connections id.fingerprint ≠ none

structure Inv (s : St) : Prop where
  keyed : ∀ fp id, s.store.identities fp = some id → id.fingerprint = fp
  counted : ∀ fp, (s.store.activeConnections fp).toNat = s.live fp
  bounded : ∀ fp id, s.store.identities fp = some id → s.live fp + s.authorized fp ≤ id.maxInstances.toNat
  known : ∀ t ∈ s.tasks, ∀ id, t.handshake = some id → Known s.store id

namespace Inv

variable {A : Auth} {s s' : St} {i : Nat} {t t' : Task} {fp : String} {id : ProcessorIdentity}

lemma starts (h : Starts s) : Inv s := by
  obtain ⟨store, tasks⟩ := s; obtain ⟨rfl, hi⟩ := h
  have hz : ∀ p : Task → Bool, p .idle = false → tasks.countP p = 0 :=
    fun p hp => countP_eq_zero.mpr fun t ht hpt => by rw [hi t ht, hp] at hpt; cases hpt
  constructor
  · intro fp id hid; cases hid
  · intro fp; exact (hz (·.isLive fp) rfl).symm
  · intro fp id hid; cases hid
  · intro t ht id hid; rw [hi t ht] at hid; cases hid

variable {store : Store}

lemma known_move (h : Inv s) (hk : ∀ id, Known s.store id → Known store id)
    (hn : ∀ id, t'.handshake = some id → Known store id) :
    ∀ u ∈ (s.move i t' store).tasks, ∀ id, u.handshake = some id → Known store id := by
  intro u hu id hid; rcases mem_or_eq_of_mem_set hu with hu | rfl
  · exact hk id (h.known u hu id hid)
  · exact hn id hid

lemma move (h : Inv s) (ht : s.tasks[i]? = some t) (hli : ∀ fp, t.isLive fp = t'.isLive fp)
    (ha : ∀ fp, t'.isAuthorized fp = true → t.isAuthorized fp = true)
    (hn : ∀ id, t'.handshake = some id → Known s.store id) : Inv (s.move i t' s.store) := by
  have hl := live_move_eq ht hli s.store
  refine ⟨h.keyed, fun fp => (h.counted fp).trans (hl fp).symm, fun fp id hid => ?_,
    h.known_move (fun _ hk => hk) hn⟩
  have hb := h.bounded fp id hid; grind [authorized_move_le]

lemma revoke (h : Inv s) (fp : String) (revokedAt : Int) :
    Inv { s with store := s.store.revoke fp revokedAt } := by
  constructor
  · intro fp' id hid; obtain ⟨f, hf, heq⟩ := s.store.identities_revoke fp fp' revokedAt
    obtain ⟨id₀, hi₀, rfl⟩ := map_eq_some_iff.mp (heq.symm.trans hid)
    exact (hf id₀).1.trans (h.keyed fp' id₀ hi₀)
  · exact h.counted
  · intro fp' id hid; obtain ⟨f, hf, heq⟩ := s.store.identities_revoke fp fp' revokedAt
    obtain ⟨id₀, hi₀, rfl⟩ := map_eq_some_iff.mp (heq.symm.trans hid)
    rw [(hf id₀).2]; exact h.bounded fp' id₀ hi₀
  · intro t ht id hid; obtain ⟨⟨id', hid', hm⟩, hc⟩ := h.known t ht id hid
    obtain ⟨f, hf, heq⟩ := s.store.identities_revoke fp id.fingerprint revokedAt
    refine ⟨⟨f id', ?_, (hf id').2.trans hm⟩, hc⟩; rw [heq, hid']; rfl

lemma insertIdentity (h : Inv s) (ht : s.tasks[i]? = some t) (hf : fits s id = true)
    (hli : ∀ fp, t.isLive fp = false) (hl' : ∀ fp, t'.isLive fp = false)
    (ha' : ∀ fp, t'.isAuthorized fp = false) (hn : t'.handshake = none) :
    Inv (s.move i t' (s.store.insertIdentity id)) := by
  simp only [fits, Bool.and_eq_true, decide_eq_true_eq] at hf; obtain ⟨hno, hm⟩ := hf
  have ho : ∀ u ∈ s.tasks, ∀ id', u.handshake = some id' → id'.fingerprint ≠ id.fingerprint := by
    intro u hu id' hid'; have := List.all_eq_true.mp hno u hu; grind
  have hl := live_move_eq ht (fun fp => (hli fp).trans (hl' fp).symm) (s.store.insertIdentity id)
  have hat : ∀ fp, t'.isAuthorized fp = true → t.isAuthorized fp = true :=
    fun fp hfp => absurd hfp (by simp [ha' fp])
  have ha := authorized_move_le ht hat (s.store.insertIdentity id)
  have hz : s.authorized id.fingerprint = 0 := countP_eq_zero.mpr fun u hu hau => by
    cases u with
    | authorized id' => exact ho _ hu id' rfl (of_decide_eq_true hau)
    | _ => cases hau
  constructor
  · intro fp id' hid'; by_cases hfp : fp = id.fingerprint
    · simp_all [St.move, Store.insertIdentity]
    · exact h.keyed fp id' (by simpa [St.move, Store.insertIdentity, hfp] using hid')
  · intro fp; exact (h.counted fp).trans (hl fp).symm
  · intro fp id' hid'; have haf := ha fp; rw [hl fp]
    by_cases hfp : fp = id.fingerprint
    · simp_all [St.move, Store.insertIdentity]
    · have := h.bounded fp id' (by simpa [St.move, Store.insertIdentity, hfp] using hid')
      omega
  · intro u hu id' hid'; rcases mem_or_eq_of_mem_set hu with hu | rfl
    · obtain ⟨⟨id₀, hi₀, hm₀⟩, hc⟩ := h.known u hu id' hid'; refine ⟨⟨id₀, ?_, hm₀⟩, hc⟩
      exact (update_of_ne (ho u hu id' hid') ..).trans hi₀
    grind

lemma setCounter (h : Inv s) (ht : s.tasks[i]? = some t) (hi : store.identities = s.store.identities)
    (hac : ∀ fp, (store.activeConnections fp).toNat = s.live fp)
    (hke : ∀ fp, s.store.connections fp ≠ none → store.connections fp ≠ none)
    (hli : ∀ fp, t.isLive fp = false) (hl' : ∀ fp, t'.isLive fp = false)
    (ha' : ∀ fp, t'.isAuthorized fp = false) (hn : t'.handshake = none) :
    Inv (s.move i t' store) := by
  have hl := live_move_eq ht (fun fp => (hli fp).trans (hl' fp).symm) store
  have hau : ∀ fp, t'.isAuthorized fp = true → t.isAuthorized fp = true :=
    fun fp hfp => absurd hfp (by simp [ha' fp])
  have ha := authorized_move_le ht hau store
  refine ⟨fun fp id hid => h.keyed fp id (by rw [← hi]; exact hid),
    fun fp => (hac fp).trans (hl fp).symm, fun fp id hid => ?_,
    h.known_move (fun id hk => ⟨by rw [hi]; exact hk.1, hke _ hk.2⟩) fun id hid => ?_⟩
  · have := h.bounded fp id (by rw [← hi]; exact hid); have := ha fp; rw [hl fp]
    omega
  grind

lemma clear (h : Inv s) (hq : s.tasks.all Task.isQuiet = true)
    (hi : ∀ fp id, store.identities fp = some id → s.store.identities fp = some id)
    (ha : ∀ fp, (store.activeConnections fp).toNat = 0) (hq' : t'.isQuiet = true) :
    Inv (s.move i t' store) := by
  have hqu : (s.move i t' store).tasks.all Task.isQuiet = true := by
    refine List.all_eq_true.mpr fun u hu => ?_
    rcases mem_or_eq_of_mem_set hu with hu | rfl
    · grind
    · exact hq'
  have hz : ∀ fp, (s.move i t' store).authorized fp = 0 := fun fp =>
    countP_eq_zero.mpr fun u hu hau => by
      have := handshake_of_quiet hqu hu
      cases u with
      | authorized => cases this
      | _ => cases hau
  refine ⟨fun fp id hid => h.keyed fp id (hi fp id hid),
    fun fp => (ha fp).trans (live_eq_zero hqu fp).symm, fun fp id _ => ?_, fun u hu id hid => ?_⟩
  · rw [live_eq_zero hqu fp, hz fp]; exact Nat.zero_le _
  grind [handshake_of_quiet]

lemma authorize {requested : List String} (h : Inv s) (ht : s.tasks[i]? = some (.verified id requested))
    (hz : s.authorized id.fingerprint = 0)
    (hc : checkAuthorization id requested (s.store.activeConnections id.fingerprint) = .ok ()) :
    Inv (s.move i (.authorized id) s.store) := by
  have hlt : s.live id.fingerprint < id.maxInstances.toNat := by
    rw [← h.counted]; exact UInt32.lt_iff_toNat_lt.mp (lt_of_checkAuthorization hc)
  have hkn := h.known _ (mem_of_getElem? ht) id rfl
  have hl : ∀ fp, (s.move i (.authorized id) s.store).live fp = s.live fp := fun fp => live_move ht _ _ fp
  refine ⟨h.keyed, fun fp => (h.counted fp).trans (hl fp).symm, fun fp id' hid' => ?_,
    h.known_move (fun _ hk => hk) fun id' hid' => by cases hid'; exact hkn⟩
  have ha : (s.move i (.authorized id) s.store).authorized fp = s.authorized fp +
      (decide (id.fingerprint = fp)).toNat := authorized_move ht (.authorized id) s.store fp
  rw [hl fp, ha]; by_cases hfp : id.fingerprint = fp
  · subst hfp; obtain ⟨⟨id₀, hi₀, hm⟩, -⟩ := hkn
    obtain rfl : id₀ = id' := Option.some.inj (hi₀.symm.trans hid'); grind
  · have := h.bounded fp id' hid'; simpa [hfp] using this

lemma connect (h : Inv s) (ht : s.tasks[i]? = some (.authorized id)) :
    Inv (s.move i (.live id.fingerprint) (s.store.connect id.fingerprint)) := by
  obtain ⟨⟨id₀, hi₀, hm⟩, hc⟩ := h.known _ (mem_of_getElem? ht) id rfl
  have hi : (s.store.connect id.fingerprint).identities = s.store.identities := by
    unfold Store.connect; split <;> rfl
  have hl : ∀ fp, (s.move i (.live id.fingerprint) (s.store.connect id.fingerprint)).live fp =
      s.live fp + (decide (id.fingerprint = fp)).toNat := fun fp => live_move ht _ _ fp
  have ha : ∀ fp, (s.move i (.live id.fingerprint) (s.store.connect id.fingerprint)).authorized fp +
      (decide (id.fingerprint = fp)).toNat = s.authorized fp := fun fp => authorized_move ht _ _ fp
  refine ⟨fun fp id' hid' => h.keyed fp id' (by rw [← hi]; exact hid'), fun fp => ?_,
    fun fp id' hid' => ?_, h.known_move (fun id' hk =>
      ⟨by rw [hi]; exact hk.1, ?_⟩) fun id' hid' => by cases hid'⟩
  · show ((s.store.connect id.fingerprint).activeConnections fp).toNat = _
    rw [Store.active_connect fp hc, hl fp]; by_cases hfp : id.fingerprint = fp
    · subst hfp
      have hb := h.bounded _ id₀ hi₀; have hau := ha id.fingerprint
      have hco := h.counted id.fingerprint; have hlt := id₀.maxInstances.toNat_lt
      simp only [decide_true, Bool.toNat_true, if_true] at hau ⊢
      grind [UInt32.toNat_add, UInt32.toNat_one]
    grind [h.counted]
  · have := h.bounded fp id' (by rw [← hi]; exact hid'); grind
  · exact Store.connect_keeps hk.2

lemma live_pos (ht : s.tasks[i]? = some (.live fp)) : 0 < s.live fp :=
  countP_pos_iff.mpr ⟨_, mem_of_getElem? ht, decide_eq_true rfl⟩

lemma active_ne_zero (h : Inv s) (ht : s.tasks[i]? = some (.live fp)) : s.store.activeConnections fp ≠ 0 := by
  intro hz; have := live_pos ht; simp_all [← h.counted fp]

lemma disconnect (h : Inv s) (ht : s.tasks[i]? = some (.live fp)) :
    Inv (s.move i .idle (s.store.disconnect fp)) := by
  have hne := h.active_ne_zero ht
  have hi : (s.store.disconnect fp).identities = s.store.identities := by
    unfold Store.disconnect; split <;> rfl
  have hl : ∀ fp', (s.move i .idle (s.store.disconnect fp)).live fp' + (decide (fp = fp')).toNat =
      s.live fp' := fun fp' => live_move ht _ _ fp'
  have ha : ∀ fp', (s.move i .idle (s.store.disconnect fp)).authorized fp' = s.authorized fp' :=
    fun fp' => authorized_move ht _ _ fp'
  refine ⟨fun fp' id hid => h.keyed fp' id (by rw [← hi]; exact hid), fun fp' => ?_,
    fun fp' id hid => ?_, h.known_move (fun id hk => ⟨by rw [hi]; exact hk.1, ?_⟩) fun id hid => by cases hid⟩
  · show ((s.store.disconnect fp).activeConnections fp').toNat = _; have hlf := hl fp'
    rw [Store.active_disconnect fp' hne]; by_cases hfp : fp = fp'
    · subst hfp; have hc := h.counted fp
      have hle : (1 : UInt32) ≤ s.store.activeConnections fp := by grind
      simp only [decide_true, Bool.toNat_true, if_true] at hlf ⊢
      rw [UInt32.toNat_sub_of_le _ _ hle, UInt32.toNat_one]; omega
    grind [h.counted]
  · have := h.bounded fp' id (by rw [← hi]; exact hid); grind
  · exact Store.disconnect_keeps hk.2

lemma run (h : Inv s) (ht : s.tasks[i]? = some t) (hc : carefulRun s t = true)
    (hs : IdentityStore.run s i t = some s') : Inv s' := by
  cases t with
  | idle => cases hs
  | registering => cases hs; exact h.insertIdentity ht hc (fun _ => rfl) (fun _ => rfl) (fun _ => rfl) rfl
  | counting =>
    cases hs
    refine h.setCounter ht ?_ (fun fp' => ?_) (fun _ => Store.orInsertCounter_keeps) (fun _ => rfl)
      (fun _ => rfl) (fun _ => rfl) rfl
    · unfold Store.orInsertCounter; split <;> rfl
    · rw [Store.active_orInsertCounter]; exact h.counted fp'
  | clearing => cases hs; exact h.clear hc (fun _ _ hid => hid) (fun _ => rfl) rfl
  | restoring ids =>
    cases ids with
    | nil => cases hs; exact h.move ht (fun _ => rfl) (fun _ ha => ha) fun _ hid => by cases hid
    | cons =>
      cases hs
      exact h.insertIdentity ht hc (fun _ => rfl) (fun _ => rfl) (fun _ => rfl) rfl
  | restoringCounter =>
    cases hs
    refine h.setCounter ht rfl (fun fp' => ?_) (fun _ => Store.setCounter_keeps 0) (fun _ => rfl)
      (fun _ => rfl)
      (fun _ => rfl) rfl
    rw [Store.active_setCounter]; split_ifs with hfp
    · rw [hfp]; exact (of_decide_eq_true hc).symm
    · exact h.counted fp'
  | verified =>
    simp only [IdentityStore.run] at hs; split at hs
    · rename_i hch
      cases hs; exact h.authorize ht (of_decide_eq_true hc) hch
    · cases hs; exact h.move ht (fun _ => rfl) (fun _ ha => ha) fun _ hid => by cases hid
  | authorized => cases hs; exact h.connect ht
  | live => cases hs; exact h.disconnect ht

lemma known_lookup {reg : Register} {nonce : String} (h : Inv s) (hc : (s.store.connections fp).isSome = true)
    (hid : (lookup A s.store fp reg nonce).handshake = some id) : Known s.store id := by
  unfold lookup at hid; split at hid
  · rename_i id₀ hi₀
    split_ifs at hid
    · split at hid
      · cases hid; have hfp := h.keyed fp id hi₀
        exact ⟨⟨id, by rw [hfp]; exact hi₀, rfl⟩, by rw [hfp]; exact isSome_iff_ne_none.mp hc⟩
      · cases hid
    · cases hid
  · cases hid

lemma lookup_quiet {reg : Register} {nonce : String} (st : Store) (fp' : String) :
    (lookup A st fp reg nonce).isLive fp' = false ∧ (lookup A st fp reg nonce).isAuthorized fp' = false := by
  unfold lookup; split
  · split_ifs
    · split <;> exact ⟨rfl, rfl⟩
    · exact ⟨rfl, rfl⟩
  · exact ⟨rfl, rfl⟩

lemma step (h : Inv s) (hc : careful s l = true) (hs : IdentityStore.step A s l = some s') : Inv s' := by
  cases l with
  | register =>
    simp only [IdentityStore.step] at hs; split_ifs at hs with hi hac
    · cases hs; exact h
    · cases hs; exact h.move hi (fun _ => rfl) (fun _ ha => ha) fun _ hid => by cases hid
  | revoke fp revokedAt => cases hs; exact h.revoke fp revokedAt
  | restore =>
    simp only [IdentityStore.step] at hs; split_ifs at hs with hi; cases hs
    refine h.clear hc (fun _ _ hid => by cases hid) (fun fp => ?_) rfl
    exact (h.counted fp).trans (live_eq_zero hc fp)
  | lookup =>
    simp only [IdentityStore.step] at hs; split_ifs at hs with hi; cases hs
    refine h.move hi (fun fp' => (lookup_quiet s.store fp').1.symm) (fun fp' ha => ?_)
      fun id hid => h.known_lookup hc hid
    simp_all [lookup_quiet]
  | run => obtain ⟨t, ht, hs⟩ := bind_eq_some_iff.mp hs; grind [h.run, careful]
  | leave =>
    simp only [IdentityStore.step] at hs; split_ifs at hs with hso; cases hs
    obtain ⟨id, hid⟩ := isSome_iff_exists.mp hso
    obtain ⟨t, ht, hid⟩ := bind_eq_some_iff.mp hid
    refine h.move ht (fun fp => ?_) (fun _ ha => by cases ha) fun _ hid => by cases hid
    cases t <;> first | rfl | cases hid

lemma limits (h : Inv s) : Limits s where
  counted := h.counted
  bounded fp id hid := Nat.le_trans (Nat.le_add_right _ _) (h.bounded fp id hid)
  noWrap _ _ ht := h.active_ne_zero ht

end Inv

theorem limits_hold (A : Auth) {s : St} (h : ((machine A).restrict fun s l => careful s l = true).Reachable s)
    :
    Limits s := by
  have hi : ((machine A).restrict fun s l => careful s l = true).Inductive Inv :=
    ⟨fun _ h => Inv.starts h, fun _ _ _ h hs => h.step hs.1 hs.2⟩
  exact (hi.reachable h).limits

def trusting : Auth where
  Key := Unit
  base64 _ := .ok (List.replicate 32 0)
  hexDecode _ := .ok (List.replicate 64 0)
  keyOfBytes _ := .ok ()
  verify _ _ _ := true

def single : ProcessorIdentity := ⟨"ed25519:k", "f", "enricher", .allMatchingPipelines, 1, none⟩

def registration : Register := ⟨"enricher", "1", "ed25519:k", "", .json, ["p"]⟩

def tasks (n : Nat) : St := { tasks := List.replicate n .idle }

lemma tasks_start (n : Nat) : Starts (tasks n) := ⟨rfl, fun _ ht => eq_of_mem_replicate ht⟩

def registered : List Lbl := [.register 0 single, .run 0, .run 0]

def race : List Lbl := registered ++
  [.lookup 1 "f" registration "", .lookup 2 "f" registration "", .run 1, .run 2, .run 1, .run 2]

def connected : List Lbl := registered ++ [.lookup 1 "f" registration "", .run 1, .run 1]

def restored : List Lbl := connected ++ [.restore 0 [single], .run 0, .run 0, .run 0, .run 0]

structure Sessions where
  live : Nat
  active : UInt32
  limit : Option UInt32
  deriving DecidableEq

def sessionsOf : Sessions :=
  ⟨s.live "f", s.store.activeConnections "f", (s.store.identities "f").map ProcessorIdentity.maxInstances⟩

theorem limits_broken : (∃ s, (machine trusting).Run (tasks 3) race s ∧ sessionsOf s = ⟨2, 2, some 1⟩) ∧
    (∃ s, (machine trusting).Run (tasks 2) restored s ∧ sessionsOf s = ⟨1, 0, some 1⟩) ∧
    (∃ s, (machine trusting).Run (tasks 2) (restored ++ [.run 1]) s ∧
      sessionsOf s = ⟨0, 4294967295, some 1⟩) :=
  ⟨LTS.exists_run (by decide +kernel), LTS.exists_run (by decide +kernel), LTS.exists_run (by decide +kernel)⟩

theorem limits_hold_in_turn : ∃ s, ((machine trusting).restrict fun s l => careful s l = true).Reachable s ∧
      sessionsOf s = ⟨1, 1, some 1⟩ ∧ Limits s := by
  exact LTS.exists_restrict (tasks_start 3) (connected ++ [.lookup 2 "f" registration "", .run 2])
    (by decide +kernel)
    fun _ => limits_hold trusting

end Aeon.L3.IdentityStore
