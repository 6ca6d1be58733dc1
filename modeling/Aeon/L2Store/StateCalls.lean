import Aeon.Core.Calls
import Aeon.Core.LTS
import Aeon.L2Store.StateLog

/-!
# Calls on one memory-mapped tier at a time

`L2Store` (`crates/aeon-state/src/l2.rs`) has one lock for the index and one for the file; `put`
takes them in one order, `delete` in the other, and a compaction lets go of both before it swaps.

* `calls_linearize`: while no two writes of a key overlap and no call a compaction, the calls are
  those of a map;
* `puts_disagree`: two puts of a key.
-/
namespace Aeon.L2.StateLog.Concurrent

open Function List Aeon.Core Aeon.Core.KeyedLog

inductive Call where
  | get (key : Bytes)
  | getFile (key : Bytes) (offset : Nat) (seen : Option Bytes)
  | put (key value : Bytes)
  | putIndex (key : Bytes) (offset : Nat) (value : Bytes)
  | delete (key : Bytes)
  | deleteFile (key : Bytes)
  | compact
  | swapFile (new : L2Store)
  | swapIndex (new : L2Store)
  | storePos (new : L2Store)

structure State where
  store : L2Store := .fresh
  map : Bytes → Option Bytes := fun _ => none
  returned : List (Except String (Option Bytes) × Option Bytes) := []
  calls : Calls Call := fun _ => none

/-- mirrors l2.rs:310-369, 409-465 -/
def advance (s : State) (it : List Bytes) : Call → State × Option Call
  | .get key =>
    match s.store.index key with
    | none => ({ s with returned := (.ok none, s.map key) :: s.returned }, none)
    | some offset => (s, some (.getFile key offset (s.map key)))
  | .getFile _ offset seen =>
    let result := (readEntryAt s.store.file offset).map fun entry => entry.map (·.2.2)
    ({ s with returned := (result, seen) :: s.returned }, none)
  | .put key value =>
    let (store, offset) := s.store.appendEntry flagLive key value
    ({ s with store }, some (.putIndex key offset value))
  | .putIndex key offset value =>
    ({ s with
      store := { s.store with index := update s.store.index key (some offset) }
      map := update s.map key (some value) }, none)
  | .delete key =>
    ({ s with
      store := { s.store with index := update s.store.index key none }
      map := update s.map key none },
      if (s.store.index key).isSome then some (.deleteFile key) else none)
  | .deleteFile key => ({ s with store := (s.store.appendEntry flagDeleted key []).1 }, none)
  | .compact => (s, some (.swapFile (s.store.compact it)))
  | .swapFile new => ({ s with store := { s.store with file := new.file } }, some (.swapIndex new))
  | .swapIndex new => ({ s with store := { s.store with index := new.index } }, some (.storePos new))
  | .storePos new => ({ s with store := { s.store with writePos := new.writePos } }, none)

inductive Call.First : Call → Prop
  | get (key) : First (.get key)
  | put (key value) : First (.put key value)
  | delete (key) : First (.delete key)
  | compact : First .compact

inductive Label where
  | start (id : Nat) (call : Call)
  | advance (id : Nat) (it : List Bytes)

inductive Step (s : State) : Label → State → Prop
  | start {id : Nat} {call : Call} (hfirst : call.First) (hfree : s.calls id = none) :
      Step s (.start id call) { s with calls := update s.calls id (some call) }
  | advance {id : Nat} {it : List Bytes} {call : Call} (hcall : s.calls id = some call)
      (hit : call = .compact → ∀ key, key ∈ it ↔ (s.store.index key).isSome) : Step s (.advance id it)
        { (advance s it call).1 with calls := update s.calls id (advance s it call).2 }

def system : LTS State Label := ⟨(· = {}), Step⟩

def Call.holds : Call → Option Bytes
  | .putIndex key _ _ | .deleteFile key => some key
  | _ => none

def Call.writes : Call → Option Bytes
  | .put key _ | .delete key => some key
  | _ => none

def Call.compacts : Call → Prop
  | .swapFile _ | .swapIndex _ | .storePos _ => True
  | _ => False

def Apart (s : State) : Label → Prop
  | .start _ _ => True
  | .advance id _ => ∀ call, s.calls id = some call → call.First →
      (∀ key value, call = .put key value → Short (key, some value)) ∧
      s.calls.Others id fun c => ¬ c.compacts ∧ (∀ key, call.writes = some key → c.holds ≠ some key) ∧
        (call = .compact → c.First)

def At (file : Bytes) (offset : Nat) (key value : Bytes) : Prop :=
  readEntryAt file offset = .ok (some (flagLive, key, value))

def Knows (s : State) (log : List (Entry Bytes Bytes)) : Call → Prop
  | .getFile key offset seen => ∃ value, At s.store.file offset key value ∧ seen = some value
  | .putIndex key offset value => At s.store.file offset key value ∧ contents log key = some value
  | .deleteFile key => s.map key = none ∧ key.length < 2 ^ 32
  | .swapFile _ | .swapIndex _ | .storePos _ => False
  | _ => True

structure Normal (s : State) (log : List (Entry Bytes Bytes)) : Prop where
  short : ∀ e ∈ log, Short e
  file : s.store.file = image log
  writePos : s.store.writePos = (image log).length
  index : ∀ key, (s.store.index key = none ∧ s.map key = none) ∨
    ∃ offset value, s.store.index key = some offset ∧ At s.store.file offset key value ∧
    s.map key = some value
  agree : ∀ key, s.calls.All (fun c => c.holds ≠ some key) → contents log key = s.map key
  knows : s.calls.All (Knows s log)
  apart : s.calls.Pairwise fun a b => ∀ key, a.holds = some key → b.holds ≠ some key

variable {s s' : State} {log : List (Entry Bytes Bytes)} {id : Nat} {it : List Bytes} {call : Call}
  {label : Label}

lemma At.append {file : Bytes} {offset : Nat} {key value : Bytes} (h : At file offset key value)
    (more : Bytes) :
    At (file ++ more) offset key value := by
  rw [At, readEntryAt] at h ⊢
  cases hd : file.drop offset with
  | nil => simp [hd] at h
  | cons flag rest =>
    have hle : offset ≤ file.length := by by_contra hlt; rw [drop_eq_nil_of_le (by omega)] at hd; cases hd
    rw [drop_append_of_le_length hle, hd]; simp only [hd, cons_append] at h ⊢
    cases hr : readFields rest with
    | error => simp [hr, Except.map] at h
    | ok r => simpa [hr, stable_readFields rest r.1 r.2 more hr, Except.map] using h

section

variable (h : Normal s log)
include h

lemma Normal.get (key : Bytes) : s.store.get key = .ok (s.map key) := by
  rw [L2Store.get]; obtain ⟨hi, hm⟩ | ⟨offset, value, hi, hat, hm⟩ := h.index key
  · rw [hi, hm]
  · rw [hi, hm]; exact congrArg (Except.map fun entry => entry.map (·.2.2)) hat

lemma Normal.quiet (hca : s.calls id = some call) (hh : call.holds = none) {next : Option Call}
    (hn : ∀ c, next = some c → Knows s log c ∧ c.holds = none) :
    Normal { s with returned := r, calls := update s.calls id next } log where
  short := h.short
  file := h.file
  writePos := h.writePos
  index := h.index
  agree key hall := h.agree key fun i c hc => by
    by_cases hi : i = id
    · obtain rfl : call = c := by simp_all
      simp [hh]
    · exact (Calls.all_update.mp hall).1 i c hi hc
  knows := Calls.all_update.mpr ⟨h.knows.others id, fun c hc => (hn c hc).1⟩
  apart := h.apart.update (fun a b hab key hb ha => hab key ha hb) fun c hc i c' _ _ key hk => by
    simp [(hn c hc).2] at hk

lemma Normal.touch (hcl : s.calls id = some call) {next : Option Call} {log' : List (Entry Bytes Bytes)}
    (hca : s'.calls = update s.calls id next)
    (hs : ∀ e ∈ log', Short e) (hf : s'.store.file = image log')
      (hp : s'.store.writePos = (image log').length)
    (hmo : ∃ more, s'.store.file = s.store.file ++ more)
    (hot : ∀ k' ≠ k, s'.store.index k' = s.store.index k' ∧ s'.map k' = s.map k' ∧
      contents log' k' = contents log k')
    (hke : (s'.store.index k = none ∧ s'.map k = none) ∨ ∃ offset value,
      s'.store.index k = some offset ∧ At s'.store.file offset k value ∧ s'.map k = some value)
    (hoh : s.calls.Others id fun c => c.holds ≠ some k) (hho : call.holds = none ∨ call.holds = some k)
    (hn : ∀ c, next = some c → Knows s' log' c ∧ (c.holds = none ∨ c.holds = some k))
    (hag : (∀ c, next = some c → c.holds ≠ some k) → contents log' k = s'.map k) : Normal s' log' := by
  obtain ⟨more, hmo⟩ := hmo; refine ⟨hs, hf, hp, fun k' => ?_, fun k' hal => ?_, ?_, ?_⟩
  · by_cases hk : k' = k
    · exact hk ▸ hke
    · obtain ⟨hi, hm, -⟩ := hot k' hk; rw [hi, hm, hmo]
      exact (h.index k').imp (fun hno => hno) fun ⟨o, v, ho, hat, hv⟩ => ⟨o, v, ho, hat.append more, hv⟩
  · rw [hca] at hal; obtain ⟨hal, hse⟩ := Calls.all_update.mp hal; by_cases hk : k' = k
    · exact hk ▸ hag (hk ▸ hse)
    · obtain ⟨-, hm, hc⟩ := hot k' hk; rw [hm, hc]; refine h.agree k' fun i c hc => ?_
      by_cases hi : i = id
      · obtain rfl : call = c := by simp_all
        rcases hho with hh | hh <;> simp [hh, Ne.symm hk]
      · exact hal i c hi hc
  · rw [hca]; refine Calls.all_update.mpr ⟨fun i c hi hc => ?_, fun c hc => (hn c hc).1⟩
    have hne := hoh i c hi hc; have hkn := h.knows i c hc
    cases c with
    | getFile => exact hkn.imp fun v hv => ⟨hmo ▸ hv.1.append more, hv.2⟩
    | putIndex k' =>
      have hk : k' ≠ k := fun hk => hne (by rw [Call.holds, hk])
      exact ⟨hmo ▸ hkn.1.append more, (hot k' hk).2.2 ▸ hkn.2⟩
    | deleteFile k' =>
      have hk : k' ≠ k := fun hk => hne (by rw [Call.holds, hk])
      exact ⟨(hot k' hk).2.1 ▸ hkn.1, hkn.2⟩
    | swapFile | swapIndex | storePos => exact hkn
    | get | put | delete | compact => trivial
  · rw [hca]
    refine h.apart.update (fun a b hab k' hb ha => hab k' ha hb) fun c hc i c' hi hc' k' hk => ?_
    rcases (hn c hc).2 with hh | hh
    · simp [hh] at hk
    · rw [hh] at hk; cases hk; exact hoh i c' hi hc'

lemma Normal.append (he : Short e) :
    (∀ x ∈ log ++ [e], Short x) ∧ s.store.file ++ frameOf e = image (log ++ [e]) ∧
      s.store.writePos + sizeOf e = (image (log ++ [e])).length := by
  refine ⟨fun x hx => ?_, ?_, ?_⟩
  · rcases mem_append.mp hx with hx | hx
    · exact h.short x hx
    · exact mem_singleton.mp hx ▸ he
  · rw [image_snoc, h.file]
  · rw [image_snoc, length_append, length_frameOf, h.writePos]

lemma Normal.appendEntry (flag : UInt8) (key value : Bytes) :
    s.store.appendEntry flag key value = (⟨s.store.file ++ frame flag key value, s.store.index,
      s.store.writePos + entrySize key value⟩, s.store.writePos) := by
  rw [@appendEntry_trails _ _ _ _ [] (by rw [append_nil]; exact h.file) h.writePos, h.file]
  simp

lemma Normal.advance (hca : s.calls id = some call) (hnt : call ≠ .compact)
    (hso : ∀ key value, call = .put key value → Short (key, some value))
    (hot : ∀ key, call.writes = some key → s.calls.Others id fun c => c.holds ≠ some key) :
    ∃ log', Normal { (advance s it call).1 with calls := update s.calls id (advance s it call).2 } log' := by
  have hkn := h.knows id call hca
  cases call with
  | get key =>
    refine ⟨log, ?_⟩; simp only [Concurrent.advance]
    obtain ⟨hi, hm⟩ | ⟨offset, value, hi, hat, hm⟩ := h.index key
    · simp only [hi]; exact h.quiet hca rfl fun c hc => by cases hc
    · simp only [hi]; refine h.quiet (r := s.returned) hca rfl fun c hc => ?_
      cases hc; exact ⟨⟨value, hat, hm⟩, rfl⟩
  | getFile => exact ⟨log, h.quiet hca rfl fun c hc => by cases hc⟩
  | put key value =>
    have hsh := hso key value rfl; obtain ⟨hs, hf, hp⟩ := h.append hsh
    refine ⟨log ++ [(key, some value)], ?_⟩; simp only [Concurrent.advance, h.appendEntry]
    have hat : At (s.store.file ++ frameOf (key, some value)) s.store.writePos key value := by
      rw [h.file, h.writePos, ← append_nil (frameOf _)]
      exact readEntryAt_frame _ _ hsh.1 hsh.2
    refine h.touch (k := key) hca rfl hs hf hp ⟨_, rfl⟩ (fun k hk => ⟨rfl, rfl, ?_⟩) ?_ (hot key rfl)
      (.inl rfl)
      (fun c hc => ?_) fun hno => absurd rfl (hno _ rfl)
    · simp [contents_snoc, hk]
    · exact (h.index key).imp (fun hn => hn) fun hx => by
        obtain ⟨o, v, ho, hat, hv⟩ := hx; exact ⟨o, v, ho, hat.append _, hv⟩
    · cases hc; exact ⟨⟨hat, by simp [contents_snoc]⟩, .inr rfl⟩
  | putIndex key offset value =>
    refine ⟨log, h.touch (k := key) hca rfl h.short h.file h.writePos ⟨[], (append_nil _).symm⟩
      (fun k hk => ?_) (.inr ⟨offset, value, ?_, hkn.1, ?_⟩)
      (fun i c hi hc => h.apart.others hca i c hi hc key rfl) (.inr rfl) (fun c hc => by cases hc) fun _ =>
        ?_⟩ <;>
      simp_all [Concurrent.advance, hkn.2]
  | delete key =>
    refine ⟨log, h.touch (k := key) hca rfl h.short h.file h.writePos ⟨[], (append_nil _).symm⟩
      (fun k hk => ?_) (.inl ?_) (hot key rfl) (.inl rfl) (fun c hc => ?_) fun hno => ?_⟩
    · simp [Concurrent.advance, hk]
    · simp [Concurrent.advance]
    all_goals
      have hfr : s.calls.All fun c => c.holds ≠ some key := fun i c hc => by
        by_cases hi : i = id
        · obtain rfl : Call.delete key = c := by simp_all
          exact fun h => by cases h
        · exact hot key rfl i c hi hc
      have ha := h.agree key hfr
    · -- a tombstone follows, so the key has an entry
      simp only [Concurrent.advance, Option.ite_none_right_eq_some, Option.some.injEq] at hc
      obtain ⟨hsm, rfl⟩ := hc; obtain ⟨hi, -⟩ | ⟨offset, value, -, -, hm⟩ := h.index key
      · simp [hi] at hsm
      · exact ⟨⟨by simp [Concurrent.advance], (h.short _ (exists_of_contents (ha.trans hm))).1⟩, .inr rfl⟩
    · obtain ⟨-, hm⟩ | ⟨offset, value, hi, -, -⟩ := h.index key
      · simp [Concurrent.advance, ha, hm]
      · exact absurd rfl (hno (.deleteFile key) (by simp [Concurrent.advance, hi]))
  | deleteFile key =>
    obtain ⟨hs, hf, hp⟩ := h.append (e := (key, none)) ⟨hkn.2, by simp⟩
    refine ⟨log ++ [(key, none)], ?_⟩; simp only [Concurrent.advance, h.appendEntry]
    refine h.touch (k := key) hca rfl hs hf hp ⟨_, rfl⟩ (fun k hk => ⟨rfl, rfl, ?_⟩) ?_
      (fun i c hi hc => h.apart.others hca i c hi hc key rfl) (.inr rfl) (fun c hc => by cases hc) fun _ => ?_
    · simp [contents_snoc, hk]
    · exact (h.index key).imp (fun hn => hn) fun hx => by
        obtain ⟨o, v, ho, hat, hv⟩ := hx; exact ⟨o, v, ho, hat.append _, hv⟩
    · simp [contents_snoc, hkn.1]
  | compact => exact absurd rfl hnt
  | swapFile | swapIndex | storePos => exact hkn.elim

end

def Compacting (s : State) (log : List (Entry Bytes Bytes)) : Prop :=
  ∃ id call new, s.calls id = some call ∧ Holds new log ∧ contents log = s.map ∧
    s.calls.Others id Call.First ∧
    (call = .swapFile new ∨ (call = .swapIndex new ∧ s.store.file = new.file) ∨
      (call = .storePos new ∧ s.store.file = new.file ∧ s.store.index = new.index))

structure Inv (s : State) : Prop where
  store : ∃ log, Normal s log ∨ Compacting s log
  returned : ∀ p ∈ s.returned, p.1 = .ok p.2

lemma Call.First.knows (h : call.First) (s : State) (log : List (Entry Bytes Bytes)) :
    Knows s log call ∧ call.holds = none ∧ ¬ call.compacts := by
  cases h <;> exact ⟨trivial, rfl, nofun⟩

lemma Holds.normal (h : Holds s.store log) (hm : contents log = s.map) (hca : s.calls.All Call.First) :
    Normal s log where
  short := h.short
  file := h.file
  writePos := h.writePos
  index key := by
    rw [← hm, h.index]
    cases hi : (KeyedLog.index sizeOf magic.length log).1 key with
    | none => exact .inl ⟨rfl, index_eq_none hi⟩
    | some =>
      obtain ⟨first, v, rest, rfl, rfl, hv⟩ := exists_of_index hi
      have hr := @readEntryAt_image _ first rest (h.short (key, some v) (by simp)) []
      rw [append_nil, ← h.file, length_image] at hr; exact .inr ⟨_, v, rfl, hr, hv⟩
  agree key _ := by rw [hm]
  knows i c hc := ((hca i c hc).knows s log).1
  apart i _ c _ _ hc _ key hk := by simp [((hca i c hc).knows s log).2.1] at hk

lemma Inv.start (h : Inv s) (hf : call.First) (hfr : s.calls id = none) :
    Inv { s with calls := update s.calls id (some call) } := by
  refine ⟨?_, h.returned⟩; obtain ⟨log, hn | ⟨id', c, new, hc, hne, hm, ho, hs⟩⟩ := h.store
  · refine ⟨log, .inl ⟨hn.short, hn.file, hn.writePos, hn.index, fun key hal => hn.agree key fun i c hc => ?_,
      Calls.all_update.mpr ⟨hn.knows.others id, fun c hc => ?_⟩,
      hn.apart.update (fun a b hab key hb ha => hab key ha hb) fun c hc i c' _ _ key hk => ?_⟩⟩
    · exact (Calls.all_update.mp hal).1 i c (fun hi => by simp_all) hc
    · cases hc; exact (hf.knows s log).1
    · cases hc; simp [(hf.knows s log).2.1] at hk
  · have hid : id' ≠ id := fun hi => by simp_all
    refine ⟨log, .inr ⟨id', c, new, by simp [hid, hc], hne, hm, fun i c' hi hc' => ?_, hs⟩⟩
    obtain ⟨-, hc'⟩ | ⟨-, hc'⟩ := Calls.update_eq_some.mp hc'
    · cases hc'; exact hf
    · exact ho i c' hi hc'

lemma Normal.compact (h : Normal s log) (hca : s.calls id = some .compact)
    (hit : ∀ key, key ∈ it ↔ (s.store.index key).isSome) (ho : s.calls.Others id Call.First) :
    Compacting { s with calls := update s.calls id (some (.swapFile (s.store.compact it))) }
      (it.map fun key => (key, s.map key)) := by
  have ha : ∀ key, contents log key = s.map key := fun key => h.agree key fun i c hc => by
    by_cases hi : i = id
    · obtain rfl : Call.compact = c := by simp_all
      nofun
    · simp [((ho i c hi hc).knows s log).2.1]
  have hs : ∀ key, key ∈ it ↔ (s.map key).isSome := fun key => by
    rw [hit]; obtain ⟨hi, hm⟩ | ⟨offset, value, hi, -, hm⟩ := h.index key <;> simp [hi, hm]
  refine ⟨id, _, _, update_self .., holds_compact fun key hk => ?_, contents_listed hs, fun i c hi hc => ?_,
    .inl rfl⟩
  · obtain ⟨value, hv⟩ := Option.isSome_iff_exists.mp ((hs key).mp hk)
    exact ⟨h.get key, value, hv, h.short _ (exists_of_contents ((ha key).trans hv))⟩
  · exact ho i c hi (by simpa [hi] using hc)

lemma Inv.advance (h : Inv s) (hca : s.calls id = some call)
    (hit : call = .compact → ∀ key, key ∈ it ↔ (s.store.index key).isSome) (ha : Apart s (.advance id it)) :
    Inv { (advance s it call).1 with calls := update s.calls id (advance s it call).2 } := by
  obtain ⟨log, hn | ⟨id', c, new, hc, hnw, hma, ho, hs⟩⟩ := h.store
  · have hwr : ∀ key, call.writes = some key → s.calls.Others id fun c => c.holds ≠ some key := fun key hw =>
      have hf : call.First := by cases call <;> first | constructor | cases hw
      fun i c hi hc => ((ha call hca hf).2 i c hi hc).2.1 key hw
    have hsh : ∀ key value, call = .put key value → Short (key, some value) :=
      fun key value hp => (ha call hca (hp ▸ .put key value)).1 key value hp
    have hk := hn.knows id call hca; constructor
    · by_cases hco : call = .compact
      · subst hco
        exact ⟨_, .inr (hn.compact hca (hit rfl) fun i c hi hc => ((ha _ hca .compact).2 i c hi hc).2.2 rfl)⟩
      · obtain ⟨log', hl'⟩ := hn.advance hca hco hsh hwr; exact ⟨log', .inl hl'⟩
    · cases call with
      | get key =>
        simp only [Concurrent.advance]
        obtain ⟨hi, hm⟩ | ⟨offset, value, hi, -, -⟩ := hn.index key
        · simpa only [hi, hm, forall_mem_cons, true_and] using h.returned
        · simpa only [hi] using h.returned
      | getFile key offset =>
        obtain ⟨value, hat, rfl⟩ := hk
        have hr : readEntryAt s.store.file offset = .ok (some (flagLive, key, value)) := hat
        simpa [Concurrent.advance, hr, Except.map] using h.returned
      | _ => exact h.returned
  · have hid : id' = id := by
      by_contra hne; have hf := ho id call (Ne.symm hne) hca
      have := ((ha call hca hf).2 id' c hne hc).1
      rcases hs with rfl | ⟨rfl, -⟩ | ⟨rfl, -⟩ <;> exact this trivial
    subst hid; obtain rfl : c = call := Option.some.inj (hc.symm.trans hca)
    have ho' : ∀ next, Calls.Others (update s.calls id' next) id' Call.First :=
      fun next i c hi hc => ho i c hi (by simpa [hi] using hc)
    rcases hs with rfl | ⟨rfl, hfi⟩ | ⟨rfl, hfi, hin⟩
    · exact ⟨⟨log, .inr ⟨id', _, new, update_self .., hnw, hma, ho' _, .inr (.inl ⟨rfl, rfl⟩)⟩⟩, h.returned⟩
    · exact ⟨⟨log, .inr ⟨id', _, new, update_self .., hnw, hma, ho' _, .inr (.inr ⟨rfl, hfi, rfl⟩)⟩⟩,
        h.returned⟩
    · refine ⟨⟨log, .inl (Holds.normal ?_ hma (Calls.all_update.mpr ⟨ho, nofun⟩))⟩, h.returned⟩
      simp only [Concurrent.advance, hfi, hin]; exact hnw

def overlapping : List Label :=
  [.start 1 (.get [1]), .start 0 (.put [1] [7]), .advance 0 [], .advance 0 [],
    .start 0 .compact, .advance 0 [[1]], .advance 0 [], .advance 0 [], .advance 0 [],
    .start 0 (.delete [1]), .start 2 (.put [2] [9]), .advance 1 [], .advance 0 [], .advance 2 [],
    .advance 1 [], .advance 0 [], .advance 2 []]

end Aeon.L2.StateLog.Concurrent
