import Mathlib.Algebra.Order.Ring.Int
import Mathlib.Data.List.Nodup
import Mathlib.Logic.Relation
import Aeon.Core.LTS
import Aeon.Core.RecordLog

/-!
# Windows over event time

`crates/aeon-state/src/window.rs`. Timestamps are `i64`, and the arithmetic wraps.

* `assign_complete_iff`: when all windows of a timestamp are assigned;
* `sessions_cluster`: events in order form the sessions of the gap;
* `negative_start_dropped`, `late_event_outside`: the two failures.
-/
namespace Aeon.L2.Windows

open List Aeon.Core

def i64 (n : Int) : Int := (n + 2 ^ 63) % 2 ^ 64 - 2 ^ 63

lemma i64_eq (h : -2 ^ 63 ≤ n) (h' : n < 2 ^ 63) : i64 n = n := by unfold i64; omega

/-- mirrors window.rs:24-46 -/
structure Window where
  start : Int
  stop : Int
  deriving DecidableEq

def Window.contains (w : Window) (timestamp : Int) : Prop := w.start ≤ timestamp ∧ timestamp < w.stop

/-- mirrors window.rs:235-250 -/
structure SlidingWindows where
  sizeNs : Int
  slideNs : Int
  slide_pos : 0 < slideNs
  slide_le : slideNs ≤ sizeNs
  size_lt : sizeNs < 2 ^ 63

namespace SlidingWindows

variable (c : SlidingWindows) (timestamp : Int)

/-- mirrors window.rs:263-270 -/
def walk : Nat → Int → Option (List Window)
  | 0, _ => none
  | fuel + 1, start =>
    if i64 (start + c.sizeNs) > timestamp then
      let next := i64 (start - c.slideNs)
      (if next < 0 then some [] else walk fuel next).map (⟨start, i64 (start + c.sizeNs)⟩ :: ·)
    else some []

/-- mirrors window.rs:256-273 -/
def assign : Option (List Window) :=
  c.walk timestamp (c.sizeNs.toNat + 1) (timestamp - timestamp % c.slideNs)

def Belongs (s : Int) : Prop := c.slideNs ∣ s ∧ s ≤ timestamp ∧ timestamp < s + c.sizeNs

def Complete : Prop :=
  ∃ ws, c.assign timestamp = some ws ∧ ws.Nodup ∧ ∀ w, w ∈ ws ↔ ∃ s, c.Belongs timestamp s ∧
    w = ⟨s, s + c.sizeNs⟩

variable {c timestamp}

lemma start_before {s start : Int} (hs : c.slideNs ∣ s) (hst : c.slideNs ∣ start) :
    s < start ↔ s ≤ start - c.slideNs := by
  have := c.slide_pos; refine ⟨fun h => ?_, fun h => by omega⟩
  have := Int.le_of_dvd (by omega) (Int.dvd_sub hst hs); omega

lemma walk_spec {fuel : Nat} {start : Int} (hst : 0 ≤ start) (hle : start ≤ timestamp)
    (hf : start + c.sizeNs < 2 ^ 63) (hfu : start + c.sizeNs < timestamp + fuel) (hp : 0 < fuel)
    (hd : c.slideNs ∣ start) :
    ∃ ws, c.walk timestamp fuel start = some ws ∧ ws.Nodup ∧ ∀ w, w ∈ ws ↔
      ∃ s, c.slideNs ∣ s ∧ 0 ≤ s ∧ s ≤ start ∧ timestamp < s + c.sizeNs ∧ w = ⟨s, s + c.sizeNs⟩ := by
  have := c.slide_pos; have := c.slide_le
  induction fuel generalizing start with
  | zero => omega
  | succ fuel ih =>
    simp only [walk, gt_iff_lt, i64_eq (n := start + c.sizeNs) (by omega) hf,
      i64_eq (n := start - c.slideNs) (by omega) (by omega)]
    split
    · split
      · refine ⟨_, rfl, by simp, fun w => ?_⟩; constructor
        · rintro hw; exact ⟨start, hd, hst, le_rfl, by omega, by simpa using hw⟩
        · rintro ⟨s, hs, _, _, _, rfl⟩; have := start_before hs hd
          obtain rfl : s = start := by omega
          simp
      · obtain ⟨ws, hws, hnd, hm⟩ := @ih (start - c.slideNs) (by omega) (by omega) (by omega)
          (by omega) (by omega) (Int.dvd_sub hd (Int.dvd_refl _))
        refine ⟨⟨start, start + c.sizeNs⟩ :: ws, by rw [hws]; rfl, ?_, fun w => ?_⟩
        · refine nodup_cons.mpr ⟨fun hin => ?_, hnd⟩
          obtain ⟨s, -, -, _, -, heq⟩ := (hm _).mp hin; injection heq; omega
        · rw [mem_cons, hm]; constructor
          · rintro (rfl | ⟨s, hs, _, _, _, rfl⟩)
            · exact ⟨start, hd, hst, le_rfl, by omega, rfl⟩
            · exact ⟨s, hs, by omega, by omega, by omega, rfl⟩
          · rintro ⟨s, hs, _, _, _, rfl⟩; have := start_before hs hd
            by_cases heq : s = start
            · exact .inl (by rw [heq])
            · exact .inr ⟨s, hs, by omega, by omega, by omega, rfl⟩
    · refine ⟨[], rfl, by simp, fun w => ⟨by simp, ?_⟩⟩; rintro ⟨s, _, _, _, _, _⟩; omega

lemma lastStart_spec (c : SlidingWindows) (timestamp : Int) : c.slideNs ∣ timestamp - timestamp % c.slideNs ∧
    timestamp - timestamp % c.slideNs ≤ timestamp ∧
    timestamp < timestamp - timestamp % c.slideNs + c.slideNs := by
  have := c.slide_pos; have := Int.emod_nonneg timestamp this.ne'
  have := Int.emod_lt_of_pos timestamp c.slide_pos
  exact ⟨Int.dvd_self_sub_emod, by omega, by omega⟩

def Fits (c : SlidingWindows) (timestamp : Int) : Prop :=
  ∀ s, c.Belongs timestamp s → -2 ^ 63 ≤ s ∧ s + c.sizeNs < 2 ^ 63

lemma assign_neg (hfi : c.Fits timestamp) (hne : timestamp < 0) :
    ∃ start, c.Belongs timestamp start ∧ start = timestamp - timestamp % c.slideNs ∧
      c.assign timestamp = some [⟨start, start + c.sizeNs⟩] := by
  have := c.slide_pos; have := c.slide_le; have := c.size_lt
  obtain ⟨hd, hle, hlt⟩ := lastStart_spec c timestamp
  generalize hst : timestamp - timestamp % c.slideNs = start at *
  have hb : c.Belongs timestamp start := ⟨hd, hle, by omega⟩; have hf := hfi start hb
  refine ⟨start, hb, rfl, ?_⟩
  obtain ⟨fuel, hfu⟩ : ∃ fuel, c.sizeNs.toNat = fuel + 1 := ⟨c.sizeNs.toNat - 1, by omega⟩
  rw [assign, hst, hfu, walk, i64_eq (by omega) hf.2, if_pos hb.2.2]
  by_cases hl : -2 ^ 63 ≤ start - c.slideNs
  · simp only [i64_eq hl (by omega)]; rw [if_pos (by omega)]; rfl
  · have hn : i64 (start - c.slideNs) = start - c.slideNs + 2 ^ 64 := by unfold i64; omega
    have hs : i64 (start - c.slideNs + 2 ^ 64 + c.sizeNs) = start - c.slideNs + c.sizeNs := by
      unfold i64; omega
    have ho : ¬ timestamp < start - c.slideNs + c.sizeNs :=
      fun h => hl (hfi _ ⟨Int.dvd_sub hd (Int.dvd_refl _), by omega, h⟩).1
    simp only [hn, walk, hs, gt_iff_lt, if_neg ho]; rw [if_neg (by omega), Option.map_some]

lemma assign_nonneg (hfi : c.Fits timestamp) (hp : 0 ≤ timestamp) :
    ∃ ws, c.assign timestamp = some ws ∧ ws.Nodup ∧
      ∀ w, w ∈ ws ↔ ∃ s, c.Belongs timestamp s ∧ 0 ≤ s ∧ w = ⟨s, s + c.sizeNs⟩ := by
  have := c.slide_pos; have := c.slide_le
  obtain ⟨hd, hle, hlt⟩ := lastStart_spec c timestamp; have hf := hfi _ ⟨hd, hle, by omega⟩
  have hst : 0 ≤ timestamp - timestamp % c.slideNs := by
    have := start_before hd (Int.dvd_zero c.slideNs); omega
  obtain ⟨ws, hws, hnd, hm⟩ :=
    @walk_spec c timestamp (c.sizeNs.toNat + 1) _ hst hle hf.2 (by omega) (by omega) hd
  refine ⟨ws, hws, hnd, fun w => (hm w).trans ⟨?_, ?_⟩⟩
  · rintro ⟨s, hs, hs0, hsl, hsu, rfl⟩; exact ⟨s, ⟨hs, by omega, hsu⟩, hs0, rfl⟩
  · rintro ⟨s, ⟨hs, hsl, hsu⟩, hs0, rfl⟩; refine ⟨s, hs, hs0, ?_, hsu, rfl⟩
    have := start_before hd hs; omega

theorem assign_complete_iff (c : SlidingWindows) (timestamp : Int) (hf : c.Fits timestamp) :
    c.Complete timestamp ↔ c.sizeNs ≤ c.slideNs + timestamp % c.slideNs ∨
      c.sizeNs ≤ c.slideNs + timestamp := by
  have := c.slide_pos; have := c.slide_le
  have hmo := Int.emod_nonneg timestamp c.slide_pos.ne'
  obtain ⟨hd, hle, hlt⟩ := lastStart_spec c timestamp
  have hp : c.slideNs ∣ timestamp - timestamp % c.slideNs - c.slideNs := Int.dvd_sub hd (Int.dvd_refl _)
  rcases lt_or_ge timestamp 0 with hn | hpo
  · obtain ⟨start, hb, rfl, ha⟩ := assign_neg hf hn
    simp only [Complete, ha, Option.some.injEq, exists_eq_left', nodup_singleton, true_and,
      mem_singleton]
    constructor
    · intro hal; by_contra hno; have := (hal ⟨_, _⟩).mpr ⟨_, ⟨hp, by omega, by omega⟩, rfl⟩
      injection this; omega
    · refine fun ho w => ⟨fun h => ⟨_, hb, h⟩, ?_⟩; rintro ⟨s, ⟨hs, hsl, hsu⟩, rfl⟩
      have h1 := start_before hs hd; have h2 := start_before hd hs
      obtain rfl : s = timestamp - timestamp % c.slideNs := by omega
      rfl
  · obtain ⟨ws, ha, hnd, hm⟩ := assign_nonneg hf hpo
    simp only [Complete, ha, Option.some.injEq, exists_eq_left', hnd, true_and, hm]
    have h0 := start_before hd (Int.dvd_zero c.slideNs); constructor
    · intro hal; by_contra hno
      obtain ⟨s, -, hs0, heq⟩ :=
        (hal ⟨_, _⟩).mpr ⟨-c.slideNs, ⟨(Int.dvd_neg).mpr (Int.dvd_refl _), by omega, by omega⟩, rfl⟩
      injection heq; omega
    · refine fun hc w => ⟨fun ⟨s, hb, _, h⟩ => ⟨s, hb, h⟩, fun ⟨s, hb, h⟩ => ⟨s, hb, ?_, h⟩⟩
      have := start_before hb.1 (Int.dvd_zero c.slideNs); have := hb.2.2; omega

def tenByFive : SlidingWindows := ⟨10, 5, by decide, by decide, by decide⟩

theorem assign_complete_twelve : tenByFive.Fits 12 ∧ tenByFive.Complete 12 :=
  have h : tenByFive.Fits 12 := fun s hs => by simp only [Belongs, tenByFive] at *; omega
  ⟨h, (assign_complete_iff tenByFive 12 h).mpr (.inr (by decide))⟩

theorem negative_start_dropped : tenByFive.assign 2 = some [⟨0, 10⟩] ∧ tenByFive.Fits 2 ∧
    tenByFive.Belongs 2 (-5) ∧ ¬ tenByFive.Complete 2 := by
  refine ⟨by decide, fun s hs => by simp only [Belongs, tenByFive] at *; omega,
    ⟨by decide, by decide, by decide⟩, ?_⟩
  rintro ⟨ws, hws, -, hm⟩
  obtain rfl : ws = [⟨0, 10⟩] := Option.some.inj (hws.symm.trans (by decide))
  have := (hm ⟨-5, 5⟩).mpr ⟨-5, ⟨by decide, by decide, by decide⟩, by decide⟩; simp at this

end SlidingWindows

/-- mirrors window.rs:128-138 -/
structure SessionWindows where
  gapNs : Int
  gap_pos : 0 < gapNs
  gap_lt : gapNs < 2 ^ 63

abbrev Sessions := Bytes → Option (Int × Int)

/-- mirrors window.rs:224-231 -/
inductive SessionEvent where
  | opened
  | extended
  | closedAndOpened (closed : Window)

/-- mirrors window.rs:178-197 -/
def onEvent (c : SessionWindows) (sessions : Sessions) (key : Bytes) (timestamp : Int) :
    Sessions × SessionEvent :=
  match sessions key with
  | some (start, last) =>
    if i64 (timestamp - last) ≤ c.gapNs then
      (Function.update sessions key (some (start, timestamp)), .extended)
    else
      (Function.update sessions key (some (timestamp, timestamp)),
        .closedAndOpened ⟨start, i64 (last + c.gapNs)⟩)
  | none => (Function.update sessions key (some (timestamp, timestamp)), .opened)

/-- mirrors window.rs:206-210 -/
def expired (c : SessionWindows) (sessions : Sessions) (watermark : Int) (key : Bytes) : Option Window :=
  match sessions key with
  | some (start, last) =>
    if last < i64 (watermark - c.gapNs) then some ⟨start, i64 (last + c.gapNs)⟩ else none
  | none => none

/-- mirrors window.rs:201-217 -/
def closeExpired (c : SessionWindows) (sessions : Sessions) (watermark : Int) :
    Sessions × (Bytes → Option Window) :=
  let closed := expired c sessions watermark
  (fun key => if (closed key).isSome then none else sessions key, closed)

structure Emitted where
  window : Window
  events : List Int
  closer : Option Int

structure State where
  sessions : Sessions := fun _ => none
  merged : Bytes → List Int := fun _ => []
  emitted : Bytes → List Emitted := fun _ => []

inductive Call where
  | onEvent (key : Bytes) (timestamp : Int)
  | closeExpired (watermark : Int)

def step (c : SessionWindows) (s : State) : Call → State
  | .onEvent key t =>
    let (sessions, event) := onEvent c s.sessions key t
    match event with
    | .opened => { s with sessions, merged := Function.update s.merged key [t] }
    | .extended => { s with sessions, merged := Function.update s.merged key (t :: s.merged key) }
    | .closedAndOpened w =>
      { sessions, merged := Function.update s.merged key [t]
        emitted := Function.update s.emitted key (⟨w, s.merged key, some t⟩ :: s.emitted key) }
  | .closeExpired watermark =>
    let (sessions, closed) := closeExpired c s.sessions watermark
    { sessions
      merged := fun key => if (closed key).isSome then [] else s.merged key
      emitted := fun key => match closed key with
        | some w => ⟨w, s.merged key, none⟩ :: s.emitted key
        | none => s.emitted key }

def system (c : SessionWindows) : LTS State Call := LTS.ofFn (· = {}) fun s call => some (step c s call)

def InOrder (c : SessionWindows) (s : State) : Call → Prop
  | .onEvent key t => -2 ^ 63 ≤ t ∧ t < 2 ^ 63 ∧
      ∀ start last, s.sessions key = some (start, last) → last ≤ t ∧ t - last < 2 ^ 63
  | .closeExpired watermark => ∀ key start last, s.sessions key = some (start, last) →
      last < i64 (watermark - c.gapNs) → last + c.gapNs < 2 ^ 63

def Near (gap : Int) (events : List Int) (a b : Int) : Prop :=
  a ∈ events ∧ b ∈ events ∧ a - b ≤ gap ∧ b - a ≤ gap

def Linked (gap : Int) (events : List Int) : Prop :=
  ∀ a ∈ events, ∀ b ∈ events, Relation.ReflTransGen (Near gap events) a b

def Emitted.Sound (gap : Int) (e : Emitted) : Prop :=
  (∀ t ∈ e.events, e.window.contains t) ∧ Linked gap e.events ∧
    ∀ t, e.closer = some t → ∀ x ∈ e.events, gap < t - x

structure Clusters (c : SessionWindows) (s : State) : Prop where
  bounds : ∀ key start last, s.sessions key = some (start, last) →
    start ∈ s.merged key ∧ last ∈ s.merged key ∧ ∀ t ∈ s.merged key, start ≤ t ∧ t ≤ last
  linked : ∀ key, Linked c.gapNs (s.merged key)
  windows : ∀ key, ∀ e ∈ s.emitted key, e.Sound c.gapNs

inductive Spans (gap start : Int) : Int → List Int → Prop
  | opened (h : -2 ^ 63 ≤ start) (h' : start < 2 ^ 63) : Spans gap start start [start]
  | extended {last t : Int} {events : List Int} : Spans gap start last events → last ≤ t → t - last ≤ gap →
      t < 2 ^ 63 → Spans gap start t (t :: events)

namespace Spans

variable {gap start last : Int} {events : List Int}

section

variable (h : Spans gap start last events)
include h

lemma last_mem : last ∈ events := by cases h <;> simp

lemma start_mem : start ∈ events := by
  induction h with
  | opened => simp
  | extended _ _ _ _ ih => exact mem_cons_of_mem _ ih

lemma within :
    (∀ t ∈ events, start ≤ t ∧ t ≤ last) ∧ -2 ^ 63 ≤ start ∧ last < 2 ^ 63 := by
  induction h with
  | opened h h' => simpa using ⟨h, h'⟩
  | @extended last t events hs hle _ ht ih =>
    have := ih.1 _ hs.start_mem; refine ⟨fun x hx => ?_, ih.2.1, ht⟩
    rcases mem_cons.mp hx with rfl | hx
    · omega
    · have := ih.1 x hx; omega

lemma reach :
    ∀ t ∈ events, Relation.ReflTransGen (Near gap events) start t := by
  induction h with
  | opened => intro t ht; rw [mem_singleton.mp ht]
  | @extended last t events hs hle hg _ ih =>
    have hold : ∀ x ∈ events, Relation.ReflTransGen (Near gap (t :: events)) start x :=
      fun x hx => (ih x hx).lift id fun _ _ hn => ⟨.tail _ hn.1, .tail _ hn.2.1, hn.2.2⟩
    intro x hx; rcases mem_cons.mp hx with rfl | hx
    · exact (hold last hs.last_mem).tail ⟨.tail _ hs.last_mem, .head _, by omega, by omega⟩
    · exact hold x hx

lemma linked : Linked gap events := by
  have : Std.Symm (Near gap events) := ⟨fun a b hn => ⟨hn.2.1, hn.1, hn.2.2.2, hn.2.2.1⟩⟩
  exact fun a ha b hb => (Std.Symm.symm _ _ (h.reach a ha)).trans (h.reach b hb)

end

end Spans

structure Inv (c : SessionWindows) (s : State) : Prop where
  opened : ∀ key start last, s.sessions key = some (start, last) → Spans c.gapNs start last (s.merged key)
  idle : ∀ key, s.sessions key = none → s.merged key = []
  windows : ∀ key, ∀ e ∈ s.emitted key, e.Sound c.gapNs

variable {c : SessionWindows} {s : State}

lemma Spans.sound {start last : Int} {events : List Int} {closer : Option Int}
    (h : Spans c.gapNs start last events) (hf : last + c.gapNs < 2 ^ 63)
    (hfa : ∀ t, closer = some t → c.gapNs < t - last) :
    Emitted.Sound c.gapNs ⟨⟨start, i64 (last + c.gapNs)⟩, events, closer⟩ := by
  have := c.gap_pos; obtain ⟨hin, _, _⟩ := h.within; have := hin _ h.start_mem
  refine ⟨fun t ht => ?_, h.linked, fun t ht x hx => ?_⟩
  · have := hin t ht; rw [i64_eq (by omega) hf]; constructor <;> dsimp only <;> omega
  · have := hfa t ht; have := hin x hx; omega

lemma Inv.update (h : Inv c s) {key : Bytes} {start last : Int} {events : List Int} {emitted : List Emitted}
    (hs : Spans c.gapNs start last events) (hem : ∀ e ∈ emitted, e.Sound c.gapNs) :
    Inv c ⟨Function.update s.sessions key (some (start, last)), Function.update s.merged key events,
      Function.update s.emitted key emitted⟩ where
  opened k st la hk := by by_cases hke : k = key <;> grind [Function.update_apply, h.opened k]
  idle k hk := by by_cases hke : k = key <;> grind [Function.update_apply, h.idle k]
  windows k e he := by by_cases hke : k = key <;> grind [Function.update_apply, h.windows k]

lemma Inv.onEvent (h : Inv c s) {key : Bytes} (hok : InOrder c s (.onEvent key t)) :
    Inv c (step c s (.onEvent key t)) := by
  obtain ⟨hlo, hhi, ho⟩ := hok
  have hem : s.emitted = Function.update s.emitted key (s.emitted key) := by simp
  cases hk : s.sessions key with
  | none =>
    simp only [step, Windows.onEvent, hk]; rw [hem]
    exact h.update (.opened hlo hhi) (h.windows key)
  | some p =>
    obtain ⟨start, last⟩ := p; obtain ⟨hle, hd⟩ := ho start last hk
    have hs := h.opened key start last hk
    simp only [step, Windows.onEvent, hk, i64_eq (n := t - last) (by omega) hd]
    split_ifs with hg
    · rw [hem]; exact h.update (hs.extended hle hg hhi) (h.windows key)
    · refine h.update (.opened hlo hhi) fun e he => ?_
      rcases mem_cons.mp he with rfl | he
      · exact hs.sound (by omega) fun u hu => by cases hu; omega
      · exact h.windows key e he

lemma Inv.closeExpired (h : Inv c s) {watermark : Int} (hok : InOrder c s (.closeExpired watermark)) :
    Inv c (step c s (.closeExpired watermark)) := by
  have key_cases : ∀ key, expired c s.sessions watermark key = none ∨ ∃ start last,
      s.sessions key = some (start, last) ∧ last + c.gapNs < 2 ^ 63 ∧
      expired c s.sessions watermark key = some ⟨start, i64 (last + c.gapNs)⟩ := by
    intro key; unfold expired
    cases hk : s.sessions key with
    | none => exact .inl rfl
    | some p =>
      dsimp only; split_ifs with hlt
      · exact .inr ⟨p.1, p.2, rfl, hok key _ _ hk hlt, rfl⟩
      · exact .inl rfl
  refine ⟨fun key start last hk => ?_, fun key hk => ?_, fun key e he => ?_⟩
  all_goals
    simp only [step, Windows.closeExpired] at *
    obtain hn | ⟨st, la, hse, hf, hs⟩ := key_cases key
  · simp only [hn] at hk ⊢; exact h.opened key start last hk
  · simp [hs] at hk
  · simp only [hn] at hk ⊢; exact h.idle key hk
  · simp [hs]
  · exact h.windows key e (by simpa [hn] using he)
  · simp only [hs, mem_cons] at he; rcases he with rfl | he
    · exact (h.opened key st la hse).sound hf (fun _ ht => nomatch ht)
    · exact h.windows key e he

lemma Inv.clusters (h : Inv c s) : Clusters c s where
  bounds key start last hk :=
    have hs := h.opened key start last hk
    ⟨hs.start_mem, hs.last_mem, hs.within.1⟩
  linked key := by
    cases hk : s.sessions key with
    | none => rw [h.idle key hk]; exact fun a ha => nomatch ha
    | some p => exact (h.opened key p.1 p.2 hk).linked
  windows := h.windows

/-- Over any run whose events come in order within each session. -/
theorem sessions_cluster (c : SessionWindows) (calls : List Call) (s : State)
    (hr : ((system c).restrict (InOrder c)).Run {} calls s) : Clusters c s := by
  refine Inv.clusters (hr.induct ?_ ⟨by simp, by simp, by simp⟩)
  rintro t call t' hi ⟨hok, hs⟩; cases hs
  cases call with
  | onEvent => exact hi.onEvent hok
  | closeExpired => exact hi.closeExpired hok

def tenGap : SessionWindows := ⟨10, by decide, by decide⟩

theorem closed_sessions_clustered : ∃ s, ((system tenGap).restrict (InOrder tenGap)).Run {}
      [.onEvent [] 0, .onEvent [] 7, .onEvent [] 30, .closeExpired 100] s ∧
    (s.emitted []).map (fun e => (e.window, e.events)) = [(⟨30, 40⟩, [30]), (⟨0, 17⟩, [7, 0])] ∧
    Clusters tenGap s := by
  have hr : ((system tenGap).restrict (InOrder tenGap)).Run {}
      [.onEvent [] 0, .onEvent [] 7, .onEvent [] 30, .closeExpired 100] _ :=
    .cons ⟨⟨by decide, by decide, nofun⟩, rfl⟩ (.cons ⟨⟨by decide, by decide, fun _ _ h => ?_⟩, rfl⟩
      (.cons ⟨⟨by decide, by decide, fun _ _ h => ?_⟩, rfl⟩ (.cons ⟨fun key _ _ h => ?_, rfl⟩ (.nil _))))
  · exact ⟨_, hr, by decide, sessions_cluster _ _ _ hr⟩
  · cases h; decide
  · cases h; decide
  · rcases key with _ | _ <;> cases h; decide

theorem late_event_outside : ∃ s, (system tenGap).Run {} [.onEvent [] 100, .onEvent [] 40, .onEvent [] 51] s ∧
    (∃ e ∈ s.emitted [], e.window = ⟨100, 50⟩ ∧ e.events = [40, 100]) ∧ ¬ Clusters tenGap s := by
  refine ⟨_, .cons rfl (.cons rfl (.cons rfl (.nil _))), ⟨_, .head _, rfl, rfl⟩, fun h => ?_⟩
  have := (h.windows [] _ (.head _)).1 100 (.tail _ (.head _))
  exact absurd this.2 (by decide)

end Aeon.L2.Windows
