import Aeon.Core.LTS
import Aeon.L2Store.Transfer

/-!
# The segment installer of a node

`crates/aeon-engine/src/partition_install.rs` under any number of transfers. Writers are kept by the
request's pipeline and partition, the directory is that of the installer's own pipeline.

* `install_isolated`: when a transfer touches its own key only, and a failed one leaves old segments
  alone;
* `install_destroys`: otherwise it does not;
* `one_installer`: seen from one partition, it is the installer of `Transfer`.
-/
namespace Aeon.L2.SegmentInstall

open Option Function Aeon.Core Aeon.Types Aeon.L2.Body Aeon.L2.Transfer

abbrev Key := String × PartitionId

structure InFlight where
  writer : SegmentWriter
  lost : Nat → Bool := fun _ => false
  before : Dir

/-- mirrors partition_install.rs:60-67 -/
structure L2SegmentInstaller where
  pipeline : String
  writers : Key → Option InFlight := fun _ => none
  disk : Key → Option Dir

section Calls

variable (crc32 : Bytes → UInt32)

/-- mirrors crates/aeon-engine/src/l2_transfer.rs:264-305 -/
def InFlight.applyLost (t : InFlight) (dir : Option Dir) (c : SegmentChunk) (entry : SegmentEntry)
    (seg : OpenSegment) : Except String Unit × InFlight :=
  if seg.expectedBytes < c.offset + c.data.length then
    (.error ("l2-transfer: chunk overflows segment: offset=" ++ toString c.offset ++ ", len=" ++
      toString c.data.length ++ ", expected=" ++ toString seg.expectedBytes), t)
  else
    let seg := { seg with bytesReceived := max seg.bytesReceived (c.offset + c.data.length) }
    if c.isLast ∧ seg.bytesReceived = seg.expectedBytes ∧ dir.bind (fileAt · c.startSeq) = none then
      (.error ("l2-transfer: open " ++ toString c.startSeq ++ ".l2b"),
        { t with writer := t.writer.setOpen c.startSeq seg })
    else
      let r := t.writer.writeChunk crc32 (dir.getD []) entry c seg
      (r.1, { t with writer := r.2.1 })

/-- mirrors l2_transfer.rs:221-305 -/
def InFlight.applyChunk (t : InFlight) (dir : Option Dir) (c : SegmentChunk) :
    Except String Unit × InFlight × Option Dir :=
  match t.writer.manifest.find? (·.startSeq = c.startSeq), t.writer.openSegments c.startSeq,
    t.lost c.startSeq with
  | some entry, some seg, true =>
    let r := t.applyLost crc32 dir c entry seg
    (r.1, r.2, dir)
  | entry, _, _ =>
    match dir with
    | some d =>
      let r := t.writer.applyChunk crc32 d c
      (r.1, { t with writer := r.2.1 }, some r.2.2)
    | none =>
      if entry.isNone ∨ (t.writer.finalized c.startSeq).isSome then ((t.writer.applyChunk crc32 [] c).1, t,
        none)
      else (.error ("l2-transfer: create " ++ toString c.startSeq ++ ".l2b"), t, none)

def InFlight.detach (t : InFlight) : InFlight :=
  { t with lost := fun start => t.lost start || (t.writer.openSegments start).isSome }

namespace L2SegmentInstaller

variable (i : L2SegmentInstaller)

/-- mirrors partition_install.rs:80-84 -/
def partitionDir (partition : PartitionId) : Key := (i.pipeline, partition)

variable (req : Key)

def errorFor (what : String) : String :=
  "l2-installer: " ++ what ++ " for pipeline=" ++ req.1 ++ " partition=" ++ toString req.2.toNat

/-- mirrors partition_install.rs:100-118 -/
def begin (manifest : SegmentManifest) :
    Except String Unit × L2SegmentInstaller :=
  let dir := i.partitionDir req.2
  let disk := update i.disk dir (some ((i.disk dir).getD []))
  match i.writers req with
  | some _ => (.error (errorFor req "begin called twice"), { i with disk := disk })
  | none =>
    (.ok (), { i with
      disk := disk
      writers :=
        update i.writers req (some { writer := { manifest := manifest }, before := (i.disk req).getD [] }) })

/-- mirrors partition_install.rs:120-135 -/
def applyChunk (c : SegmentChunk) : Except String Unit × L2SegmentInstaller :=
  match i.writers req with
  | none => (.error (errorFor req "apply_chunk without begin"), i)
  | some t =>
    let r := t.applyChunk crc32 (i.disk (i.partitionDir req.2)) c
    (r.1, { i with
      writers := update i.writers req (some r.2.1)
      disk := update i.disk (i.partitionDir req.2) r.2.2 })

/-- mirrors partition_install.rs:137-168 -/
def finish (success : Bool) : Except String Unit × L2SegmentInstaller :=
  match i.writers req with
  | none => (.error (errorFor req "finish without begin"), i)
  | some t =>
    let writers := update i.writers req none
    if success then (t.writer.finish, { i with writers := writers })
    else
      (.ok (), { i with
        writers := fun k => if k.2 = req.2 then (writers k).map InFlight.detach else writers k
        disk := update i.disk (i.partitionDir req.2) none })

end L2SegmentInstaller

inductive Lbl
  | begin (req : Key) (manifest : SegmentManifest)
  | applyChunk (req : Key) (c : SegmentChunk)
  | finish (req : Key) (success : Bool)

def Lbl.req : Lbl → Key
  | .begin req _ => req
  | .applyChunk req _ => req
  | .finish req _ => req

def answer (i : L2SegmentInstaller) : Lbl → Except String Unit × L2SegmentInstaller
  | .begin req manifest => i.begin req manifest
  | .applyChunk req c => i.applyChunk crc32 req c
  | .finish req success => i.finish req success

/-- mirrors partition_install.rs:72-78 -/
def Initial (i : L2SegmentInstaller) : Prop := ∀ k, (i.writers k).isNone

def machine : LTS L2SegmentInstaller Lbl := .ofFn Initial fun i l => some (answer crc32 i l).2

def Fails (l : Lbl) (res : Except String Unit) : Prop := l = .finish l.req false ∨ ∃ e, res = .error e

structure Isolated (i : L2SegmentInstaller) (l : Lbl)
    (r : Except String Unit × L2SegmentInstaller) : Prop where
  frame : ∀ k ≠ l.req, r.2.disk k = i.disk k
  refused : ∀ manifest e, l = .begin l.req manifest → r.1 = .error e → r.2.disk = i.disk
  failed : Fails l r.1 → ∀ t ∈ i.writers l.req, ∀ start b, fileAt t.before start = some b →
    (r.2.disk l.req).bind (fileAt · start) = some b

def Allowed (i : L2SegmentInstaller) (l : Lbl) : Prop := l.req.1 = i.pipeline ∧
  match l with
  | .begin _ _ => True
  | .applyChunk req c => ∀ t ∈ i.writers req, fileAt t.before c.startSeq = none
  | .finish req success => success = false → ∀ t ∈ i.writers req, t.before = []

instance decidableAllowed (i : L2SegmentInstaller) : ∀ l, Decidable (Allowed i l)
  | .begin req _ => inferInstanceAs (Decidable (req.1 = i.pipeline ∧ True))
  | .applyChunk req c => inferInstanceAs (Decidable (req.1 = i.pipeline ∧
      ∀ t ∈ i.writers req, fileAt t.before c.startSeq = none))
  | .finish req success => inferInstanceAs (Decidable (req.1 = i.pipeline ∧
      (success = false → ∀ t ∈ i.writers req, t.before = [])))

end Calls

section Steps

variable {crc32 : Bytes → UInt32} {i : L2SegmentInstaller} {l : Lbl} {req : Key} {t : InFlight}
  {c : SegmentChunk}

structure Sound (i : L2SegmentInstaller) (k : Key) (t : InFlight) : Prop where
  pipeline : k.1 = i.pipeline
  linked : ∀ start, t.lost start = false
  kept : ∃ d, i.disk k = some d ∧ ∀ start b, fileAt t.before start = some b → fileAt d start = some b

def Inv (i : L2SegmentInstaller) : Prop := ∀ k t, i.writers k = some t → Sound i k t

lemma Inv.initial (h : Initial i) : Inv i := by
  intro k t hk; have hn := h k; rw [hk] at hn
  cases hn

lemma partitionDir_own (h : req.1 = i.pipeline) : i.partitionDir req.2 = req := Prod.ext h.symm rfl

lemma Sound.congr (h : Sound i k t) (hp : i'.pipeline = i.pipeline) (hd : i'.disk k = i.disk k) :
    Sound i' k t :=
  ⟨h.pipeline.trans hp.symm, h.linked, hd.symm ▸ h.kept⟩

lemma InFlight.applyChunk_linked (hl : t.lost c.startSeq = false) (d : Dir) :
    t.applyChunk crc32 (some d) c = ((t.writer.applyChunk crc32 d c).1,
      { t with writer := (t.writer.applyChunk crc32 d c).2.1 },
      some (t.writer.applyChunk crc32 d c).2.2) := by
  unfold InFlight.applyChunk; rw [hl]; split
  · rename_i heq
    cases heq
  · rfl

lemma applyChunk_eq (crc32 : Bytes → UInt32) (h : Inv i) (hr : req.1 = i.pipeline)
    (hw : i.writers req = some t) (hd : i.disk req = some d) (c : SegmentChunk) :
    i.applyChunk crc32 req c =
      ((t.writer.applyChunk crc32 d c).1, { i with
        writers := update i.writers req (some { t with writer := (t.writer.applyChunk crc32 d c).2.1 })
        disk := update i.disk req (some (t.writer.applyChunk crc32 d c).2.2) }) := by
  unfold L2SegmentInstaller.applyChunk; rw [hw]
  simp only [partitionDir_own hr, hd, InFlight.applyChunk_linked ((h req t hw).linked _)]

lemma finish_eq (h : Inv i) (hr : req.1 = i.pipeline) (hw : i.writers req = some t) (success : Bool) :
    i.finish req success = (if success then t.writer.finish else .ok (), { i with
      writers := update i.writers req none
      disk := if success then i.disk else update i.disk req none }) := by
  unfold L2SegmentInstaller.finish; rw [hw]
  cases success with
  | true => rfl
  | false =>
    have hwr : (fun k : Key => if k.2 = req.2 then (update i.writers req none k).map InFlight.detach
        else update i.writers req none k) = update i.writers req none := by
      funext k; by_cases hk : k = req
      · grind
      · rw [update_of_ne hk]
        cases hwk : i.writers k with
        | none => simp
        | some t' =>
          have hne : k.2 ≠ req.2 := fun he => hk (Prod.ext ((h k t' hwk).pipeline.trans hr.symm) he)
          rw [if_neg hne]
    simp [partitionDir_own hr, hwr]

inductive Does (crc32 : Bytes → UInt32) (i : L2SegmentInstaller) : Lbl →
    Except String Unit × L2SegmentInstaller → Prop
  | refused (l : Lbl) (e : String) : Does crc32 i l (.error e, i)
  | begun (req : Key) (m : SegmentManifest) : i.writers req = none →
      Does crc32 i (.begin req m) (.ok (), { i with
        disk := update i.disk req (some ((i.disk req).getD []))
        writers := update i.writers req (some { writer := { manifest := m }, before := (i.disk req).getD [] })
          })
  | chunk (req : Key) (c : SegmentChunk) (t : InFlight) (d : Dir) : i.writers req = some t →
    i.disk req = some d →
      Does crc32 i (.applyChunk req c) ((t.writer.applyChunk crc32 d c).1, { i with
        writers := update i.writers req (some { t with writer := (t.writer.applyChunk crc32 d c).2.1 })
        disk := update i.disk req (some (t.writer.applyChunk crc32 d c).2.2) })
  | ended (req : Key) (t : InFlight) : i.writers req = some t →
      Does crc32 i (.finish req true) (t.writer.finish, { i with writers := update i.writers req none })
  | aborted (req : Key) (t : InFlight) : i.writers req = some t →
      Does crc32 i (.finish req false) (.ok (), { i with
        writers := update i.writers req none
        disk := update i.disk req none })

lemma does (h : Inv i) (hr : l.req.1 = i.pipeline) : Does crc32 i l (answer crc32 i l) := by
  cases l with
  | begin req m =>
    have hdi : i.partitionDir req.2 = req := partitionDir_own hr
    simp only [answer, L2SegmentInstaller.begin, hdi]
    cases hw : i.writers req with
    | none => exact .begun req m hw
    | some t =>
      obtain ⟨d, hd, -⟩ := (h req t hw).kept
      have hs : update i.disk req (some ((i.disk req).getD [])) = i.disk := by grind
      simp only [hs]; exact .refused _ _
  | applyChunk req c =>
    cases hw : i.writers req with
    | none => simp only [answer, L2SegmentInstaller.applyChunk, hw]; exact .refused _ _
    | some t =>
      obtain ⟨d, hd, -⟩ := (h req t hw).kept
      rw [answer, applyChunk_eq crc32 h (show req.1 = i.pipeline from hr) hw hd c]
      exact .chunk req c t d hw hd
  | finish req success =>
    cases hw : i.writers req with
    | none => simp only [answer, L2SegmentInstaller.finish, hw]; exact .refused _ _
    | some t =>
      rw [answer, finish_eq h (show req.1 = i.pipeline from hr) hw success]
      cases success with
      | true => exact .ended req t hw
      | false => exact .aborted req t hw

lemma Inv.step (h : Inv i) (ha : Allowed i l) : Inv (answer crc32 i l).2 := by
  have hdo : Does crc32 i l (answer crc32 i l) := does h ha.1; obtain ⟨hr, ha⟩ := ha
  generalize answer crc32 i l = r at hdo ⊢; intro k t' hk
  cases hdo with
  | refused => exact h k t' hk
  | begun req =>
    by_cases he : k = req
    · subst he; obtain rfl := Option.some.inj ((update_self k _ _).symm.trans hk)
      exact ⟨hr, fun _ => rfl, _, update_self _ _ _, fun _ _ hb => hb⟩
    · exact (h k t' ((update_of_ne he _ _).symm.trans hk)).congr rfl (update_of_ne he _ _)
  | chunk req c t d hw hd =>
    by_cases he : k = req
    · subst he; obtain rfl := Option.some.inj ((update_self k _ _).symm.trans hk)
      obtain ⟨d', hd', hke⟩ := (h k t hw).kept
      obtain rfl := Option.some.inj (hd.symm.trans hd')
      refine ⟨hr, (h k t hw).linked, _, update_self _ _ _, fun start b hb => ?_⟩
      have hne : start ≠ c.startSeq := by grind
      exact ((applied crc32 t.writer d c).frame hne).2.2.trans (hke start b hb)
    · exact (h k t' ((update_of_ne he _ _).symm.trans hk)).congr rfl (update_of_ne he _ _)
  | ended req =>
    by_cases he : k = req
    · grind
    · exact (h k t' ((update_of_ne he _ _).symm.trans hk)).congr rfl rfl
  | aborted req =>
    by_cases he : k = req
    · grind
    · exact (h k t' ((update_of_ne he _ _).symm.trans hk)).congr rfl (update_of_ne he _ _)

lemma isolated_step (h : Inv i) (ha : Allowed i l) : Isolated i l (answer crc32 i l) := by
  have hdo : Does crc32 i l (answer crc32 i l) := does h ha.1; obtain ⟨hr, ha⟩ := ha
  generalize answer crc32 i l = r at hdo ⊢
  cases hdo with
  | refused l =>
    refine ⟨fun k _ => rfl, fun _ _ _ _ => rfl, fun _ t ht start b hb => ?_⟩
    obtain ⟨d, hd, hke⟩ := (h l.req t ht).kept; grind
  | begun req m hn =>
    refine ⟨fun k hk => update_of_ne hk _ _, fun _ _ _ he => ?_, fun _ t ht => ?_⟩
    · cases he
    · cases hn.symm.trans ht
  | chunk req c t d hw hd =>
    refine ⟨fun k hk => update_of_ne hk _ _, fun _ _ hl => ?_, fun _ t' ht' start b hb => ?_⟩
    · cases hl
    · obtain rfl := Option.some.inj (hw.symm.trans ht')
      obtain ⟨d', hd', hke⟩ := (h req t hw).kept
      obtain rfl := Option.some.inj (hd.symm.trans hd')
      have hne : start ≠ c.startSeq := by grind
      refine (congrArg (Option.bind · _) (update_self req _ _)).trans ?_
      exact ((applied crc32 t.writer d c).frame hne).2.2.trans (hke start b hb)
  | ended req =>
    refine ⟨fun k _ => rfl, fun _ _ hl => ?_, fun _ t' ht' start b hb => ?_⟩
    · cases hl
    · obtain ⟨d, hd, hke⟩ := (h req t' ht').kept
      exact (congrArg (Option.bind · _) hd).trans (hke start b hb)
  | aborted =>
    refine ⟨fun k hk => update_of_ne hk _ _, fun _ _ hl => ?_, fun _ t' ht' start b hb => ?_⟩
    · cases hl
    · rw [ha rfl t' ht'] at hb; cases hb

def view (i : L2SegmentInstaller) (p : PartitionId) : Transfer.L2SegmentInstaller where
  pipeline := i.pipeline
  partition := p
  writer := (i.writers (i.pipeline, p)).map (·.writer)
  dir := (i.disk (i.pipeline, p)).getD []

lemma view_other (h : Inv i) (hr : l.req.1 = i.pipeline) (hp : l.req.2 ≠ p) :
    view (answer crc32 i l).2 p = view i p := by
  have hd : Does crc32 i l (answer crc32 i l) := does h hr
  have hne : (i.pipeline, p) ≠ l.req := fun he => hp (congrArg Prod.snd he.symm)
  generalize answer crc32 i l = r at hd ⊢
  cases hd with
  | refused => rfl
  | begun req | chunk req | ended req | aborted req =>
    simp only [view, update_of_ne (show (i.pipeline, p) ≠ req from hne)]

/-- Seen from one partition the calls for it are those of its own installer, and the calls for
another nothing. -/
theorem one_installer (h : Inv i) (p : PartitionId) :
    (∀ l : Lbl, l.req.1 = i.pipeline → l.req.2 ≠ p → view (answer crc32 i l).2 p = view i p) ∧
    (∀ m, (view i p).begin m = (i.begin (i.pipeline, p) m).1.map fun _ =>
      view (i.begin (i.pipeline, p) m).2 p) ∧
    (∀ c, (view i p).applyChunk crc32 c =
      ((i.applyChunk crc32 (i.pipeline, p) c).1, view (i.applyChunk crc32 (i.pipeline, p) c).2 p)) ∧
    (∀ success, (view i p).finish success =
      ((i.finish (i.pipeline, p) success).1, view (i.finish (i.pipeline, p) success).2 p)) := by
  refine ⟨fun l hr hp => view_other h hr hp, fun m => ?_, fun c => ?_, fun success => ?_⟩
  · simp only [view, Transfer.L2SegmentInstaller.begin, L2SegmentInstaller.begin,
      L2SegmentInstaller.partitionDir]
    cases hw : i.writers (i.pipeline, p) with
    | none => simp [Except.map]
    | some => rfl
  · cases hw : i.writers (i.pipeline, p) with
    | none =>
      simp only [view, Transfer.L2SegmentInstaller.applyChunk, L2SegmentInstaller.applyChunk, hw]
      rfl
    | some t =>
      obtain ⟨d, hd, -⟩ := (h _ t hw).kept; rw [applyChunk_eq crc32 h rfl hw hd]
      simp [view, Transfer.L2SegmentInstaller.applyChunk, hw, hd]
  · cases hw : i.writers (i.pipeline, p) with
    | none =>
      simp only [view, Transfer.L2SegmentInstaller.finish, L2SegmentInstaller.finish, hw]
      rfl
    | some =>
      rw [finish_eq h rfl hw]
      cases success with
      | true | false => simp [view, Transfer.L2SegmentInstaller.finish, hw]

end Steps

lemma Inv.reachable {crc32 : Bytes → UInt32} {i : L2SegmentInstaller}
    (hr : ((machine crc32).restrict Allowed).Reachable i) : Inv i := by
  obtain ⟨i₀, ls, hi, hru⟩ := hr
  refine hru.induct (I := Inv) (fun j l j' hj hl => ?_) (Inv.initial hi)
  obtain rfl := Option.some.inj hl.2; exact hj.step hl.1

theorem install_isolated (crc32 : Bytes → UInt32) {i : L2SegmentInstaller} {l : Lbl}
    (hr : ((machine crc32).restrict Allowed).Reachable i) (ha : Allowed i l) :
    Isolated i l (answer crc32 i l) := isolated_step (Inv.reachable hr) ha

def orders : Key := ("orders", 0)

def billing : Key := ("billing", 0)

def installerOn (dir : Option Dir) : L2SegmentInstaller where
  pipeline := "orders"
  disk := fun k => if k = orders then dir else none

def oneByte : SegmentManifest := [⟨5, 1, crc32 [7]⟩]

structure Outcome where
  before : Option Dir
  accepted : Bool
  after : Option Dir
  deriving DecidableEq

def outcome (i : L2SegmentInstaller) (l : Lbl) : Outcome where
  before := i.disk orders
  accepted := (answer crc32 i l).1.isOk
  after := (answer crc32 i l).2.disk orders

lemma installerOn_initial (dir : Option Dir) : Initial (installerOn dir) := fun _ => rfl

lemma reachable_outcome {dir : Option Dir}
    (h : (LTS.exec (fun i l => some (answer crc32 i l).2) (installerOn dir) ls).map (outcome · l) = some v) :
    ∃ i, (machine crc32).Reachable i ∧ outcome i l = v := by
  obtain ⟨i, hi, hv⟩ := map_eq_some_iff.mp h
  exact ⟨i, ⟨_, _, installerOn_initial dir, LTS.run_of_exec hi⟩, hv⟩

def inFlight : List Lbl := [.begin orders oneByte, .begin ("orders", 1) oneByte]

def wholeChunk : SegmentChunk := ⟨5, 0, [7], true⟩

theorem one_installer_in_flight : ∃ i, ((machine crc32).restrict Allowed).Reachable i ∧
    outcome i (.applyChunk orders wholeChunk) = ⟨some [(0, [1])], true, some [(0, [1]), (5, [7])]⟩ ∧
    view (answer crc32 i (.applyChunk ("orders", 1) wholeChunk)).2 0 = view i 0 ∧
    (view i 0).applyChunk crc32 wholeChunk =
      ((i.applyChunk crc32 orders wholeChunk).1, view (i.applyChunk crc32 orders wholeChunk).2 0) ∧
    (view i 0).finish false = ((i.finish orders false).1, view (i.finish orders false).2 0) := by
  have h : ((LTS.exec (fun i l => if Allowed i l then some (answer crc32 i l).2 else none)
    (installerOn (some [(0, [1])]))
      inFlight).map fun i => (i.pipeline, outcome i (.applyChunk orders wholeChunk))) =
      some ("orders", ⟨some [(0, [1])], true, some [(0, [1]), (5, [7])]⟩) := by decide +kernel
  obtain ⟨i, hi, hv⟩ := map_eq_some_iff.mp h; obtain ⟨hp, hv⟩ := Prod.mk.inj hv
  have hr : ((machine crc32).restrict Allowed).Reachable i :=
    ⟨_, _, installerOn_initial _, LTS.run_restrict_of_exec hi⟩
  obtain ⟨hother, -, hchunk, hend⟩ := @one_installer crc32 i (Inv.reachable hr) 0
  rw [hp] at hother hchunk hend
  exact ⟨i, hr, hv, hother _ rfl (by decide), hchunk _, hend false⟩

def failing : List Lbl := [.begin orders (oneByte ++ [⟨6, 1, 0⟩]), .applyChunk orders ⟨5, 0, [7], true⟩]

theorem install_isolated_failing :
    ∃ i, ((machine crc32).restrict Allowed).Reachable i ∧ i.disk orders = some [(0, [1]), (5, [7])] ∧
      (i.finish orders true).1.isOk = false ∧
      Isolated i (.finish orders true) (answer crc32 i (.finish orders true)) := by
  have h : (LTS.exec (fun i l => if Allowed i l then some (answer crc32 i l).2 else none)
      (installerOn (some [(0, [1])])) failing).map (fun i =>
        (i.disk orders, (i.finish orders true).1.isOk, decide (Allowed i (.finish orders true)))) =
        some (some [(0, [1]), (5, [7])], false, true) := by decide +kernel
  obtain ⟨i, hi, hv⟩ := map_eq_some_iff.mp h; obtain ⟨hd, hv⟩ := Prod.mk.inj hv
  obtain ⟨hf, ha⟩ := Prod.mk.inj hv
  have hr : ((machine crc32).restrict Allowed).Reachable i :=
    ⟨_, _, installerOn_initial _, LTS.run_restrict_of_exec hi⟩
  exact ⟨i, hr, hd, hf, install_isolated crc32 hr (of_decide_eq_true ha)⟩

theorem install_destroys :
    (∃ i, (machine crc32).Reachable i ∧ outcome i (.finish orders false) = ⟨some [(5, [1])], true, none⟩) ∧
    (∃ i, (machine crc32).Reachable i ∧
      outcome i (.applyChunk orders ⟨5, 0, [7, 8], true⟩) = ⟨some [(5, [1])], false, some [(5, [])]⟩) ∧
    (∃ i, (machine crc32).Reachable i ∧
      outcome i (.applyChunk billing ⟨5, 0, [7], true⟩) = ⟨some [(5, [1])], true, some [(5, [7])]⟩) ∧
    (∃ i, (machine crc32).Reachable i ∧ outcome i (.begin orders oneByte) = ⟨none, false, some []⟩) := by
  refine ⟨?_, ?_, ?_, ?_⟩
  · have h : (LTS.exec (fun i l => some (answer crc32 i l).2) (installerOn (some [(5, [1])]))
        [.begin orders oneByte]).map (outcome · (.finish orders false)) = some ⟨some [(5, [1])], true,
        none⟩ := by
      decide +kernel
    exact reachable_outcome h
  · have h : (LTS.exec (fun i l => some (answer crc32 i l).2) (installerOn (some [(5, [1])]))
        [.begin orders oneByte]).map (outcome · (.applyChunk orders ⟨5, 0, [7, 8], true⟩)) =
          some ⟨some [(5, [1])], false, some [(5, [])]⟩ := by decide +kernel
    exact reachable_outcome h
  · have h : (LTS.exec (fun i l => some (answer crc32 i l).2) (installerOn (some [(5, [1])]))
        [.begin billing oneByte]).map (outcome · (.applyChunk billing ⟨5, 0, [7], true⟩)) =
          some ⟨some [(5, [1])], true, some [(5, [7])]⟩ := by decide +kernel
    exact reachable_outcome h
  · have h : (LTS.exec (fun i l => some (answer crc32 i l).2) (installerOn none)
        [.begin orders oneByte, .begin billing oneByte, .finish billing false]).map
          (outcome · (.begin orders oneByte)) = some ⟨none, false, some []⟩ := by decide +kernel
    exact reachable_outcome h

end Aeon.L2.SegmentInstall
