import Aeon.Core.LTS
import Aeon.L2Store.Checkpoint

/-!
# Crash recovery of the checkpoint WAL

One WAL file of `crates/aeon-engine/src/checkpoint.rs` over writers, failed writes and crashes.
`new` leaves incomplete bytes in the file and `append` writes behind them. `kept` is a ghost.

* `wal_recovers`: while nothing is appended behind an incomplete record, readers return exactly the
  kept records;
* `wal_loses_append`: otherwise an append is lost.
-/
namespace Aeon.L2.CheckpointWal

open List Function Aeon.Core Aeon.L2.Checkpoint

structure St where
  disk : Disk
  writer : Option WalWriter
  kept : List CheckpointRecord

inductive Lbl
  | reopen
  | append (r : CheckpointRecord)
  | stop (r : CheckpointRecord) (n : Nat)
  | cut (n : Nat)

section Machine

variable (B : Bincode) (path : String)

def frameSize (r : CheckpointRecord) : Nat := (walFrame B r).length

def step (s : St) : Lbl → Option St
  | .reopen =>
    match WalWriter.new B s.disk path with
    | .error _ => some { s with writer := none }
    | .ok (w, d) => some { s with disk := d, writer := some w }
  | .append r =>
    match s.writer with
    | none => none
    | some w =>
      match w.append B s.disk r with
      | .error _ => some s
      | .ok (w, d, r) => some ⟨d, some w, s.kept ++ [r]⟩
  | .stop r n =>
    match s.writer with
    | none => none
    | some w =>
      let r := r.withId w.nextCheckpointId
      match s.disk.files w.path with
      | none => none
      | some data =>
        if n < frameSize B r then
          some { s with disk := s.disk.writeFile w.path (data ++ (walFrame B r).take n) }
        else none
  | .cut n =>
    match s.disk.files path with
    | none => some { s with writer := none }
    | some data =>
      if walHeaderSize ≤ n then
        some ⟨s.disk.writeFile path (data.take n), none, whole (frameSize B) (n - walHeaderSize) s.kept⟩
      else none

def empty : St := ⟨⟨fun _ => none, fun _ => []⟩, none, []⟩

def machine : LTS St Lbl := .ofFn (· = empty) (step B path)

def EndsWhole (d : Disk) : Prop := ∀ data ∈ d.files path, (readWalRecords B data).map (walBytes B) = .ok data
  deriving Decidable

def Allowed (s : St) : Lbl → Prop
  | .append r | .stop r _ => EndsWhole B path s.disk ∧
      ∀ w ∈ s.writer, B.RoundTrips (r.withId w.nextCheckpointId)
  | .reopen | .cut _ => True

instance (s : St) : ∀ l, Decidable (Allowed B path s l)
  | .append _ | .stop .. => inferInstanceAs (Decidable (_ ∧ ∀ w ∈ s.writer, _))
  | .reopen | .cut _ => inferInstanceAs (Decidable True)

end Machine

section Recovery

variable {B : Bincode} {path : String} {s s' : St}

def Torn (B : Bincode) (tail : Bytes) : Prop :=
  tail = [] ∨ ∃ r, B.RoundTrips r ∧ ∃ n < frameSize B r, tail = (walFrame B r).take n

variable {tail : Bytes}

lemma Torn.take (h : Torn B tail) (n : Nat) : Torn B (tail.take n) := by
  rcases h with rfl | ⟨r, hr, m, hm, rfl⟩
  · exact .inl take_nil
  · exact .inr ⟨r, hr, min n m, by omega, take_take⟩

lemma nextWalRecord_torn (h : B.RoundTrips r) (hn : n < frameSize B r) :
    nextWalRecord B ((walFrame B r).take n) = none := by
  have hs : frameSize B r = walRecordHeaderSize + (B.serialize r).length := length_walFrame r
  have hl : ((walFrame B r).take n).length = n := by
    rw [length_take]; exact Nat.min_eq_left (Nat.le_of_lt hn)
  rw [nextWalRecord, hl]; by_cases h8 : n < walRecordHeaderSize
  · rw [if_pos h8]
  · -- the length field is there, and says that bytes are missing
    have hf : ((walFrame B r).take n).take 4 = leBytes 4 (B.serialize r).length := by
      rw [take_take, walFrame, append_assoc]
      have h4 : min 4 n = 4 := by rw [walRecordHeaderSize] at h8; omega
      simp_all
    rw [if_neg h8]; simp only [hf, leVal_leBytes (w := 4) h.2]; rw [if_pos (by omega)]

lemma scan_torn (h : Torn B tail) : scan (nextWalRecord B) tail = [] := by
  rcases h with rfl | ⟨r, hr, n, hn, rfl⟩
  · exact scan_of_none rfl
  · exact scan_of_none (nextWalRecord_torn hr hn)

lemma take_walBytes (hrt : ∀ r ∈ rs, B.RoundTrips r) (ht : Torn B tail) (hn : walHeaderSize ≤ n) :
    ∃ tail', (walBytes B rs ++ tail).take n =
        walBytes B (whole (frameSize B) (n - walHeaderSize) rs) ++ tail' ∧ Torn B tail' := by
  have hh : walHeader.length = walHeaderSize := rfl
  have hs : (walBytes B rs ++ tail).take n =
      walHeader ++ (rs.flatMap (walFrame B) ++ tail).take (n - walHeaderSize) := by
    rw [walBytes, append_assoc, take_append, take_of_length_le (by omega), hh]
  rw [hs]; by_cases hin : n - walHeaderSize ≤ (rs.flatMap (walFrame B)).length
  · obtain ⟨tail', hta, -, hto⟩ := take_frames (fun r _ => rfl) hin; refine ⟨tail', ?_, ?_⟩
    · rw [take_append_of_le_length hin, hta, walBytes, append_assoc]; rfl
    · rcases hto with hni | ⟨r, hr, hc⟩
      · exact .inl hni
      · exact .inr ⟨r, hrt r hr, hc⟩
  · -- the cut is in the incomplete end
    have hw : whole (frameSize B) (n - walHeaderSize) rs = rs :=
      whole_eq_self (fun r _ => rfl) (Nat.le_of_not_le hin)
    refine ⟨tail.take (n - walHeaderSize - (rs.flatMap (walFrame B)).length), ?_, ht.take _⟩
    rw [take_append, take_of_length_le (by omega), hw, walBytes, append_assoc]

def FileOk (B : Bincode) (path : String) (s : St) : Prop := s.disk.files path = none ∧ s.kept = [] ∨
    ∃ tail, s.disk.files path = some (walBytes B s.kept ++ tail) ∧ Torn B tail

structure Inv (B : Bincode) (path : String) (s : St) : Prop where
  file : FileOk B path s
  writer : ∀ w, s.writer = some w → w.path = path ∧ s.disk.files path ≠ none ∧
    w.nextCheckpointId = nextId s.kept
  roundTrips : ∀ r ∈ s.kept, B.RoundTrips r
  ascending : Ascending s.kept

lemma inv_empty : Inv B path empty :=
  ⟨.inl ⟨rfl, rfl⟩, fun _ h => (by cases h), fun _ h => (by cases h), .nil⟩

lemma Inv.readAll (h : Inv B path s) : walReadAll B s.disk path = .ok s.kept := by
  rcases h.file with ⟨hn, hk⟩ | ⟨tail, hf, ht⟩
  · rw [walReadAll, hn, hk]
  · rw [walReadAll, hf]
    simp [readWalRecords_append h.roundTrips, scan_torn ht]

lemma walReadLast_of_readAll (h : walReadAll B d path = .ok rs) : walReadLast B d path = .ok rs.getLast? := by
  rw [walReadAll] at h; rw [walReadLast]; rcases hf : d.files path with _ | data
  · rw [hf] at h; cases h; rfl
  · rw [hf] at h; simp only [show readWalRecords B data = .ok rs from h]; rfl

lemma Inv.new (h : Inv B path s) : ∃ d, WalWriter.new B s.disk path = .ok (⟨path, nextId s.kept⟩, d) ∧
      Inv B path ⟨d, some ⟨path, nextId s.kept⟩, s.kept⟩ := by
  have hr := h.readAll; rcases hf : s.disk.files path with _ | data
  · rw [walReadAll, hf] at hr; have hk : s.kept = [] := (Except.ok.inj hr).symm
    refine ⟨s.disk.writeFile path walHeader, by rw [WalWriter.new, hf, hk]; rfl,
      .inr ⟨[], ?_, .inl rfl⟩, ?_, h.roundTrips, h.ascending⟩
    · rw [hk]; exact update_self _ _ _
    simp [Disk.writeFile]
  · refine ⟨s.disk, ?_, h.file, ?_, h.roundTrips, h.ascending⟩
    · rw [walReadAll, hf] at hr; rw [WalWriter.new, hf]
      simp only [show readWalRecords B data = .ok s.kept from hr]; rfl
    grind

lemma Inv.file_of_endsWhole (h : Inv B path s) (hw : EndsWhole B path s.disk)
    (hf : s.disk.files path ≠ none) : s.disk.files path = some (walBytes B s.kept) := by
  obtain ⟨data, hd⟩ := Option.ne_none_iff_exists'.mp hf; have hk := h.readAll
  rw [walReadAll, hd] at hk; have hb := hw data hd
  rw [show readWalRecords B data = .ok s.kept from hk] at hb; rw [hd, ← Except.ok.inj hb]

lemma Inv.step (h : Inv B path s) (ha : Allowed B path s l) (hs : step B path s l = some s') :
    Inv B path s' := by
  cases l with
  | reopen => obtain ⟨d, hnw, hi⟩ := h.new; simp_all [CheckpointWal.step]
  | append =>
    rcases hw : s.writer with _ | w
    · simp [CheckpointWal.step, hw] at hs
    obtain ⟨rfl, hso, hne⟩ := h.writer w hw; have hf := h.file_of_endsWhole ha.1 hso
    simp only [CheckpointWal.step, hw, WalWriter.append_walBytes hf, hne] at hs; cases hs
    refine ⟨.inr ⟨[], ?_, .inl rfl⟩, ?_, ?_, h.ascending.concat rfl⟩
    · rw [append_nil]; exact update_self _ _ _
    · simp [Disk.writeFile, nextId_concat]
    · intro x hx; rcases mem_append.mp hx with hx | hx
      · exact h.roundTrips x hx
      · rw [mem_singleton.mp hx]; exact hne ▸ ha.2 w hw
  | stop r n =>
    rcases hw : s.writer with _ | w
    · simp [CheckpointWal.step, hw] at hs
    obtain ⟨rfl, hso, hne⟩ := h.writer w hw; have hf := h.file_of_endsWhole ha.1 hso
    simp only [CheckpointWal.step, hw, hf] at hs; split_ifs at hs with hn; cases hs
    refine ⟨.inr ⟨_, update_self _ _ _, .inr ⟨_, ha.2 w hw, n, hn, rfl⟩⟩, ?_, h.roundTrips, h.ascending⟩
    simp_all [Disk.writeFile]
  | cut n =>
    rcases h.file with ⟨hno, hk⟩ | ⟨tail, hf, ht⟩
    · simp only [CheckpointWal.step, hno] at hs; cases hs
      exact ⟨.inl ⟨hno, hk⟩, fun _ hw => (by cases hw), h.roundTrips, h.ascending⟩
    · simp only [CheckpointWal.step, hf] at hs; split_ifs at hs with hn; cases hs
      obtain ⟨tail', hta, ht'⟩ := take_walBytes h.roundTrips ht hn
      have hsu := (whole_isPrefix (frameSize B) (n - walHeaderSize) s.kept).sublist
      refine ⟨.inr ⟨tail', ?_, ht'⟩, fun _ hw => (by cases hw),
        fun r hr => h.roundTrips r (hsu.subset hr), h.ascending.sublist hsu⟩
      rw [← hta]; exact update_self _ _ _

theorem wal_recovers (h : ((machine B path).restrict (Allowed B path)).Reachable s) :
    (∃ w d, WalWriter.new B s.disk path = .ok (w, d)) ∧
    walReadLast B s.disk path = .ok s.kept.getLast? ∧
    walReadAll B s.disk path = .ok s.kept ∧ Ascending s.kept := by
  have hi : ((machine B path).restrict (Allowed B path)).Inductive (Inv B path) :=
    ⟨fun s₀ h₀ => h₀ ▸ inv_empty, fun _ _ _ hs hst => hs.step hst.1 hst.2⟩
  have hs := hi.reachable h; obtain ⟨d, hn, -⟩ := hs.new
  exact ⟨⟨_, d, hn⟩, walReadLast_of_readAll hs.readAll, hs.readAll, hs.ascending⟩

end Recovery

structure ReadBack where
  last : Option CheckpointRecord
  all : List CheckpointRecord
  kept : List CheckpointRecord
  deriving DecidableEq

def readBack (s : St) : Option ReadBack :=
  match walReadLast plainBincode s.disk "wal", walReadAll plainBincode s.disk "wal" with
  | .ok last, .ok all => some ⟨last, all, s.kept⟩
  | _, _ => none

def tornRun : List Lbl := [.reopen, .append (delivered 1), .cut 73, .reopen, .append (delivered 2), .reopen,
    .append (delivered 3)]

theorem wal_loses_append : ∃ s, (machine plainBincode "wal").Run empty tornRun s ∧
      s.kept = [(delivered 2).withId 0, (delivered 3).withId 0] ∧
      walReadLast plainBincode s.disk "wal" = .ok none ∧
      walReadAll plainBincode s.disk "wal" = .ok [] := by
  have h : ((LTS.exec (step plainBincode "wal") empty tornRun).bind readBack) =
      some ⟨none, [], [(delivered 2).withId 0, (delivered 3).withId 0]⟩ := by decide +kernel
  obtain ⟨s, hs, hv⟩ := Option.bind_eq_some_iff.mp h; refine ⟨s, LTS.run_of_exec hs, ?_⟩
  grind [readBack]

def wholeRun : List Lbl :=
  [.reopen, .append (delivered 1), .append (delivered 2), .cut 74, .reopen, .append (delivered 3),
    .stop (delivered 4) 30, .cut 150, .reopen]

theorem wal_recovers_whole :
    ∃ s, ((machine plainBincode "wal").restrict (Allowed plainBincode "wal")).Run empty wholeRun s ∧
      s.kept = [(delivered 1).withId 0, (delivered 3).withId 1] ∧
      walReadLast plainBincode s.disk "wal" = .ok (some ((delivered 3).withId 1)) ∧
      walReadAll plainBincode s.disk "wal" = .ok s.kept ∧ Ascending s.kept := by
  have h : (LTS.exec (fun s l => if Allowed plainBincode "wal" s l
      then step plainBincode "wal" s l else none) empty wholeRun).map St.kept =
      some [(delivered 1).withId 0, (delivered 3).withId 1] := by decide +kernel
  obtain ⟨s, hs, hk⟩ := Option.map_eq_some_iff.mp h
  have hr : ((machine plainBincode "wal").restrict (Allowed plainBincode "wal")).Run empty wholeRun s :=
    LTS.run_restrict_of_exec hs
  obtain ⟨-, hl, ha, has⟩ := wal_recovers ⟨_, _, rfl, hr⟩
  exact ⟨s, hr, hk, by rw [hl, hk]; rfl, ha, has⟩

end Aeon.L2.CheckpointWal
