import Mathlib.Data.List.Basic
import Mathlib.Algebra.BigOperators.Group.List.Basic

/-!
# Append-only logs of framed records

A log is a concatenation of frames, read by a scan that repeats a step function `next`.

* `scan_frames`: frames that `next` takes back are all read;
* `take_frames`: a log cut at a byte is the frames that fit whole and a part of the next;
* `scan_damaged`: a log with a changed byte is read up to the record that holds it.
-/
namespace Aeon.Core

open List

abbrev Bytes := List UInt8

def leBytes : Nat → Nat → Bytes
  | 0, _ => []
  | w + 1, n => UInt8.ofNat n :: leBytes w (n / 256)

def leVal : Bytes → Nat
  | [] => 0
  | b :: bs => b.toNat + 256 * leVal bs

@[simp] lemma length_leBytes (w n : Nat) : (leBytes w n).length = w := by
  induction w generalizing n with
  | zero => rfl
  | succ w ih => rw [leBytes, length_cons, ih]

lemma leVal_leBytes (h : n < 256 ^ w) : leVal (leBytes w n) = n := by
  induction w generalizing n with
  | zero =>
    have h0 : n = 0 := by simpa using h
    rw [h0]; rfl
  | succ => grind [Nat.pow_succ, leBytes, leVal, UInt8.toNat_ofNat']

lemma leBytes_leVal (b : Bytes) : leBytes b.length (leVal b) = b := by
  induction b with
  | nil => rfl
  | cons x b ih =>
    have hx := x.toNat_lt; have hd : (x.toNat + 256 * leVal b) / 256 = leVal b := by omega
    simp [length_cons, leVal, leBytes, hd, ih]

lemma leVal_inj (hl : a.length = b.length) (h : leVal a = leVal b) : a = b := by
  rw [← leBytes_leVal a, ← leBytes_leVal b, hl, h]

lemma leVal_lt (b : Bytes) : leVal b < 256 ^ b.length := by
  induction b with
  | nil => simp [leVal]
  | cons x => grind [x.toNat_lt, leVal]

def crcBit (c : UInt32) : UInt32 := if c &&& 1 = 1 then (c >>> 1) ^^^ 0xEDB88320 else c >>> 1

def crcByte (c : UInt32) (b : UInt8) : UInt32 :=
  crcBit (crcBit (crcBit (crcBit (crcBit (crcBit (crcBit (crcBit (c ^^^ b.toUInt32))))))))

def crc32 (b : Bytes) : UInt32 := (b.foldl crcByte 0xFFFFFFFF) ^^^ 0xFFFFFFFF

example : crc32 [49, 50, 51, 52, 53, 54, 55, 56, 57] = 0xCBF43926 := by decide +kernel

section Scan

variable {α β : Type*}

def scanFuel (next : Bytes → Option (α × Bytes)) : Nat → Bytes → List α
  | 0, _ => []
  | fuel + 1, data =>
    match next data with
    | none => []
    | some (a, rest) => a :: scanFuel next fuel rest

def scan (next : Bytes → Option (α × Bytes)) (data : Bytes) : List α := scanFuel next (data.length + 1) data

variable {next : Bytes → Option (α × Bytes)}

lemma scanFuel_eq_scan (hp : ∀ d a r, next d = some (a, r) → r.length < d.length) {fuel : Nat} {data : Bytes}
    (h : data.length < fuel) : scanFuel next fuel data = scan next data := by
  have ha : ∀ f g d, d.length < f → d.length < g → scanFuel next f d = scanFuel next g d := by
    intro f
    induction f with
    | zero => intro g d hf; omega
    | succ =>
      intro g d hf hg; obtain ⟨g, rfl⟩ : ∃ g', g = g' + 1 := ⟨g - 1, by omega⟩
      grind [scanFuel]
  exact ha _ _ _ h (by omega)

lemma scan_of_none {data : Bytes} (h : next data = none) : scan next data = [] := by rw [scan, scanFuel, h]

lemma scan_of_some (hp : ∀ d a r, next d = some (a, r) → r.length < d.length) {data rest : Bytes}
    (h : next data = some (a, rest)) :
    scan next data = a :: scan next rest := by
  have hlt := hp data a rest h; rw [scan, scanFuel, h]
  exact congrArg (a :: ·) (scanFuel_eq_scan hp (by omega))

lemma scan_frames (hp : ∀ d a r, next d = some (a, r) → r.length < d.length) {frame : β → Bytes} {out : β → α}
    {as : List β} (hn : ∀ a ∈ as, ∀ rest, next (frame a ++ rest) = some (out a, rest)) (tail : Bytes) :
    scan next (as.flatMap frame ++ tail) = as.map out ++ scan next tail := by
  induction as with
  | nil => rfl
  | cons a as ih =>
    rw [flatMap_cons, append_assoc, scan_of_some hp (hn a mem_cons_self _),
      ih fun b hb => hn b (mem_cons_of_mem _ hb)]
    rfl

lemma scanFuel_frames {frame : β → Bytes} {out : β → α} {as : List β} {fuel : Nat} (hf : as.length ≤ fuel)
    (hn : ∀ a ∈ as, ∀ rest, next (frame a ++ rest) = some (out a, rest)) (he : next [] = none) :
    scanFuel next fuel (as.flatMap frame) = as.map out := by
  induction as generalizing fuel with
  | nil =>
    cases fuel with
    | zero => rfl
    | succ => rw [flatMap_nil, scanFuel, he]; rfl
  | cons =>
    obtain ⟨fuel, rfl⟩ : ∃ f, fuel = f + 1 := ⟨fuel - 1, by simp at hf; omega⟩
    grind [scanFuel]

end Scan

section Cut

variable {β : Type*}

def whole (size : β → Nat) : Nat → List β → List β
  | _, [] => []
  | n, a :: as => if size a ≤ n then a :: whole size (n - size a) as else []

def leftover (size : β → Nat) : Nat → List β → Nat
  | n, [] => n
  | n, a :: as => if size a ≤ n then leftover size (n - size a) as else n

lemma whole_isPrefix (size : β → Nat) (n : Nat) (as : List β) : whole size n as <+: as := by
  induction as generalizing n with
  | nil => exact nil_prefix
  | cons => grind [whole]

lemma whole_eq_self {size : β → Nat} {frame : β → Bytes} (hs : ∀ a ∈ as, (frame a).length = size a)
    (hn : (as.flatMap frame).length ≤ n) :
    whole size n as = as := by
  induction as generalizing n with
  | nil => rfl
  | cons a =>
    have ha := hs a mem_cons_self; rw [flatMap_cons, length_append, ha] at hn
    grind [whole]

lemma take_frames {size : β → Nat} {frame : β → Bytes} (hs : ∀ a ∈ as, (frame a).length = size a)
    (hn : n ≤ (as.flatMap frame).length) :
    ∃ torn : Bytes, (as.flatMap frame).take n = (whole size n as).flatMap frame ++ torn ∧
      torn.length = leftover size n as ∧
      (torn = [] ∨ ∃ a ∈ as, ∃ m < (frame a).length, torn = (frame a).take m) := by
  induction as generalizing n with
  | nil =>
    have h0 : n = 0 := by simpa using hn
    exact ⟨[], by simp [whole], by rw [h0]; rfl, .inl rfl⟩
  | cons a as ih =>
    have ha := hs a mem_cons_self; rw [flatMap_cons, length_append, ha] at hn
    rw [whole, leftover, flatMap_cons]; split_ifs with hle
    · obtain ⟨torn, ht, hl, hto⟩ := ih (fun b hb => hs b (mem_cons_of_mem _ hb))
        (show n - size a ≤ _ by omega)
      refine ⟨torn, ?_, hl, hto.imp_right fun ⟨b, hb, h⟩ => ⟨b, mem_cons_of_mem _ hb, h⟩⟩
      rw [take_append, ha, ht, take_of_length_le (by omega), flatMap_cons, append_assoc]
    grind

end Cut

section Damage

variable {α β : Type*}

def damage (log : Bytes) (p : Nat) (b : UInt8) (n : Nat) : Bytes := (log.set p b).take n

lemma damage_of_le {log : Bytes} (h : n ≤ p) : damage log p b n = log.take n := take_set_of_le h

lemma field_undamaged {log : Bytes} (h : i + w ≤ n) (ho : p < i ∨ i + w ≤ p) :
    ((damage log p b n).drop i).take w = (log.drop i).take w := by
  have hc : ((log.take n).drop i).take w = (log.drop i).take w := by
    rw [drop_take, take_take, Nat.min_eq_left (by omega)]
  rw [damage, take_set, drop_set]; split_ifs
  · exact hc
  · rw [take_set_of_le (by omega), hc]

lemma field_changed {log : Bytes} (hi : i ≤ p)
    (hw : p < i + w) (hp : p < log.length) (hb : log[p]? ≠ some b) :
    ((damage log p b n).drop i).take w ≠ (log.drop i).take w := by
  intro heq; have hat := congrArg (·[p - i]?) heq; grind [damage]

lemma damage_append {log log' : Bytes} :
    damage (log ++ log') (log.length + p) b (log.length + n) = log ++ damage log' p b n := by
  simp [damage, take_append]

lemma locate {frame : β → Bytes} (h : k < (as.flatMap frame).length) :
    ∃ pre a post q, as = pre ++ a :: post ∧ k = (pre.flatMap frame).length + q ∧ q < (frame a).length := by
  induction as generalizing k with
  | nil => cases h
  | cons a as ih =>
    rw [flatMap_cons, length_append] at h; by_cases hk : k < (frame a).length
    · exact ⟨[], a, as, k, rfl, by simp, hk⟩
    · obtain ⟨pre, a', post, q, rfl, hq, hlt⟩ := ih (k := k - (frame a).length) (by omega)
      refine ⟨a :: pre, a', post, q, rfl, ?_, hlt⟩; grind

lemma whole_append {size : β → Nat} {frame : β → Bytes} (hs : ∀ a, (frame a).length = size a)
    (pre as : List β) (n : Nat) :
    whole size ((pre.flatMap frame).length + n) (pre ++ as) = pre ++ whole size n as := by
  induction pre with
  | nil => simp
  | cons c pre ih =>
    rw [flatMap_cons, length_append, cons_append, whole, hs, if_pos (by omega),
      Nat.add_assoc, Nat.add_sub_cancel_left, ih]
    rfl

variable {next : Bytes → Option (α × Bytes)}

lemma scan_damaged (hpr : ∀ d a r, next d = some (a, r) → r.length < d.length) {size : β → Nat}
    {frame : β → Bytes} {out : β → α} {as : List β} (hs : ∀ a, (frame a).length = size a)
    (hn : ∀ a ∈ as, ∀ rest, next (frame a ++ rest) = some (out a, rest)) {p n : Nat} {b : UInt8}
    (hp : p < (as.flatMap frame).length) :
    ∃ pre a post q m, as = pre ++ a :: post ∧ p = (pre.flatMap frame).length + q ∧
      n = (pre.flatMap frame).length + m ∧ min q m < (frame a).length ∧
      whole size (min p n) as = pre ∧
      scan next (damage (as.flatMap frame) p b n) =
        pre.map out ++ scan next (damage (frame a ++ post.flatMap frame) q b m) := by
  obtain ⟨pre, a, post, k, rfl, hk, hlt⟩ :=
    locate (k := min p n) (Nat.lt_of_le_of_lt (Nat.min_le_left p n) hp)
  obtain ⟨q, rfl⟩ : ∃ q, p = (pre.flatMap frame).length + q := ⟨p - (pre.flatMap frame).length, by omega⟩
  obtain ⟨m, rfl⟩ : ∃ m, n = (pre.flatMap frame).length + m := ⟨n - (pre.flatMap frame).length, by omega⟩
  refine ⟨pre, a, post, q, m, rfl, rfl, rfl, by omega, ?_, ?_⟩
  · rw [hk, whole_append hs, whole, if_neg (by rw [← hs]; omega), append_nil]
  · rw [flatMap_append, flatMap_cons, damage_append, scan_frames hpr fun c hc => hn c (mem_append_left _ hc)]

end Damage

end Aeon.Core
