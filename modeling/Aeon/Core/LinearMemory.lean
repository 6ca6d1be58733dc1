import Aeon.Core.RecordLog

/-!
# Linear memory seen from a host

A guest names bytes by 32-bit addresses; a 64-bit host reads `data[start..start + len]`: the address
is extended with its sign, the sum wraps, a slice outside is a panic (`none`).

* `isSome_read?`, `isSome_write?`: when the host panics.
-/
namespace Aeon.Core

def usize (x : BitVec 32) : Nat := (x.signExtend 64).toNat

structure Memory where
  size : Nat
  data : Nat → UInt8
  addressable : size < 2 ^ 63

namespace Memory

variable (m : Memory)

def slice (start len : Nat) : Bytes := (List.range' start len).map m.data

def word (start : Nat) : Nat := leVal (m.slice start 4)

def read? (start len : Nat) : Option Bytes :=
  let stop := (start + len) % 2 ^ 64
  if start ≤ stop ∧ stop ≤ m.size then some (m.slice start (stop - start)) else none

def write? (start : Nat) (b : Bytes) : Option Memory :=
  let stop := (start + b.length) % 2 ^ 64
  if start ≤ stop ∧ stop ≤ m.size ∧ stop - start = b.length then
    some { m with data := fun i => if start ≤ i then b.getD (i - start) (m.data i) else m.data i }
  else none

def store (data : Nat → UInt8) : Memory := { m with data }

def grow (n limit : Nat) : Memory :=
  if h : m.size + n ≤ limit ∧ limit < 2 ^ 63 then { m with size := m.size + n, addressable := by omega
    } else m

def Holds (ptr : BitVec 32) (n : Nat) : Prop := 0 ≤ ptr.toInt ∧ ptr.toInt + n ≤ m.size
  deriving Decidable

variable {m} {ptr : BitVec 32} {n : Nat}

lemma usize_cases (x : BitVec 32) :
    (0 ≤ x.toInt ∧ (usize x : Int) = x.toInt) ∨ (x.toInt < 0 ∧ 2 ^ 63 ≤ usize x ∧ usize x < 2 ^ 64) := by
  have hs : (x.signExtend 64).toInt = x.toInt := BitVec.toInt_signExtend_of_le (by decide)
  have hlt : (x.signExtend 64).toNat < 2 ^ 64 := (x.signExtend 64).isLt
  grind [BitVec.toInt_eq_toNat_cond, usize]

lemma usize_lt (x : BitVec 32) : usize x < 2 ^ 64 := (x.signExtend 64).isLt

lemma holds_iff (hn : n < 2 ^ 64) :
    m.Holds ptr n ↔ usize ptr ≤ (usize ptr + n) % 2 ^ 64 ∧ (usize ptr + n) % 2 ^ 64 ≤ m.size := by
  grind [m.addressable, Holds, usize_cases]

lemma isSome_read? (hn : n < 2 ^ 64) : (m.read? (usize ptr) n).isSome = true ↔ m.Holds ptr n := by
  rw [holds_iff hn]; unfold read?; simp

lemma isSome_write? : (m.write? (usize ptr) b).isSome = true ↔ m.Holds ptr b.length := by
  have hc : m.Holds ptr b.length ↔ usize ptr ≤ (usize ptr + b.length) % 2 ^ 64 ∧
      (usize ptr + b.length) % 2 ^ 64 ≤ m.size ∧ (usize ptr + b.length) % 2 ^ 64 - usize ptr = b.length := by
    have hs := m.addressable; unfold Holds
    rcases usize_cases ptr with ⟨hp, heq⟩ | ⟨hn, hge, hlt⟩ <;> omega
  rw [hc]; unfold write?; simp

lemma read?_eq {start : Nat} (h : start + n ≤ m.size) : m.read? start n = some (m.slice start n) := by
  have hs := m.addressable
  have hw : (start + n) % 2 ^ 64 = start + n := Nat.mod_eq_of_lt (by omega); unfold read?
  grind

lemma Holds.usize_add_le (h : m.Holds ptr n) : usize ptr + n ≤ m.size := by
  obtain ⟨hp, hle⟩ := h; grind [usize_cases]

lemma write?_size {start : Nat} (h : m.write? start b = some m') : m'.size = m.size := by
  unfold write? at h; grind

lemma grow_size_le {limit max : Nat} (hs : m.size ≤ max) (h : m.size + n ≤ max) :
    (m.grow n limit).size ≤ max := by
  grind [grow]

end Memory

end Aeon.Core
