import Mathlib.Algebra.GroupWithZero.Nat
import Mathlib.Data.Finmap
import Mathlib.Logic.Equiv.Basic
import Mathlib.Data.List.Nodup

/-!
# Hash maps and the orders they are iterated in

A hash map is a `Finmap`. The order it is iterated in is not part of the value: code that iterates
takes a listing, and statements are about every listing (`Lists it m`).

* `Lists.perm`, `Lists.of_perm`: the listings of a map are permutations of one another;
* `insertAll_perm`: inserting pairs with distinct keys does not depend on their order.
-/
namespace Aeon.Core

open List Finmap

variable {κ ν : Type*}

abbrev HashMap (κ ν : Type*) := Finmap fun _ : κ => ν

abbrev Listing (κ ν : Type*) := List (Σ _ : κ, ν)

def Lists (it : Listing κ ν) (m : HashMap κ ν) : Prop := (it : Multiset (Σ _ : κ, ν)) = m.entries

instance [DecidableEq κ] [DecidableEq ν] (it : Listing κ ν) (m : HashMap κ ν) : Decidable (Lists it m) :=
  inferInstanceAs (Decidable ((it : Multiset (Σ _ : κ, ν)) = m.entries))

namespace Lists

variable {it it' : Listing κ ν} {m : HashMap κ ν} {k : κ} {v : ν}

lemma exists_listing (m : HashMap κ ν) : ∃ it, Lists it m := Quot.exists_rep m.entries

section

variable (h : Lists it m)
include h

lemma perm (h' : Lists it' m) : it.Perm it' := Multiset.coe_eq_coe.mp (h.trans h'.symm)

lemma of_perm (hp : it'.Perm it) : Lists it' m := (Multiset.coe_eq_coe.mpr hp).trans h

lemma nodupKeys : it.NodupKeys := by
  have hm : Multiset.NodupKeys (it : Multiset (Σ _ : κ, ν)) := h ▸ m.nodupKeys
  exact Multiset.coe_nodupKeys.mp hm

lemma nodup_keys : (it.map Sigma.fst).Nodup := h.nodupKeys

lemma nodup : it.Nodup := h.nodupKeys.nodup

lemma mem_iff [DecidableEq κ] : ⟨k, v⟩ ∈ it ↔ m.lookup k = some v := by
  have he : (⟨k, v⟩ : Σ _ : κ, ν) ∈ m.entries ↔ m.lookup k = some v := by rw [Finmap.lookup_eq_some_iff]
  rw [← he, ← h, Multiset.mem_coe]

lemma map_swap [DecidableEq κ] [DecidableEq ν] (ha : a ∈ it) (hb : b ∈ it) :
    Lists (it.map (Equiv.swap a b)) m := by
  refine h.of_perm ?_
  refine (perm_ext_iff_of_nodup (h.nodup.map (Equiv.injective _)) h.nodup).mpr fun c => ?_
  have hm : ∀ c ∈ it, Equiv.swap a b c ∈ it := fun c hc => by
    rw [Equiv.swap_apply_def]; split_ifs
    exacts [hb, ha, hc]
  rw [List.mem_map]
  exact ⟨fun ⟨x, hx, he⟩ => he ▸ hm x hx, fun hc => ⟨_, hm c hc, by simp⟩⟩

end

end Lists

def insertAll [DecidableEq κ] (m : HashMap κ ν) (l : List (κ × ν)) : HashMap κ ν :=
  l.foldl (fun m e => m.insert e.1 e.2) m

section InsertAll

variable [DecidableEq κ] {m : HashMap κ ν} {l l' : List (κ × ν)} {k : κ} {v : ν}

lemma insertAll_cons (m : HashMap κ ν) (e : κ × ν) (l : List (κ × ν)) :
    insertAll m (e :: l) = insertAll (m.insert e.1 e.2) l := rfl

lemma lookup_insertAll_of_notMem (h : k ∉ l.map Prod.fst) : (insertAll m l).lookup k = m.lookup k := by
  induction l generalizing m with
  | nil => rfl
  | cons e l ih =>
    rw [map_cons, mem_cons, not_or] at h
    rw [insertAll_cons, ih h.2, lookup_insert_of_ne m h.1]

lemma lookup_insertAll_of_mem (hk : (l.map Prod.fst).Nodup) (h : (k, v) ∈ l) :
    (insertAll m l).lookup k = some v := by
  induction l generalizing m with
  | nil => cases h
  | cons e l ih =>
    rw [map_cons, nodup_cons] at hk; rw [insertAll_cons]
    rcases mem_cons.mp h with rfl | h
    · rw [lookup_insertAll_of_notMem hk.1, lookup_insert]
    · exact ih hk.2 h

lemma mem_insertAll : k ∈ insertAll m l ↔ k ∈ m ∨ k ∈ l.map Prod.fst := by
  induction l generalizing m with
  | nil => simp [insertAll]
  | cons e l ih =>
    rw [insertAll_cons, ih, mem_insert, map_cons, mem_cons]
    tauto

lemma mem_of_lookup_insertAll (h : (insertAll m l).lookup k = some v) : (k, v) ∈ l ∨ m.lookup k = some v := by
  induction l generalizing m with
  | nil => exact .inr h
  | cons e l ih =>
    rcases ih h with h | h
    · grind
    · by_cases hk : k = e.1
      · grind [lookup_insert]
      simp_all

lemma insertAll_perm (hk : (l.map Prod.fst).Nodup) (hp : l.Perm l') : insertAll m l = insertAll m l' := by
  refine ext_lookup fun k => ?_
  have hk' : (l'.map Prod.fst).Nodup := (hp.map Prod.fst).nodup_iff.mp hk
  by_cases hm : k ∈ l.map Prod.fst
  · obtain ⟨⟨_, v⟩, hv, rfl⟩ := List.mem_map.mp hm
    rw [lookup_insertAll_of_mem hk hv, lookup_insertAll_of_mem hk' (hp.mem_iff.mp hv)]
  grind [hp.map, lookup_insertAll_of_notMem]

lemma insertAll_empty (h : Lists it m) : insertAll ∅ (it.map fun e => (e.1, e.2)) = m := by
  have hke : ((it.map fun e => (e.1, e.2)).map Prod.fst).Nodup := by rw [List.map_map]; exact h.nodup_keys
  refine ext_lookup fun k => ?_; rcases hk : m.lookup k with _ | v
  · rw [lookup_insertAll_of_notMem, lookup_empty]; rw [List.map_map]; intro hm
    obtain ⟨e, he, rfl⟩ := List.mem_map.mp hm; cases hk.symm.trans (h.mem_iff.mp he)
  · exact lookup_insertAll_of_mem hke (List.mem_map_of_mem (h.mem_iff.mpr hk))

end InsertAll

def sumValues (m : HashMap κ Nat) : Nat :=
  Quot.liftOn m.entries (fun it => (it.map Sigma.snd).sum) fun _ _ h => (h.map Sigma.snd).sum_nat

lemma sum_kerase [DecidableEq κ] (it : Listing κ Nat) (k : κ) :
    ((it.kerase k).map Sigma.snd).sum + (it.dlookup k).getD 0 = (it.map Sigma.snd).sum := by
  induction it with
  | nil => rfl
  | cons e it ih =>
    by_cases hk : k = e.1
    · subst hk
      rw [kerase_cons_eq rfl, dlookup_cons_eq, map_cons, sum_cons, Option.getD_some, Nat.add_comm]
    simp [kerase_cons_ne hk, dlookup_cons_ne _ _ hk, map_cons, sum_cons, Nat.add_assoc, ih]

lemma sumValues_insert [DecidableEq κ] (m : HashMap κ Nat) (k : κ) (v : Nat) :
    sumValues (m.insert k v) + (m.lookup k).getD 0 = sumValues m + v := by
  refine induction_on m fun it => ?_
  have hs : ((⟨k, v⟩ :: it.entries.kerase k).map Sigma.snd).sum + (it.entries.dlookup k).getD 0 =
      (it.entries.map Sigma.snd).sum + v := by
        rw [map_cons, sum_cons, Nat.add_assoc, sum_kerase, Nat.add_comm]
  exact hs

section CountValues

def countValues (m : HashMap κ ν) (P : ν → Bool) : Nat :=
  Quot.liftOn m.entries (fun it => it.countP fun e => P e.2) fun _ _ h => h.countP_eq _

lemma Lists.countP_eq {it : Listing κ ν} {m : HashMap κ ν} (h : Lists it m) (P : ν → Bool) :
    it.countP (fun e => P e.2) = countValues m P := by
  rw [countValues, ← h]; rfl

variable [DecidableEq κ]

lemma countP_kerase (it : Listing κ ν) (k : κ) (P : ν → Bool) :
    (it.kerase k).countP (fun e => P e.2) + ((it.dlookup k).any P).toNat = it.countP fun e => P e.2 := by
  induction it with
  | nil => rfl
  | cons e it ih =>
    by_cases hk : k = e.1
    · subst hk
      rw [kerase_cons_eq rfl, dlookup_cons_eq, countP_cons, Option.any_some]
      cases P e.2 <;> rfl
    · rw [kerase_cons_ne hk, dlookup_cons_ne _ _ hk, countP_cons, countP_cons, ← ih]
      omega

lemma countValues_insert (m : HashMap κ ν) (k : κ) (v : ν) (P : ν → Bool) :
    countValues (m.insert k v) P + ((m.lookup k).any P).toNat = countValues m P + (P v).toNat := by
  refine induction_on m fun it => ?_
  have hc : (⟨k, v⟩ :: it.entries.kerase k).countP (fun e => P e.2) +
      ((it.entries.dlookup k).any P).toNat = it.entries.countP (fun e => P e.2) + (P v).toNat := by
    rw [countP_cons, ← countP_kerase it.entries k P]; cases P v
    · simp
    · grind
  exact hc

lemma countValues_insertAll {m : HashMap κ ν} {l : List (κ × ν)} (hk : (l.map Prod.fst).Nodup)
    (P : ν → Bool) :
    countValues (insertAll m l) P + l.countP (fun e => (m.lookup e.1).any P) =
      countValues m P + l.countP fun e => P e.2 := by
  induction l generalizing m with
  | nil => rfl
  | cons e l ih =>
    rw [map_cons, nodup_cons] at hk
    have hr : l.countP (fun x => ((m.insert e.1 e.2).lookup x.1).any P) = l.countP fun x =>
      (m.lookup x.1).any P := by
      refine countP_congr fun x hx => ?_
      have hne : x.1 ≠ e.1 := fun h => hk.1 (h ▸ List.mem_map_of_mem hx)
      rw [lookup_insert_of_ne m hne]
    have hf := countValues_insert m e.1 e.2 P; have ha := ih (m := m.insert e.1 e.2) hk.2
    rw [insertAll_cons, countP_cons, countP_cons]; grind

end CountValues

end Aeon.Core
