import Aeon.Core.HashMap
import Mathlib.Data.Fintype.Order
import Mathlib.Logic.Relation

/-!
# Kahn's elimination on a multigraph

A graph is a list of edges, repeated ones and loops included. `drain` takes nodes without pending
predecessors off a queue; it fails when a counter is missing or zero.

* `drain_eq`: it never fails, and visits every node iff the graph has no cycle.
-/
namespace Aeon.Core.Kahn

open List Finmap

variable {α : Type}

def Acyclic (edges : List (α × α)) : Prop := ∀ v, ¬ Relation.TransGen (fun a b => (a, b) ∈ edges) v v

variable [DecidableEq α]

def inDegrees (nodes : List α) (edges : List (α × α)) : HashMap α Nat :=
  edges.foldl (fun m e => m.insert e.2 ((m.lookup e.2).getD 0 + 1)) (insertAll ∅ (nodes.map (·, 0)))

def adjacency (edges : List (α × α)) : HashMap α (List α) :=
  edges.foldl (fun m e => m.insert e.1 ((m.lookup e.1).getD [] ++ [e.2])) ∅

def relax (s : HashMap α Nat × List α) (w : α) : Option (HashMap α Nat × List α) :=
  match s.1.lookup w with
  | none | some 0 => none
  | some (d + 1) => some (s.1.insert w d, if d = 0 then s.2 ++ [w] else s.2)

def drain (adj : HashMap α (List α)) : Nat → HashMap α Nat → List α → Nat → Option Nat
  | _, _, [], visited => some visited
  | 0, _, _ :: _, _ => none
  | fuel + 1, deg, v :: queue, visited => do
    let s ← ((adj.lookup v).getD []).foldlM relax (deg, queue)
    drain adj fuel s.1 s.2 (visited + 1)

variable {nodes : List α} {edges : List (α × α)} {v : α}

lemma lookup_inDegrees (hv : v ∈ nodes) :
    (inDegrees nodes edges).lookup v = some (edges.countP (·.2 = v)) := by
  have hs : (insertAll ∅ (nodes.map (·, 0))).lookup v = some 0 := by
    rcases h : (insertAll ∅ (nodes.map (·, 0))).lookup v with _ | d
    · have hme : v ∈ insertAll (∅ : HashMap α Nat) (nodes.map (·, 0)) := mem_insertAll.mpr (.inr (by simpa))
      exact absurd (Finmap.mem_iff.mp hme) (by simp [h])
    · rcases mem_of_lookup_insertAll h with h | h
      · grind
      · simp at h
  suffices h : ∀ (m : HashMap α Nat) d, m.lookup v = some d →
      (edges.foldl (fun m e => m.insert e.2 ((m.lookup e.2).getD 0 + 1)) m).lookup v =
        some (d + edges.countP (·.2 = v)) by simpa [inDegrees] using h _ 0 hs
  induction edges with
  | nil => simp
  | cons e edges ih =>
    intro m d hm; by_cases he : e.2 = v
    · subst he
      rw [foldl_cons, hm, Option.getD_some, ih _ (d + 1) (lookup_insert m)]
      simp [Nat.add_assoc, Nat.add_comm 1]
    · rw [foldl_cons, ih _ d (by rwa [lookup_insert_of_ne m (Ne.symm he)])]
      simp [he]

lemma mem_of_mem_inDegrees (hv : v ∈ inDegrees nodes edges) : v ∈ nodes ∨ ∃ e ∈ edges, e.2 = v := by
  suffices h : ∀ m : HashMap α Nat, v ∈ edges.foldl (fun m e => m.insert e.2 ((m.lookup e.2).getD 0 + 1)) m →
        v ∈ m ∨ ∃ e ∈ edges, e.2 = v by
    refine (h _ hv).imp_left fun h => ?_; simpa [mem_insertAll, notMem_empty] using h
  clear hv
  induction edges with
  | nil => simp
  | cons e edges ih =>
    intro m hm; have := ih _ hm; rw [mem_insert] at this
    grind

def succs (edges : List (α × α)) (v : α) : List α := (edges.filter (·.1 = v)).map Prod.snd

lemma lookup_adjacency : ((adjacency edges).lookup v).getD [] = succs edges v := by
  suffices h : ∀ m : HashMap α (List α),
      ((edges.foldl (fun m e => m.insert e.1 ((m.lookup e.1).getD [] ++ [e.2])) m).lookup v).getD [] =
        (m.lookup v).getD [] ++ succs edges v by simpa [adjacency] using h ∅
  induction edges with
  | nil => simp [succs]
  | cons e edges ih =>
    intro m; rw [foldl_cons, ih]; by_cases he : e.1 = v
    · subst he; simp [succs, lookup_insert]
    · simp [he, succs, lookup_insert_of_ne m (Ne.symm he)]

lemma relax_all (ws : List α) : ∀ (deg : HashMap α Nat) (queue : List α),
    (∀ w ∈ ws, ∃ d, deg.lookup w = some d ∧ ws.count w ≤ d) →
    ∃ deg' fresh, ws.foldlM relax (deg, queue) = some (deg', queue ++ fresh) ∧
      (∀ w d, deg.lookup w = some d → deg'.lookup w = some (d - ws.count w)) ∧ fresh.Nodup ∧
      ∀ w, w ∈ fresh ↔ w ∈ ws ∧ deg.lookup w = some (ws.count w) := by
  induction ws with
  | nil => exact fun deg queue _ => ⟨deg, [], by simp⟩
  | cons u ws ih =>
    intro deg queue hde; obtain ⟨d, hu, hd⟩ := hde u mem_cons_self
    rw [count_cons_self] at hd; obtain ⟨d, rfl⟩ : ∃ d', d = d' + 1 := ⟨d - 1, by omega⟩
    have ho : ∀ {w}, w ≠ u → (deg.insert u d).lookup w = deg.lookup w :=
      fun hne => lookup_insert_of_ne deg hne
    obtain ⟨deg', fresh, hru, hl, hnd, hm⟩ :=
      ih (deg.insert u d) (if d = 0 then queue ++ [u] else queue) fun w hw => by
        by_cases hwu : w = u
        · exact ⟨d, hwu ▸ lookup_insert deg, by subst hwu; omega⟩
        grind
    have hr : relax (deg, queue) u = some (deg.insert u d, if d = 0 then queue ++ [u] else queue) := by
      simp [relax, hu]
    refine ⟨deg', (if d = 0 then [u] else []) ++ fresh, ?_, fun w dw hw => ?_, ?_, fun w => ?_⟩
    · grind
    · by_cases hwu : w = u
      · subst hwu; rw [hl w d (lookup_insert deg), count_cons_self]
        rw [hu] at hw; cases hw; congr 1
        omega
      · rw [hl w dw ((ho hwu).trans hw), count_cons_of_ne (Ne.symm hwu)]
    · -- a counter that reaches zero belongs to no later edge
      split_ifs with h0
      · grind
      · simpa using hnd
    · by_cases hwu : w = u
      · subst hwu; have hc : w ∈ ws → 0 < ws.count w := count_pos_iff.mpr
        have hc' : 0 < ws.count w → w ∈ ws := count_pos_iff.mp
        have hw : w ∈ fresh ↔ w ∈ ws ∧ d = ws.count w := by simpa [lookup_insert] using hm w
        split_ifs with h0 <;> simp [hu, hw] <;> grind
      simp [hm w, ho hwu, hwu, count_cons_of_ne (Ne.symm hwu)]

def pending (edges : List (α × α)) (done : List α) (w : α) : Nat := edges.countP fun e => e.2 = w ∧ e.1 ∉ done

lemma pending_cons {done : List α} (hv : v ∉ done) (w : α) :
    pending edges done w = pending edges (v :: done) w + (succs edges v).count w := by
  induction edges with
  | nil => simp [pending, succs]
  | cons => grind [pending, succs]

lemma pending_eq_zero {done : List α} : pending edges done w = 0 ↔ ∀ u, (u, w) ∈ edges → u ∈ done := by
  simp only [pending, countP_eq_zero, Prod.forall, decide_eq_true_eq, not_and, not_not]
  grind

structure Inv (nodes : Finset α) (edges : List (α × α)) (deg : HashMap α Nat)
    (queue done : List α) : Prop where
  degs : ∀ w ∈ nodes, deg.lookup w = some (pending edges done w)
  nodup : (done ++ queue).Nodup
  ready : ∀ w, w ∈ done ++ queue ↔ w ∈ nodes ∧ pending edges done w = 0
  acc : ∀ w ∈ done, Acc (fun a b => (a, b) ∈ edges) w

variable {ns : Finset α} {deg : HashMap α Nat} {queue done : List α}

lemma Inv.length_le (h : Inv ns edges deg queue done) : done.length + queue.length ≤ ns.card := by
  rw [← length_append, ← toFinset_card_of_nodup h.nodup]
  exact Finset.card_le_card fun w hw => ((h.ready w).mp (List.mem_toFinset.mp hw)).1

lemma Inv.step (he : ∀ e ∈ edges, e.1 ∈ ns ∧ e.2 ∈ ns) (h : Inv ns edges deg (v :: queue) done) :
    ∃ deg' queue', (succs edges v).foldlM relax (deg, queue) = some (deg', queue') ∧
      Inv ns edges deg' queue' (v :: done) := by
  have hnd : v ∉ done ∧ v ∉ queue ∧ (done ++ queue).Nodup := by
    have := h.nodup; simp only [nodup_append, nodup_cons] at this; grind
  have hp := @pending_cons α _ edges v done hnd.1; have hr := (h.ready v).mp (by simp)
  have hsu : ∀ w ∈ succs edges v, w ∈ ns := by grind [succs]
  obtain ⟨deg', fresh, hru, hl, hf, hm⟩ := relax_all (succs edges v) deg queue fun w hw =>
    ⟨_, h.degs w (hsu w hw), by have := hp w; omega⟩
  have hfr : ∀ w, w ∈ fresh ↔ w ∈ ns ∧ pending edges done w ≠ 0 ∧ pending edges (v :: done) w = 0 := by
    intro w; have hw := hp w; rw [hm]
    constructor
    · rintro ⟨hs, hd⟩; have := h.degs w (hsu w hs)
      simp only [this, Option.some.injEq] at hd; have := count_pos_iff.mpr hs
      exact ⟨hsu w hs, by omega, by omega⟩
    · rintro ⟨hn, h₁, h₂⟩
      exact ⟨count_pos_iff.mp (by omega), by rw [h.degs w hn]; congr 1; omega⟩
  refine ⟨deg', _, hru, fun w hw => ?_, ?_, fun w => ?_, fun w hw => ?_⟩
  · rw [hl w _ (h.degs w hw)]; have := hp w; congr 1
    omega
  · have hdi : ∀ w ∈ fresh, w ≠ v ∧ w ∉ done ∧ w ∉ queue := by
      intro w hw; have := (h.ready w).not.mpr (by have := (hfr w).mp hw; omega)
      simpa [and_left_comm] using this
    have := hnd.2.2
    simp only [cons_append, nodup_cons, nodup_append, mem_append] at this ⊢
    grind
  · have hold := h.ready w; have hw := hp w
    simp only [cons_append, mem_cons, mem_append, hfr] at hold ⊢
    by_cases hz : pending edges done w = 0
    · simp only [hz, and_true] at hold
      simp only [hz, ne_eq, not_true, false_and, and_false, or_false]
      have : pending edges (v :: done) w = 0 := by omega
      simp only [this, and_true, ← hold]
      tauto
    · simp only [hz, and_false, iff_false] at hold
      simp only [ne_eq, hz, not_false_iff, true_and]
      tauto
  · rcases mem_cons.mp hw with rfl | hw
    · exact ⟨_, fun u hu => h.acc u (pending_eq_zero.mp hr.2 u hu)⟩
    · exact h.acc w hw

lemma Inv.drain (he : ∀ e ∈ edges, e.1 ∈ ns ∧ e.2 ∈ ns) {fuel : Nat} :
    ∀ {deg queue done}, Inv ns edges deg queue done → ns.card ≤ fuel + done.length →
      ∃ deg' done', Kahn.drain (adjacency edges) fuel deg queue done.length = some done'.length ∧
        Inv ns edges deg' [] done' := by
  induction fuel with
  | zero =>
    intro deg queue done h hf; have := h.length_le
    obtain rfl : queue = [] := eq_nil_of_length_eq_zero (by omega)
    exact ⟨deg, done, rfl, h⟩
  | succ fuel ih =>
    intro deg queue done h hf
    cases queue with
    | nil => exact ⟨deg, done, by simp [Kahn.drain], h⟩
    | cons =>
      obtain ⟨deg', queue', hru, h'⟩ := h.step he
      obtain ⟨deg'', done', hr, hen⟩ := ih h' (by simp; omega)
      exact ⟨deg'', done', by simpa [Kahn.drain, lookup_adjacency, hru] using hr, hen⟩

omit [DecidableEq α] in
lemma acyclic_of_acc (h : ∀ w, (∃ u, (u, w) ∈ edges) → Acc (fun a b => (a, b) ∈ edges) w) :
    Acyclic edges := by
  intro w hw; obtain ⟨u, -, huw⟩ := Relation.TransGen.tail'_iff.mp hw
  have ha := (h w ⟨u, huw⟩).transGen; clear huw
  induction ha with
  | intro w _ ih => exact ih w hw hw

omit [DecidableEq α] in
lemma Acyclic.exists_minimal (h : Acyclic edges) {s : Finset α} (hs : s.Nonempty) :
    ∃ w ∈ s, ∀ u ∈ s, (u, w) ∉ edges := by
  let r (a b : s) : Prop := Relation.TransGen (fun a b => (a, b) ∈ edges) a.1 b.1
  have : IsTrans s r := ⟨fun _ _ _ => Relation.TransGen.trans⟩
  have : Std.Irrefl r := ⟨fun a => h a.1⟩; obtain ⟨w, hw⟩ := hs
  obtain ⟨w, -, hm⟩ := (Finite.wellFounded_of_trans_of_irrefl r).has_min Set.univ ⟨⟨w, hw⟩, trivial⟩
  exact ⟨w.1, w.2, fun u hu he => hm ⟨u, hu⟩ trivial (.single he)⟩

lemma Inv.visited_all_iff (he : ∀ e ∈ edges, e.1 ∈ ns ∧ e.2 ∈ ns) (h : Inv ns edges deg [] done) :
    done.length = ns.card ↔ Acyclic edges := by
  have hnd : done.Nodup := by simpa using h.nodup
  have hr : ∀ w, w ∈ done ↔ w ∈ ns ∧ pending edges done w = 0 := by simpa using h.ready
  have hs : done.toFinset ⊆ ns := fun w hw => ((hr w).mp (List.mem_toFinset.mp hw)).1
  rw [← toFinset_card_of_nodup hnd]; constructor
  · intro hc; have ha := Finset.eq_of_subset_of_card_le hs hc.ge
    exact acyclic_of_acc fun w ⟨u, hu⟩ => h.acc w (List.mem_toFinset.mp (ha ▸ (he _ hu).2))
  · intro hac; by_contra hne; have hl : (ns \ done.toFinset).Nonempty := by grind
    obtain ⟨w, hw, hm⟩ := hac.exists_minimal hl
    simp only [Finset.mem_sdiff, List.mem_toFinset] at hw hm
    refine hw.2 ((hr w).mpr ⟨hw.1, pending_eq_zero.mpr fun u hu => ?_⟩); by_contra hu'
    grind

lemma drain_eq (hns : ∀ v, v ∈ nodes ↔ v ∈ ns) (hed : ∀ e ∈ edges, e.1 ∈ ns ∧ e.2 ∈ ns)
    (hit : Lists it (inDegrees nodes edges)) :
    ∃ n, drain (adjacency edges) ns.card (inDegrees nodes edges) ((it.filter (·.2 = 0)).map Sigma.fst) 0 =
      some n ∧ (n = ns.card ↔ Acyclic edges) := by
  have hd : ∀ w ∈ ns, (inDegrees nodes edges).lookup w = some (pending edges [] w) := fun w hw => by
    simpa [pending] using lookup_inDegrees ((hns w).mpr hw)
  have hi : Inv ns edges (inDegrees nodes edges) ((it.filter (·.2 = 0)).map Sigma.fst) [] := by
    refine ⟨hd, ?_, fun w => ?_, by simp⟩
    · exact (filter_sublist.map Sigma.fst).nodup hit.nodup_keys
    · have hw : w ∈ (it.filter (·.2 = 0)).map Sigma.fst ↔ (inDegrees nodes edges).lookup w = some 0 := by
        rw [← hit.mem_iff]; simp
      rw [nil_append, hw]; refine ⟨fun h => ?_, fun h => by rw [hd w h.1, h.2]⟩
      have hm : w ∈ ns := by
        rcases mem_of_mem_inDegrees (Finmap.mem_iff.mpr ⟨_, h⟩) with hn | ⟨e, he, rfl⟩
        · exact (hns w).mp hn
        · exact (hed e he).2
      grind
  obtain ⟨deg', done', hr, hen⟩ := hi.drain hed (Nat.le_add_right _ _)
  exact ⟨_, hr, hen.visited_all_iff hed⟩

end Aeon.Core.Kahn
