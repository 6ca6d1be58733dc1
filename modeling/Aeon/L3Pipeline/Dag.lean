import Aeon.Core.Kahn

/-!
# The topology check

`DagGraph` of `crates/aeon-engine/src/dag.rs`, built by `add_node` and `add_edge`.

* `validate_exact`: in every order of its hash maps `validate` returns, and `Ok` for exactly the
  acyclic graphs that satisfy the four rules.
-/
namespace Aeon.L3.Dag

open Aeon.Core

/-- mirrors dag.rs:24-29 -/
inductive NodeKind
  | source
  | processor
  | sink
  | router
  deriving DecidableEq

/-- mirrors dag.rs:35-38 -/
structure DagGraph where
  nodes : HashMap String NodeKind
  edges : List (String × String)
  closed : ∀ e ∈ edges, e.1 ∈ nodes.keys ∧ e.2 ∈ nodes.keys

namespace DagGraph

/-- mirrors dag.rs:41-46 -/
def new : DagGraph := ⟨∅, [], by simp⟩

/-- mirrors dag.rs:49-55 -/
def addNode (g : DagGraph) (name : String) (kind : NodeKind) : Except String DagGraph :=
  if name ∈ g.nodes then .error s!"duplicate node name: '{name}'"
  else .ok ⟨g.nodes.insert name kind, g.edges, fun e he => by
    have := g.closed e he
    simp only [Finmap.mem_keys, Finmap.mem_insert] at this ⊢
    exact ⟨.inr this.1, .inr this.2⟩⟩

/-- mirrors dag.rs:58-71 -/
def addEdge (g : DagGraph) (src dst : String) : Except String DagGraph :=
  if hs : src ∈ g.nodes then
    if hd : dst ∈ g.nodes then
      .ok ⟨g.nodes, g.edges ++ [(src, dst)], fun e he => by
        rcases List.mem_append.mp he with he | he
        · exact g.closed e he
        · obtain rfl := List.mem_singleton.mp he
          exact ⟨Finmap.mem_keys.mpr hs, Finmap.mem_keys.mpr hd⟩⟩
    else .error s!"unknown node in edge target: '{dst}'"
  else .error s!"unknown node in edge source: '{src}'"

structure Orders (g : DagGraph) where
  nodes : Listing String NodeKind
  degrees : Listing String Nat
  nodes_lists : Lists nodes g.nodes
  degrees_lists : Lists degrees (Kahn.inDegrees (nodes.map Sigma.fst) g.edges)

instance (g : DagGraph) : Nonempty g.Orders := by
  obtain ⟨nodes, hn⟩ := Lists.exists_listing g.nodes
  obtain ⟨degrees, hd⟩ := Lists.exists_listing (Kahn.inDegrees (nodes.map Sigma.fst) g.edges)
  exact ⟨⟨nodes, degrees, hn, hd⟩⟩

variable (g : DagGraph) (o : g.Orders)

/-- mirrors dag.rs:112-158 -/
def detectCycles : Option (Except String Unit) := do
  let queue := (o.degrees.filter (·.2 = 0)).map Sigma.fst
  let visited ← Kahn.drain (Kahn.adjacency g.edges) g.nodes.keys.card
    (Kahn.inDegrees (o.nodes.map Sigma.fst) g.edges) queue 0
  return if visited ≠ g.nodes.keys.card then .error "DAG contains a cycle" else .ok ()

/-- mirrors dag.rs:74-109 -/
def validate : Option (Except String Unit) :=
  let incoming := g.edges.map Prod.snd
  let outgoing := g.edges.map Prod.fst
  if ¬ o.nodes.any (·.2 = .source) then some (.error "DAG has no source nodes")
  else if ¬ o.nodes.any (·.2 = .sink) then some (.error "DAG has no sink nodes")
  else match o.nodes.find? fun n => n.2 = .source ∧ n.1 ∈ incoming with
  | some n => some (.error s!"source node '{n.1}' has incoming edges")
  | none =>
    match o.nodes.find? fun n => n.2 = .sink ∧ n.1 ∈ outgoing with
    | some n => some (.error s!"sink node '{n.1}' has outgoing edges")
    | none => g.detectCycles o

structure Valid : Prop where
  source : ∃ v, g.nodes.lookup v = some .source
  sink : ∃ v, g.nodes.lookup v = some .sink
  sources : ∀ u v, (u, v) ∈ g.edges → g.nodes.lookup v ≠ some .source
  sinks : ∀ u v, (u, v) ∈ g.edges → g.nodes.lookup u ≠ some .sink
  acyclic : Kahn.Acyclic g.edges

variable {g o}

lemma detectCycles_eq : g.detectCycles o = some (.ok ()) ∧ Kahn.Acyclic g.edges ∨
    g.detectCycles o = some (.error "DAG contains a cycle") ∧ ¬ Kahn.Acyclic g.edges := by
  have hno : ∀ v, v ∈ o.nodes.map Sigma.fst ↔ v ∈ g.nodes.keys := fun v => by
    rw [Finmap.mem_keys, Finmap.mem_iff]; simp [← o.nodes_lists.mem_iff]
  obtain ⟨n, hr, hn⟩ := Kahn.drain_eq hno g.closed o.degrees_lists
  simp only [detectCycles, hr, Option.bind_eq_bind, Option.bind_some]; grind

lemma any_kind (k : NodeKind) : o.nodes.any (·.2 = k) = true ↔ ∃ v, g.nodes.lookup v = some k := by
  simp [List.any_eq_true, ← o.nodes_lists.mem_iff]

lemma find_kind (k : NodeKind) (names : List String) :
    o.nodes.find? (fun n => n.2 = k ∧ n.1 ∈ names) = none ↔ ∀ v ∈ names, g.nodes.lookup v ≠ some k := by
  simp only [List.find?_eq_none, ne_eq, ← o.nodes_lists.mem_iff, decide_eq_true_eq, not_and]
  grind

/-- **Validation is exact.** -/
theorem validate_exact (g : DagGraph) (o : g.Orders) :
    (g.validate o).isSome ∧ (g.validate o = some (.ok ()) ↔ g.Valid) := by
  have hs := any_kind (o := o) .source; have hsi := any_kind (o := o) .sink
  have hin := find_kind (o := o) .source (g.edges.map Prod.snd)
  have ho := find_kind (o := o) .sink (g.edges.map Prod.fst)
  have hv : g.Valid ↔ (∃ v, g.nodes.lookup v = some .source) ∧ (∃ v, g.nodes.lookup v = some .sink) ∧
      (∀ v ∈ g.edges.map Prod.snd, g.nodes.lookup v ≠ some .source) ∧
      (∀ v ∈ g.edges.map Prod.fst, g.nodes.lookup v ≠ some .sink) ∧ Kahn.Acyclic g.edges := by
    simp only [List.forall_mem_map, Prod.forall]
    exact ⟨fun ⟨h₁, h₂, h₃, h₄, h₅⟩ => ⟨h₁, h₂, h₃, h₄, h₅⟩, fun ⟨h₁, h₂, h₃, h₄, h₅⟩ => ⟨h₁, h₂, h₃, h₄, h₅⟩⟩
  rw [hv, ← hs, ← hsi, ← hin, ← ho]; simp only [validate]
  generalize o.nodes.any (·.2 = .source) = b₁, o.nodes.any (·.2 = .sink) = b₂,
    o.nodes.find? (fun n => decide (n.2 = .source ∧ n.1 ∈ g.edges.map Prod.snd)) = f₁,
    o.nodes.find? (fun n => decide (n.2 = .sink ∧ n.1 ∈ g.edges.map Prod.fst)) = f₂
  rcases detectCycles_eq (o := o) with ⟨h, hac⟩ | ⟨h, hac⟩ <;>
    cases b₁ <;> cases b₂ <;> cases f₁ <;> cases f₂ <;> simp [h, hac]

end DagGraph

end Aeon.L3.Dag
