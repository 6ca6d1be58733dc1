import Aeon.Core.LTS
import Aeon.Core.HashMap
import Aeon.Core.LinearMemory
import Aeon.L3Transport.Identity

/-!
# The host of a Wasm guest

`WasmProcessor::process` (`crates/aeon-wasm/src/processor.rs`) and the imports of `runtime.rs`. The
guest is any sequence of acts that cost fuel. A panic poisons the lock; a failed allocation
(`Host.reserve`) ends the process.

* `isSome_call_iff`: an import panics iff it is passed a range outside of the memory;
* `guest_isolated`: when every call returns, within its fuel, and leaves the lock as it was;
* `guest_escapes`: what happens otherwise.
-/
namespace Aeon.L3.WasmHost

open List Option Aeon.Core Aeon.Types Aeon.L3.BatchWire Aeon.L3.Identity

abbrev I32 := BitVec 32

/-- mirrors runtime.rs:20-42 -/
structure WasmConfig where
  maxFuel : Option Nat := some 1000000
  maxMemoryBytes : Nat := 64 * 1024 * 1024
  ns : String := "default"

inductive Func
  | alloc
  | process
  | dealloc

def Func.name : Func → String
  | .alloc => "alloc"
  | .process => "process"
  | .dealloc => "dealloc"

structure WasmModule where
  config : WasmConfig
  exportsMemory : Bool
  missing : Func → Option String
  growLimit : Nat
  outOfFuel : String

/-- mirrors runtime.rs:44-54 -/
structure HostState where
  state : HashMap Bytes Bytes
  logs : List (String × String) := []
  metrics : List (String × Float) := []

structure WasmInstance where
  memory : Memory
  host : HostState

variable (H : Host) (M : WasmModule)

def prefixedKey (ns : String) (key : Bytes) : Bytes := utf8Bytes ns ++ 58 :: key

namespace WasmInstance

variable (inst : WasmInstance)

variable (ptr len : I32)

/-- mirrors runtime.rs:386-396 -/
def readBytesFromCaller : Option Bytes :=
  if M.exportsMemory then inst.memory.read? (usize ptr) (usize len) else some []

/-- mirrors runtime.rs:398-408 -/
def readStringFromCaller : Option String :=
  if M.exportsMemory then (inst.memory.read? (usize ptr) (usize len)).map H.lossy else some "<no memory>"

variable (keyPtr keyLen : I32)

def stored : Option Bytes := (inst.readBytesFromCaller M keyPtr keyLen).bind fun key =>
    inst.host.state.lookup (prefixedKey M.config.ns key)

/-- mirrors runtime.rs:226-257 -/
def stateGet (outPtr outMaxLen : I32) : Option (WasmInstance × I32) :=
  (inst.readBytesFromCaller M keyPtr keyLen).bind fun key =>
    match inst.host.state.lookup (prefixedKey M.config.ns key) with
    | none => some (inst, -1)
    | some value =>
      let copyLen := min value.length (usize outMaxLen)
      if M.exportsMemory then
        (inst.memory.write? (usize outPtr) (value.take copyLen)).map fun memory =>
          ({ inst with memory }, BitVec.ofNat 32 copyLen)
      else some (inst, BitVec.ofNat 32 copyLen)

/-- mirrors runtime.rs:261-279 -/
def statePut (valPtr valLen : I32) : Option WasmInstance :=
  (inst.readBytesFromCaller M keyPtr keyLen).bind fun key =>
    (inst.readBytesFromCaller M valPtr valLen).map fun value =>
      { inst with host.state := inst.host.state.insert (prefixedKey M.config.ns key) value }

/-- mirrors runtime.rs:282-296 -/
def stateDelete : Option WasmInstance :=
  (inst.readBytesFromCaller M keyPtr keyLen).map fun key =>
    { inst with host.state := inst.host.state.erase (prefixedKey M.config.ns key) }

def log (level : String) (ptr len : I32) : Option WasmInstance :=
  (inst.readStringFromCaller H M ptr len).map fun msg =>
    { inst with host.logs := inst.host.logs ++ [(level, msg)] }

/-- mirrors runtime.rs:299-309 -/
def logInfo : Option WasmInstance := inst.log H M "info" ptr len

/-- mirrors runtime.rs:311-321 -/
def logWarn : Option WasmInstance := inst.log H M "warn" ptr len

/-- mirrors runtime.rs:323-333 -/
def logError : Option WasmInstance := inst.log H M "error" ptr len

def metric (value : Float) : Option WasmInstance :=
  (inst.readStringFromCaller H M ptr len).map fun name =>
    { inst with host.metrics := inst.host.metrics ++ [(name, value)] }

/-- mirrors runtime.rs:346-355 -/
def metricsCounterInc (delta : BitVec 64) : Option WasmInstance :=
  inst.metric H M ptr len (Float.ofInt delta.toInt)

/-- mirrors runtime.rs:357-366 -/
def metricsGaugeSet (value : Float) : Option WasmInstance := inst.metric H M ptr len value

end WasmInstance

inductive Import
  | stateGet (keyPtr keyLen outPtr outMaxLen : I32)
  | statePut (keyPtr keyLen valPtr valLen : I32)
  | stateDelete (keyPtr keyLen : I32)
  | logInfo (ptr len : I32)
  | logWarn (ptr len : I32)
  | logError (ptr len : I32)
  | clockNowMs
  | metricsCounterInc (ptr len : I32) (delta : BitVec 64)
  | metricsGaugeSet (ptr len : I32) (value : Float)
  | abort (msgPtr filePtr line col : I32)

/-- mirrors runtime.rs:223-383 -/
def WasmInstance.call (inst : WasmInstance) : Import → Option WasmInstance
  | .stateGet keyPtr keyLen outPtr outMaxLen => (inst.stateGet M keyPtr keyLen outPtr outMaxLen).map Prod.fst
  | .statePut keyPtr keyLen valPtr valLen => inst.statePut M keyPtr keyLen valPtr valLen
  | .stateDelete keyPtr keyLen => inst.stateDelete M keyPtr keyLen
  | .logInfo ptr len => inst.logInfo H M ptr len
  | .logWarn ptr len => inst.logWarn H M ptr len
  | .logError ptr len => inst.logError H M ptr len
  | .clockNowMs => some inst
  | .metricsCounterInc ptr len delta => inst.metricsCounterInc H M ptr len delta
  | .metricsGaugeSet ptr len value => inst.metricsGaugeSet H M ptr len value
  | .abort _ _ _ _ => some inst

inductive Result
  | returned (out : Except String (List FullOutput))
  | panicked
  | aborted
  deriving DecidableEq

def Result.isReturned : Result → Bool
  | .returned _ => true
  | _ => false

inductive Stage
  | idle
  | alloc (event : Event) (size : I32)
  | process (event : Event) (ptr len : I32)
  | dealloc (event : Event) (result : Bytes) (args : I32 × I32) (next : Option (I32 × I32))
  | aborted

def Stage.rank : Stage → Nat
  | .idle => 0
  | .alloc _ _ => 4
  | .process _ _ _ => 3
  | .dealloc _ _ _ (some _) => 2
  | .dealloc _ _ _ none => 1
  | .aborted => 0

structure State where
  inst : WasmInstance
  fuel : Nat
  used : Nat := 0
  poisoned : Bool := false
  stage : Stage := .idle
  results : List Result := []

namespace State

variable (s : State)

def finish (r : Result) : State := { s with stage := .idle, results := s.results ++ [r] }

def err (msg : String) : State := s.finish (.returned (.error msg))

def panicked : State := { s.finish .panicked with poisoned := true }

def crashed : State := { s with stage := .aborted, results := s.results ++ [.aborted] }

/-- mirrors runtime.rs:154-174 -/
def enter (f : Func) (stage : Stage) : State :=
  match M.missing f with
  | none => { s with stage }
  | some e => s.err ("function '" ++ f.name ++ "' not found: " ++ e)

/-- mirrors processor.rs:64-80 -/
def start (event : Event) : State :=
  if s.poisoned then s.err "lock poisoned: poisoned lock: another task failed inside"
  else
    { s with fuel := M.config.maxFuel.getD s.fuel, used := 0 }.enter M .alloc
      (.alloc event (BitVec.ofNat 32 (serializeEvent event).length))

/-- mirrors processor.rs:99, 148-230 -/
def deserialize (event : Event) (result : Bytes) : State :=
  match deserializeOutputs H result event with
  | none => s.crashed
  | some outcome => s.finish (.returned outcome)

/-- mirrors processor.rs:80-84 and runtime.rs:176-185 -/
def allocated (event : Event) (guestPtr : I32) : State :=
  if M.exportsMemory then
    match s.inst.memory.write? (usize guestPtr) (serializeEvent event) with
    | none => s.panicked
    | some memory =>
      { s with inst := { s.inst with memory } }.enter M .process
        (.process event guestPtr (BitVec.ofNat 32 (serializeEvent event).length))
  else s.err "guest has no 'memory' export"

/-- mirrors processor.rs:87-92 -/
def readResult (resultPtr : I32) : Option Bytes :=
  (s.inst.memory.read? (usize resultPtr) 4).bind fun lenBytes =>
    s.inst.memory.read? ((usize resultPtr + 4) % 2 ^ 64) (leVal lenBytes)

/-- mirrors processor.rs:86-99 -/
def processed (event : Event) (guestPtr len resultPtr : I32) : State :=
  if M.exportsMemory then
    match s.readResult resultPtr with
    | none => s.panicked
    | some result =>
      if M.missing .dealloc = none then
        let next := (resultPtr, BitVec.ofNat 32 (result.length + 4))
        { s with stage := .dealloc event result (guestPtr, len) (some next) }
      else s.deserialize H event result
  else s.err "guest has no 'memory' export"

def deallocated (event : Event) (result : Bytes) : Option (I32 × I32) → State
  | some args => { s with stage := .dealloc event result args none }
  | none => s.deserialize H event result

def ret (v : I32) : Option State :=
  match s.stage with
  | .alloc event _ => some (s.allocated M event v)
  | .process event ptr len => some (s.processed H M event ptr len v)
  | .dealloc event result _ next => some (s.deallocated H event result next)
  | _ => none

def trap (e : String) : Option State :=
  match s.stage with
  | .alloc _ _ => some (s.err ("call 'alloc' failed: " ++ e))
  | .process _ _ _ => some (s.err ("call 'process' failed: " ++ e))
  | .dealloc event result _ next => some (s.deallocated H event result next)
  | _ => none

def spend (cost : Nat) : Option State :=
  if M.config.maxFuel.isSome then
    if cost ≤ s.fuel then some { s with fuel := s.fuel - cost, used := s.used + cost } else none
  else some { s with used := s.used + cost }

end State

inductive Act
  | store (data : Nat → UInt8)
  | grow (pages : Nat)
  | call (i : Import)

def State.perform (s : State) : Act → State
  | .store data => { s with inst := { s.inst with memory := s.inst.memory.store data } }
  | .grow pages => { s with inst := { s.inst with memory := s.inst.memory.grow (pages * 65536) M.growLimit } }
  | .call i =>
    match s.inst.call H M i with
    | none => s.panicked
    | some inst => { s with inst }

inductive Label
  | call (event : Event)
  | act (cost : Nat) (a : Act)
  | ret (v : I32)
  | trap (e : String)

def Label.isCall : Label → Bool
  | .call _ => true
  | _ => false

def step (s : State) : Label → Option State
  | .call event =>
    match s.stage with
    | .idle => some (s.start M event)
    | _ => none
  | .act cost a =>
    if 0 < s.stage.rank ∧ 0 < cost then
      match s.spend M cost with
      | none => { s with fuel := 0, used := s.used + s.fuel }.trap H M.outOfFuel
      | some s' => some (s'.perform H M a)
    else none
  | .ret v => s.ret H M v
  | .trap e => s.trap H e

structure Fresh (s : State) : Prop where
  idle : s.stage = .idle
  unlocked : s.poisoned = false
  results : s.results = []
  used : s.used = 0
  fuel : ∀ max, M.config.maxFuel = some max → s.fuel ≤ max

def system : LTS State Label := LTS.ofFn (Fresh M) (step H M)

def WasmInstance.Passes (inst : WasmInstance) (ptr : I32) (n : Nat) : Prop :=
  M.exportsMemory = true → inst.memory.Holds ptr n
  deriving Decidable

def Import.Within (inst : WasmInstance) : Import → Prop
  | .stateGet keyPtr keyLen outPtr outMaxLen =>
    inst.Passes M keyPtr (usize keyLen) ∧
      ∀ value ∈ inst.stored M keyPtr keyLen, inst.Passes M outPtr (min value.length (usize outMaxLen))
  | .statePut keyPtr keyLen valPtr valLen =>
    inst.Passes M keyPtr (usize keyLen) ∧ inst.Passes M valPtr (usize valLen)
  | .stateDelete ptr len | .logInfo ptr len | .logWarn ptr len | .logError ptr len
  | .metricsCounterInc ptr len _ | .metricsGaugeSet ptr len _ => inst.Passes M ptr (usize len)
  | .clockNowMs | .abort _ _ _ _ => True

def Reservable (result : Bytes) : Prop := 4 ≤ result.length → H.reserve (leVal (result.take 4)) = true
  deriving Decidable

def Stage.Accepts (inst : WasmInstance) (v : I32) : Stage → Prop
  | .alloc event _ => inst.Passes M v (serializeEvent event).length
  | .process _ _ _ =>
    inst.Passes M v (4 + inst.memory.word (usize v)) ∧
      (M.exportsMemory = true → Reservable H (inst.memory.slice (usize v + 4) (inst.memory.word (usize v))))
  | _ => True

def Allowed (s : State) : Label → Prop
  | .act _ (.grow pages) => s.inst.memory.size + pages * 65536 ≤ M.config.maxMemoryBytes
  | .act _ (.call i) => i.Within M s.inst
  | .ret v => s.stage.Accepts H M s.inst v
  | _ => True

variable {H M} {s s' : State}

variable {inst : WasmInstance}

variable {ptr len : I32}

lemma isSome_readBytes_iff :
    (inst.readBytesFromCaller M ptr len).isSome = true ↔ inst.Passes M ptr (usize len) := by
  unfold WasmInstance.readBytesFromCaller WasmInstance.Passes; split_ifs with he
  · rw [Memory.isSome_read? (Memory.usize_lt len), forall_prop_of_true he]
  grind

lemma isSome_readString_iff :
    (inst.readStringFromCaller H M ptr len).isSome = true ↔ inst.Passes M ptr (usize len) := by
  unfold WasmInstance.readStringFromCaller WasmInstance.Passes; split_ifs with he
  · rw [isSome_map, Memory.isSome_read? (Memory.usize_lt len), forall_prop_of_true he]
  grind

lemma isSome_stateGet_iff {keyPtr keyLen outPtr outMaxLen : I32} :
    (inst.stateGet M keyPtr keyLen outPtr outMaxLen).isSome = true ↔
      (Import.stateGet keyPtr keyLen outPtr outMaxLen).Within M inst := by
  simp only [Import.Within, ← isSome_readBytes_iff]
  unfold WasmInstance.stateGet WasmInstance.stored
  cases hk : inst.readBytesFromCaller M keyPtr keyLen with
  | none => simp
  | some key =>
    simp only [bind_some, isSome_some, true_and]
    cases inst.host.state.lookup (prefixedKey M.config.ns key) with
    | none => simp only [isSome_some, true_iff]; intro value hv; cases hv
    | some =>
      simp only [mem_some_iff, forall_eq']; unfold WasmInstance.Passes
      split_ifs with he
      · rw [isSome_map, Memory.isSome_write?, length_take, forall_prop_of_true he, min_comm, ← min_assoc,
          min_self]
      grind

lemma isSome_statePut_iff {keyPtr keyLen valPtr valLen : I32} :
    (inst.statePut M keyPtr keyLen valPtr valLen).isSome = true ↔
      (Import.statePut keyPtr keyLen valPtr valLen).Within M inst := by
  simp only [Import.Within, ← isSome_readBytes_iff]; unfold WasmInstance.statePut
  cases inst.readBytesFromCaller M keyPtr keyLen with
  | none | some => simp

lemma isSome_log_iff {level : String} :
    (inst.log H M level ptr len).isSome = true ↔ inst.Passes M ptr (usize len) := by
  rw [WasmInstance.log, isSome_map, isSome_readString_iff]

lemma isSome_metric_iff {value : Float} :
    (inst.metric H M ptr len value).isSome = true ↔ inst.Passes M ptr (usize len) := by
  rw [WasmInstance.metric, isSome_map, isSome_readString_iff]

lemma isSome_call_iff (i : Import) : (inst.call H M i).isSome = true ↔ i.Within M inst := by
  cases i with
  | stateGet =>
    rw [WasmInstance.call, isSome_map]; exact isSome_stateGet_iff
  | statePut => exact isSome_statePut_iff
  | stateDelete =>
    rw [WasmInstance.call, WasmInstance.stateDelete, isSome_map]
    exact isSome_readBytes_iff
  | logInfo | logWarn | logError => exact isSome_log_iff
  | clockNowMs => exact ⟨fun _ => trivial, fun _ => rfl⟩
  | metricsCounterInc | metricsGaugeSet => exact isSome_metric_iff
  | abort => exact ⟨fun _ => trivial, fun _ => rfl⟩

lemma size_of_call {inst inst' : WasmInstance} (h : inst.call H M i = some inst') :
    inst'.memory.size = inst.memory.size := by
  have hh : ∀ {α : Type} {o : Option α} {f : α → HostState},
      (o.map fun a => { inst with host := f a }) = some inst' → inst'.memory.size = inst.memory.size := by
    intro α o f ho; obtain ⟨a, -, rfl⟩ := map_eq_some_iff.mp ho; rfl
  cases i with
  | stateGet =>
    obtain ⟨⟨inst₁, answer⟩, hg, rfl⟩ := map_eq_some_iff.mp h
    obtain ⟨key, -, hg⟩ := bind_eq_some_iff.mp hg; split at hg
    · cases hg; rfl
    · split at hg
      · obtain ⟨memory, hw, hm⟩ := map_eq_some_iff.mp hg; cases hm
        exact Memory.write?_size hw
      · cases hg; rfl
  | statePut => obtain ⟨key, -, hv⟩ := bind_eq_some_iff.mp h; exact hh hv
  | stateDelete | logInfo | logWarn | logError | metricsCounterInc | metricsGaugeSet => exact hh h
  | clockNowMs | abort => cases h; rfl

def Stage.busy (g : Stage) : Nat := if 0 < g.rank then 1 else 0

structure Moves (s s' : State) : Prop where
  fuel : s'.fuel = s.fuel
  used : s'.used = s.used
  rank : s'.stage.rank < s.stage.rank
  results : s'.results.length + s'.stage.busy = s.results.length + 1

section Moves

variable (h : 0 < s.stage.rank)

include h

lemma Moves.finish (r : Result) : Moves s (s.finish r) := ⟨rfl, rfl, h, length_append⟩

lemma Moves.panicked : Moves s s.panicked := ⟨rfl, rfl, h, length_append⟩

lemma Moves.crashed : Moves s s.crashed := ⟨rfl, rfl, h, length_append⟩

lemma Moves.deserialize (event : Event) (result : Bytes) : Moves s (s.deserialize H event result) := by
  unfold State.deserialize; split
  · exact .crashed h
  · exact .finish h _

omit h in
lemma Moves.next {stage : Stage} (hr : 0 < stage.rank) (hlt : stage.rank < s.stage.rank) :
    Moves s { s with stage } :=
  ⟨rfl, rfl, hlt, by simp only [Stage.busy, if_pos hr]⟩

lemma Moves.enter (f : Func) (stage : Stage) (hr : 0 < stage.rank) (hlt : stage.rank < s.stage.rank) :
    Moves s (s.enter M f stage) := by
  unfold State.enter; split
  · exact .next hr hlt
  · exact .finish h _

end Moves

lemma Moves.allocated {event : Event} {size : I32} (hs : s.stage = .alloc event size) (v : I32) :
    Moves s (s.allocated M event v) := by
  have hr : s.stage.rank = 4 := by rw [hs]; rfl
  unfold State.allocated; split
  · split
    · exact .panicked (by omega)
    · rename_i memory hm
      have h := Moves.enter (M := M) (s := { s with inst := { s.inst with memory } })
        (show 0 < s.stage.rank by omega) .process
        (.process event v (BitVec.ofNat 32 (serializeEvent event).length)) (Nat.zero_lt_succ 2)
          (hr ▸ Nat.lt_add_one 3)
      exact ⟨h.fuel, h.used, h.rank, h.results⟩
  · exact .finish (by omega) _

lemma Moves.processed {event : Event} (hs : s.stage = .process event ptr len) (v : I32) :
    Moves s (s.processed H M event ptr len v) := by
  have hr : s.stage.rank = 3 := by rw [hs]; rfl
  unfold State.processed; split
  · split
    · exact .panicked (by omega)
    · split
      · exact .next (Nat.zero_lt_succ 1) (hr ▸ Nat.lt_add_one 2)
      · exact .deserialize (by omega) event _
  · exact .finish (by omega) _

variable {result : Bytes}

lemma Moves.deallocated {event : Event} {args : I32 × I32} {next : Option (I32 × I32)}
    (hs : s.stage = .dealloc event result args next) :
    Moves s (s.deallocated H event result next) := by
  cases next with
  | some => exact .next (Nat.zero_lt_succ 0) (by rw [hs]; exact Nat.lt_add_one 1)
  | none => exact .deserialize (by rw [hs]; exact Nat.zero_lt_succ 0) event result

lemma moves_of_ret (h : s.ret H M v = some s') : Moves s s' := by
  unfold State.ret at h; split at h
  · obtain rfl := Option.some.inj h; exact .allocated ‹_› v
  · obtain rfl := Option.some.inj h; exact .processed ‹_› v
  · obtain rfl := Option.some.inj h; exact .deallocated ‹_›
  · cases h

lemma moves_of_trap (h : s.trap H e = some s') : Moves s s' := by
  unfold State.trap at h; split at h
  · rename_i hs
    obtain rfl := Option.some.inj h; exact .finish (by rw [hs]; exact Nat.zero_lt_succ 3) _
  · rename_i hs
    obtain rfl := Option.some.inj h; exact .finish (by rw [hs]; exact Nat.zero_lt_succ 2) _
  · obtain rfl := Option.some.inj h; exact .deallocated ‹_›
  · cases h

lemma perform_cases (s : State) (a : Act) :
    s.perform H M a = s.panicked ∨ ∃ inst, s.perform H M a = { s with inst } := by
  cases a with
  | store | grow => exact .inr ⟨_, rfl⟩
  | call i =>
    cases hc : s.inst.call H M i with
    | none => exact .inl (by simp only [State.perform, hc])
    | some inst => exact .inr ⟨inst, by simp only [State.perform, hc]⟩

lemma spend_cases {cost : Nat} (h : s.spend M cost = some t) : ∃ fuel used, t = { s with fuel, used } ∧
      (M.config.maxFuel.isSome = true → fuel + cost = s.fuel ∧ used = s.used + cost) := by grind [State.spend]

structure Ran (M : WasmModule) (s s' : State) : Prop where
  running : 0 < s.stage.rank
  results : s'.results.length + s'.stage.busy = s.results.length + 1
  spent : M.config.maxFuel.isSome = true → s'.used + s'.fuel = s.used + s.fuel
  less : M.config.maxFuel.isSome = true → s'.fuel + s'.stage.rank < s.fuel + s.stage.rank

lemma Moves.ran (h : Moves s s') : Ran M s s' where
  running := (Nat.zero_le _).trans_lt h.rank
  results := h.results
  spent _ := by rw [h.used, h.fuel]
  less _ := by rw [h.fuel]; exact Nat.add_lt_add_left h.rank _

lemma Ran.perform {fuel used cost : Nat} (hr : 0 < s.stage.rank) (hc : 0 < cost)
    (hp : M.config.maxFuel.isSome = true → fuel + cost = s.fuel ∧ used = s.used + cost) (a : Act) :
    Ran M s ({ s with fuel, used }.perform H M a) := by
  rcases perform_cases (H := H) (M := M) { s with fuel, used } a with hpa | ⟨inst, hi⟩
  · rw [hpa]; have h := Moves.panicked (s := { s with fuel, used }) hr
    refine ⟨hr, h.results, fun hm => ?_, fun hm => ?_⟩
    · obtain ⟨hf, hu⟩ := hp hm; show used + fuel = s.used + s.fuel; omega
    · obtain ⟨hf, hu⟩ := hp hm; show fuel + 0 < s.fuel + s.stage.rank; omega
  · rw [hi]
    refine ⟨hr, by simp only [Stage.busy, if_pos hr], fun hm => ?_, fun hm => ?_⟩
    · obtain ⟨hf, hu⟩ := hp hm; show used + fuel = s.used + s.fuel; omega
    · obtain ⟨hf, hu⟩ := hp hm; show fuel + s.stage.rank < s.fuel + s.stage.rank; omega

lemma ran_of_act {cost : Nat} {a : Act} (hs : step H M s (.act cost a) = some s') : Ran M s s' := by
  unfold step at hs; simp only at hs; split_ifs at hs with hr
  cases hsp : s.spend M cost with
  | none =>
    rw [hsp] at hs; have h := moves_of_trap hs
    refine ⟨hr.1, h.results, fun _ => ?_, fun _ => ?_⟩
    · rw [h.used, h.fuel, Nat.add_zero]
    · rw [h.fuel]; exact Nat.add_lt_add_of_le_of_lt (Nat.zero_le _) h.rank
  | some =>
    rw [hsp] at hs; obtain ⟨fuel, used, rfl, hp⟩ := spend_cases hsp
    obtain rfl := Option.some.inj hs; exact Ran.perform hr.1 hr.2 hp a

lemma ran_of_step (hl : l.isCall = false) (hs : step H M s l = some s') : Ran M s s' := by
  cases l with
  | call => cases hl
  | act => exact ran_of_act hs
  | ret => exact (moves_of_ret hs).ran
  | trap => exact (moves_of_trap hs).ran

lemma step_call {event : Event} (hs : step H M s (.call event) = some s') :
    s.stage = .idle ∧ s' = s.start M event := by
  simp only [step] at hs; split at hs
  · rename_i hi
    grind
  · cases hs

lemma eq_call {l : Label} (h : l.isCall = true) : ∃ event, l = .call event := by
  cases l with
  | call event => exact ⟨event, rfl⟩
  | act | ret | trap => cases h

lemma start_of_unlocked (h : s.poisoned = false) (event : Event) :
    s.start M event = { s with fuel := M.config.maxFuel.getD s.fuel, used := 0 }.enter M .alloc
      (.alloc event (BitVec.ofNat 32 (serializeEvent event).length)) := by simp [h, State.start]

lemma enter_cases (s : State) (f : Func) (stage : Stage) :
    s.enter M f stage = { s with stage } ∨ ∃ msg, s.enter M f stage = s.err msg := by grind [State.enter]

lemma results_start (s : State) (event : Event) :
    (s.start M event).results.length + (s.start M event).stage.busy = s.results.length + 1 := by
  unfold State.start; split_ifs
  · exact length_append
  · rcases enter_cases (M := M) { s with fuel := M.config.maxFuel.getD s.fuel, used := 0 } .alloc
      (.alloc event (BitVec.ofNat 32 (serializeEvent event).length)) with h | ⟨msg, h⟩
    · rw [h]; rfl
    · rw [h]; exact length_append

variable {labels : List Label}

lemma one_result {s₀ : State} (hi : (system H M).init s₀) (hr : (system H M).Run s₀ labels s) :
    labels.countP Label.isCall = s.results.length + s.stage.busy := by
  refine hr.induct_labels (I := fun labels t => labels.countP Label.isCall = t.results.length + t.stage.busy)
    (by rw [hi.results, hi.idle]; rfl) (fun labels t l u ht hl => ?_)
  rw [countP_append, ht, countP_singleton]
  cases hc : l.isCall with
  | true =>
    obtain ⟨event, rfl⟩ := eq_call hc; obtain ⟨hid, rfl⟩ := step_call hl
    rw [results_start, hid]; rfl
  | false =>
    have h := ran_of_step hc hl
    rw [h.results, Stage.busy, if_pos h.running]; rfl

def Fueled (M : WasmModule) (s : State) : Prop := ∀ max, M.config.maxFuel = some max → s.used + s.fuel ≤ max

lemma Fueled.start (h : Fueled M s) (event : Event) : Fueled M (s.start M event) := by
  intro max hm; unfold State.start; split_ifs
  · exact h max hm
  · rcases enter_cases (M := M) { s with fuel := M.config.maxFuel.getD s.fuel, used := 0 } .alloc
      (.alloc event (BitVec.ofNat 32 (serializeEvent event).length)) with he | ⟨msg, he⟩ <;>
    · rw [he, hm]; exact (Nat.zero_add max).le

lemma Fueled.step {l : Label} (h : Fueled M s) (hs : step H M s l = some s') : Fueled M s' := by
  cases hc : l.isCall with
  | true => obtain ⟨event, rfl⟩ := eq_call hc; obtain ⟨-, rfl⟩ := step_call hs; exact h.start event
  | false =>
    intro max hm
    exact ((ran_of_step hc hs).spent (by rw [hm]; rfl)).trans_le (h max hm)

lemma used_add_fuel_le (hi : (system H M).init s₀) (hr : (system H M).Run s₀ labels s) : Fueled M s := by
  have hf : Fueled M s₀ := fun max hm => by rw [hi.used, Nat.zero_add]; exact hi.fuel max hm
  refine hr.induct (fun t l u ht hl => ?_) hf; exact ht.step hl

lemma steps_le (hm : M.config.maxFuel.isSome = true) (hg : ∀ l ∈ labels, l.isCall = false)
    (hr : (system H M).Run s labels s') :
    labels.length + (s'.fuel + s'.stage.rank) ≤ s.fuel + s.stage.rank := by
  induction hr with
  | nil => rw [length_nil, Nat.zero_add]
  | cons hst _ =>
    have hl := (ran_of_step (hg _ mem_cons_self) hst).less hm
    grind

lemma rank_le (g : Stage) : g.rank ≤ 4 := by unfold Stage.rank; split <;> decide

structure Inv (H : Host) (M : WasmModule) (s : State) : Prop where
  unlocked : s.poisoned = false
  returned : ∀ r ∈ s.results, r.isReturned = true
  memory : s.inst.memory.size ≤ M.config.maxMemoryBytes
  pending : ∀ event result args next, s.stage = .dealloc event result args next → Reservable H result

lemma Inv.finish (h : Inv H M s) (out : Except String (List FullOutput)) : Inv H M
    (s.finish (.returned out)) where
  unlocked := h.unlocked
  returned r hr := by
    rcases mem_append.mp hr with hr | hr
    · exact h.returned r hr
    · rw [mem_singleton.mp hr]; rfl
  memory := h.memory
  pending _ _ _ _ hs := by cases hs

lemma Inv.deserialize (h : Inv H M s) (hr : Reservable H result) (event : Event) :
    Inv H M (s.deserialize H event result) := by
  have hc : ¬ (4 ≤ result.length ∧ H.reserve (leVal (result.take 4)) = false) := by
    rintro ⟨hl, hf⟩; rw [hr hl] at hf; cases hf
  rw [State.deserialize, deserializeOutputs, if_neg hc]; exact h.finish _

lemma Inv.enter (h : Inv H M s) (f : Func) {stage : Stage}
    (hs : ∀ event result args next, stage ≠ .dealloc event result args next) :
    Inv H M (s.enter M f stage) := by
  rcases enter_cases (M := M) s f stage with hen | ⟨msg, hen⟩
  · rw [hen]
    exact ⟨h.unlocked, h.returned, h.memory, fun event result args next he =>
      absurd he (hs event result args next)⟩
  · rw [hen]; exact h.finish _

lemma Inv.start (h : Inv H M s) (event : Event) : Inv H M (s.start M event) := by
  have hr : Inv H M { s with fuel := M.config.maxFuel.getD s.fuel, used := 0 } :=
    ⟨h.unlocked, h.returned, h.memory, h.pending⟩
  rw [start_of_unlocked h.unlocked]; refine hr.enter .alloc fun _ _ _ _ he => ?_; cases he

lemma Inv.allocated (h : Inv H M s) {event : Event} (hp : s.inst.Passes M v (serializeEvent event).length) :
    Inv H M (s.allocated M event v) := by
  unfold State.allocated; split
  · rename_i hex
    have hwr := Memory.isSome_write?.mpr (hp hex); split
    · rename_i hn
      grind
    · rename_i memory hm
      have hw : Inv H M { s with inst := { s.inst with memory } } :=
        ⟨h.unlocked, h.returned, (Memory.write?_size hm).trans_le h.memory, h.pending⟩
      refine hw.enter .process fun _ _ _ _ he => ?_; cases he
  · exact h.finish _

lemma readResult_eq (h : s.inst.memory.Holds v (4 + s.inst.memory.word (usize v))) :
    s.readResult v = some (s.inst.memory.slice (usize v + 4) (s.inst.memory.word (usize v))) := by
  have hle := h.usize_add_le; have hs := s.inst.memory.addressable
  have hl : s.inst.memory.read? (usize v) 4 = some (s.inst.memory.slice (usize v) 4) :=
    Memory.read?_eq (by omega)
  unfold State.readResult; rw [hl, bind_some, Nat.mod_eq_of_lt (by omega)]
  refine Memory.read?_eq ?_; rw [Nat.add_assoc]; exact hle

section

variable (h : Inv H M s)
include h

lemma Inv.processed {event : Event} {ptr len v : I32}
    (hp : s.inst.Passes M v (4 + s.inst.memory.word (usize v)))
    (hr : M.exportsMemory = true → Reservable H
      (s.inst.memory.slice (usize v + 4) (s.inst.memory.word (usize v)))) :
    Inv H M (s.processed H M event ptr len v) := by
  unfold State.processed; split
  · rename_i hex
    rw [readResult_eq (hp hex)]; simp only; split
    · refine ⟨h.unlocked, h.returned, h.memory, fun _ _ _ _ he => ?_⟩; grind
    · exact h.deserialize (hr hex) event
  · exact h.finish _

lemma Inv.deallocated {event : Event} (hr : Reservable H result) (next : Option (I32 × I32)) :
    Inv H M (s.deallocated H event result next) := by
  cases next with
  | none => exact h.deserialize hr event
  | some => refine ⟨h.unlocked, h.returned, h.memory, fun _ _ _ _ he => ?_⟩; cases he; exact hr

lemma Inv.ret (ha : Allowed H M s (.ret v)) (hs : s.ret H M v = some s') : Inv H M s' := by
  unfold State.ret at hs; unfold Allowed at ha; split at hs
  · rename_i event size hst
    rw [hst] at ha; obtain rfl := Option.some.inj hs; exact h.allocated ha
  · rename_i event ptr len hst
    rw [hst] at ha; obtain rfl := Option.some.inj hs; exact h.processed ha.1 ha.2
  · rename_i event result args next hst
    obtain rfl := Option.some.inj hs
    exact h.deallocated (h.pending event result args next hst) next
  · cases hs

lemma Inv.trap (hs : s.trap H e = some s') : Inv H M s' := by
  unfold State.trap at hs; split at hs
  · obtain rfl := Option.some.inj hs; exact h.finish _
  · obtain rfl := Option.some.inj hs; exact h.finish _
  · rename_i event result args next hst
    obtain rfl := Option.some.inj hs
    exact h.deallocated (h.pending event result args next hst) next
  · cases hs

lemma Inv.perform (cost : Nat) (ha : Allowed H M s (.act cost a)) : Inv H M (s.perform H M a) := by
  cases a with
  | store => exact ⟨h.unlocked, h.returned, h.memory, h.pending⟩
  | grow pages =>
    have hs : (s.inst.memory.grow (pages * 65536) M.growLimit).size ≤ M.config.maxMemoryBytes := by
      simp only [Allowed] at ha; exact Memory.grow_size_le h.memory ha
    simp only [State.perform]; exact ⟨h.unlocked, h.returned, hs, h.pending⟩
  | call i =>
    obtain ⟨inst, hi⟩ := isSome_iff_exists.mp ((isSome_call_iff (H := H) i).mpr ha)
    have hp : s.perform H M (.call i) = { s with inst } := by simp only [State.perform, hi]
    rw [hp]; exact ⟨h.unlocked, h.returned, (size_of_call hi).trans_le h.memory, h.pending⟩

lemma Inv.step (ha : Allowed H M s l) (hs : step H M s l = some s') : Inv H M s' := by
  cases l with
  | call event => obtain ⟨-, rfl⟩ := step_call hs; exact h.start event
  | act cost a =>
    unfold WasmHost.step at hs; simp only at hs; split_ifs at hs
    cases hsp : s.spend M cost with
    | none =>
      rw [hsp] at hs
      have hp : Inv H M { s with fuel := 0, used := s.used + s.fuel } :=
        ⟨h.unlocked, h.returned, h.memory, h.pending⟩
      exact hp.trap hs
    | some =>
      rw [hsp] at hs; obtain ⟨fuel, used, rfl, -⟩ := spend_cases hsp
      obtain rfl := Option.some.inj hs
      have hpa : Inv H M { s with fuel, used } := ⟨h.unlocked, h.returned, h.memory, h.pending⟩
      exact hpa.perform cost (by cases a <;> exact ha)
  | ret => exact h.ret ha hs
  | trap => exact h.trap hs

end

structure Isolated (H : Host) (M : WasmModule) (labels : List Label) (s : State) : Prop where
  returned : ∀ r ∈ s.results, ∃ out, r = .returned out
  complete : labels.countP Label.isCall = s.results.length + s.stage.busy
  unlocked : s.poisoned = false
  memory : s.inst.memory.size ≤ M.config.maxMemoryBytes
  fuel : ∀ max, M.config.maxFuel = some max → s.used ≤ max
  ends : ∀ max, M.config.maxFuel = some max → ∀ more t, (∀ l ∈ more, l.isCall = false) →
    (system H M).Run s more t → more.length ≤ max + 4
  next : s.stage = .idle → M.missing .alloc = none → ∀ event, ∃ t, step H M s (.call event) = some t ∧
    t.stage = .alloc event (BitVec.ofNat 32 (serializeEvent event).length) ∧
    t.fuel = M.config.maxFuel.getD s.fuel

/-- In every run whose steps are allowed, from an instance whose memory is within
`max_memory_bytes`. -/
theorem guest_isolated {s₀ : State} {labels : List Label} (hi : (system H M).init s₀)
    (hme : s₀.inst.memory.size ≤ M.config.maxMemoryBytes)
    (hru : ((system H M).restrict (Allowed H M)).Run s₀ labels s) : Isolated H M labels s := by
  have hfr : Inv H M s₀ := by
    refine ⟨hi.unlocked, fun r hr => ?_, hme, fun _ _ _ _ hs => ?_⟩
    · simp_all [hi.results]
    grind [hi.idle]
  have h : Inv H M s := by refine hru.induct (fun t l u ht hl => ?_) hfr; exact ht.step hl.1 hl.2
  have hf : Fueled M s := used_add_fuel_le hi hru.of_restrict
  refine ⟨fun r hr => ?_, one_result hi hru.of_restrict, h.unlocked, h.memory,
    fun max hm => (Nat.le_add_right _ _).trans (hf max hm), fun max hm more t hg hmo => ?_,
    fun hid ha event => ?_⟩
  · have hre := h.returned r hr
    cases r with
    | returned out => exact ⟨out, rfl⟩
    | panicked | aborted => cases hre
  · have hst := steps_le (by rw [hm]; rfl) hg hmo; have hra := rank_le s.stage
    have hle := hf max hm; omega
  simp [step, hid, start_of_unlocked h.unlocked, State.enter, ha, and_self]

instance decidableWithin (inst : WasmInstance) : (i : Import) → Decidable (i.Within M inst)
  | .stateGet _ _ _ _ => inferInstanceAs (Decidable (_ ∧ ∀ value ∈ inst.stored M _ _, inst.Passes M _ _))
  | .statePut _ _ _ _ => inferInstanceAs (Decidable (_ ∧ _))
  | .stateDelete ptr len | .logInfo ptr len | .logWarn ptr len | .logError ptr len
  | .metricsCounterInc ptr len _ | .metricsGaugeSet ptr len _ =>
    inferInstanceAs (Decidable (inst.Passes M ptr (usize len)))
  | .clockNowMs | .abort _ _ _ _ => inferInstanceAs (Decidable True)

instance decidableAccepts (inst : WasmInstance) (v : I32) : (g : Stage) → Decidable (g.Accepts H M inst v)
  | .alloc event _ => inferInstanceAs (Decidable (inst.Passes M v (serializeEvent event).length))
  | .process _ _ _ => inferInstanceAs (Decidable (inst.Passes M v _ ∧ (_ → Reservable H _)))
  | .idle | .dealloc _ _ _ _ | .aborted => inferInstanceAs (Decidable True)

instance decidableAllowed (s : State) (l : Label) : Decidable (Allowed H M s l) := by
  unfold Allowed; split <;> infer_instance

def guest : WasmModule where
  config := { maxFuel := some 10, maxMemoryBytes := 131072 }
  exportsMemory := true
  missing _ := none
  growLimit := 4294967296
  outOfFuel := "all fuel consumed"

def smallHost : Host := ⟨fun _ => "", fun n => n ≤ 1000000⟩

def onePage : State where
  inst := { memory := ⟨65536, fun _ => 0, by decide⟩, host := { state := ∅ } }
  fuel := 10

def announce (count : UInt8) : Nat → UInt8 := fun i =>
  if i = 1024 then 4 else if 1028 ≤ i ∧ i < 1032 then count else 0

theorem guest_isolated_two_calls :
    ∃ s labels, s.results = [.returned (.ok []),
      .returned (.error "call 'alloc' failed: all fuel consumed")] ∧
      Isolated smallHost guest labels s := by
  have h : (LTS.exec (fun s l => if Allowed smallHost guest s l then step smallHost guest s l else none)
    onePage
      [.call (.plain 7 [1]), .ret 0, .act 2 (.store (announce 0)), .act 1 (.call (.statePut 1024 1 1024 4)),
        .act 1 (.call (.stateGet 1024 1 65535 1)), .act 1 (.grow 1), .ret 1024, .trap "unreachable", .ret 0,
        .call (.plain 7 [1]), .act 11 (.grow 0)]).map (·.results) =
      some [.returned (.ok []), .returned (.error "call 'alloc' failed: all fuel consumed")] := by
        decide +kernel
  obtain ⟨s, hs, hr⟩ := map_eq_some_iff.mp h
  have hi : (system smallHost guest).init onePage := by
    refine ⟨rfl, rfl, rfl, rfl, fun max hm => ?_⟩; obtain rfl := Option.some.inj hm
    exact le_rfl
  exact ⟨s, _, hr, guest_isolated hi (by decide) (LTS.run_restrict_of_exec hs)⟩

theorem guest_escapes : (∀ escape ∈ [[Label.act 1 (.call (.logInfo 65536 1))], [.ret (-1)],
    [.ret 0, .ret 65533]],
      ∃ s, (system smallHost guest).Run onePage (.call (.plain 7 [1]) :: escape ++ [.call (.plain 7 [1])]) s ∧
      s.poisoned = true ∧
        s.results = [.panicked, .returned
          (.error "lock poisoned: poisoned lock: another task failed inside")]) ∧
    (∃ s, (system smallHost guest).Run onePage [.call (.plain 7 [1]), .act 1 (.grow 3)] s ∧
      guest.config.maxMemoryBytes < s.inst.memory.size) ∧
    ∃ s, (system smallHost guest).Run onePage
        [.call (.plain 7 [1]), .ret 0, .act 1 (.store (announce 255)), .ret 1024, .ret 0, .ret 0] s ∧
      s.results = [.aborted] := by
  refine ⟨fun escape he => LTS.exists_run ?_, LTS.exists_run (by decide +kernel),
    LTS.exists_run (by decide +kernel)⟩
  simp only [mem_cons, not_mem_nil, or_false] at he
  rcases he with rfl | rfl | rfl <;> decide +kernel

end Aeon.L3.WasmHost
