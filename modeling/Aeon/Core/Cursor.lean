import Aeon.Core.RecordLog

/-!
# Readers

A reader takes a value off the front of a byte string, or fails.

* `Reads r b a`: `r` takes exactly `b` and returns `a`, whatever stands behind it;
* `Stable r`: more data behind what was read changes nothing;
* `Yields r P`, `Takes r T`: what `r` returns, and what it takes, whatever the bytes are;
* `Tracks data limit o r`: `o` reads at offsets into `data` as `r` does on the bytes.
-/
namespace Aeon.Core

open List

lemma bind_eq_ok {ε α β : Type} {x : Except ε α} {f : α → Except ε β} {b : β} :
    (x >>= f) = .ok b ↔ ∃ a, x = .ok a ∧ f a = .ok b := by
  cases x with
  | error | ok => simp [bind, Except.bind]

abbrev Reader (ε : Type) := StateT Bytes (Except ε)

variable {ε α β : Type}

namespace Reader

def bytes (n : Nat) (short : ε) : Reader ε Bytes := fun data =>
  if data.length < n then .error short else .ok (data.take n, data.drop n)

def le (w : Nat) (short : ε) : Reader ε Nat := do
  let b ← bytes w short
  return leVal b

def field (noLength short : ε) : Reader ε Bytes := do
  let len ← le 4 noLength
  bytes len short

def many (r : Reader ε α) : Nat → Reader ε (List α)
  | 0 => pure []
  | n + 1 => do
    let a ← r
    let as ← many r n
    return a :: as

lemma le_eq {data : Bytes} (h : w ≤ data.length) (short : ε) :
    le w short data = .ok (leVal (data.take w), data.drop w) := by
  simp only [le, bytes, bind, StateT.bind, Except.bind, if_neg (Nat.not_lt.mpr h)]; rfl

end Reader

def fieldBytes (b : Bytes) : Bytes := leBytes 4 b.length ++ b

@[simp] lemma length_fieldBytes (b : Bytes) : (fieldBytes b).length = 4 + b.length := by simp [fieldBytes]

variable (r : Reader ε α)

def Reads (b : Bytes) (a : α) : Prop := ∀ rest, r (b ++ rest) = .ok (a, rest)

namespace Reads

variable {r : Reader ε α} {f : α → Reader ε β} {b b' : Bytes} {a : α} {c : β}

lemma pure (a : α) : Reads (Pure.pure a : Reader ε α) [] a := fun _ => rfl

lemma bind (h : Reads r b a) (hf : Reads (f a) b' c) : Reads (r >>= f) (b ++ b') c := by
  intro rest; have hfi : r (b ++ (b' ++ rest)) = .ok (a, b' ++ rest) := h _
  show (r (b ++ b' ++ rest) >>= fun p => f p.1 p.2) = _; rw [append_assoc, hfi]
  exact hf rest

lemma bytes (b : Bytes) (short : ε) : Reads (Reader.bytes b.length short) b b := by
  intro rest; grind [Reader.bytes]

lemma le (h : n < 256 ^ w) (short : ε) : Reads (Reader.le w short) (leBytes w n) n := by
  have hb := Reads.bytes (leBytes w n) short; rw [length_leBytes] at hb
  have hv : Reads (Pure.pure (leVal (leBytes w n)) : Reader ε Nat) [] n := by
    rw [leVal_leBytes h]; exact Reads.pure n
  have := hb.bind (f := fun b => Pure.pure (leVal b)) hv; rwa [append_nil] at this

lemma field (h : b.length < 256 ^ 4) (noLength short : ε) :
    Reads (Reader.field noLength short) (fieldBytes b) b :=
  (Reads.le h noLength).bind (Reads.bytes b short)

lemma many_map {γ : Type} {cs : List γ} {enc : γ → Bytes} {v : γ → α} (h : ∀ c ∈ cs, Reads r (enc c) (v c)) :
    Reads (r.many cs.length) (cs.flatMap enc) (cs.map v) := by
  induction cs with
  | nil => exact Reads.pure []
  | cons c cs ih =>
    have hr := ih fun x hx => h x (mem_cons_of_mem _ hx)
    have hc := hr.bind (f := fun as => Pure.pure (v c :: as)) (Reads.pure (v c :: cs.map v))
    rw [append_nil] at hc; exact (h c mem_cons_self).bind hc

lemma many {as : List α} {enc : α → Bytes} (h : ∀ a ∈ as, Reads r (enc a) a) :
    Reads (r.many as.length) (as.flatMap enc) as := by simpa using many_map (v := id) h

end Reads

def Stable : Prop :=
  ∀ data a rest more, r data = .ok (a, rest) → r (data ++ more) = .ok (a, rest ++ more)

namespace Stable

variable {r : Reader ε α} {f : α → Reader ε β}

lemma pure (a : α) : Stable (Pure.pure a : Reader ε α) := by intro data a' rest more h; cases h; rfl

lemma bind (h : Stable r) (hf : ∀ a, Stable (f a)) : Stable (r >>= f) := by
  intro data c rest more hc; obtain ⟨p, hp, hr⟩ := bind_eq_ok.mp hc
  exact bind_eq_ok.mpr ⟨_, h data p.1 p.2 more hp, hf p.1 p.2 c rest more hr⟩

lemma bytes (n : Nat) (short : ε) : Stable (Reader.bytes n short) := by
  intro data a rest more h; grind [Reader.bytes]

lemma le (w : Nat) (short : ε) : Stable (Reader.le w short) :=
  (bytes w short).bind fun b => Stable.pure (leVal b)

lemma field (noLength short : ε) : Stable (Reader.field noLength short) :=
  (le 4 noLength).bind fun n => bytes n short

lemma rejects (hs : Stable r) (h : Reads r b a) (hp : p <+: b) (hne : p ≠ b) : ∃ e, r p = .error e := by
  obtain ⟨more, rfl⟩ := hp
  cases hr : r p with
  | error e => exact ⟨e, rfl⟩
  | ok q => have hl := hs p q.1 q.2 more hr; have hw := h []; simp_all

end Stable

def Yields (P : α → Prop) : Prop := ∀ data a rest, r data = .ok (a, rest) → P a

namespace Yields

variable {r : Reader ε α} {f : α → Reader ε β} {P : α → Prop} {Q : β → Prop}

lemma pure (h : P a) : Yields (Pure.pure a : Reader ε α) P := by
  intro data a' rest hr; cases hr; exact h

lemma bind (h : ∀ a, Yields (f a) Q) : Yields (r >>= f) Q := by
  intro data c rest hc; obtain ⟨p, -, hp⟩ := bind_eq_ok.mp hc; exact h p.1 p.2 c rest hp

lemma many (h : Yields r P) (n : Nat) : Yields (r.many n) fun as => ∀ a ∈ as, P a := by
  induction n with
  | zero => exact Yields.pure fun a ha => absurd ha not_mem_nil
  | succ n ih =>
    intro data as rest has; obtain ⟨p, hp, hr⟩ := bind_eq_ok.mp has
    obtain ⟨q, hq, hc⟩ := bind_eq_ok.mp hr; cases hc
    exact forall_mem_cons.mpr ⟨h data p.1 p.2 hp, ih p.2 q.1 q.2 hq⟩

end Yields

def Takes (T : Bytes → α → Prop) : Prop :=
  ∀ data a rest, r data = .ok (a, rest) → ∃ b, data = b ++ rest ∧ T b a

namespace Takes

variable {r : Reader ε α} {f : α → Reader ε β} {T : Bytes → α → Prop} {U : Bytes → β → Prop}

lemma pure (h : T [] a) : Takes (Pure.pure a : Reader ε α) T := by
  intro data a' rest hr; cases hr; exact ⟨[], rfl, h⟩

lemma bind (h : Takes r T) (hf : ∀ a b, T b a → Takes (f a) fun b' c => U (b ++ b') c) :
    Takes (r >>= f) U := by
  intro data c rest hc; obtain ⟨p, hp, hr⟩ := bind_eq_ok.mp hc
  obtain ⟨b, rfl, hb⟩ := h data p.1 p.2 hp
  obtain ⟨b', hb', hU⟩ := hf p.1 b hb p.2 c rest hr; grind

lemma imp (h : Takes r T) (hi : ∀ b a, T b a → T' b a) : Takes r T' := by
  intro data a rest hr; obtain ⟨b, hb, hT⟩ := h data a rest hr; exact ⟨b, hb, hi b a hT⟩

lemma bytes (n : Nat) (short : ε) : Takes (Reader.bytes n short) fun b a => b = a ∧ a.length = n := by
  intro data a rest hr; rw [Reader.bytes] at hr; split_ifs at hr with hl
  cases hr; simp_all

lemma le (w : Nat) (short : ε) : Takes (Reader.le w short) fun b n => b = leBytes w n ∧ n < 256 ^ w := by
  refine (bytes w short).bind fun a b hb => Takes.pure ?_; obtain ⟨rfl, hl⟩ := hb
  rw [append_nil, ← hl]; exact ⟨(leBytes_leVal b).symm, leVal_lt b⟩

lemma field (noLength short : ε) :
    Takes (Reader.field noLength short) fun b x => b = fieldBytes x ∧ x.length < 256 ^ 4 := by
  refine (le 4 noLength).bind fun n b hb => (bytes n short).imp fun b' x hx => ?_
  obtain ⟨⟨rfl, hn⟩, rfl, rfl⟩ := hb, hx; exact ⟨rfl, hn⟩

lemma many {enc : α → Bytes} {P : α → Prop} (h : Takes r fun b a => b = enc a ∧ P a) (n : Nat) :
    Takes (r.many n) fun b as => b = as.flatMap enc ∧ as.length = n ∧ ∀ a ∈ as, P a := by
  induction n with
  | zero => exact Takes.pure ⟨rfl, rfl, by simp⟩
  | succ n ih => refine h.bind fun a b hb => ih.bind fun as b' hb' => Takes.pure ?_; grind

end Takes

def slice (data : Bytes) (i j : Nat) : Option Bytes :=
  if i ≤ j ∧ j ≤ data.length then some ((data.drop i).take (j - i)) else none

abbrev OffsetReader (ε : Type) := StateT Nat (ExceptT ε Option)

namespace OffsetReader

variable (data : Bytes) (limit : Nat)

def bytes (n : Nat) (short : ε) : OffsetReader ε Bytes := fun offset =>
  if offset + n > limit then throw short
  else do
    let b ← slice data offset (offset + n)
    return (b, offset + n)

def le (w : Nat) (short : ε) : OffsetReader ε Nat := do
  let b ← bytes data limit w short
  return leVal b

def field (noLength short : ε) : OffsetReader ε Bytes := do
  let len ← le data limit 4 noLength
  bytes data limit len short

def many (o : OffsetReader ε α) : Nat → OffsetReader ε (List α)
  | 0 => pure []
  | n + 1 => do
    let a ← o
    let as ← many o n
    return a :: as

end OffsetReader

def Tracks (data : Bytes) (limit : Nat) (o : OffsetReader ε α) (r : Reader ε α) : Prop :=
  ∀ offset ≤ limit, match r ((data.take limit).drop offset) with
    | .error e => o offset = some (.error e)
    | .ok (a, rest) =>
      ∃ offset' ≤ limit, rest = (data.take limit).drop offset' ∧ o offset = some (.ok (a, offset'))

namespace Tracks

variable {data : Bytes} {limit : Nat} {o : OffsetReader ε α} {r : Reader ε α}
  {p : α → OffsetReader ε β} {f : α → Reader ε β}

lemma pure (a : α) : Tracks data limit (Pure.pure a : OffsetReader ε α) (Pure.pure a) :=
  fun offset h => ⟨offset, h, rfl, rfl⟩

lemma bind (h : Tracks data limit o r) (hp : ∀ a, Tracks data limit (p a) (f a)) :
    Tracks data limit (o >>= p) (r >>= f) := by
  intro offset hle; have hf := h offset hle
  show match (r _ >>= fun q => f q.1 q.2) with | .error e => _ | .ok (a, rest) => _
  cases hr : r ((data.take limit).drop offset) with
  | error =>
    rw [hr] at hf; show (o offset >>= fun q => p q.1 q.2 : ExceptT ε Option _) = _
    rw [show o offset = _ from hf]; rfl
  | ok q =>
    rw [hr] at hf; obtain ⟨offset', hle', hre, ho⟩ := hf
    have hru : (o >>= p) offset = p q.1 offset' := by
      show (o offset >>= fun q => p q.1 q.2 : ExceptT ε Option _) = _; rw [ho]; rfl
    have := hp q.1 offset' hle'; rw [← hre] at this; rw [hru]
    exact this

lemma bytes (hl : limit ≤ data.length) (n : Nat) (short : ε) :
    Tracks data limit (OffsetReader.bytes data limit n short) (Reader.bytes n short) := by
  intro offset hle
  have hln : ((data.take limit).drop offset).length = limit - offset := by simp; omega
  by_cases hn : offset + n > limit
  · rw [Reader.bytes, if_pos (by omega)]; simp [OffsetReader.bytes, hn]; rfl
  · rw [Reader.bytes, if_neg (by omega)]
    refine ⟨offset + n, by omega, by rw [drop_drop], ?_⟩
    have hs : slice data offset (offset + n) = some (((data.take limit).drop offset).take n) := by
      grind [slice, Nat.add_sub_cancel_left, drop_take]
    simp only [OffsetReader.bytes, if_neg hn, hs]; rfl

lemma le (hl : limit ≤ data.length) (w : Nat) (short : ε) :
    Tracks data limit (OffsetReader.le data limit w short) (Reader.le w short) :=
  (bytes hl w short).bind fun b => Tracks.pure (leVal b)

lemma field (hl : limit ≤ data.length) (noLength short : ε) :
    Tracks data limit (OffsetReader.field data limit noLength short) (Reader.field noLength short) :=
  (le hl 4 noLength).bind fun n => bytes hl n short

lemma many (h : Tracks data limit o r) (n : Nat) : Tracks data limit (o.many n) (r.many n) := by
  induction n with
  | zero => exact Tracks.pure []
  | succ n ih => exact h.bind fun a => ih.bind fun as => Tracks.pure (a :: as)

lemma run (h : Tracks data limit o r) {offset : Nat} (hle : offset ≤ limit) (g : α → γ) (k : γ → δ) :
    (o offset >>= fun x => Pure.pure (k (g x.1)) : ExceptT ε Option δ) =
      some ((r >>= fun a => Pure.pure (g a) : Reader ε γ) ((data.take limit).drop offset) >>=
        fun x => Pure.pure (k x.1)) := by
  have hru := h offset hle
  show _ = some ((r ((data.take limit).drop offset) >>= fun p => Pure.pure (g p.1, p.2)) >>=
    fun x => Pure.pure (k x.1))
  cases hr : r ((data.take limit).drop offset) with
  | error => rw [hr] at hru; rw [show o offset = _ from hru]; rfl
  | ok =>
    rw [hr] at hru; obtain ⟨offset', -, -, ho⟩ := hru; rw [ho]
    rfl

end Tracks

lemma slice_bind {data : Bytes} (hij : i ≤ j) (hj : j ≤ data.length) (f : Bytes → ExceptT ε Option α) :
    (liftM (slice data i j) >>= f : ExceptT ε Option α) = f ((data.drop i).take (j - i)) := by
  rw [slice, if_pos ⟨hij, hj⟩]; rfl

lemma check_bind (h : f () = some (g ())) : (liftM x >>= f : ExceptT ε Option α) = some (x >>= g) := by
  cases x with
  | error => rfl
  | ok => exact h

end Aeon.Core
