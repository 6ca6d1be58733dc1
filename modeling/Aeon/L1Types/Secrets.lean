import Mathlib.Data.List.DropRight
import Aeon.Core.RecordLog

/-!
# Secret references

`crates/aeon-types/src/secrets.rs`: `${SCHEME:path}` tokens. `interpolate_str` ends a token at the
next brace, `SecretRef::parse` at the last character.

* `interpolation_single_pass`: the result comes from a tokenization of the input alone;
* `two_tokens_one_reference`: `${ENV:A}${ENV:B}` is one reference for `resolve_str`.
-/
namespace Aeon.Types.Secrets

open List Aeon.Core

abbrev Str := List Char

/-- mirrors secrets.rs:78-86 -/
inductive SecretScheme
  | env | dotEnv | vault | awsSm | awsKms | literal
  deriving DecidableEq

/-- mirrors secrets.rs:103-112 -/
def SecretScheme.fromStrUpper (s : Str) : Option SecretScheme :=
  if s = "ENV".toList then some .env
  else if s = "DOTENV".toList then some .dotEnv
  else if s = "VAULT".toList then some .vault
  else if s = "AWS_SM".toList then some .awsSm
  else if s = "AWS_KMS".toList then some .awsKms
  else none

/-- mirrors secrets.rs:122-125 -/
structure SecretRef where
  scheme : SecretScheme
  path : Str
  deriving DecidableEq

/-- mirrors secrets.rs:35-73 -/
inductive SecretError
  | malformedRef (s : Str)
  | unknownScheme (s : Str)
  | schemeNotRegistered (scheme : SecretScheme)
  | provider (message : String)
  | notUtf8 (bytes : Nat)
  deriving DecidableEq

def isWhitespace (c : Char) : Bool :=
  let n := c.toNat
  (9 ≤ n && n ≤ 13) || n = 0x20 || n = 0x85 || n = 0xA0 || n = 0x1680 || (0x2000 ≤ n && n ≤ 0x200A) ||
    n = 0x2028 || n = 0x2029 || n = 0x202F || n = 0x205F || n = 0x3000

def trim (s : Str) : Str := (s.dropWhile isWhitespace).rdropWhile isWhitespace

section Cut

variable {α : Type} [DecidableEq α] {d : α} {l a b : List α}

def cutAt (d : α) (l : List α) : Option (List α × List α) :=
  match l.dropWhile (· ≠ d) with
  | [] => none
  | _ :: after => some (l.takeWhile (· ≠ d), after)

lemma cutAt_append (b : List α) (h : d ∉ a) : cutAt d (a ++ d :: b) = some (a, b) := by
  have hp : ∀ c ∈ a, decide (c ≠ d) = true := fun c hc => decide_eq_true fun e => h (e ▸ hc)
  rw [cutAt, dropWhile_append_of_pos hp, takeWhile_append_of_pos hp]; simp

lemma cutAt_eq (h : cutAt d l = some (a, b)) : d ∉ a ∧ l = a ++ d :: b := by
  rw [cutAt] at h
  split at h
  · cases h
  · rename_i c after hd
    cases h
    have hc := head_dropWhile_not (fun c => decide (c ≠ d)) (l := l) (by rw [hd]; exact cons_ne_nil _ _)
    simp only [hd, head_cons, decide_eq_false_iff_not, not_not] at hc
    have hs := takeWhile_append_dropWhile (p := fun c => decide (c ≠ d)) (l := l)
    rw [hd, hc] at hs
    exact ⟨fun hm => by simpa using mem_takeWhile_imp hm, hs.symm⟩

lemma cutAt_eq_none (h : d ∉ l) : cutAt d l = none := by
  cases hc : cutAt d l with
  | none => rfl
  | some => exact absurd ((cutAt_eq hc).2 ▸ mem_append_right _ mem_cons_self) h

lemma cutAt_lt (h : cutAt d l = some (a, b)) : b.length < l.length := by
  rw [(cutAt_eq h).2, length_append, length_cons]; omega

end Cut

def braced (t : Str) : Option Str :=
  if ['$', '{'].isPrefixOf t && t.getLast? = some '}' then some (t.drop 2).dropLast else none

lemma braced_eq {t inner : Str} : braced t = some inner ↔ t = '$' :: '{' :: (inner ++ ['}']) := by
  rw [braced]
  constructor
  · intro h
    split_ifs at h with ht
    obtain ⟨⟨rest, rfl⟩, hl⟩ : (∃ rest, ['$', '{'] ++ rest = t) ∧ t.getLast? = some '}' := by
      simpa [ isPrefixOf_iff_prefix, List.IsPrefix] using ht
    rcases eq_nil_or_concat rest with rfl | ⟨init, c, rfl⟩
    · cases hl
    · rw [concat_eq_append, ← append_assoc, getLast?_concat] at hl
      cases hl; cases h; simp
  · rintro rfl
    have hl : ('$' :: '{' :: (inner ++ ['}'])).getLast? = some '}' := getLast?_concat (l :=
      '$' :: '{' :: inner)
    simp [hl]

/-- mirrors secrets.rs:157-178 -/
def SecretRef.parse (s : Str) : Except SecretError (Option SecretRef) :=
  match braced (trim s) with
  | none => .ok none
  | some inner =>
    match cutAt ':' inner with
    | none => .error (.malformedRef s)
    | some (scheme, path) =>
      if scheme = [] ∨ path = [] then .error (.malformedRef s)
      else
        match SecretScheme.fromStrUpper scheme with
        | none => .error (.unknownScheme scheme)
        | some scheme => .ok (some ⟨scheme, path⟩)

abbrev SecretRegistry := SecretScheme → Option (Str → Except SecretError Bytes)

variable (R : SecretRegistry)

/-- mirrors secrets.rs:415-421 -/
def resolve (r : SecretRef) : Except SecretError Bytes :=
  match R r.scheme with
  | none => .error (.schemeNotRegistered r.scheme)
  | some provider => provider r.path

/-- mirrors secrets.rs:425-430 -/
def resolveStr (s : Str) : Except SecretError Bytes := do
  match ← SecretRef.parse s with
  | some r => resolve R r
  | none => resolve R ⟨.literal, s⟩

def exposeStr (b : Bytes) : Except SecretError Str :=
  match String.fromUTF8? ⟨b.toArray⟩ with
  | none => .error (.notUtf8 b.length)
  | some s => .ok s.toList

/-- mirrors secrets.rs:446-484 -/
def interpolateLoop (s out rest : Str) : Except SecretError Str :=
  match _hd : cutAt '$' rest with
  | none => .ok (out ++ rest)
  | some (text, tail) =>
    if ['$', '{'].isPrefixOf tail then
      match _hc : cutAt '}' tail with
      | none => .error (.malformedRef s)
      | some (token, after) => interpolateLoop s (out ++ text ++ (token ++ ['}'])) after
    else if ['{'].isPrefixOf tail then
      match _hc : cutAt '}' tail with
      | none => .error (.malformedRef s)
      | some (token, after) =>
        let token := '$' :: (token ++ ['}'])
        match SecretRef.parse token with
        | .error e => .error e
        | .ok none => .error (.malformedRef token)
        | .ok (some r) =>
          match resolve R r >>= exposeStr with
          | .error e => .error e
          | .ok value => interpolateLoop s (out ++ text ++ value) after
    else interpolateLoop s (out ++ text ++ ['$']) tail
termination_by rest.length
decreasing_by
  · exact (cutAt_lt _hc).trans (cutAt_lt _hd)
  · exact (cutAt_lt _hc).trans (cutAt_lt _hd)
  · exact cutAt_lt _hd

/-- mirrors secrets.rs:441-485 -/
def interpolateStr (s : Str) : Except SecretError Str :=
  if '$' ∈ s then interpolateLoop R s [] s else .ok s

inductive Piece
  | lit (text : Str)
  | ref (r : SecretRef)

def tokenize (s rest : Str) : List Piece × Option SecretError :=
  match _hd : cutAt '$' rest with
  | none => ([.lit rest], none)
  | some (text, tail) =>
    if ['$', '{'].isPrefixOf tail then
      match _hc : cutAt '}' tail with
      | none => ([.lit text], some (.malformedRef s))
      | some (token, after) =>
        let (ps, e) := tokenize s after
        (.lit text :: .lit (token ++ ['}']) :: ps, e)
    else if ['{'].isPrefixOf tail then
      match _hc : cutAt '}' tail with
      | none => ([.lit text], some (.malformedRef s))
      | some (token, after) =>
        let token := '$' :: (token ++ ['}'])
        match SecretRef.parse token with
        | .error e => ([.lit text], some e)
        | .ok none => ([.lit text], some (.malformedRef token))
        | .ok (some r) =>
          let (ps, e) := tokenize s after
          (.lit text :: .ref r :: ps, e)
    else
      let (ps, e) := tokenize s tail
      (.lit text :: .lit ['$'] :: ps, e)
termination_by rest.length
decreasing_by
  · exact (cutAt_lt _hc).trans (cutAt_lt _hd)
  · exact (cutAt_lt _hc).trans (cutAt_lt _hd)
  · exact cutAt_lt _hd

def assemble (value : SecretRef → Except SecretError Str) : List Piece → Option SecretError →
    Except SecretError Str
  | [], none => .ok []
  | [], some e => .error e
  | .lit text :: ps, e => (text ++ ·) <$> assemble value ps e
  | .ref r :: ps, e => do
    let v ← value r
    (v ++ ·) <$> assemble value ps e

def OneToken (s : Str) (r : SecretRef) : Prop := tokenize s s = ([.lit [], .ref r, .lit []], none)

lemma map_append_map (out v : Str) (x : Except SecretError Str) :
    (out ++ ·) <$> (v ++ ·) <$> x = ((out ++ v) ++ ·) <$> x := by
  cases x with
  | error => rfl
  | ok => exact congrArg Except.ok (append_assoc ..).symm

lemma interpolateLoop_eq (s out rest : Str) : interpolateLoop R s out rest =
      (out ++ ·) <$> assemble (fun r => resolve R r >>= exposeStr) (tokenize s rest).1
        (tokenize s rest).2 := by
  induction hn : rest.length using Nat.strong_induction_on generalizing out rest with
  | _ n ih =>
    subst hn
    rw [interpolateLoop, tokenize]
    split
    · simp [assemble]
    · rename_i text tail hd
      split_ifs
      · split
        · simp [assemble]
        · rename_i hc
          simp only [ih _ ((cutAt_lt hc).trans (cutAt_lt hd)) _ _ rfl, assemble, ← map_append_map]
      · split
        · simp [assemble]
        · rename_i hc
          dsimp only; split
          · simp [assemble]
          · simp [assemble]
          · rename_i r hp
            cases hv : resolve R r >>= exposeStr with
            | error => simp only [assemble, hv]; rfl
            | ok =>
              simp only [ih _ ((cutAt_lt hc).trans (cutAt_lt hd)) _ _ rfl, assemble, hv, ← map_append_map]
              rfl
      · simp only [ih _ (cutAt_lt hd) _ _ rfl, assemble, ← map_append_map]

lemma interpolateStr_eq (s : Str) :
    interpolateStr R s = assemble (fun r => resolve R r >>= exposeStr) (tokenize s s).1 (tokenize s s).2 := by
  rw [interpolateStr]; split_ifs with h
  · rw [interpolateLoop_eq]; exact id_map _
  · rw [tokenize]; split
    · simp [assemble]
    · rename_i he; rw [cutAt_eq_none h] at he; cases he

lemma fromStrUpper_cases {scheme : SecretScheme} (h : SecretScheme.fromStrUpper s = some scheme) :
    s ≠ [] ∧ ':' ∉ s ∧ '}' ∉ s := by
  rw [SecretScheme.fromStrUpper] at h
  split_ifs at h with h₁ h₂ h₃ h₄ h₅
  · subst h₁; decide
  · subst h₂; decide
  · subst h₃; decide
  · subst h₄; decide
  · subst h₅; decide

lemma parse_some_iff :
    SecretRef.parse s = .ok (some r) ↔ r.path ≠ [] ∧
    ∃ scheme, SecretScheme.fromStrUpper scheme = some r.scheme ∧
      trim s = '$' :: '{' :: (scheme ++ ':' :: r.path ++ ['}']) := by
  rw [SecretRef.parse]
  constructor
  · intro h
    split at h
    · cases h
    · rename_i inner hb
      split at h
      · cases h
      · rename_i scheme path hc
        split_ifs at h with he
        split at h
        · cases h
        · rename_i sc hs
          cases h
          exact ⟨fun hp => he (.inr hp), scheme, hs, (cutAt_eq hc).2 ▸ braced_eq.mp hb⟩
  · rintro ⟨hp, scheme, hs, ht⟩
    obtain ⟨hn, hc, -⟩ := fromStrUpper_cases hs
    simp only [braced_eq.mpr ht, cutAt_append _ hc, hn, hp, or_self, if_false, hs]

lemma trim_token (inner : Str) : trim ('$' :: '{' :: (inner ++ ['}'])) = '$' :: '{' :: (inner ++ ['}']) := by
  have h : '$' :: '{' :: (inner ++ ['}']) = '$' :: '{' :: inner ++ ['}'] := rfl
  rw [trim, dropWhile_cons_of_neg (by decide), h, rdropWhile_concat_neg _ _ _ (by decide)]

lemma tokenize_nil_iff {s after : Str} : tokenize s after = ([.lit []], none) ↔ after = [] := by
  constructor
  · intro h
    rw [tokenize] at h
    split at h
    · simpa using h
    · split_ifs at h
      · split at h <;> simp at h
      · split at h
        · simp at h
        · dsimp only at h; split at h <;> simp at h
      · simp at h
  · rintro rfl; rw [tokenize]; rfl

lemma tokenize_token (s inner after : Str) (h : '}' ∉ inner) (hp :
    SecretRef.parse ('$' :: '{' :: (inner ++ ['}'])) = .ok (some r)) :
    tokenize s ('$' :: '{' :: (inner ++ '}' :: after)) =
      (.lit [] :: .ref r :: (tokenize s after).1, (tokenize s after).2) := by
  have hi : '}' ∉ '{' :: inner := by simp [h]
  have hd : cutAt '$' ('$' :: '{' :: (inner ++ '}' :: after)) = _ := cutAt_append (a := []) _ not_mem_nil
  have hc : cutAt '}' ('{' :: (inner ++ '}' :: after)) = _ := cutAt_append after hi
  rw [tokenize]
  split
  · rename_i h; rw [hd] at h; cases h
  · rename_i h; rw [hd] at h; cases h
    rw [if_neg (by simp), if_pos (by simp)]
    split
    · rename_i h; rw [hc] at h; cases h
    · rename_i h; rw [hc] at h; cases h
      simp [hp]

lemma oneToken_iff (s : Str) (r : SecretRef) :
    OneToken (trim s) r ↔ SecretRef.parse s = .ok (some r) ∧ '}' ∉ r.path := by
  rw [OneToken, parse_some_iff]
  constructor
  · intro h
    rw [tokenize] at h
    split at h
    · simp at h
    · rename_i text tail hd
      split_ifs at h with h₁ h₂
      · split at h <;> simp at h
      · split at h
        · simp at h
        · rename_i token after hc
          dsimp only at h; split at h
          · simp at h
          · simp at h
          · rename_i r' hp
            simp only [Prod.mk.injEq, cons.injEq, Piece.lit.injEq, Piece.ref.injEq] at h
            obtain ⟨⟨rfl, rfl, hps⟩, he⟩ := h
            obtain rfl := tokenize_nil_iff.mp (Prod.ext hps he)
            obtain ⟨hn, htail⟩ := cutAt_eq hc
            obtain ⟨inner, rfl⟩ : ∃ inner, token = '{' :: inner := by
              rcases token with _ | ⟨c, inner⟩
              · simp [htail] at h₂
              · have hc : '{' = c := by simpa [htail] using h₂
                exact ⟨inner, hc ▸ rfl⟩
            obtain ⟨hne, scheme, hs, ht⟩ := parse_some_iff.mp hp
            rw [cons_append, trim_token] at ht
            obtain rfl : inner = scheme ++ ':' :: r'.path := append_cancel_right (cons.inj (cons.inj ht).2).2
            exact ⟨⟨hne, scheme, hs, by rw [(cutAt_eq hd).2, htail]; rfl⟩, fun h => hn (by simp [h])⟩
      · simp at h
  · rintro ⟨⟨hne, scheme, hs, ht⟩, hn⟩
    have hi : '}' ∉ scheme ++ ':' :: r.path := by simp [(fromStrUpper_cases hs).2.2, hn]
    have hp := parse_some_iff.mpr ⟨hne, scheme, hs, trim_token _⟩
    rw [ht, tokenize_token _ _ [] hi hp, tokenize_nil_iff.mpr rfl]

lemma tokenize_escaped (s : Str) {inner : Str} (after : Str) (h : '}' ∉ inner) :
    tokenize s ('$' :: '$' :: '{' :: (inner ++ '}' :: after)) =
      (.lit [] :: .lit ('$' :: '{' :: (inner ++ ['}'])) :: (tokenize s after).1, (tokenize s after).2) := by
  have hi : '}' ∉ '$' :: '{' :: inner := by simp [h]
  have hd : cutAt '$' ('$' :: '$' :: '{' :: (inner ++ '}' :: after)) = _ :=
    cutAt_append (a := []) _ not_mem_nil
  have hc : cutAt '}' ('$' :: '{' :: (inner ++ '}' :: after)) = _ := cutAt_append after hi
  rw [tokenize]
  split
  · rename_i h; rw [hd] at h; cases h
  · rename_i h; rw [hd] at h; cases h
    rw [if_pos (by simp)]
    split
    · rename_i h; rw [hc] at h; cases h
    · rename_i h; rw [hc] at h; cases h; rfl

lemma OneToken.resolveStr {s : Str} {r : SecretRef} (h : OneToken (trim s) r) :
    resolveStr R s = resolve R r ∧ interpolateStr R (trim s) = resolveStr R s >>= exposeStr := by
  have hr : Secrets.resolveStr R s = resolve R r := by
    rw [Secrets.resolveStr, ((oneToken_iff s r).mp h).1]; rfl
  refine ⟨hr, ?_⟩; rw [interpolateStr_eq, h, hr]
  simp only [assemble]; cases resolve R r >>= exposeStr <;> simp [bind, Except.bind]

theorem interpolation_single_pass (s : Str) :
    interpolateStr R s = assemble (fun r => resolve R r >>= exposeStr) (tokenize s s).1 (tokenize s s).2 ∧
    (∀ inner after, '}' ∉ inner → tokenize s ('$' :: '$' :: '{' :: (inner ++ '}' :: after)) =
      (.lit [] :: .lit ('$' :: '{' :: (inner ++ ['}'])) :: (tokenize s after).1, (tokenize s after).2)) ∧
    (∀ r, OneToken (trim s) r ↔ SecretRef.parse s = .ok (some r) ∧ '}' ∉ r.path) ∧
    ∀ r, OneToken (trim s) r →
      resolveStr R s = resolve R r ∧ interpolateStr R (trim s) = resolveStr R s >>= exposeStr :=
  ⟨interpolateStr_eq R s, fun _ after h => tokenize_escaped s after h, oneToken_iff s,
    fun _ h => h.resolveStr R⟩

theorem two_tokens_one_reference :
    (∀ R, resolveStr R "$\x7bENV:A\x7d$\x7bENV:B\x7d".toList = resolve R ⟨.env, "A\x7d$\x7bENV:B".toList⟩) ∧
    tokenize [] "$\x7bENV:A\x7d$\x7bENV:B\x7d".toList =
      ([.lit [], .ref ⟨.env, ['A']⟩, .lit [], .ref ⟨.env, ['B']⟩, .lit []], none) := by
  have hp : SecretRef.parse "$\x7bENV:A\x7d$\x7bENV:B\x7d".toList =
      .ok (some ⟨.env, "A\x7d$\x7bENV:B".toList⟩) := by decide
  refine ⟨fun R => by rw [resolveStr, hp]; rfl, ?_⟩
  have ha :=
    tokenize_token (r := ⟨.env, ['A']⟩) [] "ENV:A".toList "$\x7bENV:B\x7d".toList (by decide) (by decide)
  have hb := tokenize_token (r := ⟨.env, ['B']⟩) [] "ENV:B".toList [] (by decide) (by decide)
  rw [tokenize_nil_iff.mpr rfl] at hb
  exact ha.trans (congrArg (fun t => (Piece.lit [] :: .ref ⟨.env, ['A']⟩ :: t.1, t.2)) hb)

end Aeon.Types.Secrets
