import Aeon.Core.LTS
import Aeon.Core.Path
import Aeon.Core.RecordLog
import Aeon.L4Cluster.Registry

/-!
# The artifact store

`ProcessorRegistry` (`crates/aeon-engine/src/registry.rs`) with its files
`artifact_dir/name/version`; names and versions come from the caller unchecked. Calls come one at a
time.

* `artifacts_confined`: with `Normal` names a call touches its own file only and every registered
  version has its artifact;
* `artifact_store_escapes`: other names, and a failed write.
-/
namespace Aeon.L4.Artifacts

open Function List Option Finmap Aeon.Core Aeon.Core.Path Aeon.L4.Registry

structure Site where
  cwd : List Text
  artifactDir : Text
  normal : ∀ c ∈ cwd, Normal c

namespace Site

/-- mirrors registry.rs:272-274 -/
def artifactPath (site : Site) (name version : String) : Text :=
  join (join site.artifactDir name.toList) version.toList

def file (site : Site) (name version : String) : List Text :=
  resolve site.cwd (site.artifactPath name version)

def own (site : Site) (name version : String) : List Text :=
  resolve site.cwd site.artifactDir ++ [name.toList, version.toList]

end Site

def Plain (name version : String) : Prop := Normal name.toList ∧ Normal version.toList
  deriving Decidable

variable (site : Site)

lemma Site.file_eq_own_iff (name version : String) :
    site.file name version = site.own name version ↔ Plain name version :=
  resolve_join_join_eq_iff site.normal

lemma Site.own_inj {name version name' version' : String}
    (h : site.own name version = site.own name' version') : name = name' ∧ version = version' := by
  have hp := append_cancel_left h; simp only [List.cons.injEq, and_true] at hp
  exact ⟨String.toList_inj.mp hp.1, String.toList_inj.mp hp.2⟩

inductive OsWrite
  | written
  | noDirectory (e : String)
  | notOpened (e : String)
  | cutShort (kept : Nat) (e : String)

structure St where
  processors : ProcessorRegistry.Catalog
  files : List Text → Option Bytes
  registered : String → String → Bool

namespace St

def setFile (s : St) (f : List Text) (content : Option Bytes) : St :=
  { s with files := update s.files f content }

def mark (s : St) (name version : String) (b : Bool) : St :=
  { s with registered := update s.registered name (update (s.registered name) version b) }

end St

section Calls

variable (sha512Hex : Bytes → String) (site : Site) (now : Clock) (s : St)

/-- mirrors registry.rs:74-126 -/
def register (name description : String) (version : ProcessorVersion) (artifactBytes : Bytes) (os : OsWrite) :
    St × Except AeonError RegistryResponse :=
  let computedHash := sha512Hex artifactBytes
  if computedHash ≠ version.sha512 then
    (s, .error (.config ("SHA-512 mismatch: expected " ++ version.sha512 ++ ", computed " ++ computedHash)))
  else
    let f := site.file name version.version
    match os with
    | .noDirectory e => (s, .error (.config ("failed to create artifact dir: " ++ e)))
    | .notOpened e => (s, .error (.config ("failed to write artifact: " ++ e)))
    | .cutShort kept e =>
      (s.setFile f (some (artifactBytes.take kept)), .error (.config ("failed to write artifact: " ++ e)))
    | .written =>
      let s := s.setFile f (some artifactBytes)
      let out := ProcessorRegistry.applyRegister now s.processors name description version
      match out.2 with
      | .error message => (s.setFile f none, .error (.config message))
      | resp => ({ s.mark name version.version true with processors := out.1 }, .ok resp)

def find (procs : ProcessorRegistry.Catalog) (name version : String) : Option ProcessorVersion :=
  (procs.lookup name).bind fun record => record.versions.lookup version

/-- mirrors registry.rs:160-189 -/
def deleteVersion (name version : String) (removed : Bool) : St × Except AeonError RegistryResponse :=
  if (find s.processors name version).any (·.status = .active) then
    (s, .error (.config ("cannot delete active version " ++ name ++ ":" ++ version ++
      " — stop pipelines first")))
  else
    let out := ProcessorRegistry.applyDeleteVersion now s.processors name version
    let s := { s.mark name version false with processors := out.1 }
    (if removed then s.setFile (site.file name version) none else s, .ok out.2)

def command (cmd : RegistryCommand) : St × RegistryResponse :=
  let out := ProcessorRegistry.apply now s.processors cmd
  let s := match cmd with
    | .registerProcessor name _ version => s.mark name version.version false
    | .deleteVersion name version => s.mark name version false
    | _ => s
  ({ s with processors := out.1 }, out.2)

end Calls

inductive Call
  | register (name description : String) (version : ProcessorVersion) (artifactBytes : Bytes) (os : OsWrite)
  | deleteVersion (name version : String) (removed : Bool)
  | command (cmd : RegistryCommand)

def Call.pair : Call → Option (String × String)
  | .register name _ version _ _ => some (name, version.version)
  | .deleteVersion name version _ => some (name, version)
  | .command _ => none

variable (sha512Hex : Bytes → String)

def next (site : Site) (s : St) (l : Clock × Call) : St :=
  match l.2 with
  | .register name description version artifactBytes os =>
    (register sha512Hex site l.1 s name description version artifactBytes os).1
  | .deleteVersion name version removed => (deleteVersion site l.1 s name version removed).1
  | .command cmd => (command l.1 s cmd).1

def machine (site : Site) : LTS St (Clock × Call) :=
  .ofFn (fun s => ∀ name version, s.registered name version = false) fun s l => some (next sha512Hex site s l)

def OsWrite.isCutShort : OsWrite → Bool
  | .cutShort .. => true
  | _ => false

def Allowed (s : St) (l : Clock × Call) : Prop :=
  match l.2 with
  | .register name _ version _ os =>
    Plain name version.version ∧ (os.isCutShort → s.registered name version.version = false)
  | .deleteVersion name version _ => Plain name version
  | .command _ => True

instance decidableAllowed (s : St) (l : Clock × Call) : Decidable (Allowed s l) := by
  unfold Allowed; split <;> infer_instance

def Hashed (site : Site) (s : St) : Prop :=
  ∀ name version ver, s.registered name version = true → find s.processors name version = some ver →
    ∃ content, s.files (site.file name version) = some content ∧ sha512Hex content = ver.sha512

def Confined (s : St) (l : Clock × Call) (s' : St) : Prop :=
  ∀ f, s'.files f ≠ s.files f → ∃ name version, l.2.pair = some (name, version) ∧ f = site.own name version

section Records

variable {procs : ProcessorRegistry.Catalog} {now : Clock} {name version n v : String}

variable {ver : ProcessorVersion}

lemma find_applyRegister {description : String} :
    find (ProcessorRegistry.applyRegister now procs name description ver).1 n v =
      if n = name ∧ v = ver.version then some ver else find procs n v := by
  by_cases hn : n = name
  · subst hn
    simp only [find, ProcessorRegistry.applyRegister, lookup_insert, bind_some, true_and]
    by_cases hv : v = ver.version
    · rw [if_pos hv, hv, lookup_insert]
    · rw [if_neg hv, lookup_insert_of_ne _ hv]
      cases procs.lookup n with
      | none => exact lookup_empty _
      | some => rfl
  simp_all [find, ProcessorRegistry.applyRegister, lookup_insert_of_ne _ hn]

lemma find_applyDeleteVersion : find (ProcessorRegistry.applyDeleteVersion now procs name version).1 n v =
      if n = name ∧ v = version then none else find procs n v := by
  rw [ProcessorRegistry.applyDeleteVersion]; by_cases hn : n = name
  · subst hn
    cases hl : procs.lookup n with
    | none => simp [find, hl]
    | some record =>
      have hold : find procs n v = record.versions.lookup v := by simp [find, hl]
      have he : v ≠ version → (record.versions.erase version).lookup v = record.versions.lookup v :=
        fun hv => lookup_erase_ne hv
      dsimp only; split_ifs with hm hem hb hb hb
      · simp [find]
      · -- the record went with its last version
        have hv : v ≠ version := fun hv => hb ⟨rfl, hv⟩
        have hno : (record.versions.erase version).lookup v = none := by
          simp [lookup_eq_none, ← Finmap.mem_keys, hem]
        simp [find, hl, ← he hv, hno]
      · obtain ⟨-, rfl⟩ := hb; simp [find]
      · simp_all [find]
      · rw [hold, hb.2]; exact lookup_eq_none.mpr hm
      · rfl
  · rw [if_neg (fun h => hn h.1)]
    cases procs.lookup name with
    | none => rfl
    | some =>
      dsimp only; split_ifs
      · simp [find, lookup_erase_ne hn]
      · simp_all [find]
      · rfl

lemma find_applySetStatus {status : VersionStatus}
    (h : find (ProcessorRegistry.applySetStatus now procs name version status).1 n v = some ver) :
    ∃ old, find procs n v = some old ∧ old.sha512 = ver.sha512 := by
  rw [ProcessorRegistry.applySetStatus] at h
  cases hl : procs.lookup name with
  | none => grind
  | some record =>
    cases hv : record.versions.lookup version with
    | none => grind
    | some =>
      simp only [hl, hv] at h; by_cases hn : n = name
      · subst hn; simp only [find, lookup_insert, bind_some] at h
        by_cases hv' : v = version
        · subst hv'; rw [lookup_insert, Option.some.injEq] at h
          simp [find, hl, hv, ← h]
        simp_all [lookup_insert_of_ne _ hv', find]
      simp_all [find, lookup_insert_of_ne _ hn]

end Records

section Steps

variable {sha512Hex : Bytes → String} {site : Site} {s : St} {now : Clock} {name version : String}

structure Inv (sha512Hex : Bytes → String) (site : Site) (s : St) : Prop where
  plain : ∀ name version, s.registered name version = true → Plain name version
  hashed : Hashed sha512Hex site s

lemma Site.file_of_plain (h : Plain name version) : site.file name version = site.own name version :=
  (site.file_eq_own_iff name version).mpr h

lemma registered_mark (s : St) (name version : String) (b : Bool) (n v : String) :
    (s.mark name version b).registered n v = if n = name ∧ v = version then b else s.registered n v := by
  by_cases hn : n = name
  · subst hn; by_cases hv : v = version
    · simp [St.mark, hv]
    · simp [St.mark, hv]
  · simp [St.mark, hn]

lemma files_other (h : Plain name version) (hp : Plain n v) (hne : ¬ (n = name ∧ v = version))
    (content : Option Bytes) :
    update s.files (site.file name version) content (site.file n v) = s.files (site.file n v) := by
  refine update_of_ne (fun heq => hne ?_) ..
  rw [site.file_of_plain hp, site.file_of_plain h] at heq; exact site.own_inj heq

lemma confined_setFile (h : Plain name version) (hl : l.2.pair = some (name, version))
    (content : Option Bytes) (hfi : s'.files = (s.setFile (site.file name version) content).files) :
    Confined site s l s' := by
  intro f hf; refine ⟨name, version, hl, ?_⟩; by_contra hne
  rw [← site.file_of_plain h] at hne; rw [hfi] at hf
  exact hf (update_of_ne hne ..)

lemma confined_same (hfi : s'.files = s.files) : Confined site s l s' :=
  fun f hf => absurd (congrFun hfi f) hf

lemma Inv.setFile (h : Inv sha512Hex site s) (hp : Plain name version)
    (hf : s.registered name version = false) (content : Option Bytes) :
    Inv sha512Hex site (s.setFile (site.file name version) content) := by
  refine ⟨h.plain, fun n v ver hr hfi => ?_⟩
  have hne : ¬ (n = name ∧ v = version) := by
    rintro ⟨rfl, rfl⟩; rw [show s.registered n v = true from hr] at hf; cases hf
  obtain ⟨bytes, hb, hs⟩ := h.hashed n v ver hr hfi
  exact ⟨bytes, (files_other hp (h.plain n v hr) hne content).trans hb, hs⟩

variable {procs : ProcessorRegistry.Catalog}

section

variable (h : Inv sha512Hex site s)
include h

lemma Inv.records {registered : String → String → Bool}
    (hr : ∀ n v, registered n v = true → s.registered n v = true)
    (hfi : ∀ n v ver, registered n v = true → find procs n v = some ver →
      ∃ old, find s.processors n v = some old ∧ old.sha512 = ver.sha512) :
    Inv sha512Hex site { s with processors := procs, registered } := by
  refine ⟨fun n v hn => h.plain n v (hr n v hn), fun n v ver hn hf => ?_⟩
  obtain ⟨old, hold, hs⟩ := hfi n v ver hn hf; rw [← hs]
  exact h.hashed n v old (hr n v hn) hold

lemma Inv.unmark (name version : String)
    (hfi : ∀ n v, ¬ (n = name ∧ v = version) → find procs n v = find s.processors n v) :
    Inv sha512Hex site { s.mark name version false with processors := procs } := by
  have hm : ∀ n v, (s.mark name version false).registered n v = true →
      ¬ (n = name ∧ v = version) ∧ s.registered n v = true := by
    intro n v hn; rw [registered_mark] at hn; split_ifs at hn with hs
    exact ⟨hs, hn⟩
  refine h.records (fun n v hn => (hm n v hn).2) fun n v ver hn hf => ?_; grind

lemma Inv.recorded {bytes : Bytes} (hp : Plain name ver.version) (hsh : sha512Hex bytes = ver.sha512)
    (hfi : ∀ n v, find procs n v = if n = name ∧ v = ver.version then some ver else find s.processors n v) :
    Inv sha512Hex site
      { (s.setFile (site.file name ver.version)
        (some bytes)).mark name ver.version true with processors := procs } := by
  have hm := registered_mark (s.setFile (site.file name ver.version) (some bytes)) name ver.version true
  refine ⟨fun n v hr => ?_, fun n v ver' hr hf => ?_⟩
  · rw [hm] at hr; split_ifs at hr with hs
    · grind
    · exact h.plain n v hr
  · rw [hm] at hr; rw [hfi] at hf; split_ifs at hr hf with hs
    · obtain ⟨rfl, rfl⟩ := hs; cases hf; exact ⟨bytes, update_self .., hsh⟩
    · obtain ⟨old, hold, hs'⟩ := h.hashed n v ver' hr hf
      exact ⟨old, (files_other hp (h.plain n v hr) hs _).trans hold, hs'⟩

lemma Inv.register {description : String} {bytes : Bytes} (hp : Plain name ver.version)
    (hc : os.isCutShort → s.registered name ver.version = false) :
    let s' := (register sha512Hex site now s name description ver bytes os).1
    Inv sha512Hex site s' ∧ Confined site s (now, .register name description ver bytes os) s' := by
  rw [Artifacts.register]; dsimp only; split_ifs with hs
  · exact ⟨h, confined_same rfl⟩
  · rw [ne_eq, not_not] at hs
    cases os with
    | noDirectory | notOpened => exact ⟨h, confined_same rfl⟩
    | cutShort => exact ⟨h.setFile hp (hc rfl) _, confined_setFile hp rfl _ rfl⟩
    | written => exact ⟨h.recorded hp hs fun n v => find_applyRegister, confined_setFile hp rfl _ rfl⟩

lemma Inv.deleteVersion {removed : Bool} (hp : Plain name version) :
    let s' := (deleteVersion site now s name version removed).1
    Inv sha512Hex site s' ∧ Confined site s (now, .deleteVersion name version removed) s' := by
  rw [Artifacts.deleteVersion]; dsimp only; split_ifs with ha hr
  · exact ⟨h, confined_same rfl⟩
  · have hf : ∀ n v, ¬ (n = name ∧ v = version) →
        find (ProcessorRegistry.applyDeleteVersion now s.processors name version).1 n v =
          find s.processors n v :=
      fun n v hne => find_applyDeleteVersion.trans (if_neg hne)
    refine ⟨(h.unmark name version hf).setFile hp ?_ none, confined_setFile hp rfl none rfl⟩
    exact (registered_mark s name version false name version).trans (if_pos ⟨rfl, rfl⟩)
  · exact ⟨h.unmark name version (fun n v hne => find_applyDeleteVersion.trans (if_neg hne)),
      confined_same rfl⟩

lemma Inv.command (cmd : RegistryCommand) :
    let s' := (command now s cmd).1
    Inv sha512Hex site s' ∧ Confined site s (now, .command cmd) s' := by
  cases cmd with
  | registerProcessor name description ver =>
    exact ⟨h.unmark name ver.version (fun n v hne => find_applyRegister.trans (if_neg hne)),
      confined_same rfl⟩
  | deleteVersion name version =>
    exact ⟨h.unmark name version (fun n v hne => find_applyDeleteVersion.trans (if_neg hne)),
      confined_same rfl⟩
  | setVersionStatus =>
    exact ⟨h.records (fun _ _ hn => hn) fun n v ver _ hf => find_applySetStatus hf, confined_same rfl⟩
  | _ => exact ⟨h, confined_same rfl⟩

lemma Inv.next (hl : Allowed s l) :
    Inv sha512Hex site (next sha512Hex site s l) ∧ Confined site s l (next sha512Hex site s l) := by
  obtain ⟨now, call⟩ := l
  cases call with
  | register => exact h.register hl.1 hl.2
  | deleteVersion => exact h.deleteVersion hl
  | command cmd => exact h.command cmd

end

lemma Allowed.plain (hl : Allowed s l) (hp : l.2.pair = some (name, version)) :
    Plain name version := by
  obtain ⟨now, call⟩ := l
  cases call with
  | register => cases hp; exact hl.1
  | deleteVersion => cases hp; exact hl
  | command => cases hp

end Steps

def pairs (ls : List (Clock × Call)) : List (String × String) := ls.filterMap (·.2.pair)

theorem artifacts_confined (site : Site) {s₀ s : St} {ls : List (Clock × Call)}
    (hs : (machine sha512Hex site).init s₀) (hru : ((machine sha512Hex site).restrict Allowed).Run s₀ ls s) :
    Hashed sha512Hex site s ∧ (∀ p ∈ pairs ls, ∀ q ∈ pairs ls, site.file p.1 p.2 = site.file q.1 q.2 →
      p = q) ∧
      (∀ l, Allowed s l → Confined site s l (next sha512Hex site s l)) ∧
      ∀ name version, site.file name version = site.own name version ↔ Plain name version := by
  have hi : Inv sha512Hex site s ∧ ∀ p ∈ pairs ls, Plain p.1 p.2 := by
    refine LTS.Run.induct_labels (I := fun ls s => Inv sha512Hex site s ∧ ∀ p ∈ pairs ls,
      Plain p.1 p.2) ?_ ?_ hru
    · refine ⟨⟨fun n v hr => ?_, fun n v ver hr => ?_⟩, by simp [pairs]⟩
      · rw [hs n v] at hr; cases hr
      · rw [hs n v] at hr; cases hr
    · intro ls t l u ht hst; obtain ⟨hl, hu⟩ := hst; cases hu
      refine ⟨(ht.1.next hl).1, fun p hp => ?_⟩
      rw [pairs, filterMap_append, mem_append] at hp; rcases hp with hp | hp
      · exact ht.2 p hp
      · obtain ⟨l', hl', hpa⟩ := mem_filterMap.mp hp
        rw [mem_singleton.mp hl'] at hpa; exact hl.plain hpa
  refine ⟨hi.1.hashed, fun p hp q hq heq => ?_, fun l hl => (hi.1.next hl).2, site.file_eq_own_iff⟩
  rw [site.file_of_plain (hi.2 p hp), site.file_of_plain (hi.2 q hq)] at heq
  exact Prod.ext_iff.mpr (site.own_inj heq)

section Demo

def emptyOrNot (content : Bytes) : String := if content = [] then "empty" else "full"

def artifactsSite : Site := ⟨[], "/var/lib/artifacts".toList, by simp⟩

def passwd : List Text := ["etc".toList, "passwd".toList]

def withPasswd : St where
  processors := ∅
  files := update (fun _ => none) passwd (some [1])
  registered := fun _ _ => false

def ver (version : String) : ProcessorVersion :=
  { version, sha512 := "full", sizeBytes := 1, processorType := .wasm, platform := "wasm32"
    status := .available, registeredAt := 0, registeredBy := "ci" }

def clock : Clock := fun _ => 0

def twice : List (Clock × Call) := [(clock, .register "enrich" "" (ver "1.0.0") [7] .written),
    (clock, .register "enrich" "" (ver "1.0.0") [7] (.cutShort 0 "No space left on device"))]

theorem artifact_store_escapes :
    ((next emptyOrNot artifactsSite withPasswd (clock, .deleteVersion "../../../etc" "passwd" true)).files
      passwd = none ∧
        withPasswd.files passwd = some [1] ∧
        ¬ resolve [] artifactsSite.artifactDir <+: passwd) ∧
      artifactsSite.file "a" "b/c" = artifactsSite.file "a/b" "c" ∧
      ∃ s, (machine emptyOrNot artifactsSite).Run withPasswd twice s ∧
      ¬ Hashed emptyOrNot artifactsSite s := by
  refine ⟨by decide +kernel, by decide +kernel, ?_⟩
  have h : (LTS.exec (fun s l => some (next emptyOrNot artifactsSite s l)) withPasswd twice).map
      (fun s => (s.registered "enrich" "1.0.0", find s.processors "enrich" "1.0.0",
        s.files (artifactsSite.file "enrich" "1.0.0"))) = some (true, some (ver "1.0.0"), some []) := by
    decide +kernel
  obtain ⟨s, hs, hv⟩ := map_eq_some_iff.mp h; simp only [Prod.mk.injEq] at hv
  obtain ⟨hr, hf, hfi⟩ := hv; refine ⟨s, LTS.run_of_exec hs, fun hh => ?_⟩
  obtain ⟨content, hc, hsh⟩ := hh _ _ _ hr hf; rw [hfi, Option.some.injEq] at hc
  rw [← hc] at hsh; exact absurd hsh (by decide)

def plainCalls : List (Clock × Call) :=
  [(clock, .register "enrich" "" (ver "1.0.0") [7] .written), (clock, .deleteVersion "enrich" "2.0.0" true),
    (clock, .register "enrich" "" (ver "2.0.0") [8] (.cutShort 0 "No space left on device")),
    (clock, .command (.setVersionStatus "enrich" "1.0.0" .active))]

theorem artifacts_confined_plain :
    ∃ s, ((machine emptyOrNot artifactsSite).restrict Allowed).Run withPasswd plainCalls s ∧
      s.registered "enrich" "1.0.0" = true ∧ Hashed emptyOrNot artifactsSite s := by
  have h : (LTS.exec (fun s l => if Allowed s l then some (next emptyOrNot artifactsSite s l) else none)
      withPasswd plainCalls).map (fun s => s.registered "enrich" "1.0.0") = some true := by decide +kernel
  obtain ⟨s, hs, hr⟩ := map_eq_some_iff.mp h
  have hru : ((machine emptyOrNot artifactsSite).restrict Allowed).Run withPasswd plainCalls s :=
    LTS.run_restrict_of_exec hs
  exact ⟨s, hru, hr, (artifacts_confined emptyOrNot artifactsSite (fun _ _ => rfl) hru).1⟩

end Demo

end Aeon.L4.Artifacts
