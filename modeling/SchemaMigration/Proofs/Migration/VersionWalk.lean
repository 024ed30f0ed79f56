import SchemaMigration.Migration.Driver
import SchemaMigration.Proofs.Migration.DirectoryIndex
import SchemaMigration.Proofs.Migration.SessionRun

/-!
# Walks through the versions

A driver steps through the versions of its directory in increasing order, in both directions, and a
walk from the first version on visits each of them once and ends. The largest version that there can
be is the exception: it is its own successor, so a walk that comes to it stays there.

## Main definitions

* `VersionIndex.Valid` — what is true of the index of a directory.
* `Follows` — one version comes right after another.
* `Driver.walk` — the versions that a walk visits.

The main result is `Driver.walk_openUrl`.
-/

namespace SchemaMigration

/-- Among some versions the second is the next above the first. -/
structure Follows (versions : List Nat) (v w : Nat) : Prop where
  mem : v ∈ versions
  mem_next : w ∈ versions
  lt : v < w
  between : ∀ x ∈ versions, v < x → w ≤ x

/-! ## Increasing lists -/

section Increasing

variable {vs : List Nat} (h : vs.Pairwise (· < ·))
include h

theorem find?_le_eq_some_iff (bound w : Nat) :
    vs.find? (bound ≤ ·) = some w ↔ w ∈ vs ∧ bound ≤ w ∧ ∀ x ∈ vs, bound ≤ x → w ≤ x := by
  induction vs with
  | nil => simp
  | cons v vs ih =>
    obtain ⟨hv, hvs⟩ := List.pairwise_cons.1 h
    by_cases hb : bound ≤ v <;> grind

theorem getLast?_eq_some_iff_max (v : Nat) :
    vs.getLast? = some v ↔ v ∈ vs ∧ ∀ x ∈ vs, x ≤ v := by
  induction vs with
  | nil => simp
  | cons u vs ih =>
    obtain ⟨hu, hvs⟩ := List.pairwise_cons.1 h
    cases vs with
    | nil => grind
    | cons u' vs =>
      have hu' := hu u' (by simp)
      rw [List.getLast?_cons_cons, ih hvs]
      grind

theorem getLast?_filter_lt_eq_some_iff (w v : Nat) :
    (vs.filter (· < w)).getLast? = some v ↔ v ∈ vs ∧ v < w ∧ ∀ x ∈ vs, x < w → x ≤ v := by
  rw [getLast?_eq_some_iff_max (h.filter _)]
  simp [and_assoc]

theorem le_of_eq_append {before : List Nat} {v : Nat} (hvs : vs = before ++ [v]) :
    ∀ x ∈ vs, x ≤ v := by
  subst hvs
  obtain ⟨-, -, hlt⟩ := List.pairwise_append.1 h
  intro x hx
  obtain hx | hx := List.mem_append.1 hx
  · exact Nat.le_of_lt (hlt x hx v (by simp))
  · exact Nat.le_of_eq (List.mem_singleton.1 hx)

theorem follows_of_eq_append {before after : List Nat} {v w : Nat}
    (hvs : vs = before ++ v :: w :: after) : Follows vs v w := by
  subst hvs
  obtain ⟨-, hafter, hbefore⟩ := List.pairwise_append.1 h
  obtain ⟨hv, hw⟩ := List.pairwise_cons.1 hafter
  obtain ⟨hw, -⟩ := List.pairwise_cons.1 hw
  refine ⟨by simp, by simp, hv w (by simp), fun x hx hvx => ?_⟩
  simp only [List.mem_append, List.mem_cons] at hx
  obtain hx | rfl | rfl | hx := hx
  · have := hbefore x hx v (by simp)
    omega
  · omega
  · omega
  · exact Nat.le_of_lt (hw x hx)

end Increasing

/-! ## The index of a directory -/

namespace VersionIndex

/-- An index has its versions in increasing order, and none above the largest that there can be. -/
structure Valid (index : VersionIndex) : Prop where
  increasing : index.versions.Pairwise (· < ·)
  bounded : ∀ v ∈ index.versions, v ≤ maxVersion

theorem valid_ofNames {names : List String} {index : VersionIndex}
    (h : ofNames names = .ok index) : index.Valid := by
  have hindex := isIndex_ofNames h
  refine ⟨hindex.increasing, fun v hv => ?_⟩
  obtain ⟨⟨v, name⟩, hmem, rfl⟩ := List.mem_map.1 hv
  exact ((hindex.mem_iff v name).1 hmem).2.1

/-! ### Steps -/

section Steps

variable {index : VersionIndex} (h : index.Valid)
include h

theorem prev?_eq_some_iff (w v : Nat) : index.prev? w = some v ↔ Follows index.versions v w := by
  simp only [prev?, List.contains_iff_mem]
  split
  next hw =>
    rw [getLast?_filter_lt_eq_some_iff h.increasing]
    constructor
    · rintro ⟨hv, hlt, hmax⟩
      refine ⟨hv, hw, hlt, fun x hx hvx => ?_⟩
      have := hmax x hx
      omega
    · intro hf
      refine ⟨hf.mem, hf.lt, fun x hx hxw => ?_⟩
      have := hf.between x hx
      omega
  next hw => exact ⟨nofun, fun hf => absurd hf.mem_next hw⟩

theorem ne_maxVersion_of_follows {v w : Nat} (hf : Follows index.versions v w) :
    v ≠ maxVersion := by
  have := hf.lt
  have := h.bounded w hf.mem_next
  omega

/-- The successor of a version is the next one above it, but the largest version is its own. -/
theorem next?_eq_some_iff (v w : Nat) :
    index.next? v = some w ↔
      Follows index.versions v w ∨ v = maxVersion ∧ w = v ∧ v ∈ index.versions := by
  simp only [next?, List.contains_iff_mem]
  split
  next hv =>
    have hle := h.bounded v hv
    rw [find?_le_eq_some_iff h.increasing]
    -- above the largest version there is no number to start the search at
    by_cases hmax : v = maxVersion
    · have hno : ¬Follows index.versions v w := fun hf => ne_maxVersion_of_follows h hf hmax
      have hbound : min (v + 1) maxVersion = v := by omega
      simp only [hbound, hno, false_or]
      constructor
      · rintro ⟨-, hvw, hmin⟩
        have := hmin v hv (Nat.le_refl v)
        exact ⟨hmax, by omega, hv⟩
      · rintro ⟨-, rfl, -⟩
        exact ⟨hv, Nat.le_refl w, fun x _ hx => hx⟩
    · have hbound : min (v + 1) maxVersion = v + 1 := by omega
      simp only [hbound, hmax, false_and, or_false]
      exact ⟨fun ⟨hw, hlt, hmin⟩ => ⟨hv, hw, hlt, hmin⟩,
        fun hf => ⟨hf.mem_next, hf.lt, hf.between⟩⟩
  next hv =>
    refine ⟨nofun, ?_⟩
    rintro (hf | ⟨-, -, hmem⟩)
    · exact absurd hf.mem hv
    · exact absurd hmem hv

theorem next?_eq_none_iff {v : Nat} (hv : v ∈ index.versions) :
    index.next? v = none ↔ (∀ w ∈ index.versions, w ≤ v) ∧ v ≠ maxVersion := by
  have hle := h.bounded v hv
  simp only [next?, List.contains_iff_mem, if_pos hv, List.find?_eq_none, decide_eq_true_eq]
  constructor
  · intro hno
    have hself := hno v hv
    refine ⟨fun w hw => ?_, by omega⟩
    have := hno w hw
    omega
  · rintro ⟨hlast, hmax⟩ w hw
    have := hlast w hw
    omega

end Steps

end VersionIndex

/-! ## Drivers -/

namespace Driver

open VersionIndex

/-- The first versions that a walk visits from a version on, by going to the next one again and
again. -/
def walkFrom (d : Driver) : Nat → Nat → List Nat
  | 0, _ => []
  | n + 1, v =>
    v ::
      match d.next v with
      | .ok w => d.walkFrom n w
      | .error _ => []

/-- The first versions that a walk visits, from the lowest version on. -/
def walk (d : Driver) (n : Nat) : List Nat :=
  match d.first with
  | .ok v => d.walkFrom n v
  | .error _ => []

section Opened

variable {d : Driver} {o : OpenedSource} (ho : d.opened? = some o)
include ho

theorem step_eq (missing : Nat) (f : VersionIndex → Option Nat) :
    d.step missing f = (f o.index).elim (.error (.versionNotFound missing)) .ok := by
  simp only [step, opened, ho, Bind.bind, Except.bind]
  cases f o.index <;> rfl

theorem step_eq_ok_iff {missing w : Nat} {f : VersionIndex → Option Nat} :
    d.step missing f = .ok w ↔ f o.index = some w := by
  rw [step_eq ho]
  cases f o.index <;> simp

theorem step_eq_error_iff {missing : Nat} {f : VersionIndex → Option Nat} {e : MigrationError} :
    d.step missing f = .error e ↔ f o.index = none ∧ e = .versionNotFound missing := by
  rw [step_eq ho]
  cases f o.index <;> simp [eq_comm]

variable (h : o.index.Valid)
include h

theorem next_eq_ok_iff (v w : Nat) :
    d.next v = .ok w ↔
      Follows o.index.versions v w ∨ v = maxVersion ∧ w = v ∧ v ∈ o.index.versions := by
  rw [next, step_eq_ok_iff ho, next?_eq_some_iff h]

theorem next_eq_error_iff {v : Nat} (hv : v ∈ o.index.versions) :
    (∃ e, d.next v = .error e) ↔ (∀ w ∈ o.index.versions, w ≤ v) ∧ v ≠ maxVersion := by
  simp [next, step_eq_error_iff ho, next?_eq_none_iff h hv]

/-- The largest version that there can be is the only one that `prev` and `next` disagree on. -/
theorem prev_eq_ok_iff (v w : Nat) :
    d.prev w = .ok v ↔ d.next v = .ok w ∧ v ≠ maxVersion := by
  rw [prev, step_eq_ok_iff ho, prev?_eq_some_iff h, next_eq_ok_iff ho h]
  constructor
  · intro hf
    exact ⟨.inl hf, ne_maxVersion_of_follows h hf⟩
  · rintro ⟨hf | ⟨hv, -, -⟩, hne⟩
    · exact hf
    · exact absurd hv hne

/-- A walk that stands at a version goes through those above it. Then it ends, or stays at the
largest version that there can be. -/
theorem walkFrom_eq {before after : List Nat} {v : Nat}
    (hvs : o.index.versions = before ++ v :: after) (n : Nat) :
    d.walkFrom n v = (v :: after).take n ++
      if maxVersion ∈ o.index.versions then List.replicate (n - (after.length + 1)) maxVersion
      else [] := by
  -- with every step one version goes over to those that lie behind
  induction n generalizing before v after with
  | zero => simp [walkFrom]
  | succ n ih =>
    have hv : v ∈ o.index.versions := by simp [hvs]
    cases after with
    | nil =>
      have hlast := le_of_eq_append h.increasing hvs
      by_cases hmax : maxVersion ∈ o.index.versions
      · obtain rfl : v = maxVersion := Nat.le_antisymm (h.bounded v hv) (hlast _ hmax)
        have hnext := (next_eq_ok_iff ho h _ _).2 (.inr ⟨rfl, rfl, hv⟩)
        simp only [walkFrom, hnext, ih hvs, if_pos hmax]
        cases n <;> simp [List.replicate_succ]
      · have hne : v ≠ maxVersion := fun heq => hmax (heq ▸ hv)
        obtain ⟨e, hnext⟩ := (next_eq_error_iff ho h hv).2 ⟨hlast, hne⟩
        simp [walkFrom, hnext, hmax]
    | cons w after =>
      have hnext := (next_eq_ok_iff ho h v w).2 (.inl (follows_of_eq_append h.increasing hvs))
      have hrest := ih (show o.index.versions = (before ++ [v]) ++ w :: after by simp [hvs])
      simp [walkFrom, hnext, hrest]

theorem walk_eq (n : Nat) :
    d.walk n = o.index.versions.take n ++
      if maxVersion ∈ o.index.versions then
        List.replicate (n - o.index.versions.length) maxVersion
      else [] := by
  cases hvs : o.index.versions with
  | nil =>
    have hfirst : d.first = .error (.versionNotFound 0) :=
      (step_eq_error_iff ho).2 ⟨by simp [first?, hvs], rfl⟩
    simp [walk, hfirst]
  | cons v after =>
    have hfirst : d.first = .ok v := (step_eq_ok_iff ho).2 (by simp [first?, hvs])
    have hwalk := @walkFrom_eq d o ho h [] after v hvs n
    rw [hvs] at hwalk
    rw [walk, hfirst]
    exact hwalk

end Opened

/-! ## Opening -/

theorem exists_of_openUrl {w w' : Workspace} {url : String} {d : Driver}
    (hd : Work.runIn w (openUrl url) = (.ok d, w')) :
    ∃ o, d.opened? = some o ∧ o.index.Valid := by
  obtain ⟨locator, w₁, -, hd⟩ := Work.runIn_bind_eq_ok hd
  obtain ⟨session, w₂, -, hd⟩ := Work.runIn_bind_eq_ok hd
  obtain ⟨store, w₃, -, hd⟩ := Work.runIn_bind_eq_ok hd
  obtain ⟨names, w₄, -, hd⟩ := Work.runIn_bind_eq_ok hd
  obtain ⟨index, w₅, hindex, hd⟩ := Work.runIn_bind_eq_ok hd
  obtain ⟨adapters, w₆, -, hd⟩ := Work.runIn_bind_eq_ok hd
  obtain rfl := Except.ok.inj (congrArg Prod.fst hd)
  exact ⟨_, rfl, valid_ofNames (Work.ok_of_runIn_orConfiguration hindex)⟩

/-- A driver that was opened has its versions in increasing order. Its steps go to the next version
above or below, and `next` fails at the last one. A walk from the first version on visits each once
and ends. Only the largest version that there can be is its own successor when a directory has it,
and the walk stays there. -/
theorem walk_openUrl {w w' : Workspace} {url : String} {d : Driver}
    (hd : Work.runIn w (openUrl url) = (.ok d, w')) :
    let vs := d.migrations.versions
    (vs.Pairwise (· < ·) ∧ ∀ v ∈ vs, v ≤ maxVersion) ∧
    (∀ v w, d.next v = .ok w ↔ Follows vs v w ∨ v = maxVersion ∧ w = v ∧ v ∈ vs) ∧
    (∀ v ∈ vs, (∃ e, d.next v = .error e) ↔ (∀ w ∈ vs, w ≤ v) ∧ v ≠ maxVersion) ∧
    (∀ v w, d.prev w = .ok v ↔ d.next v = .ok w ∧ v ≠ maxVersion) ∧
    ∀ n, d.walk n = vs.take n ++
      if maxVersion ∈ vs then List.replicate (n - vs.length) maxVersion else [] := by
  intro vs
  obtain ⟨o, ho, h⟩ := exists_of_openUrl hd
  have hvs : vs = o.index.versions := by simp [vs, migrations, ho]
  rw [hvs]
  exact ⟨⟨h.increasing, h.bounded⟩, next_eq_ok_iff ho h, fun v => next_eq_error_iff ho h,
    prev_eq_ok_iff ho h, walk_eq ho h⟩

end Driver

/-! ### Directories of empty scripts -/

/-- A workspace with a session and with the store of a directory of empty scripts. -/
def scriptDirectory (names : List String) : Workspace :=
  { files :=
      { nodes := (["m"], .directory) :: names.mapIdx fun i name => ([name, "m"], .file ⟨i⟩) }
    sessions := #[.create "default"]
    sessionPool := { registered := [("default", ⟨0⟩)] }
    stores := #[{ root := "m" }]
    storePool := [("lua://m", ⟨0⟩)] }

theorem list_scriptDirectory {names : List String} (h : names.Pairwise (· ≤ ·)) :
    ((scriptDirectory names).store ⟨0⟩).list (scriptDirectory names).files = .ok names := by
  have hfind : (scriptDirectory names).files.find "m" = .ok (["m"], .directory) := by rfl
  have hnames : (scriptDirectory names).files.fileNames ["m"] = names := by
    have hsort : names.mergeSort = names :=
      List.mergeSort_of_pairwise (h.imp fun hle => by simpa using hle)
    simpa [FileTree.fileNames, scriptDirectory, List.mapIdx_eq_zipIdx_map, List.filterMap_map,
      Function.comp_def] using hsort
  calc ((scriptDirectory names).store ⟨0⟩).list (scriptDirectory names).files
      = ScriptStore.list (scriptDirectory names).files { root := "m" } := rfl
    _ = .ok ((scriptDirectory names).files.fileNames ["m"]) := by
      rw [ScriptStore.list, ScriptStore.ensureOpen, hfind]
      rfl
    _ = .ok names := by rw [hnames]

theorem openUrl_scriptDirectory {names : List String} {index : VersionIndex}
    (hsorted : names.Pairwise (· ≤ ·)) (h : VersionIndex.ofNames names = .ok index) :
    ∃ d w', Work.runIn (scriptDirectory names) (Driver.openUrl "lua://m") = (.ok d, w') ∧
      d.migrations = index := by
  have hlocator : Locator.parse "lua://m" = .ok ⟨"m", []⟩ := by rfl
  have hname : (({ path := "m" } : Locator).query.get? Driver.sessionParameter).getD
      Driver.defaultSession = "default" := rfl
  have hsession : (scriptDirectory names).sessionOf "default" = (⟨0⟩, scriptDirectory names) :=
    Workspace.sessionOf_of_session?_eq_some rfl
  have hkey : Driver.storeKey "m" = "lua://m" := by rfl
  have hstore : Work.runIn (scriptDirectory names) (Work.storeOf "lua://m" "m") =
      (.ok ⟨0⟩, scriptDirectory names) := by rfl
  have hlist : Work.runIn (scriptDirectory names) (Work.list ⟨0⟩) =
      (.ok names, scriptDirectory names) := by
    simp [Work.list, Work.runIn_bind, list_scriptDirectory hsorted]
  refine ⟨⟨some ⟨"lua://m", ⟨0⟩, ⟨0⟩, index, ⟨0⟩⟩⟩, (scriptDirectory names).newAdapterSet.2, ?_,
    rfl⟩
  simp only [Driver.openUrl, Work.runIn_bind, Work.orConfiguration, hlocator, Work.runIn_pure,
    Work.runIn_make, hname, hsession, hkey, hstore, hlist, h]
  rfl

theorem walk_openUrl_twoScripts :
    ∃ d w', Work.runIn (scriptDirectory ["1_a.lua", "3_c.lua", "notes.txt"])
        (Driver.openUrl "lua://m") = (.ok d, w') ∧
      d.migrations = [(1, "1_a.lua"), (3, "3_c.lua")] ∧ d.next 1 = .ok 3 ∧ d.prev 3 = .ok 1 ∧
      (∃ e, d.next 3 = .error e) ∧ ∀ n, d.walk n = [1, 3].take n := by
  have hsorted : ["1_a.lua", "3_c.lua", "notes.txt"].Pairwise (· ≤ ·) := by decide
  obtain ⟨d, w', hd, hindex⟩ := @openUrl_scriptDirectory _ [(1, "1_a.lua"), (3, "3_c.lua")]
    hsorted (by rfl)
  obtain ⟨-, hnext, hlast, hprev, hwalk⟩ := Driver.walk_openUrl hd
  have hvs : d.migrations.versions = [1, 3] := by rw [hindex]; rfl
  have hmax : VersionIndex.maxVersion ∉ [1, 3] := by decide
  have hstep : d.next 1 = .ok 3 := by
    rw [hnext, hvs]
    exact .inl ⟨by decide, by decide, by decide, by decide⟩
  simp only [hvs] at hlast hwalk
  refine ⟨d, w', hd, hindex, hstep, ?_, ?_, fun n => ?_⟩
  · exact (hprev 1 3).2 ⟨hstep, by decide⟩
  · exact (hlast 3 (by decide)).2 ⟨by decide, by decide⟩
  · rw [hwalk, if_neg hmax, List.append_nil]

/-- A directory with the largest version there can be: `next` answers the version it was asked
about, `prev` does not answer it, and a walk never ends. -/
theorem walk_stays_of_maxVersion :
    ∃ d w', Work.runIn (scriptDirectory ["18446744073709551615_x.lua"])
        (Driver.openUrl "lua://m") = (.ok d, w') ∧
      d.migrations = [(0xFFFFFFFFFFFFFFFF, "18446744073709551615_x.lua")] ∧
      d.next 0xFFFFFFFFFFFFFFFF = .ok 0xFFFFFFFFFFFFFFFF ∧
      d.prev 0xFFFFFFFFFFFFFFFF ≠ .ok 0xFFFFFFFFFFFFFFFF ∧
      ∀ n, d.walk n = List.replicate n 0xFFFFFFFFFFFFFFFF := by
  obtain ⟨d, w', hd, hindex⟩ := @openUrl_scriptDirectory ["18446744073709551615_x.lua"]
    [(0xFFFFFFFFFFFFFFFF, "18446744073709551615_x.lua")] (by decide) (by rfl)
  obtain ⟨o, ho, h⟩ := Driver.exists_of_openUrl hd
  have hvs : o.index.versions = [0xFFFFFFFFFFFFFFFF] := by
    have hmigrations : d.migrations = o.index := by simp [Driver.migrations, ho]
    rw [← hmigrations, hindex]
    rfl
  have hmax : VersionIndex.maxVersion ∈ o.index.versions := by rw [hvs]; decide
  refine ⟨d, w', hd, hindex, ?_, ?_, fun n => ?_⟩
  · exact (Driver.next_eq_ok_iff ho h _ _).2 (.inr ⟨rfl, rfl, hmax⟩)
  · intro hprev
    exact ((Driver.prev_eq_ok_iff ho h _ _).1 hprev).2 rfl
  · rw [Driver.walk_eq ho h n, if_pos hmax, hvs]
    cases n with
    | zero => rfl
    | succ n => simp [List.replicate_succ, VersionIndex.maxVersion]

end SchemaMigration
