import SchemaMigration.Proofs.Migration.FailedOpening
import SchemaMigration.Proofs.Migration.VersionWalk

/-!
# The versions of a driver

A driver has the versions of the files that its directory lists when it is opened.

## Main definitions

* `Workspace.listed` — the files that are listed when a locator is opened.
* `Driver.migrations_openUrl` — the versions of the driver are those of the listed files.
-/

namespace SchemaMigration

open VersionIndex

namespace Workspace

/-- The store that a locator is opened on: the registered one of its directory, or a new one. -/
def storeAt (w : Workspace) (l : Locator) : Except MigrationError ScriptStore :=
  match w.store? (Driver.storeKey l.path) with
  | some id => .ok (w.store id)
  | none => ScriptStore.openAt w.files l.path

/-- The names of the files that are listed when a locator is opened. -/
def listed (w : Workspace) (url : String) : Except MigrationError (List String) := do
  let l ← (Locator.parse url).mapError .configuration
  (← w.storeAt l).list w.files

theorem storeAt_sessionOf (w : Workspace) (key : String) (l : Locator) :
    (w.sessionOf key).2.storeAt l = w.storeAt l := by
  obtain ⟨sessions, sessionPool, h⟩ := w.sessionOf_eq key
  rw [h]
  rfl

theorem files_sessionOf (w : Workspace) (key : String) : (w.sessionOf key).2.files = w.files := by
  obtain ⟨sessions, sessionPool, h⟩ := w.sessionOf_eq key
  rw [h]

/-- Getting the store of a locator gets the one that it is opened on. -/
theorem runIn_storeOf_storeAt (w : Workspace) (l : Locator) :
    match w.storeAt l with
    | .error e => ∃ u, Work.runIn w (Work.storeOf (Driver.storeKey l.path) l.path) = (.error e, u)
    | .ok s => ∃ id u, Work.runIn w (Work.storeOf (Driver.storeKey l.path) l.path) = (.ok id, u) ∧
        u.store id = s ∧ u.files = w.files := by
  have hrun := Work.runIn_storeOf w (Driver.storeKey l.path) l.path
  cases hkey : w.store? (Driver.storeKey l.path) with
  | some id =>
    simp only [hkey] at hrun
    simp only [storeAt, hkey]
    exact ⟨id, w, hrun, rfl, rfl⟩
  | none =>
    simp only [hkey] at hrun
    simp only [storeAt, hkey]
    cases hopen : ScriptStore.openAt w.files l.path with
    | error e =>
      simp only [hopen] at hrun
      exact ⟨w, hrun⟩
    | ok s =>
      simp only [hopen, addStoreAs_addStore hkey] at hrun
      exact ⟨_, _, hrun, by simp [store], rfl⟩

end Workspace

namespace Driver

/-- Opening a locator comes to indexing the files that are listed. -/
theorem map_migrations_openUrl (w : Workspace) (url : String) :
    (Work.runIn w (openUrl url)).1.map migrations =
      (w.listed url).bind fun names => (ofNames names).mapError .configuration := by
  cases hlocator : Locator.parse url with
  | error c =>
    rw [runIn_openUrl_of_error hlocator, Workspace.listed, hlocator]
    rfl
  | ok l =>
    have hrun := runIn_openUrl_eq hlocator w
    extract_lets session at hrun
    have hstore := session.2.runIn_storeOf_storeAt l
    have hstoreAt : session.2.storeAt l = w.storeAt l := w.storeAt_sessionOf l.sessionKey l
    have hfiles : session.2.files = w.files := w.files_sessionOf l.sessionKey
    have hlisted : w.listed url = (w.storeAt l).bind fun s => s.list w.files := by
      rw [Workspace.listed, hlocator]
      rfl
    rw [hstoreAt] at hstore
    rw [hlisted]
    cases hs : w.storeAt l with
    | error e =>
      rw [hs] at hstore
      obtain ⟨u, hstore⟩ := hstore
      rw [hrun, hstore]
      rfl
    | ok s =>
      rw [hs] at hstore
      obtain ⟨id, u, hstore, rfl, hu⟩ := hstore
      rw [hrun, hstore, ← hfiles, ← hu]
      simp only [Except.bind]
      cases (u.store id).list u.files with
      | error e => rfl
      | ok names =>
        dsimp only
        cases ofNames names <;> rfl

/-- With the files that are listed there is a driver that has their versions, or two of them have
one version. -/
theorem openUrl_cases {w : Workspace} {url : String} {names : List String}
    (hnames : w.listed url = .ok names) :
    (∃ d w', Work.runIn w (openUrl url) = (.ok d, w') ∧ names.Pairwise Apart ∧
        IsIndex names d.migrations) ∨
      ∃ v name other w', Work.runIn w (openUrl url) =
          (.error (.configuration (.duplicateVersion v name other)), w') ∧
        [name, other].Sublist names ∧ Indexed v name ∧ Indexed v other := by
  have hmap := map_migrations_openUrl w url
  have hindexing := indexing_ofNames names
  rcases hrun : Work.runIn w (openUrl url) with ⟨r, w'⟩
  rw [hrun, hnames, Except.bind] at hmap
  generalize ofNames names = indexed at hmap hindexing
  cases hindexing with
  | index hapart hindex =>
    cases r with
    | error e => cases hmap
    | ok d =>
      obtain rfl := Except.ok.inj hmap
      exact .inl ⟨d, w', rfl, hapart, hindex⟩
  | duplicate hsub h h' =>
    cases r with
    | error e =>
      obtain rfl := Except.error.inj hmap
      exact .inr ⟨_, _, _, w', rfl, hsub, h, h'⟩
    | ok d => cases hmap

theorem listed_of_openUrl {w w' : Workspace} {url : String} {d : Driver}
    (hd : Work.runIn w (openUrl url) = (.ok d, w')) : ∃ names, w.listed url = .ok names := by
  have hmap := map_migrations_openUrl w url
  rw [hd] at hmap
  cases hlisted : w.listed url with
  | ok names => exact ⟨names, rfl⟩
  | error e =>
    rw [hlisted] at hmap
    cases hmap

/-- A driver that was opened has the listed files that belong under a version, each under its own,
and nothing else. It is opened if and only if no two of the files belong under one version, and the
error names two that do. -/
theorem migrations_openUrl (w : Workspace) (url : String) :
    (∀ d w', Work.runIn w (openUrl url) = (.ok d, w') →
      ∃ names, w.listed url = .ok names ∧ IsIndex names d.migrations) ∧
    ∀ names, w.listed url = .ok names →
      ((∃ d w', Work.runIn w (openUrl url) = (.ok d, w')) ↔ names.Pairwise Apart) ∧
      ∀ e w', Work.runIn w (openUrl url) = (.error e, w') →
        ∃ v name other, [name, other].Sublist names ∧ Indexed v name ∧ Indexed v other ∧
          e = .configuration (.duplicateVersion v name other) := by
  refine ⟨fun d w' hd => ?_, fun names hnames => ?_⟩
  · obtain ⟨names, hnames⟩ := listed_of_openUrl hd
    obtain ⟨d', w'', hd', -, hindex⟩ | ⟨v, name, other, w'', he, -⟩ := openUrl_cases hnames
    · cases hd'.symm.trans hd
      exact ⟨names, hnames, hindex⟩
    · cases hd.symm.trans he
  · obtain ⟨d, w', hd, hapart, -⟩ | ⟨v, name, other, w', he, hsub, h, h'⟩ := openUrl_cases hnames
    · refine ⟨iff_of_true ⟨d, w', hd⟩ hapart, fun e w'' he => ?_⟩
      cases hd.symm.trans he
    · refine ⟨iff_of_false ?_ ?_, fun e w'' he' => ?_⟩
      · rintro ⟨d, w'', hd⟩
        cases hd.symm.trans he
      · exact not_apart hsub h h'
      · cases he.symm.trans he'
        exact ⟨v, name, other, hsub, h, h', rfl⟩

end Driver

/-- The files that are listed in a directory of empty scripts. -/
theorem listed_scriptDirectory {names : List String} (h : names.Pairwise (· ≤ ·)) :
    (scriptDirectory names).listed "lua://m" = .ok names :=
  list_scriptDirectory h

/-- Zeros before a version do not count: 7 is the version of `007_b.lua` and of `7_c.lua`. -/
theorem migrations_openUrl_leadingZeros :
    (∃ d w', Work.runIn (scriptDirectory ["007_b.lua", "1_a.lua", "notes.txt"])
        (Driver.openUrl "lua://m") = (.ok d, w') ∧
      d.migrations = [(1, "1_a.lua"), (7, "007_b.lua")] ∧
      IsIndex ["007_b.lua", "1_a.lua", "notes.txt"] d.migrations) ∧
    ¬∃ d w', Work.runIn (scriptDirectory ["007_b.lua", "7_c.lua"])
        (Driver.openUrl "lua://m") = (.ok d, w') := by
  have hsorted : ["007_b.lua", "1_a.lua", "notes.txt"].Pairwise (· ≤ ·) := by decide
  have hsorted' : ["007_b.lua", "7_c.lua"].Pairwise (· ≤ ·) := by decide
  constructor
  · obtain ⟨d, w', hd, hindex⟩ := @openUrl_scriptDirectory _ [(1, "1_a.lua"), (7, "007_b.lua")]
      hsorted (by rfl)
    obtain ⟨names, hnames, hnamed⟩ := (Driver.migrations_openUrl _ _).1 d w' hd
    cases hnames.symm.trans (listed_scriptDirectory hsorted)
    exact ⟨d, w', hd, hindex, hnamed⟩
  · have hfirst : Indexed 7 "007_b.lua" := version?_eq_some_iff.1 (by rfl)
    have hsecond : Indexed 7 "7_c.lua" := version?_eq_some_iff.1 (by rfl)
    have hopened := (Driver.migrations_openUrl _ _).2 _ (listed_scriptDirectory hsorted')
    rw [hopened.1]
    exact not_apart (.refl _) hfirst hsecond

/-- A directory with a version above the largest, and with a plus sign before a version. The first
is left out of the index and the second is in it. -/
theorem migrations_openUrl_longVersion :
    let names := ["+2_b.lua", "1_a.lua", "20240101120000123456_c.lua"]
    ∃ d w', Work.runIn (scriptDirectory names) (Driver.openUrl "lua://m") = (.ok d, w') ∧
      (scriptDirectory names).listed "lua://m" = .ok names ∧
      d.migrations = [(1, "1_a.lua"), (2, "+2_b.lua")] ∧
      ScriptName 20240101120000123456 "20240101120000123456_c.lua".toList ∧
      ∀ v, ¬ScriptName v "+2_b.lua".toList := by
  intro names
  have hsorted : names.Pairwise (· ≤ ·) := by decide
  obtain ⟨d, w', hd, hindex⟩ := @openUrl_scriptDirectory names
    [(1, "1_a.lua"), (2, "+2_b.lua")] hsorted (by rfl)
  refine ⟨d, w', hd, listed_scriptDirectory hsorted, hindex, ?_, ?_⟩
  · refine ⟨"20240101120000123456".toList, "c".toList, ⟨by decide, ?_, by decide⟩, by decide,
      by decide⟩
    exact List.all_eq_true.1 (by decide)
  · rintro v ⟨digits, title, hdigits, -, hname⟩
    obtain ⟨d, ds, rfl⟩ := List.exists_cons_of_ne_nil hdigits.ne_nil
    obtain ⟨rfl, -⟩ := List.cons.inj hname
    exact absurd (hdigits.isDigit '+' List.mem_cons_self) (by decide)

end SchemaMigration
