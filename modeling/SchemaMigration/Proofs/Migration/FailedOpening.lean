import SchemaMigration.Proofs.Migration.DirectoryIndex
import SchemaMigration.Proofs.Migration.VersionScript

/-!
# Openings that fail

A locator that is none changes nothing. Any other names a session, which is registered before the
directory is looked at and stays registered. So does the store, once the directory was opened: names
that cannot be listed, and versions that two of them have, come too late for it.

## Main definitions

* `Locator.sessionKey` — the key of the session that a locator names.
* `Workspace.AfterFailure` — what a failed opening leaves behind.
* `Driver.afterFailure_openUrl` — every failed opening leaves exactly this behind.
-/

namespace SchemaMigration

/-- The key of the session that a locator names. -/
def Locator.sessionKey (l : Locator) : String :=
  (l.query.get? Driver.sessionParameter).getD Driver.defaultSession

namespace Workspace

/-- Holds if a key got a session of its own unless it had one, and no other changed. -/
structure WithSession (key : String) (w w' : Workspace) : Prop where
  session? : ∀ other, w'.session? other =
    if key = other ∧ w.session? other = none then some ⟨w.sessions.size⟩ else w.session? other
  sessions : w'.sessions =
    if w.session? key = none then w.sessions.push (.create key (w.orders ⟨w.sessions.size⟩))
      else w.sessions
  created : w'.sessionPool.created =
    if w.session? key = none then w.sessionPool.created + 1 else w.sessionPool.created

/-- Holds if a locator is opened on a store of its own: its key has none, and there is a
directory. -/
def OpensStore (w : Workspace) (l : Locator) : Prop :=
  w.store? (Driver.storeKey l.path) = none ∧ w.files.isDirectory l.path

instance (w : Workspace) (l : Locator) : Decidable (w.OpensStore l) :=
  inferInstanceAs (Decidable (_ ∧ _))

/-- What an opening that fails leaves behind: a session for the key of the locator and, if the
directory could be opened, an open store for the key of the directory. Keys that had a session or a
store keep it. -/
structure AfterFailure (l : Locator) (w w' : Workspace) : Prop where
  session : w.WithSession l.sessionKey w'
  store? : ∀ key, w'.store? key =
    if Driver.storeKey l.path = key ∧ w.OpensStore l then some ⟨w.stores.size⟩ else w.store? key
  stores : w'.stores = if w.OpensStore l then w.stores.push { root := l.path } else w.stores
  adapters : w'.adapters = w.adapters
  adapterSets : w'.adapterSets = w.adapterSets
  context : w'.context = w.context
  files : w'.files = w.files

/-- The pools are as before only if there was nothing to register. -/
theorem AfterFailure.same_pools_iff {l : Locator} {w w' : Workspace} (h : w.AfterFailure l w') :
    ((∀ key, w'.session? key = w.session? key) ∧ ∀ key, w'.store? key = w.store? key) ↔
      w.session? l.sessionKey ≠ none ∧ ¬w.OpensStore l := by
  constructor
  · rintro ⟨hsession, hstore⟩
    refine ⟨fun hnone => ?_, fun hopens => ?_⟩
    · have hnew := (h.session.session? l.sessionKey).symm.trans (hsession l.sessionKey)
      simp [hnone] at hnew
    · have hnew := (h.store? (Driver.storeKey l.path)).symm.trans (hstore (Driver.storeKey l.path))
      simp [hopens, hopens.1] at hnew
  · rintro ⟨hsome, hopens⟩
    refine ⟨fun key => (h.session.session? key).trans (if_neg ?_),
      fun key => (h.store? key).trans (if_neg fun hkey => hopens hkey.2)⟩
    rintro ⟨rfl, hnone⟩
    exact hsome hnone

theorem withSession_sessionOf (w : Workspace) (key : String) :
    w.WithSession key (w.sessionOf key).2 := by
  unfold sessionOf
  split
  · next id hid =>
    refine ⟨fun other => ?_, by simp [hid], by simp [hid]⟩
    rw [if_neg]
    rintro ⟨rfl, hnone⟩
    rw [hid] at hnone
    cases hnone
  · next hnone =>
    refine ⟨fun other => ?_, by simp [hnone, newSession], by simp [hnone, newSession]⟩
    simp only [session?, newSession, Dict.get?_insert]
    by_cases he : key = other
    · subst he
      have hfree : w.sessionPool.registered.get? key = none := hnone
      simp [hfree]
    · simp [he]

/-- Looking a session up changes nothing else. -/
theorem sessionOf_eq (w : Workspace) (key : String) :
    ∃ sessions sessionPool, (w.sessionOf key).2 = { w with sessions, sessionPool } := by
  unfold sessionOf
  split
  · exact ⟨w.sessions, w.sessionPool, rfl⟩
  · exact ⟨_, _, rfl⟩

theorem opensStore_sessionOf {w : Workspace} {key : String} {l : Locator} :
    (w.sessionOf key).2.OpensStore l ↔ w.OpensStore l := by
  obtain ⟨sessions, sessionPool, h⟩ := w.sessionOf_eq key
  rw [h]
  rfl

/-- A session and a store that are registered while a locator is opened. -/
theorem afterFailure_registered (w : Workspace) (l : Locator) :
    let u := (w.sessionOf l.sessionKey).2
    w.AfterFailure l
      (if u.OpensStore l then
        { u with
          stores := u.stores.push { root := l.path }
          storePool := u.storePool.insert (Driver.storeKey l.path) ⟨u.stores.size⟩ }
      else u) := by
  intro u
  have hsession : w.WithSession l.sessionKey u := w.withSession_sessionOf l.sessionKey
  have hopens : u.OpensStore l ↔ w.OpensStore l := opensStore_sessionOf
  obtain ⟨sessions, sessionPool, heq⟩ :
      ∃ sessions sessionPool, u = { w with sessions, sessionPool } := w.sessionOf_eq l.sessionKey
  by_cases h : w.OpensStore l
  · rw [if_pos (hopens.2 h), heq]
    rw [heq] at hsession
    refine ⟨⟨hsession.session?, hsession.sessions, hsession.created⟩, fun key => ?_, ?_,
      rfl, rfl, rfl, rfl⟩
    · simp [Workspace.store?, Dict.get?_insert, h]
    · rw [if_pos h]
  · rw [if_neg (hopens.not.2 h), heq]
    rw [heq] at hsession
    refine ⟨hsession, fun key => ?_, ?_, rfl, rfl, rfl, rfl⟩
    · rw [if_neg fun hkey => h hkey.2]
      rfl
    · rw [if_neg h]

end Workspace

namespace Driver

/-- An opening that fails got as far as the session, and to the store if the directory could be
opened. -/
theorem openUrl_eq_error {w w' : Workspace} {url : String} {e : MigrationError} {l : Locator}
    (hl : Locator.parse url = .ok l) (h : Work.runIn w (openUrl url) = (.error e, w')) :
    let u := (w.sessionOf l.sessionKey).2
    w' = if u.OpensStore l then
        { u with
          stores := u.stores.push { root := l.path }
          storePool := u.storePool.insert (storeKey l.path) ⟨u.stores.size⟩ }
      else u := by
  intro u
  rw [runIn_openUrl_eq hl] at h
  extract_lets session at h
  have hsession : session.2 = u := rfl
  rw [hsession, Work.runIn_storeOf] at h
  cases hkey : u.store? (storeKey l.path) with
  | some id =>
    rw [if_neg fun hopens => by simp [hopens.1] at hkey]
    simp only [hkey] at h
    -- once the store is there, listing and indexing change nothing any more
    repeat' split at h
    all_goals first | exact (congrArg Prod.snd h).symm | cases h
  | none =>
    by_cases hdirectory : u.files.isDirectory l.path
    · rw [if_pos ⟨hkey, hdirectory⟩]
      simp only [hkey, ScriptStore.openAt, hdirectory, if_true,
        Workspace.addStoreAs_addStore hkey] at h
      repeat' split at h
      all_goals first | exact (congrArg Prod.snd h).symm | cases h
    · rw [if_neg fun hopens => hdirectory hopens.2]
      simp only [hkey, ScriptStore.openAt, hdirectory] at h
      exact (congrArg Prod.snd h).symm

/-- A failed opening changes nothing if the locator is none. Otherwise the session of the locator is
registered afterwards, and so is an open store if the directory could be opened: both pools are as
before only if there was nothing to register. -/
theorem afterFailure_openUrl {w w' : Workspace} {url : String} {e : MigrationError}
    (h : Work.runIn w (openUrl url) = (.error e, w')) :
    (∀ c, Locator.parse url = .error c → e = .configuration c ∧ w' = w) ∧
      ∀ l, Locator.parse url = .ok l → w.AfterFailure l w' ∧
        (((∀ key, w'.session? key = w.session? key) ∧ ∀ key, w'.store? key = w.store? key) ↔
          w.session? l.sessionKey ≠ none ∧ ¬w.OpensStore l) := by
  refine ⟨fun c hc => ?_, fun l hl => ?_⟩
  · rw [runIn_openUrl_of_error hc] at h
    cases h
    exact ⟨rfl, rfl⟩
  · have hafter : w.AfterFailure l w' :=
      openUrl_eq_error hl h ▸ w.afterFailure_registered l
    exact ⟨hafter, hafter.same_pools_iff⟩

end Driver

/-- A directory that may be opened but not listed. -/
def unlistedDirectory : Workspace where
  files :=
    { nodes := [(["m"], .directory)]
      unlisted := [(["m"], .permissionDenied)] }

/-- Opening a directory that cannot be listed leaves its session and its store registered. -/
theorem afterFailure_openUrl_unlisted :
    ∃ w', Work.runIn unlistedDirectory (Driver.openUrl "lua://m") =
        (.error (.file .permissionDenied), w') ∧
      w'.session? "default" = some ⟨0⟩ ∧ w'.store? "lua://m" = some ⟨0⟩ ∧
      w'.store ⟨0⟩ = { root := "m" } ∧ w'.session? "other" = none ∧ w'.store? "lua://n" = none := by
  obtain ⟨w', hfailed⟩ : ∃ w', Work.runIn unlistedDirectory (Driver.openUrl "lua://m") =
      (.error (.file .permissionDenied), w') := ⟨_, by rfl⟩
  have hlocator : Locator.parse "lua://m" = .ok ⟨"m", []⟩ := by rfl
  obtain ⟨hafter, -⟩ := (Driver.afterFailure_openUrl hfailed).2 _ hlocator
  have hopens : unlistedDirectory.OpensStore ⟨"m", []⟩ := ⟨rfl, by rfl⟩
  have hsession := hafter.session.session?
  have hnew : w'.store ⟨0⟩ = { root := "m" } := by
    rw [Workspace.store, hafter.stores, if_pos hopens]
    rfl
  exact ⟨w', hfailed, hsession "default", (hafter.store? "lua://m").trans (if_pos ⟨rfl, hopens⟩),
    hnew, hsession "other",
    (hafter.store? "lua://n").trans (if_neg fun hkey => absurd hkey.1 (by decide))⟩

/-- Opening a directory that is not there, in a workspace where nothing is registered. -/
theorem registered_of_failed_openUrl :
    (Work.runIn {} (Driver.openUrl "lua://missing")).1 =
      .error (.configuration (.directoryNotFound "missing")) ∧
    Workspace.session? {} "default" = none ∧
    (Work.runIn {} (Driver.openUrl "lua://missing")).2.session? "default" = some ⟨0⟩ := by
  exact ⟨by rfl, rfl, by rfl⟩

end SchemaMigration
