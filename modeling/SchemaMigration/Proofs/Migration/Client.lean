import SchemaMigration.Proofs.Migration.OutputBuffers

/-!
# Clients of drivers

A client opens drivers in a workspace and asks them for adapters, for what versions render to, and
to close. Whatever it asks, the workspace goes through a run of drivers.

## Main definitions

* `Driver.perform` — what a driver is asked for.
* `Client.ask`, `Client.replies` — one request, and requests one after the other.
* `Client.closed`, `Client.repliesClosing` — the same while a driver is closed in between.
* `Client.Ran` — the workspace and the drivers of a client come from a run.
-/

namespace SchemaMigration

inductive DriverAction where
  | source (version : Nat)
  | read (version : Nat) (method : String)
  | close

/-- The version that an action is about. -/
def DriverAction.version? : DriverAction → Option Nat
  | .source version | .read version _ => some version
  | .close => none

inductive DriverResult where
  | adapter (id : AdapterId)
  | rendered (r : Rendered)
  | closed

def Driver.perform (d : Driver) : DriverAction → Work DriverResult
  | .source version => return .adapter (← d.source version)
  | .read version method => return .rendered (← d.read version method)
  | .close => do
    d.close
    return .closed

/-- What a client asks for. Drivers go by the order in which they were opened. -/
inductive DriverRequest where
  | openUrl (url : String)
  | ask (driver : Nat) (a : DriverAction)

inductive DriverReply where
  | opened (succeeded : Bool)
  | answered (r : Except MigrationError DriverResult)

/-- A workspace with the drivers that a client opened in it. -/
structure Client where
  workspace : Workspace
  drivers : List OpenedSource := []

namespace Client

def serve (c : Client) : DriverRequest → DriverReply × Client
  | .openUrl url =>
    match Work.runIn c.workspace (Driver.openUrl url) with
    | (.ok ⟨some o⟩, workspace) => (.opened true, ⟨workspace, c.drivers ++ [o]⟩)
    | (_, workspace) => (.opened false, { c with workspace })
  | .ask i a =>
    let answer := Work.runIn c.workspace (Driver.perform ⟨c.drivers[i]?⟩ a)
    (.answered answer.1, { c with workspace := answer.2 })

theorem serve_openUrl {c : Client} {url : String} {o : OpenedSource} {w : Workspace}
    (h : Work.runIn c.workspace (Driver.openUrl url) = (.ok ⟨some o⟩, w)) :
    c.serve (.openUrl url) = (.opened true, ⟨w, c.drivers ++ [o]⟩) := by
  rw [serve, h]

def replies (c : Client) : List DriverRequest → List DriverReply
  | [] => []
  | r :: rs => (c.serve r).1 :: (c.serve r).2.replies rs

def closed (c : Client) (o : OpenedSource) : Nat → Client
  | 0 => c
  | n + 1 =>
    let c := c.closed o n
    { c with workspace := (Work.runIn c.workspace (Driver.close ⟨some o⟩)).2 }

/-- What comes of requests if a driver is closed so many times before each of them. -/
def repliesClosing (c : Client) (o : OpenedSource) : List (Nat × DriverRequest) → List DriverReply
  | [] => []
  | (n, r) :: rs =>
    ((c.closed o n).serve r).1 :: ((c.closed o n).serve r).2.repliesClosing o rs

/-- The workspace of a client comes from a run, in which its drivers were opened. -/
structure Ran (w₀ : Workspace) (es : List DriverEvent) (c : Client) : Prop where
  run : DriverRun w₀ es c.workspace
  opened : ∀ o ∈ c.drivers, .opened o ∈ es

end Client

namespace Workspace

/-- Holds if no store was closed and no key was freed. -/
structure KeepsStores (w w' : Workspace) : Prop where
  registered : ∀ key id, w.store? key = some id → w'.store? key = some id
  store : ∀ id, id.index < w.stores.size → w'.store id = w.store id

theorem KeepsStores.of_eq {w w' : Workspace} (hstores : w'.stores = w.stores)
    (hpool : w'.storePool = w.storePool) : w.KeepsStores w' where
  registered key id h := by rwa [store?, hpool]
  store id _ := by simp [Workspace.store, hstores]

end Workspace

theorem Driver.runIn_perform_close (w : Workspace) (o : OpenedSource) :
    Work.runIn w (Driver.perform ⟨some o⟩ .close) = (.ok .closed, w.closeDriver o) := by
  rw [perform, Work.runIn_bind, runIn_close]
  rfl

/-- A reading goes on to the adapter, if there is one. -/
theorem Driver.runIn_read_snd (w : Workspace) (d : Driver) (version : Nat) (method : String) :
    (Work.runIn w (d.read version method)).2 =
      match Work.runIn w (d.source version) with
      | (.error _, u) => u
      | (.ok id, u) => u.after id (.read method) := by
  rw [Driver.read, Work.runIn_bind]
  rcases Work.runIn w (d.source version) with ⟨e | id, u⟩
  · rfl
  · simp only [Workspace.after, Workspace.runIn_act_read]

namespace DriverRun

variable {w₀ w : Workspace} {es : List DriverEvent} {o : OpenedSource}

/-- Adapters are got from the set of the driver. -/
theorem mem_of_source {id : AdapterId} {version : Nat} {u : Workspace}
    (hlt : o.adapters.index < w.adapterSets.size)
    (hrun : Work.runIn w (Driver.source ⟨some o⟩ version) = (.ok id, u)) :
    (version, id) ∈ u.adapterSet o.adapters := by
  rw [Driver.runIn_source] at hrun
  split at hrun
  · cases hrun
  · split at hrun
    · next hlookup =>
      cases hrun
      obtain ⟨before, after, hset, -⟩ := List.lookup_eq_some_iff.1 hlookup
      exact hset ▸ List.mem_append_right _ List.mem_cons_self
    · split at hrun
      · cases hrun
      · cases hrun
        rw [Workspace.adapterSet_addSource hlt, if_pos rfl]
        exact List.mem_cons_self

theorem keepsStores_source (w : Workspace) (o : OpenedSource) (version : Nat) :
    w.KeepsStores (Work.runIn w (Driver.source ⟨some o⟩ version)).2 := by
  rw [Driver.runIn_source]
  split
  · exact .of_eq rfl rfl
  · split
    · exact .of_eq rfl rfl
    · split
      · exact .of_eq rfl rfl
      · exact .of_eq rfl rfl

/-- What a driver is asked for is a part of a run. Stores stay, unless it is closed. -/
theorem perform (h : DriverRun w₀ es w) (ho : .opened o ∈ es) (a : DriverAction) :
    ∃ es', DriverRun w₀ es' (Work.runIn w (Driver.perform ⟨some o⟩ a)).2 ∧
      (∀ other, .opened other ∈ es → .opened other ∈ es') ∧
      (a ≠ .close → w.KeepsStores (Work.runIn w (Driver.perform ⟨some o⟩ a)).2) := by
  cases a with
  | source version =>
    rw [Driver.perform, Work.runIn_map]
    exact ⟨es, h.source ho version, fun _ hother => hother, fun _ => keepsStores_source w o version⟩
  | close =>
    refine ⟨es, ?_, fun _ hother => hother, fun hne => absurd rfl hne⟩
    have hclose := h.close ho
    rw [Driver.runIn_close] at hclose
    rwa [Driver.runIn_perform_close]
  | read version method =>
    have hsource := h.source ho version
    have hkeeps := keepsStores_source w o version
    rw [Driver.perform, Work.runIn_map, Driver.runIn_read_snd]
    rcases hrun : Work.runIn w (Driver.source ⟨some o⟩ version) with ⟨e | id, u⟩
    · rw [hrun] at hsource hkeeps
      exact ⟨es, hsource, fun _ hother => hother, fun _ => hkeeps⟩
    · rw [hrun] at hsource hkeeps
      have hmem := mem_of_source (h.sources.sets o ho) hrun
      have hid := (hsource.sources.cached o version id ho hmem).bounds
      obtain ⟨p, -, hleaves⟩ := Workspace.turned hid (.read method)
      refine ⟨_, hsource.act hid (.read method), fun _ hother => List.mem_append_left _ hother,
        fun _ => ⟨fun key id hkey => ?_, fun id hlt => ?_⟩⟩
      · rw [Workspace.store?, hleaves.storePool]
        exact hkeeps.registered key id hkey
      · rw [Workspace.store, hleaves.stores]
        exact hkeeps.store id hlt

end DriverRun

theorem Driver.keepsStores_openUrl {w w' : Workspace} {url : String}
    {r : Except MigrationError Driver} (h : Work.runIn w (Driver.openUrl url) = (r, w')) :
    w.KeepsStores w' := by
  cases openStep h with
  | failed hextends => exact ⟨hextends.kept, fun id hid => (hextends.store id hid).2⟩
  | opened hextends => exact ⟨hextends.kept, fun id hid => (hextends.store id hid).2⟩

/-- A driver that was not opened does nothing. -/
theorem Driver.runIn_perform_none (a : DriverAction) :
    ∃ r, ∀ w : Workspace, Work.runIn w (Driver.perform ⟨none⟩ a) = (r, w) := by
  cases a with
  | source version => exact ⟨_, fun _ => rfl⟩
  | read version method => exact ⟨_, fun _ => rfl⟩
  | close => exact ⟨_, fun _ => rfl⟩

namespace Client.Ran

variable {w₀ : Workspace} {es : List DriverEvent} {c : Client} {o : OpenedSource}

theorem serve (h : c.Ran w₀ es) (r : DriverRequest) :
    ∃ es', (c.serve r).2.Ran w₀ es' ∧ ∀ o, .opened o ∈ es → .opened o ∈ es' := by
  cases r with
  | openUrl url =>
    rw [Client.serve]
    rcases hrun : Work.runIn c.workspace (Driver.openUrl url) with ⟨r, w⟩
    cases Driver.openStep hrun with
    | failed => exact ⟨es, ⟨h.run.notOpened hrun, h.opened⟩, fun _ ho => ho⟩
    | @opened o =>
      refine ⟨_, ⟨h.run.opened hrun, fun d hd => ?_⟩, fun _ ho => List.mem_append_left _ ho⟩
      rcases List.mem_append.1 hd with hd | hd
      · exact List.mem_append_left _ (h.opened d hd)
      · cases List.mem_singleton.1 hd
        exact List.mem_append_right _ List.mem_cons_self
  | ask i a =>
    rw [Client.serve]
    cases hi : c.drivers[i]? with
    | none =>
      obtain ⟨r, hrun⟩ := Driver.runIn_perform_none a
      rw [hrun]
      exact ⟨es, h, fun _ ho => ho⟩
    | some d =>
      obtain ⟨es', hrun, hes', -⟩ := h.run.perform (h.opened d (List.mem_of_getElem? hi)) a
      exact ⟨es', ⟨hrun, fun o ho => hes' o (h.opened o ho)⟩, hes'⟩

theorem closed (h : c.Ran w₀ es) (ho : .opened o ∈ es) (n : Nat) : (c.closed o n).Ran w₀ es := by
  induction n with
  | zero => exact h
  | succ n ih => exact ⟨ih.run.close ho, ih.opened⟩

end Client.Ran

end SchemaMigration
