/-!
# Output buffers

Statements go to buffers, which are told apart by their identity. A store holds the contents of all
of them; writing to one changes no other. Buffers are used through handles, of which a buffer can
have any number.

## Main definitions

* `BufferStore` — the contents of buffers.
* `BufferHandles` — handles of buffers, and what is done with them.
-/

namespace SchemaMigration

structure BufferId where
  index : Nat
deriving DecidableEq, Repr, Inhabited

structure BufferStore where
  texts : Array String := #[]
deriving DecidableEq, Repr, Inhabited

namespace BufferStore

def create (b : BufferStore) : BufferId × BufferStore := (⟨b.texts.size⟩, ⟨b.texts.push ""⟩)

def text (b : BufferStore) (id : BufferId) : String := b.texts[id.index]?.getD ""

def modify (b : BufferStore) (id : BufferId) (f : String → String) : BufferStore :=
  ⟨b.texts.modify id.index f⟩

def write (b : BufferStore) (id : BufferId) (s : String) : BufferStore := b.modify id (· ++ s)

/-- What a statement adds to a buffer. -/
def statementText (sql : String) : String := sql ++ ";\n"

def writeStatement (b : BufferStore) (id : BufferId) (sql : String) : BufferStore :=
  b.write id (statementText sql)

def reset (b : BufferStore) (id : BufferId) : BufferStore := b.modify id fun _ => ""

def Has (b : BufferStore) (id : BufferId) : Prop := id.index < b.texts.size

theorem text_of_not_has {b : BufferStore} {id : BufferId} (h : ¬ b.Has id) : b.text id = "" := by
  unfold Has at h
  simp [text, h]

theorem text_modify_self {b : BufferStore} {id : BufferId} (h : b.Has id) (f : String → String) :
    (b.modify id f).text id = f (b.text id) := by
  unfold Has at h
  simp [text, modify, h, Array.getElem_modify]

theorem text_modify_of_ne (b : BufferStore) {id other : BufferId} (h : id ≠ other)
    (f : String → String) : (b.modify id f).text other = b.text other := by
  have : id.index ≠ other.index := fun he => h (by cases id; cases other; simp_all)
  simp [text, modify, Array.getElem?_modify, this]

theorem text_modify {b : BufferStore} {other : BufferId} (h : b.Has other) (f : String → String)
    (id : BufferId) :
    (b.modify other f).text id = if other = id then f (b.text id) else b.text id := by
  split
  next heq => rw [← heq, text_modify_self h]
  next hne => rw [text_modify_of_ne b hne]

theorem text_write_self {b : BufferStore} {id : BufferId} (h : b.Has id) (s : String) :
    (b.write id s).text id = b.text id ++ s := text_modify_self h _

theorem text_write_of_ne (b : BufferStore) {id other : BufferId} (h : id ≠ other) (s : String) :
    (b.write id s).text other = b.text other := text_modify_of_ne b h _

theorem text_reset_self {b : BufferStore} {id : BufferId} (h : b.Has id) :
    (b.reset id).text id = "" := text_modify_self h _

theorem text_reset_of_ne (b : BufferStore) {id other : BufferId} (h : id ≠ other) :
    (b.reset id).text other = b.text other := text_modify_of_ne b h _

theorem text_create (b : BufferStore) (id : BufferId) : b.create.2.text id = b.text id := by
  unfold text create
  rcases Nat.lt_trichotomy id.index b.texts.size with h | h | h
  · simp [Array.getElem?_push, Nat.ne_of_lt h]
  · simp [h]
  · have h' : ¬ id.index < b.texts.size := by omega
    simp [Array.getElem?_push, Nat.ne_of_gt h, h']

@[simp] theorem has_modify {b : BufferStore} {id other : BufferId} {f : String → String} :
    (b.modify id f).Has other ↔ b.Has other := by
  simp [Has, modify]

theorem has_create {b : BufferStore} {id : BufferId} :
    b.create.2.Has id ↔ b.Has id ∨ id = b.create.1 := by
  obtain ⟨index⟩ := id
  simp only [Has, create, Array.size_push, BufferId.mk.injEq]
  omega

theorem not_has_create (b : BufferStore) : ¬ b.Has b.create.1 := Nat.lt_irrefl _

end BufferStore

/-- Handles of buffers, numbered from 0. Several of them can be of one buffer. -/
structure BufferHandles where
  store : BufferStore := {}
  buffers : Array BufferId := #[]
deriving Inhabited

namespace BufferHandles

/-- What is done with handles. -/
inductive Call where
  | new
  | clone (h : Nat)
  | write (h : Nat) (s : String)
  | writeStatement (h : Nat) (sql : String)
  | reset (h : Nat)
deriving DecidableEq, Repr

/-- The handle that a call goes through. -/
def Call.handle? : Call → Option Nat
  | new => none
  | clone h | write h _ | writeStatement h _ | reset h => some h

variable (s : BufferHandles)

def buffer (h : Nat) : BufferId := s.buffers[h]?.getD default

def contents (h : Nat) : String := s.store.text (s.buffer h)

def SameAs (h h' : Nat) : Prop := s.buffer h = s.buffer h'

instance (h h' : Nat) : Decidable (s.SameAs h h') := inferInstanceAs (Decidable (_ = _))

def Given (c : Call) : Prop := ∀ h ∈ c.handle?, h < s.buffers.size

instance (c : Call) : Decidable (s.Given c) := inferInstanceAs (Decidable (∀ h ∈ c.handle?, _))

/-- The handles after a call. A clone is of the same buffer. -/
def after : Call → BufferHandles
  | .new => ⟨s.store.create.2, s.buffers.push s.store.create.1⟩
  | .clone h => ⟨s.store, s.buffers.push (s.buffer h)⟩
  | .write h text => ⟨s.store.write (s.buffer h) text, s.buffers⟩
  | .writeStatement h sql => ⟨s.store.writeStatement (s.buffer h) sql, s.buffers⟩
  | .reset h => ⟨s.store.reset (s.buffer h), s.buffers⟩

end BufferHandles

end SchemaMigration
