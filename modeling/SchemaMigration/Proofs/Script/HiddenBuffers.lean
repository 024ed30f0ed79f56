import SchemaMigration.Proofs.Script.Mirror

/-!
# Buffers that scripts have not got hold of

What a buffer holds does not matter to scripts that cannot get at it. If two sessions are the same
but for such buffers, then a script does the same in both, and they stay the same but for these.

## Main definitions

* `Reach.without` — the reach of everything but some buffers.
* `BufferStore.SameOutside` — stores that hold the same but for some buffers.
* `Mirror.hiding` — scripts cannot tell sessions apart that differ in hidden buffers only.
-/

namespace SchemaMigration

/-- The reach of everything but some buffers. -/
def Reach.without (hidden : BufferId → Prop) : Reach where
  value _ v := ∀ id, hidden id → v ≠ .buffer id
  name _ := True
  value_data _ _ _ h id _ := h id
  value_mono _ h := h

/-- Stores with as many buffers, which hold the same but for some. -/
structure BufferStore.SameOutside (hidden : BufferId → Prop) (b b' : BufferStore) : Prop where
  size : b'.texts.size = b.texts.size
  text : ∀ id, ¬ hidden id → b'.text id = b.text id

namespace BufferStore.SameOutside

variable {hidden : BufferId → Prop} {b b' b'' : BufferStore}

theorem refl (b : BufferStore) : b.SameOutside hidden b := ⟨rfl, fun _ _ => rfl⟩

theorem trans (h : b.SameOutside hidden b') (h' : b'.SameOutside hidden b'') :
    b.SameOutside hidden b'' :=
  ⟨h'.size.trans h.size, fun id hid => (h'.text id hid).trans (h.text id hid)⟩

theorem has_iff (h : b.SameOutside hidden b') (id : BufferId) : b'.Has id ↔ b.Has id := by
  rw [Has, Has, h.size]

/-- Both stores may change in one way. -/
theorem modify (h : b.SameOutside hidden b') (id : BufferId) (f : String → String) :
    (b.modify id f).SameOutside hidden (b'.modify id f) where
  size := by simpa [BufferStore.modify] using h.size
  text other hother := by
    by_cases ho : id = other
    · subst ho
      by_cases hid : b.Has id
      · rw [text_modify_self hid, text_modify_self ((h.has_iff id).2 hid), h.text id hother]
      · have hid' : ¬ b'.Has id := fun hid' => hid ((h.has_iff id).1 hid')
        rw [text_of_not_has (mt has_modify.1 hid), text_of_not_has (mt has_modify.1 hid')]
    · rw [text_modify_of_ne _ ho, text_modify_of_ne _ ho, h.text other hother]

theorem create (h : b.SameOutside hidden b') :
    b'.create.1 = b.create.1 ∧ b.create.2.SameOutside hidden b'.create.2 := by
  refine ⟨congrArg BufferId.mk h.size, ?_, fun id hid => ?_⟩
  · simp [BufferStore.create, h.size]
  · rw [text_create, text_create, h.text id hid]

/-- A hidden buffer may change in one store only. -/
theorem modify_hidden {id : BufferId} (hid : hidden id) (b : BufferStore) (f : String → String) :
    b.SameOutside hidden (b.modify id f) where
  size := by simp [BufferStore.modify]
  text other hother := by
    have hne : id ≠ other := by rintro rfl; exact hother hid
    rw [text_modify_of_ne _ hne]

end BufferStore.SameOutside

/-- What hidden buffers hold does not matter to scripts to which nothing leads there. -/
def Mirror.hiding (hidden : BufferId → Prop) : Mirror (.without hidden) where
  Rel o o' := o'.name = o.name ∧ o'.globals = o.globals ∧ o.buffers.SameOutside hidden o'.buffers
  migrate := trivial
  logger := trivial
  global h _ := by rw [Outlets.global, h.2.1, Outlets.global]
  table h := by rw [Outlets.global, h.2.1, Outlets.global]
  setGlobal h _ := ⟨h.1, Outlets.globals_setGlobal_congr h.2.1 _ _ _, h.2.2⟩
  text h hid := h.2.2.text _ fun hh => hid _ hh rfl
  modify h _ := ⟨h.1, h.2.1, h.2.2.modify _ _⟩
  registered {o o'} h := by
    have hregistered : o'.registered? = o.registered? := by
      rw [Outlets.registered?, Outlets.global, h.2.1, Outlets.registered?, Outlets.global]
    rw [hregistered]
    cases hid : o.registered? with
    | none => exact .inl ⟨rfl, rfl⟩
    | some id => exact .inr ⟨id, id, rfl, rfl, fun _ => ⟨h.1, h.2.1, h.2.2.modify id _⟩⟩

end SchemaMigration
