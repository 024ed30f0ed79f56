import SchemaMigration.Proofs.Column.PhysicalType
import SchemaMigration.Proofs.Value.Dictionary

/-!
# Settled definitions

Resolving a definition a second time changes nothing. The result of the first time starts with a
name that has no type of its own, or with one whose type is written just there: the physical types
name themselves.

## Main definitions

* `TypeMap.Reads` — a definition as the name of a type, a length and the rest.
* `TypeMap.Settled` — the definitions that stay as they are.
* `TypeMap.Closed` — the maps whose types stay as they are with any length.

The main result is `TypeMap.resolve_resolve_usual`.
-/

namespace SchemaMigration

open Chars

namespace TypeMap

/-! ## Readings -/

/-- What can stand behind the name of a type: nothing, white space and anything, or a length in
parentheses and anything. A length has at least one character, which may be a parenthesis. -/
inductive Tail : List Char → List Char → Prop where
  | alone : Tail [] []
  | blank {c : Char} (hc : isBlank c = true) (rest : List Char) : Tail [] (c :: rest)
  | sized (c : Char) {length : List Char} (hl : ')' ∉ length) (rest : List Char) :
      Tail ('(' :: c :: (length ++ [')'])) rest

/-- `Reads cs word size rest` says that a definition is the name of a type, a length or none, and a
rest. -/
structure Reads (cs word size rest : List Char) : Prop where
  ne_nil : word ≠ []
  isWord : ∀ c ∈ word, isWord c = true
  tail : Tail size rest
  eq : cs = word ++ size ++ rest

theorem Tail.isWord_head {size rest : List Char} (h : Tail size rest) :
    ∀ c ∈ (size ++ rest).head?, isWord c = false := by
  cases h with
  | alone => simp
  | blank hc => simpa using isWord_of_isBlank hc
  | sized => simpa using (by decide : Chars.isWord '(' = false)

theorem Tail.ne_nil {length rest : List Char} (h : Tail ('(' :: (length ++ [')'])) rest) :
    length ≠ [] := by
  rintro rfl
  generalize hsize : '(' :: ([] ++ [')']) = size at h
  cases h <;> simp at hsize

theorem Tail.unique {size rest size' rest' : List Char} (h : Tail size rest)
    (h' : Tail size' rest') (heq : size ++ rest = size' ++ rest') :
    size = size' ∧ rest = rest' := by
  have hopen : isBlank '(' = false := by decide
  cases h with
  | alone =>
    cases h' with
    | alone => exact ⟨rfl, rfl⟩
    | blank | sized => simp at heq
  | blank hc rest =>
    cases h' with
    | alone => simp at heq
    | blank => exact ⟨rfl, heq⟩
    | sized =>
      obtain rfl := (List.cons.inj heq).1
      simp [hopen] at hc
  | sized c hl rest =>
    cases h' with
    | alone => simp at heq
    | blank hc =>
      obtain rfl := (List.cons.inj heq).1
      simp [hopen] at hc
    | sized c' hl' rest' =>
      simp only [List.cons_append, List.append_assoc, List.cons.injEq, List.nil_append,
        true_and] at heq
      obtain ⟨rfl, heq⟩ := heq
      -- both lengths end at the first closing parenthesis
      have hcut := cut?_append_cons hl rest
      rw [heq, cut?_append_cons hl' rest'] at hcut
      obtain ⟨rfl, rfl⟩ := Prod.mk.inj (Option.some.inj hcut)
      exact ⟨rfl, rfl⟩

namespace Reads

variable {cs word size rest word' size' rest' : List Char}

theorem takeWhile (h : Reads cs word size rest) : cs.takeWhile Chars.isWord = word := by
  rw [h.eq, List.append_assoc, List.takeWhile_append_of_pos h.isWord]
  cases htail : size ++ rest with
  | nil => simp
  | cons c tail => simp [h.tail.isWord_head c (by simp [htail])]

theorem dropWhile (h : Reads cs word size rest) : cs.dropWhile Chars.isWord = size ++ rest := by
  rw [h.eq, List.append_assoc, List.dropWhile_append_of_pos h.isWord]
  cases htail : size ++ rest with
  | nil => simp
  | cons c tail => simp [h.tail.isWord_head c (by simp [htail])]

/-- A definition is read in one way only. -/
theorem unique (h : Reads cs word size rest) (h' : Reads cs word' size' rest') :
    word = word' ∧ size = size' ∧ rest = rest' :=
  ⟨h.takeWhile.symm.trans h'.takeWhile,
    h.tail.unique h'.tail (h.dropWhile.symm.trans h'.dropWhile)⟩

/-- A single word is the name of a type. -/
theorem ofWord (hne : word ≠ []) (hword : ∀ c ∈ word, Chars.isWord c = true) :
    Reads word word [] [] :=
  ⟨hne, hword, .alone, by simp⟩

end Reads

theorem all_takeWhile_isWord (cs : List Char) :
    ∀ c ∈ cs.takeWhile Chars.isWord, Chars.isWord c = true :=
  List.all_eq_true.1 List.all_takeWhile

theorem reads_of_sized? {cs word length trailer : List Char}
    (h : sized? cs = some (word, length, trailer)) :
    Reads cs word ('(' :: (length ++ [')'])) trailer := by
  simp only [sized?] at h
  split at h
  · cases h
  next hne =>
    split at h
    next c rest htail =>
      obtain ⟨⟨before, after⟩, hcut, heq⟩ := Option.map_eq_some_iff.1 h
      obtain ⟨hrest, hl⟩ := eq_append_of_cut? hcut
      cases heq
      refine ⟨by simpa using hne, all_takeWhile_isWord cs, .sized c hl _, ?_⟩
      have hcs := List.takeWhile_append_dropWhile (p := Chars.isWord) (l := cs)
      rw [htail, hrest] at hcs
      simpa using hcs.symm
    next => cases h

theorem reads_of_spaced? {cs word rest : List Char} (h : spaced? cs = some (word, rest)) :
    Reads cs word [] rest := by
  simp only [spaced?] at h
  split at h
  · cases h
  next hne =>
    split at h
    next c tail htail =>
      split at h
      next hc =>
        cases h
        refine ⟨by simpa using hne, all_takeWhile_isWord cs, .blank hc _, ?_⟩
        rw [← htail, List.append_nil, List.takeWhile_append_dropWhile]
      next => cases h
    next => cases h

/-! ## Resizing -/

/-- A physical type with the length of a definition, if it has one. -/
def withSize (size physical : List Char) : List Char :=
  if size.isEmpty then physical else resize size physical

theorem resize_word {base : List Char} (hbase : ∀ c ∈ base, Chars.isWord c = true)
    (size : List Char) : resize size base = base ++ size := by
  have hopen : '(' ∉ base := fun h => absurd (hbase _ h) (by decide)
  simp [resize, cut?_eq_none_iff.2 hopen]

theorem resize_group {base inside : List Char} (hbase : ∀ c ∈ base, Chars.isWord c = true)
    (hinside : ')' ∉ inside) (size rest : List Char) :
    resize size (base ++ '(' :: (inside ++ ')' :: rest)) = base ++ size ++ rest := by
  have hopen : '(' ∉ base := fun h => absurd (hbase _ h) (by decide)
  simp [resize, cut?_append_cons hopen, cut?_append_cons hinside]

/-- There is one way to give a length to a type. -/
theorem resized_iff {size physical sized : List Char} :
    Resized size physical sized ↔ sized = withSize size physical := by
  constructor
  · intro h
    cases h with
    | unsized => simp [withSize]
    | replaced after hl hb hi =>
      simp [withSize, hl, resize, cut?_append_cons hb, cut?_append_cons hi]
    | appended hl hp =>
      simp only [withSize, List.isEmpty_iff, hl, if_false, resize]
      split
      · rfl
      next before rest hopen =>
        split
        · rfl
        next inside after hclose =>
          obtain ⟨rfl, -⟩ := eq_append_of_cut? hclose
          exact absurd (eq_append_of_cut? hopen).1 (hp before inside after)
  · rintro rfl
    by_cases hl : size = []
    · subst hl
      exact .unsized physical
    · simpa [withSize, hl] using resized_resize hl physical

/-! ## Resolving -/

variable {m : TypeMap} {cs word size rest physical : List Char}

/-- A name with a type is replaced, and its length goes to the type. -/
theorem resolveChars_of_reads (hm : m.WordKeys) (h : Reads cs word size rest)
    (hp : m.chars? word = some physical) : m.resolveChars cs = withSize size physical ++ rest := by
  obtain ⟨hne, hword, htail, rfl⟩ := h
  cases htail with
  | alone => simp [resolveChars, hp, withSize]
  | blank hc rest => simpa [withSize] using resolveChars_blank hm hp hword hne hc rest
  | sized c hl rest => simpa [withSize] using resolveChars_group hm hp hword hne hl rest

/-- Any other definition stays as it is. -/
theorem resolveChars_eq_self (hm : m.WordKeys) (hnil : m.chars? [] = none)
    (h : ∀ word size rest, Reads cs word size rest → m.chars? word = none) :
    m.resolveChars cs = cs := by
  have hexact : m.chars? cs = none := by
    by_cases hword : ∀ c ∈ cs, Chars.isWord c = true
    · by_cases hne : cs = []
      · rw [hne, hnil]
      · exact h cs [] [] (.ofWord hne hword)
    · obtain ⟨c, hc, hw⟩ : ∃ c ∈ cs, Chars.isWord c = false := by simpa using hword
      exact chars?_eq_none hm hc hw
  rw [resolveChars, hexact]
  dsimp only
  split
  next word length trailer hsized => simp [h _ _ _ (reads_of_sized? hsized)]
  next =>
    split
    next word rest hspaced =>
      have hreads := reads_of_spaced? hspaced
      rw [h _ _ _ hreads, Option.getD_none, hreads.eq, List.append_nil]
    next => rfl

/-- Either a name with a type starts the definition and is replaced, or nothing changes. -/
theorem resolveChars_cases (hm : m.WordKeys) (hnil : m.chars? [] = none) (cs : List Char) :
    (∃ word size rest physical, Reads cs word size rest ∧ m.chars? word = some physical ∧
        m.resolveChars cs = withSize size physical ++ rest) ∨
      ((∀ word size rest, Reads cs word size rest → m.chars? word = none) ∧
        m.resolveChars cs = cs) := by
  by_cases hread : ∃ word size rest physical, Reads cs word size rest ∧
      m.chars? word = some physical
  · obtain ⟨word, size, rest, physical, h, hp⟩ := hread
    exact .inl ⟨word, size, rest, physical, h, hp, resolveChars_of_reads hm h hp⟩
  · have hnone (word size rest : List Char) (h : Reads cs word size rest) :
        m.chars? word = none :=
      Option.eq_none_iff_forall_ne_some.2 fun physical hp =>
        hread ⟨word, size, rest, physical, h, hp⟩
    exact .inr ⟨hnone, resolveChars_eq_self hm hnil hnone⟩

/-! ## Settled definitions -/

/-- A definition stays as it is if the name that it starts with has no type, or has just the type
that is written there. -/
def Settled (m : TypeMap) (cs : List Char) : Prop :=
  ∀ word size rest physical, Reads cs word size rest → m.chars? word = some physical →
    Resized size physical (word ++ size)

theorem resolveChars_eq_self_iff (hm : m.WordKeys) (hnil : m.chars? [] = none) :
    m.resolveChars cs = cs ↔ m.Settled cs := by
  constructor
  · intro hself word size rest physical h hp
    have hres := resolveChars_of_reads hm h hp
    rw [hself, h.eq, List.append_left_inj] at hres
    exact resized_iff.2 hres
  · intro hsettled
    obtain ⟨word, size, rest, physical, h, hp, hres⟩ | ⟨-, hself⟩ := resolveChars_cases hm hnil cs
    · rw [hres, ← resized_iff.1 (hsettled _ _ _ _ h hp), ← h.eq]
    · exact hself

/-! ## Closed maps -/

/-- A physical type that a map leaves as it is, also with another length. It is a word, or a word
with a length behind it and any rest. The word has no type or is its own, or has itself with some
length, if there is a length to take the place of that. -/
inductive Stable (m : TypeMap) : List Char → Prop where
  | word {base : List Char} (hne : base ≠ []) (hword : ∀ c ∈ base, Chars.isWord c = true)
      (hbase : ∀ physical, m.chars? base = some physical → physical = base) : Stable m base
  | sized {base inside : List Char} (hne : base ≠ []) (hword : ∀ c ∈ base, Chars.isWord c = true)
      (hinside : inside ≠ [] ∧ ')' ∉ inside) (rest : List Char)
      (hbase : ∀ physical, m.chars? base = some physical → physical = base ∨
        ∃ inside', ')' ∉ inside' ∧ physical = base ++ '(' :: (inside' ++ [')'])) :
      Stable m (base ++ '(' :: (inside ++ ')' :: rest))

/-- A map of words whose types all stay as they are. -/
structure Closed (m : TypeMap) : Prop where
  wordKeys : m.WordKeys
  chars?_nil : m.chars? [] = none
  stable : ∀ word physical, m.chars? word = some physical → m.Stable physical

/-- The length of a type that is a word goes to its end. -/
theorem withSize_word {base size : List Char} (hword : ∀ c ∈ base, Chars.isWord c = true) :
    withSize size base = base ++ size := by
  by_cases hsize : size = []
  · simp [withSize, hsize]
  · simpa [withSize, hsize] using resize_word hword size

/-- Giving a stable type a length, or none, makes a definition that the map leaves as it is. -/
theorem Stable.reads {physical : List Char} (h : m.Stable physical) (htail : Tail size rest) :
    ∃ base size' rest', Reads (withSize size physical ++ rest) base size' rest' ∧
      ∀ physical', m.chars? base = some physical' → withSize size' physical' = base ++ size' := by
  cases h with
  | word hne hword hbase =>
    refine ⟨physical, size, rest, ⟨hne, hword, htail, by rw [withSize_word hword]⟩, ?_⟩
    intro physical' hp
    rw [hbase physical' hp, withSize_word hword]
  | @sized base inside hne hword hinside after hbase =>
    have hbase' {size : List Char} (hsize : size ≠ []) (physical' : List Char)
        (hp : m.chars? base = some physical') : withSize size physical' = base ++ size := by
      obtain rfl | ⟨inside', hinside', rfl⟩ := hbase physical' hp
      · exact withSize_word hword
      · simpa [withSize, hsize] using resize_group hword hinside' size []
    obtain ⟨hinside, hclose⟩ := hinside
    obtain ⟨c, cs, rfl⟩ := List.exists_cons_of_ne_nil hinside
    have hown (rest : List Char) : Reads (base ++ '(' :: (c :: cs ++ ')' :: after) ++ rest) base
        ('(' :: c :: (cs ++ [')'])) (after ++ rest) :=
      ⟨hne, hword, .sized c (fun h => hclose (List.mem_cons_of_mem _ h)) _, by simp⟩
    cases htail with
    | alone => exact ⟨base, _, _, hown [], hbase' (by simp)⟩
    | blank hc rest => exact ⟨base, _, _, hown (_ :: rest), hbase' (by simp)⟩
    | @sized d length hl rest =>
      refine ⟨base, _, after ++ rest, ⟨hne, hword, .sized d hl _, ?_⟩, hbase' (by simp)⟩
      have hresize := resize_group hword hclose ('(' :: d :: (length ++ [')'])) after
      rw [withSize, if_neg (by simp), hresize, List.append_assoc]

/-- A definition with its physical type stays as it is. -/
theorem Closed.resolveChars_resolveChars (hm : m.Closed) (cs : List Char) :
    m.resolveChars (m.resolveChars cs) = m.resolveChars cs := by
  obtain ⟨word, size, rest, physical, h, hp, hres⟩ | ⟨-, hself⟩ :=
    resolveChars_cases hm.wordKeys hm.chars?_nil cs
  · obtain ⟨base, size', rest', hreads, hbase⟩ := (hm.stable word physical hp).reads h.tail
    rw [hres, resolveChars_eq_self_iff hm.wordKeys hm.chars?_nil]
    intro word' size'' rest'' physical' h' hp'
    obtain ⟨rfl, rfl, -⟩ := hreads.unique h'
    exact resized_iff.2 (hbase physical' hp').symm
  · rw [hself, hself]

theorem Closed.toList_resolve (hm : m.Closed) (definition : String) :
    (m.resolve definition).toList = m.resolveChars definition.toList := by
  unfold resolve
  split
  next hempty =>
    obtain rfl := String.isEmpty_iff.1 hempty
    have hnil : m.resolveChars [] = [] := by
      refine resolveChars_eq_self hm.wordKeys hm.chars?_nil fun word size rest h => ?_
      exact absurd (List.append_eq_nil_iff.1 (List.append_eq_nil_iff.1 h.eq.symm).1).1 h.ne_nil
    simp [hnil]
  next => exact String.toList_ofList

/-! ## The usual map -/

/-- Decides if a physical type is stable. -/
def isStable (m : TypeMap) (physical : List Char) : Bool :=
  match sized? physical with
  | some (base, inside, _) =>
    !inside.contains ')' && (m.chars? base).all fun physical' =>
      physical' == base ||
        (sized? physical').any fun (base', inside', rest') =>
          base' == base && !inside'.contains ')' && rest'.isEmpty
  | none =>
    !physical.isEmpty && physical.all Chars.isWord && (m.chars? physical).all (· == physical)

theorem stable_of_isStable {physical : List Char} (h : m.isStable physical = true) :
    m.Stable physical := by
  unfold isStable at h
  split at h
  next base inside rest hsized =>
    obtain ⟨hne, hword, htail, rfl⟩ := reads_of_sized? hsized
    simp only [Bool.and_eq_true, Bool.not_eq_true', List.contains_eq_mem, decide_eq_false_iff_not,
      Option.all_eq_true, Bool.or_eq_true, beq_iff_eq, Option.any_eq_true] at h
    obtain ⟨hclose, hbase⟩ := h
    have hinside : inside ≠ [] := htail.ne_nil
    have hstable := Stable.sized (m := m) hne hword ⟨hinside, hclose⟩ rest ?_
    · simpa using hstable
    intro physical hp
    refine (hbase physical hp).imp_right ?_
    rintro ⟨⟨base', inside', rest'⟩, hsized', hown⟩
    obtain ⟨⟨rfl, hclose'⟩, rfl⟩ : (base' = base ∧ ')' ∉ inside') ∧ rest' = [] := by
      simpa using hown
    exact ⟨inside', hclose', by simpa using (reads_of_sized? hsized').eq⟩
  next =>
    simp only [Bool.and_eq_true, Bool.not_eq_true', List.isEmpty_eq_false_iff, Option.all_eq_true,
      List.all_eq_true, beq_iff_eq] at h
    obtain ⟨⟨hne, hword⟩, hbase⟩ := h
    exact .word hne hword hbase

theorem closed_usual : usual.Closed where
  wordKeys := wordKeys_usual
  chars?_nil := by decide +kernel
  stable word physical h := by
    refine stable_of_isStable ?_
    have hall : ∀ p ∈ usual.types, usual.isStable p.2.toList = true := by decide +kernel
    obtain ⟨text, htext, rfl⟩ := Option.map_eq_some_iff.1 h
    exact hall (_, text) ((Dict.sorted_ofList _).mem_iff.2 htext)

/-- Resolving by the usual map once is as good as twice. What it leaves as it is are the definitions
that start with no name of a type, or with the type of that name. -/
theorem resolve_resolve_usual (definition : String) :
    usual.resolve (usual.resolve definition) = usual.resolve definition ∧
      (usual.resolve definition = definition ↔ usual.Settled definition.toList) := by
  simp only [← String.toList_inj, closed_usual.toList_resolve,
    closed_usual.resolveChars_resolveChars,
    resolveChars_eq_self_iff closed_usual.wordKeys closed_usual.chars?_nil, true_and]

/-- The first closing parenthesis ends a length, which may start with a parenthesis. -/
example : usual.resolve "string((x)y)z" = "varchar((x)y)z" := by decide +kernel

end TypeMap

end SchemaMigration
