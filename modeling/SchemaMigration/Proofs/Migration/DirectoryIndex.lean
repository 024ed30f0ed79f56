import Mathlib.Data.List.Induction
import Mathlib.Data.Nat.Digits.Defs
import SchemaMigration.Migration.VersionIndex

/-!
# The index of a directory

The names in a directory are indexed one after another. A name with a version goes into the index
under it and any other is passed over, so the index is known from the names alone, and there is one
if and only if no two names have one version.

## Main definitions

* `Denotes` — decimal digits and the number that they denote.
* `ScriptName` — the names of scripts with a version.
* `VersionIndex.Indexed` — the names that an index has under a version.
* `VersionIndex.IsIndex` — the index of some names.

The main result is `VersionIndex.indexing_ofNames`.
-/

namespace SchemaMigration

/-! ## The names of scripts -/

/-- `Denotes ds v` says that `ds` are decimal digits, at least one, and that `v` is the number which
they denote. -/
structure Denotes (ds : List Char) (v : Nat) : Prop where
  ne_nil : ds ≠ []
  isDigit : ∀ d ∈ ds, d.isDigit = true
  eq : v = Nat.ofDigits 10 (ds.reverse.map fun d => d.toNat - '0'.toNat)

/-- `ScriptName v cs` says that `cs` is `<digits>_<title>.lua` with a title that is not empty, and
that the digits denote `v`. -/
def ScriptName (v : Nat) (cs : List Char) : Prop :=
  ∃ digits title, Denotes digits v ∧ title ≠ [] ∧
    cs = digits ++ '_' :: (title ++ VersionIndex.scriptExtension)

theorem Denotes.notMem {ds : List Char} {v : Nat} (h : Denotes ds v) {c : Char}
    (hc : c.isDigit = false) : c ∉ ds := by
  intro hmem
  simp [h.isDigit c hmem] at hc

namespace Decimal

theorem natOfDigits_concat (ds : List Char) (d : Char) :
    natOfDigits (ds ++ [d]) = 10 * natOfDigits ds + (d.toNat - '0'.toNat) := by
  simp [natOfDigits]

theorem natOfDigits_eq_ofDigits (ds : List Char) :
    natOfDigits ds = Nat.ofDigits 10 (ds.reverse.map fun d => d.toNat - '0'.toNat) := by
  induction ds using List.reverseRecOn with
  | nil => rfl
  | append_singleton ds d ih =>
    rw [natOfDigits_concat, ih, List.reverse_concat, List.map_cons, Nat.ofDigits_cons, Nat.add_comm]

theorem denotes_iff {ds : List Char} {v : Nat} :
    Denotes ds v ↔ (ds.isEmpty || !ds.all Char.isDigit) = false ∧ natOfDigits ds = v := by
  rw [natOfDigits_eq_ofDigits]
  simp only [Bool.or_eq_false_iff, List.isEmpty_eq_false_iff, Bool.not_eq_false', List.all_eq_true]
  exact ⟨fun ⟨hne, hdigit, heq⟩ => ⟨⟨hne, hdigit⟩, heq.symm⟩,
    fun ⟨⟨hne, hdigit⟩, heq⟩ => ⟨hne, hdigit, heq.symm⟩⟩

/-- A number is read from its digits, or from a plus sign and its digits. -/
theorem nat?_eq_some_iff {cs : List Char} {v : Nat} :
    nat? (.ofList cs) = some v ↔ Denotes cs v ∨ ∃ ds, cs = '+' :: ds ∧ Denotes ds v := by
  have hread (ds : List Char) :
      (if (ds.isEmpty || !ds.all Char.isDigit) = true then none else some (natOfDigits ds)) =
        some v ↔ Denotes ds v := by
    simp [denotes_iff]
  rw [nat?, String.toList_ofList]
  split
  next ds =>
    have hplus : ¬Denotes ('+' :: ds) v := fun h => h.notMem (by decide) List.mem_cons_self
    simpa [hplus] using hread ds
  next hne =>
    have hno : ¬∃ ds, cs = '+' :: ds ∧ Denotes ds v := fun ⟨ds, heq, _⟩ => hne ds heq
    simpa [hno] using hread cs

end Decimal

namespace VersionIndex

/-- `Indexed v name` says that a name belongs under the version `v`: it is the name of a script with
this version, perhaps after a plus sign, and the version is not above the largest. -/
def Indexed (v : Nat) (name : String) : Prop :=
  v ≤ maxVersion ∧
    (ScriptName v name.toList ∨ ∃ cs, name.toList = '+' :: cs ∧ ScriptName v cs)

theorem versionOfText?_eq_some_iff {cs : List Char} {v : Nat} :
    versionOfText? (.ofList cs) = some v ↔
      v ≤ maxVersion ∧ (Denotes cs v ∨ ∃ ds, cs = '+' :: ds ∧ Denotes ds v) := by
  rw [versionOfText?, Option.filter_eq_some_iff, Decimal.nat?_eq_some_iff, and_comm,
    decide_eq_true_iff]

/-- The version of a name ends at the first underscore. -/
theorem version?_eq_some_iff_exists {name : String} {v : Nat} :
    version? name = some v ↔ ∃ version title, '_' ∉ version ∧ title ≠ [] ∧
      name.toList = version ++ '_' :: (title ++ scriptExtension) ∧
      versionOfText? (.ofList version) = some v := by
  constructor
  · intro h
    simp only [version?, Option.bind_eq_bind, Option.bind_eq_some_iff] at h
    obtain ⟨stem, hstem, ⟨version, title⟩, hcut, h⟩ := h
    obtain ⟨rfl, hversion⟩ := Chars.eq_append_of_cut? hcut
    split at h
    · cases h
    next htitle =>
      refine ⟨version, title, hversion, by simpa using htitle, ?_, h⟩
      simpa using Chars.eq_append_of_stripEnd? hstem
  · rintro ⟨version, title, hversion, htitle, hname, h⟩
    have hstem : Chars.stripEnd? scriptExtension name.toList =
        some (version ++ '_' :: title) := by
      rw [hname, ← List.cons_append, ← List.append_assoc, Chars.stripEnd?_append]
    simpa [version?, hstem, Chars.cut?_append_cons hversion, htitle] using h

theorem version?_eq_some_iff {name : String} {v : Nat} :
    version? name = some v ↔ Indexed v name := by
  -- no digit is an underscore, so the digits end where the version does
  have hunderscore : '_'.isDigit = false := by decide
  rw [version?_eq_some_iff_exists]
  simp only [versionOfText?_eq_some_iff]
  constructor
  · rintro ⟨version, title, -, htitle, hname, hv, hdenotes | ⟨ds, rfl, hdenotes⟩⟩
    · exact ⟨hv, .inl ⟨version, title, hdenotes, htitle, hname⟩⟩
    · exact ⟨hv, .inr ⟨_, hname, ds, title, hdenotes, htitle, rfl⟩⟩
  · rintro ⟨hv, ⟨digits, title, hdenotes, htitle, hname⟩ |
      ⟨-, hname, digits, title, hdenotes, htitle, rfl⟩⟩
    · exact ⟨digits, title, hdenotes.notMem hunderscore, htitle, hname, hv, .inl hdenotes⟩
    · refine ⟨'+' :: digits, title, ?_, htitle, hname, hv, .inr ⟨digits, rfl, hdenotes⟩⟩
      simpa using hdenotes.notMem hunderscore

theorem Indexed.unique {v w : Nat} {name : String} (h : Indexed v name) (h' : Indexed w name) :
    v = w :=
  Option.some.inj ((version?_eq_some_iff.2 h).symm.trans (version?_eq_some_iff.2 h'))

theorem version?_eq_none_iff {name : String} :
    version? name = none ↔ ∀ v, ¬Indexed v name := by
  simp only [Option.eq_none_iff_forall_ne_some, ne_eq, version?_eq_some_iff]

/-! ## Entries -/

section Entries

variable {index : VersionIndex} {version : Nat}

theorem get?_eq_none_iff : index.get? version = none ↔ version ∉ index.versions := by
  simp only [get?, List.lookup_eq_none_iff, bne_iff_ne, versions, List.mem_map, not_exists, not_and]
  exact ⟨fun h p hp heq => h p hp heq.symm, fun h p hp heq => h p hp heq.symm⟩

theorem mem_versions {name : String} (h : (version, name) ∈ index) : version ∈ index.versions :=
  List.mem_map_of_mem h

theorem get?_eq_some_iff (h : index.versions.Pairwise (· < ·)) {name : String} :
    index.get? version = some name ↔ (version, name) ∈ index := by
  induction index with
  | nil => simp [get?]
  | cons p rest ih =>
    obtain ⟨v, found⟩ := p
    obtain ⟨hv, hrest⟩ := List.pairwise_cons.1 h
    simp only [get?, List.lookup_cons] at ih ⊢
    by_cases heq : version = v
    · subst heq
      have hno : (version, name) ∉ rest := fun hmem =>
        Nat.lt_irrefl _ (hv version (mem_versions hmem))
      simp [hno, eq_comm]
    · have hne : (version == v) = false := by simpa using heq
      simp [hne, heq, ih hrest]

theorem mem_insert_iff (h : version ∉ index.versions) (name : String) (p : Nat × String) :
    p ∈ index.insert version name ↔ p = (version, name) ∨ p ∈ index := by
  induction index with
  | nil => simp [insert]
  | cons q rest ih =>
    obtain ⟨v, found⟩ := q
    obtain ⟨hne, hrest⟩ : version ≠ v ∧ version ∉ VersionIndex.versions rest := by
      simpa [versions] using h
    rw [insert, if_neg hne]
    split
    · exact List.mem_cons
    · rw [List.mem_cons, List.mem_cons, ih hrest]
      exact or_left_comm

theorem increasing_insert (h : index.versions.Pairwise (· < ·)) (version : Nat) (name : String) :
    (index.insert version name).versions.Pairwise (· < ·) := by
  induction index with
  | nil => simp [insert, versions]
  | cons p rest ih =>
    obtain ⟨v, n⟩ := p
    obtain ⟨hv, hrest⟩ := List.pairwise_cons.1 h
    simp only [insert]
    split
    next hlt =>
      refine List.pairwise_cons.2 ⟨fun x hx => ?_, h⟩
      obtain rfl | hx := List.mem_cons.1 hx
      · exact hlt
      · exact Nat.lt_trans hlt (hv x hx)
    next hle =>
      split
      next heq => exact heq ▸ h
      next hne =>
        refine List.pairwise_cons.2 ⟨fun x hx => ?_, ih hrest⟩
        obtain rfl | hx := (mem_versions_insert rest version x name).1 hx
        · omega
        · exact hv x hx

end Entries

/-! ## Indexing -/

/-- `IsIndex names index` says that an index has each of the names that has a version, under this
version, and no other. -/
structure IsIndex (names : List String) (index : VersionIndex) : Prop where
  increasing : index.versions.Pairwise (· < ·)
  mem_iff : ∀ v name, (v, name) ∈ index ↔ name ∈ names ∧ Indexed v name

/-- Two names are apart if they have no version in common. -/
def Apart (name other : String) : Prop := ∀ v, Indexed v name → ¬Indexed v other

/-- What comes of indexing some names. -/
inductive Indexing (names : List String) : Except ConfigurationError VersionIndex → Prop
  | index {index} (hapart : names.Pairwise Apart) (h : IsIndex names index) :
      Indexing names (.ok index)
  | duplicate {v name other} (hnames : [name, other].Sublist names) (h : Indexed v name)
      (h' : Indexed v other) : Indexing names (.error (.duplicateVersion v name other))

variable {names before : List String} {name : String} {index next : VersionIndex}

theorem isIndex_nil : IsIndex [] [] := ⟨.nil, by simp⟩

/-- A name is added if it is apart from those before it. -/
theorem IsIndex.add (h : IsIndex names index) (hadd : index.add name = .ok next) :
    IsIndex (names ++ [name]) next ∧ ∀ other ∈ names, Apart other name := by
  unfold VersionIndex.add at hadd
  split at hadd
  next hnone =>
    obtain rfl := Except.ok.inj hadd
    have hno := version?_eq_none_iff.1 hnone
    refine ⟨⟨h.increasing, fun v other => ?_⟩, fun other _ v _ => hno v⟩
    rw [h.mem_iff, List.mem_append, List.mem_singleton]
    constructor
    · exact fun ⟨hmem, hv⟩ => ⟨.inl hmem, hv⟩
    · rintro ⟨hmem | rfl, hv⟩
      · exact ⟨hmem, hv⟩
      · exact absurd hv (hno v)
  next version hversion =>
    have hname := version?_eq_some_iff.1 hversion
    split at hadd
    · cases hadd
    next hfree =>
      obtain rfl := Except.ok.inj hadd
      rw [get?_eq_none_iff] at hfree
      refine ⟨⟨increasing_insert h.increasing version name, fun v other => ?_⟩, ?_⟩
      · rw [mem_insert_iff hfree, h.mem_iff, List.mem_append, List.mem_singleton, Prod.mk.injEq]
        constructor
        · rintro (⟨rfl, rfl⟩ | ⟨hmem, hv⟩)
          · exact ⟨.inr rfl, hname⟩
          · exact ⟨.inl hmem, hv⟩
        · rintro ⟨hmem | rfl, hv⟩
          · exact .inr ⟨hmem, hv⟩
          · exact .inl ⟨hv.unique hname, rfl⟩
      · intro other hother v hv hv'
        obtain rfl := hname.unique hv'
        exact hfree (mem_versions ((h.mem_iff _ _).2 ⟨hother, hv⟩))

/-- A name is refused for a version that one before it has. -/
theorem IsIndex.add_eq_error (h : IsIndex names index) {c : ConfigurationError}
    (hadd : index.add name = .error c) :
    ∃ v other, other ∈ names ∧ Indexed v other ∧ Indexed v name ∧
      c = .duplicateVersion v other name := by
  unfold VersionIndex.add at hadd
  split at hadd
  · cases hadd
  next version hversion =>
    split at hadd
    next other hother =>
      obtain ⟨hmem, hv⟩ := (h.mem_iff _ _).1 ((get?_eq_some_iff h.increasing).1 hother)
      exact ⟨version, other, hmem, hv, version?_eq_some_iff.1 hversion,
        (Except.error.inj hadd).symm⟩
    · cases hadd

/-- With every name that is added the index has one more of the names. -/
theorem IsIndex.indexing_addAll (h : IsIndex before index) (hapart : before.Pairwise Apart)
    (names : List String) : Indexing (before ++ names) (names.foldlM VersionIndex.add index) := by
  -- what the index has at any time are the names that were read before
  induction names generalizing before index with
  | nil =>
    rw [List.append_nil]
    exact .index hapart h
  | cons name names ih =>
    rw [List.foldlM_cons]
    cases hadd : index.add name with
    | error c =>
      obtain ⟨v, other, hmem, hv, hv', rfl⟩ := h.add_eq_error hadd
      refine .duplicate ?_ hv hv'
      exact (List.singleton_sublist.2 hmem).append
        (List.singleton_sublist.2 (List.mem_cons_self (l := names)))
    | ok next =>
      obtain ⟨hnext, hname⟩ := h.add hadd
      have hbefore : (before ++ [name]).Pairwise Apart := by
        refine List.pairwise_append.2 ⟨hapart, List.pairwise_singleton _ _, fun other hother => ?_⟩
        simpa using hname other hother
      have hrest := ih hnext hbefore
      rw [List.append_assoc] at hrest
      exact hrest

theorem indexing_ofNames (names : List String) : Indexing names (ofNames names) :=
  isIndex_nil.indexing_addAll .nil names

theorem isIndex_ofNames (h : ofNames names = .ok index) : IsIndex names index := by
  have hindexing := indexing_ofNames names
  rw [h] at hindexing
  cases hindexing with
  | index _ hindex => exact hindex

/-- Two names with one version are not apart. -/
theorem not_apart {v : Nat} {name other : String} (hnames : [name, other].Sublist names)
    (h : Indexed v name) (h' : Indexed v other) : ¬names.Pairwise Apart := by
  intro hapart
  have hpair := List.rel_of_pairwise_cons (hapart.sublist hnames) (List.mem_singleton.2 rfl)
  exact hpair v h h'

end VersionIndex

end SchemaMigration
