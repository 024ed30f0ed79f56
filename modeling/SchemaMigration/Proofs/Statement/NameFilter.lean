import SchemaMigration.Proofs.Statement.QuotedNames

/-!
# Names that the filter keeps apart

The filter of names drops spaces and writes a NUL as the replacement character. Apart from that a
name can be read off its safe form: the markup is a code in which no word starts another, and a
guarded character always has a backslash of its own in front of it, so that the backslashes of the
name itself do no harm.

## Main definitions

* `Identifier.kept` — what the filter keeps of a name.
* `Identifier.escape_eq_escape_iff` — two names have one safe form only if it keeps the same of
  them.

The main result is `Quoter.escape_eq_iff_and_quote_eq_iff`.
-/

namespace SchemaMigration

/-- A text of words can be taken apart in one way only if no word starts another. What `g` tells of
a letter is what can be told from its word. -/
theorem flatMap_eq_flatMap_iff {α β γ : Type} {f : α → List β} {g : α → γ} (hne : ∀ a, f a ≠ [])
    (hf : ∀ a b, f a <+: f b → g a = g b) (hg : ∀ a b, g a = g b → f a = f b) (as bs : List α) :
    as.flatMap f = bs.flatMap f ↔ as.map g = bs.map g := by
  induction as generalizing bs with
  | nil => cases bs <;> simp [hne]
  | cons a as ih =>
    cases bs with
    | nil => simp [hne]
    | cons b bs =>
      simp only [List.flatMap_cons, List.map_cons, List.cons.injEq]
      constructor
      · intro h
        have ha : f a <+: f b ++ bs.flatMap f := h ▸ List.prefix_append _ _
        have hab : g a = g b := by
          rcases List.prefix_or_prefix_of_prefix ha (List.prefix_append _ _) with hab | hba
          · exact hf a b hab
          · exact (hf b a hba).symm
        rw [hg a b hab] at h
        exact ⟨hab, (ih bs).1 (List.append_cancel_left h)⟩
      · rintro ⟨hab, hrest⟩
        rw [hg a b hab, (ih bs).2 hrest]

namespace Identifier

/-! ## Markup -/

/-- A character as it can be told from its markup. -/
def shown (c : Char) : Char := if c = '\x00' then '\ufffd' else c

/-- The characters with a word of their own in markup. -/
def marked : List Char := ['&', '<', '>', '\'', '"']

theorem mem_marked_iff {c : Char} :
    c ∈ marked ↔ c = '&' ∨ c = '<' ∨ c = '>' ∨ c = '\'' ∨ c = '"' := by
  simp [marked]

theorem markup_of_notMem {c : Char} (h : c ∉ marked) : markup c = [shown c] := by
  simp only [mem_marked_iff, not_or] at h
  obtain ⟨hamp, hlt, hgt, hquote, hdouble⟩ := h
  simp only [markup, hamp, hlt, hgt, hquote, hdouble, if_false, shown]
  split <;> rfl

/-- A word of its own starts with an ampersand, which is not all of it. -/
theorem exists_markup_of_mem {c : Char} (h : c ∈ marked) : ∃ d ds, markup c = '&' :: d :: ds := by
  rcases mem_marked_iff.1 h with rfl | rfl | rfl | rfl | rfl <;> exact ⟨_, _, rfl⟩

theorem markup_ne_nil (c : Char) : markup c ≠ [] := by
  by_cases hc : c ∈ marked
  · obtain ⟨d, ds, hmarkup⟩ := exists_markup_of_mem hc
    simp [hmarkup]
  · simp [markup_of_notMem hc]

theorem shown_ne_ampersand {c : Char} (h : c ∉ marked) : shown c ≠ '&' := by
  unfold shown
  split
  · decide
  · rintro rfl
    exact h (by decide)

theorem eq_of_leading_markup {c d : Char} (hc : c ∈ marked) (hd : d ∈ marked) :
    markup c <+: markup d → c = d := by
  rcases mem_marked_iff.1 hc with rfl | rfl | rfl | rfl | rfl <;>
    rcases mem_marked_iff.1 hd with rfl | rfl | rfl | rfl | rfl <;> decide

/-- No word of the markup starts another. -/
theorem shown_eq_of_leading_markup {c d : Char} (h : markup c <+: markup d) :
    shown c = shown d := by
  by_cases hc : c ∈ marked <;> by_cases hd : d ∈ marked
  · rw [eq_of_leading_markup hc hd h]
  · obtain ⟨e, es, hmarkup⟩ := exists_markup_of_mem hc
    rw [hmarkup, markup_of_notMem hd] at h
    simpa using h.length_le
  · obtain ⟨e, es, hmarkup⟩ := exists_markup_of_mem hd
    rw [hmarkup, markup_of_notMem hc, List.cons_prefix_cons] at h
    exact absurd h.1 (shown_ne_ampersand hc)
  · rw [markup_of_notMem hc, markup_of_notMem hd, List.cons_prefix_cons] at h
    exact h.1

theorem markup_shown (c : Char) : markup (shown c) = markup c := by
  unfold shown
  split
  next hc => rw [hc]; rfl
  next => rfl

theorem flatMap_markup_eq_iff (cs ds : List Char) :
    cs.flatMap markup = ds.flatMap markup ↔ cs.map shown = ds.map shown := by
  refine flatMap_eq_flatMap_iff markup_ne_nil (fun _ _ => shown_eq_of_leading_markup) ?_ cs ds
  intro c d h
  rw [← markup_shown c, h, markup_shown d]

/-- A space is marked up as itself, and no other markup has one. -/
theorem filter_markup (c : Char) :
    (markup c).filter (· ≠ ' ') = if c = ' ' then [] else markup c := by
  by_cases hspace : c = ' '
  · subst hspace
    decide
  · rw [if_neg hspace]
    by_cases hc : c ∈ marked
    · rcases mem_marked_iff.1 hc with rfl | rfl | rfl | rfl | rfl <;> rfl
    · have hshown : shown c ≠ ' ' := by
        unfold shown
        split
        · decide
        · exact hspace
      simp [markup_of_notMem hc, hshown]

theorem filter_flatMap_markup (cs : List Char) :
    (cs.flatMap markup).filter (· ≠ ' ') = (cs.filter (· ≠ ' ')).flatMap markup := by
  induction cs with
  | nil => rfl
  | cons c cs ih =>
    rw [List.flatMap_cons, List.filter_append, filter_markup, ih]
    by_cases h : c = ' ' <;> simp [h]

/-! ## Backslashes -/

/-- A guarded character and its backslash, read from the end. -/
def guardedBackwards (c : Char) : List Char := if guarded.contains c then [c, '\\'] else [c]

theorem reverse_guard {c : Char} (h : c ≠ ' ') : (guard c).reverse = guardedBackwards c := by
  simp only [guard, h, if_false, guardedBackwards]
  split <;> rfl

theorem reverse_flatMap_guard (cs : List Char) :
    (cs.flatMap guard).reverse = (cs.filter (· ≠ ' ')).reverse.flatMap guardedBackwards := by
  induction cs with
  | nil => rfl
  | cons c cs ih =>
    by_cases h : c = ' '
    · simpa [h, guard] using ih
    · simp [ih, reverse_guard h, h]

/-- Read from the end, every character comes before its backslash. So the backslash of a guarded
character is never taken for one of the name. -/
theorem flatMap_guard_eq_iff (cs ds : List Char) :
    cs.flatMap guard = ds.flatMap guard ↔ cs.filter (· ≠ ' ') = ds.filter (· ≠ ' ') := by
  have hhead (c : Char) : ∃ rest, guardedBackwards c = c :: rest := by
    unfold guardedBackwards
    split <;> exact ⟨_, rfl⟩
  rw [← List.reverse_inj, reverse_flatMap_guard, reverse_flatMap_guard,
    flatMap_eq_flatMap_iff (g := id) ?_ ?_ ?_, List.map_id, List.map_id, List.reverse_inj]
  · intro c
    obtain ⟨rest, hc⟩ := hhead c
    simp [hc]
  · intro c d h
    obtain ⟨rest, hc⟩ := hhead c
    obtain ⟨rest', hd⟩ := hhead d
    rw [hc, hd, List.cons_prefix_cons] at h
    exact h.1
  · rintro c d rfl
    rfl

/-! ## The filter -/

/-- What the filter keeps of a name: no spaces, and the replacement character for NUL. -/
def kept (cs : List Char) : List Char := (cs.filter (· ≠ ' ')).map shown

theorem escape_eq_escape_iff (cs ds : List Char) : escape cs = escape ds ↔ kept cs = kept ds := by
  rw [escape, escape, flatMap_guard_eq_iff, filter_flatMap_markup, filter_flatMap_markup,
    flatMap_markup_eq_iff, kept, kept]

theorem kept_eq_self {cs : List Char} (hspace : ' ' ∉ cs) (hnul : '\x00' ∉ cs) : kept cs = cs := by
  have hfilter : cs.filter (· ≠ ' ') = cs := by
    refine List.filter_eq_self.2 fun c hc => ?_
    have hne : c ≠ ' ' := fun h => hspace (h ▸ hc)
    simpa using hne
  have hshown (c : Char) (hc : c ∈ cs) : shown c = id c :=
    if_neg fun h => hnul (by rwa [← h])
  rw [kept, hfilter, List.map_congr_left hshown, List.map_id]

end Identifier

/-! ## Quoted names -/

namespace Quoter

variable {q : Quoter} {kind : NameKind} {a b : String}

/-- A name that is no template is the full name itself. -/
theorem fullName_eq_toList (h : Identifier.templateBody? a.toList = none) :
    q.fullName kind a = a.toList := by
  simp [fullName, Identifier.resolve, h]

theorem toList_quote (ha : a ≠ "") (h : q.override? kind (q.safeName kind a) = none) :
    (q.quote kind a).toList = '\x60' :: (Identifier.escape (q.fullName kind a) ++ ['\x60']) := by
  have hempty : a.isEmpty = false := by simpa [String.isEmpty_iff] using ha
  simp [quote_of_override?_eq_none hempty h, safeName, fullName]

/-- The quotes of two names tell what the filter keeps of them. -/
theorem quote_eq_quote_iff (ha : a ≠ "") (hb : b ≠ "")
    (hoa : q.override? kind (q.safeName kind a) = none)
    (hob : q.override? kind (q.safeName kind b) = none) :
    q.quote kind a = q.quote kind b ↔
      Identifier.kept (q.fullName kind a) = Identifier.kept (q.fullName kind b) := by
  rw [← String.toList_inj, toList_quote ha hoa, toList_quote hb hob, List.cons_inj_right,
    List.append_left_inj, Identifier.escape_eq_escape_iff]

/-- The empty name is the only one whose quote is empty. -/
theorem quote_ne_of_eq_empty (ha : a = "") (hb : b ≠ "")
    (hob : q.override? kind (q.safeName kind b) = none) : q.quote kind a ≠ q.quote kind b := by
  intro h
  have hlist := congrArg String.toList h
  rw [toList_quote hb hob] at hlist
  simp [quote, ha] at hlist

/-- Two names have one safe form exactly if they are equal without their spaces and with the
replacement character for NUL. So it is with the quotes of names whose full text no option gives,
once their templates are filled in: two that differ there, without spaces and NUL, have different
quotes. -/
theorem escape_eq_iff_and_quote_eq_iff :
    (∀ cs ds : List Char, Identifier.escape cs = Identifier.escape ds ↔
      Identifier.kept cs = Identifier.kept ds) ∧
    ∀ (q : Quoter) (kind : NameKind) (a b : String),
      q.override? kind (q.safeName kind a) = none → q.override? kind (q.safeName kind b) = none →
      (a ≠ "" → b ≠ "" → (q.quote kind a = q.quote kind b ↔
        Identifier.kept (q.fullName kind a) = Identifier.kept (q.fullName kind b))) ∧
      (q.fullName kind a ≠ q.fullName kind b →
        (∀ c ∈ [' ', '\x00'], c ∉ q.fullName kind a ∧ c ∉ q.fullName kind b) →
        q.quote kind a ≠ q.quote kind b) := by
  refine ⟨Identifier.escape_eq_escape_iff, fun q kind a b hoa hob => ⟨fun ha hb =>
    quote_eq_quote_iff ha hb hoa hob, fun hne hplain => ?_⟩⟩
  obtain ⟨⟨hspaceA, hspaceB⟩, hnulA, hnulB⟩ : _ ∧ _ := by simpa using hplain
  by_cases ha : a = ""
  · have hb : b ≠ "" := fun hb => hne (by rw [ha, hb])
    exact quote_ne_of_eq_empty ha hb hob
  · by_cases hb : b = ""
    · exact (quote_ne_of_eq_empty hb ha hoa).symm
    · rw [Ne, quote_eq_quote_iff ha hb hoa hob, Identifier.kept_eq_self hspaceA hnulA,
        Identifier.kept_eq_self hspaceB hnulB]
      exact hne

end Quoter

/-- A name and the name that is written as the safe form of the first. -/
theorem quote_ne_of_safeForm :
    let q := prefixedBuilder.quoter
    let a := "it's"
    let b := "it\\&#39\\;s"
    b.toList = Identifier.escape a.toList ∧
      q.override? .table (q.safeName .table a) = none ∧
      q.override? .table (q.safeName .table b) = none ∧
      q.fullName .table a = a.toList ∧ q.fullName .table b = b.toList ∧
      q.quote .table a ≠ q.quote .table b := by
  intro q a b
  have hoa := noOverrides_prefixedBuilder .table (by simp) (q.safeName .table a)
  have hob := noOverrides_prefixedBuilder .table (by simp) (q.safeName .table b)
  have hfullA : q.fullName .table a = a.toList := Quoter.fullName_eq_toList (by decide)
  have hfullB : q.fullName .table b = b.toList := Quoter.fullName_eq_toList (by decide)
  have hquotes := (Quoter.escape_eq_iff_and_quote_eq_iff.2 q .table a b hoa hob).2
  rw [hfullA, hfullB] at hquotes
  have hplain : ∀ c ∈ [' ', '\x00'], c ∉ a.toList ∧ c ∉ b.toList :=
    List.forall_mem_cons.2 ⟨by decide, List.forall_mem_singleton.2 (by decide)⟩
  exact ⟨by decide, hoa, hob, hfullA, hfullB, hquotes (by decide) hplain⟩

/-- A name, a template that stands for it, and a name with an option that gives its quote. Without
spaces and NUL they are quoted alike. -/
theorem table_eq_of_template_or_option :
    let q : Quoter := ⟨[("tableMap.b", "\x60a\x60")]⟩
    let names := ["a", "\x7b\x7ba\x7d\x7d", "b"]
    names.Nodup ∧ (∀ name ∈ names, ' ' ∉ name.toList ∧ '\x00' ∉ name.toList) ∧
      ∀ name ∈ names, q.table name = "\x60a\x60" := by
  decide +kernel

end SchemaMigration
