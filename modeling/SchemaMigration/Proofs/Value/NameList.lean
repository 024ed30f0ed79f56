import SchemaMigration.ItemList
import SchemaMigration.Proofs.Text.Ends

/-!
# Spellings of a list of names

A list of names is a list of texts, or one text that has the names between commas. In a text each
name may stand in quotes, each comma in white space, and the whole in brackets or, if there are
several names, in parentheses. All these spellings are read as the same items.

## Main definitions

* `ItemList.Name`, `ItemList.WrittenName` — names, and names as they are written.
* `ItemList.written` — the text of names between commas.
* `ItemList.Enclosure` — what may stand around the text.

The main result is `ItemList.parse_written`.
-/

namespace SchemaMigration.ItemList

open Chars

/-! ## Names as they are written -/

/-- The characters that lists are written with. -/
def punctuation : List Char := [',', '"', '\'', '[', ']', '(', ')', '\x7b', '\x7d']

/-- A text that is not empty, without white space and punctuation. -/
structure Name where
  chars : List Char
  ne_nil : chars ≠ []
  isBlank_eq_false : ∀ c ∈ chars, isBlank c = false
  notMem_punctuation : ∀ c ∈ chars, c ∉ punctuation

def Name.text (n : Name) : String := .ofList n.chars

/-- The quotes that may stand around a name. -/
inductive Marks where
  | none | single | double

def Marks.chars : Marks → List Char
  | .none => []
  | .single => ['\'']
  | .double => ['"']

/-- A name with the quotes around it. -/
structure WrittenName where
  name : Name
  marks : Marks

def WrittenName.chars (w : WrittenName) : List Char :=
  w.marks.chars ++ w.name.chars ++ w.marks.chars

/-- The white space around a comma. -/
structure Spacing where
  before : List Char
  after : List Char
  blank_before : Blank before
  blank_after : Blank after

/-- Names with a comma between each two. -/
def written (first : WrittenName) : List (Spacing × WrittenName) → List Char
  | [] => first.chars
  | (spacing, next) :: rest =>
    first.chars ++ spacing.before ++ ',' :: (spacing.after ++ written next rest)

/-- What may stand around names. -/
inductive Enclosure where
  | none | brackets | parentheses

/-- The names in their enclosure. -/
def Enclosure.around (cs : List Char) : Enclosure → List Char
  | .none => cs
  | .brackets => '[' :: (cs ++ [']'])
  | .parentheses => '(' :: (cs ++ [')'])

/-- Holds if an enclosure may stand around a name with so many others behind it: parentheses stand
around several names only. -/
def Enclosure.Fits (rest : List (Spacing × WrittenName)) : Enclosure → Prop
  | .none | .brackets => True
  | .parentheses => rest ≠ []

/-! ## One name -/

theorem Marks.isQuote_of_mem {c : Char} (m : Marks) (h : c ∈ m.chars) : isQuote c = true := by
  cases m with
  | none => cases h
  | single | double => exact List.mem_singleton.1 h ▸ rfl

namespace WrittenName

variable {w : WrittenName} {c : Char}

theorem chars_ne_nil (w : WrittenName) : w.chars ≠ [] := by
  simp [chars, w.name.ne_nil]

/-- A written name has the characters of the name and quotes. -/
theorem mem_name_or_isQuote (h : c ∈ w.chars) : c ∈ w.name.chars ∨ isQuote c = true := by
  simp only [chars, List.mem_append] at h
  rcases h with (h | h) | h
  · exact .inr (w.marks.isQuote_of_mem h)
  · exact .inl h
  · exact .inr (w.marks.isQuote_of_mem h)

theorem isBlank_eq_false_of_mem (h : c ∈ w.chars) : isBlank c = false := by
  rcases mem_name_or_isQuote h with h | h
  · exact w.name.isBlank_eq_false c h
  · simp only [isQuote, Bool.or_eq_true, beq_iff_eq] at h
    rcases h with rfl | rfl <;> decide

theorem notMem_chars (hc : c ∈ punctuation) (hquote : isQuote c = false) : c ∉ w.chars := by
  intro h
  rcases mem_name_or_isQuote h with h | h
  · exact w.name.notMem_punctuation c h hc
  · exact absurd h (by simp [hquote])

/-- The quotes of a written name are stripped off, and nothing else. -/
theorem stripQuotes_chars (w : WrittenName) : stripQuotes w.chars = w.name.chars := by
  have hquote (c : Char) (h : c ∈ w.marks.chars) : isQuote c = true := w.marks.isQuote_of_mem h
  have hname (c : Char) (h : c ∈ w.name.chars) : isQuote c = false := by
    have hnot := w.name.notMem_punctuation c h
    simp only [isQuote, Bool.or_eq_false_iff, beq_eq_false_iff_ne]
    constructor <;> rintro rfl <;> exact hnot (by decide)
  obtain ⟨first, rest, hchars⟩ := List.exists_cons_of_ne_nil w.name.ne_nil
  have hfirst : isQuote first = false := hname first (hchars ▸ List.mem_cons_self)
  have hdrop : w.chars.dropWhile isQuote = w.name.chars ++ w.marks.chars := by
    rw [chars, List.append_assoc, List.dropWhile_append_of_pos hquote, hchars, List.cons_append,
      List.dropWhile_cons_of_neg (by simp [hfirst])]
  rw [stripQuotes, hdrop, dropEndWhile_append (fun c hc => ?_) hquote]
  exact hname c (List.mem_of_getLast? hc)

/-- White space around a written name is trimmed off. -/
theorem trim_chars {front tail : List Char} (w : WrittenName) (hfront : Blank front)
    (htail : Blank tail) : trim (front ++ (w.chars ++ tail)) = w.chars :=
  trim_between w.chars_ne_nil (fun _ hc => isBlank_eq_false_of_mem (List.mem_of_head? hc))
    (fun _ hc => isBlank_eq_false_of_mem (List.mem_of_getLast? hc)) hfront htail

end WrittenName

/-! ## Names between commas -/

section Written

variable {first : WrittenName} {rest : List (Spacing × WrittenName)} {c : Char}

theorem exists_written_eq_cons (first : WrittenName) (rest : List (Spacing × WrittenName)) :
    ∃ c cs, written first rest = c :: cs ∧ c ∈ first.chars := by
  obtain ⟨c, cs, hchars⟩ := List.exists_cons_of_ne_nil first.chars_ne_nil
  have hmem : c ∈ first.chars := hchars ▸ List.mem_cons_self
  cases rest with
  | nil => exact ⟨c, cs, hchars, hmem⟩
  | cons p rest => exact ⟨c, _, by rw [written, hchars]; rfl, hmem⟩

/-- Names between commas do not end in white space. -/
theorem getLast?_written (first : WrittenName) (rest : List (Spacing × WrittenName)) :
    ∀ c ∈ (written first rest).getLast?, isBlank c = false := by
  induction rest generalizing first with
  | nil =>
    intro c hc
    exact WrittenName.isBlank_eq_false_of_mem (List.mem_of_getLast? hc)
  | cons p rest ih =>
    obtain ⟨spacing, next⟩ := p
    obtain ⟨d, ds, hwritten, -⟩ := exists_written_eq_cons next rest
    have hend : written first ((spacing, next) :: rest) =
        (first.chars ++ spacing.before ++ ',' :: spacing.after) ++ written next rest := by
      simp [written]
    rw [hend, List.getLast?_append_of_ne_nil _ (by simp [hwritten])]
    exact ih next

/-- Names between commas have no other punctuation than commas and quotes. -/
theorem notMem_written (hc : c ∈ punctuation) (hquote : isQuote c = false) (hcomma : c ≠ ',')
    (hblank : isBlank c = false) : c ∉ written first rest := by
  have hspace {cs : List Char} (h : Blank cs) : c ∉ cs := by
    intro hmem
    simp [h c hmem] at hblank
  induction rest generalizing first with
  | nil => exact first.notMem_chars hc hquote
  | cons p rest ih =>
    obtain ⟨spacing, next⟩ := p
    simp only [written, List.mem_append, List.mem_cons, not_or]
    exact ⟨⟨first.notMem_chars hc hquote, hspace spacing.blank_before⟩, hcomma,
      hspace spacing.blank_after, ih⟩

theorem comma_notMem_of_blank {cs : List Char} (h : Blank cs) : ',' ∉ cs := by
  intro hmem
  exact absurd (h _ hmem) (by decide)

theorem comma_notMem_chars (w : WrittenName) : ',' ∉ w.chars :=
  w.notMem_chars (by decide) (by decide)

/-- The first comma of names ends the first name. -/
theorem splitOn_written_cons {front : List Char} (hfront : Blank front) (first next : WrittenName)
    (spacing : Spacing) (rest : List (Spacing × WrittenName)) :
    splitOn ',' (front ++ written first ((spacing, next) :: rest)) =
      (front ++ (first.chars ++ spacing.before)) ::
        splitOn ',' (spacing.after ++ written next rest) := by
  have hnot : ',' ∉ front ++ (first.chars ++ spacing.before) := by
    simp [comma_notMem_of_blank hfront, comma_notMem_chars first,
      comma_notMem_of_blank spacing.blank_before]
  rw [← splitOn_append_cons hnot]
  simp [written]

theorem afterComma_cons (piece : List Char) {pieces : List (List Char)} (h : pieces ≠ []) :
    afterComma (piece :: pieces) = trim piece :: afterComma pieces := by
  cases pieces with
  | nil => exact absurd rfl h
  | cons => rfl

/-- What follows a comma has the names as its pieces. -/
theorem afterComma_splitOn_written {front : List Char} (hfront : Blank front) (first : WrittenName)
    (rest : List (Spacing × WrittenName)) :
    afterComma (splitOn ',' (front ++ written first rest)) =
      first.chars :: rest.map (·.2.chars) := by
  induction rest generalizing front first with
  | nil =>
    obtain ⟨c, cs, hchars⟩ := List.exists_cons_of_ne_nil first.chars_ne_nil
    have hc : isBlank c = false :=
      WrittenName.isBlank_eq_false_of_mem (hchars ▸ List.mem_cons_self)
    have hnot : ',' ∉ front ++ first.chars := by
      simp [comma_notMem_of_blank hfront, comma_notMem_chars first]
    rw [written, splitOn_of_notMem hnot, afterComma, hchars, trimStart_append_cons hfront hc]
    rfl
  | cons p rest ih =>
    obtain ⟨spacing, next⟩ := p
    rw [splitOn_written_cons hfront, afterComma_cons _ (splitOn_ne_nil _ _),
      ih spacing.blank_after, first.trim_chars hfront spacing.blank_before]
    rfl

/-- The pieces of names between commas are the names. -/
theorem pieces_written (first : WrittenName) (rest : List (Spacing × WrittenName)) :
    pieces (written first rest) = first.chars :: rest.map (·.2.chars) := by
  cases rest with
  | nil => simp [pieces, written, splitOn_of_notMem (comma_notMem_chars first)]
  | cons p rest =>
    obtain ⟨spacing, next⟩ := p
    have hnil : Blank [] := by simp [Blank]
    have hsplit := splitOn_written_cons hnil first next spacing rest
    have htail := afterComma_splitOn_written spacing.blank_after next rest
    have hfirst : trimEnd (first.chars ++ spacing.before) = first.chars :=
      trimEnd_append (fun _ hc => WrittenName.isBlank_eq_false_of_mem (List.mem_of_getLast? hc))
        spacing.blank_before
    obtain ⟨piece, others, hpieces⟩ :=
      List.exists_cons_of_ne_nil (splitOn_ne_nil ',' (spacing.after ++ written next rest))
    simp only [List.nil_append, hpieces] at hsplit htail
    rw [pieces, hsplit]
    simp [hfirst, htail]

end Written

/-! ## Enclosures -/

section Around

variable {start stop c : Char} {cs : List Char}

theorem between?_cons_of_ne (h : c ≠ start) : between? start stop (c :: cs) = none := by
  simp [between?, stripStart?, Ne.symm h]

theorem between?_cons_append (start stop : Char) (cs : List Char) :
    between? start stop (start :: (cs ++ [stop])) = some cs := by
  simp [between?, stripStart?, stripEnd?_append]

end Around

variable {first : WrittenName} {rest : List (Spacing × WrittenName)}

/-- An enclosure is stripped off, and nothing else. -/
theorem strip_around {e : Enclosure} (he : e.Fits rest) :
    stripParentheses (stripBrackets (e.around (written first rest))) = written first rest := by
  obtain ⟨c, cs, hcs, hc⟩ := exists_written_eq_cons first rest
  have hne {d : Char} (hd : d ∈ punctuation) (hquote : isQuote d = false) : c ≠ d := by
    rintro rfl
    exact first.notMem_chars hd hquote hc
  have hinner : stripParentheses (written first rest) = written first rest := by
    rw [stripParentheses, hcs, between?_cons_of_ne (hne (by decide) (by decide))]
    simp
  cases e with
  | none =>
    rw [Enclosure.around, stripBrackets, hcs, between?_cons_of_ne (hne (by decide) (by decide)),
      Option.getD_none, ← hcs, hinner]
  | brackets =>
    rw [Enclosure.around, stripBrackets, between?_cons_append, Option.getD_some, hinner]
  | parentheses =>
    have hcomma : ',' ∈ written first rest := by
      cases rest with
      | nil => exact absurd rfl he
      | cons p rest => simp [written]
    rw [Enclosure.around, stripBrackets, between?_cons_of_ne (by decide), Option.getD_none,
      stripParentheses, if_pos (by simp [hcomma]), between?_cons_append, Option.getD_some]

/-- Names in an enclosure are read as the names. -/
theorem names_around {e : Enclosure} (he : e.Fits rest) :
    names (e.around (written first rest)) = (first :: rest.map Prod.snd).map (·.name.chars) := by
  have hpieces : pieces (written first rest) = (first :: rest.map Prod.snd).map (·.chars) := by
    rw [pieces_written, List.map_cons, List.map_map]
    rfl
  have hfull : ((first :: rest.map Prod.snd).map (·.chars)).filter (!·.isEmpty) =
      (first :: rest.map Prod.snd).map (·.chars) := by
    refine List.filter_eq_self.2 fun cs hcs => ?_
    obtain ⟨w, -, rfl⟩ := List.mem_map.1 hcs
    simp [w.chars_ne_nil]
  rw [names, strip_around he, hpieces, hfull, List.map_map]
  exact List.map_congr_left fun w _ => w.stripQuotes_chars

/-- Names in an enclosure are no JSON array of objects. -/
theorem jsonItems?_around (e : Enclosure) : jsonItems? (e.around (written first rest)) = none := by
  have hbrace : '\x7b' ∉ written first rest :=
    notMem_written (by decide) (by decide) (by decide) (by decide)
  have hnot : '\x7b' ∉ e.around (written first rest) := by
    cases e <;> simp [Enclosure.around, hbrace]
  simp [jsonItems?, looksLikePairs, hnot]

/-- White space around an enclosure is trimmed off. -/
theorem trim_around {front tail : List Char} (e : Enclosure) (hfront : Blank front)
    (htail : Blank tail) :
    trim (front ++ (e.around (written first rest) ++ tail)) = e.around (written first rest) := by
  obtain ⟨c, cs, hcs, hc⟩ := exists_written_eq_cons first rest
  cases e with
  | none =>
    refine trim_between (by simp [Enclosure.around, hcs]) ?_ (getLast?_written first rest) hfront
      htail
    rw [Enclosure.around, hcs]
    rintro d ⟨⟩
    exact WrittenName.isBlank_eq_false_of_mem hc
  | brackets | parentheses =>
    have hlast (d e : Char) (cs : List Char) : (d :: (cs ++ [e])).getLast? = some e := by
      rw [← List.cons_append, List.getLast?_concat]
    refine trim_between (List.cons_ne_nil _ _) ?_ ?_ hfront htail
    · rintro d ⟨⟩
      decide
    · rw [Enclosure.around, hlast]
      rintro d ⟨⟩
      decide

/-! ## Spellings -/

/-- A list of texts that are not empty has these as its items. -/
theorem ofValues_map_text {texts : List String} (h : ∀ s ∈ texts, s ≠ "") :
    (ofValues (texts.map .text)).items = texts ∧ (ofValues (texts.map .text)).pairs = [] := by
  induction texts with
  | nil => exact ⟨rfl, rfl⟩
  | cons s texts ih =>
    obtain ⟨hs, htexts⟩ := List.forall_mem_cons.1 h
    simp_all [ofValues, itemOf?, pairsOf, Value.asText]

/-- A list of names is read alike however it is spelled: as a list of texts, or as a text with the
names between commas, each name with or without quotes, with white space around the commas and
around the whole, and also in brackets, or in parentheses if there are several names. -/
theorem parse_written (first : WrittenName) (rest : List (Spacing × WrittenName)) :
    let texts := (first :: rest.map Prod.snd).map (·.name.text)
    ((parse (.list (texts.map .text))).items = texts ∧
      (parse (.list (texts.map .text))).pairs = []) ∧
    ∀ (e : Enclosure) (front tail : List Char), e.Fits rest → Blank front → Blank tail →
      let s := String.ofList (front ++ (e.around (written first rest) ++ tail))
      (parse (.text s)).items = texts ∧ (parse (.text s)).pairs = [] := by
  intro texts
  refine ⟨ofValues_map_text fun s hs => ?_, fun e front tail he hfront htail => ?_⟩
  · obtain ⟨w, -, rfl⟩ := List.mem_map.1 hs
    simp [Name.text, w.name.ne_nil]
  · have htrim : trim (String.ofList (front ++ (e.around (written first rest) ++ tail))).toList =
        e.around (written first rest) := by
      rw [String.toList_ofList, trim_around e hfront htail]
    have hne : (e.around (written first rest)).isEmpty = false := by
      obtain ⟨c, cs, hcs, -⟩ := exists_written_eq_cons first rest
      cases e <;> simp [Enclosure.around, hcs]
    simp only [parse, ofText, htrim, hne, jsonItems?_around, names_around he, List.map_map]
    exact ⟨rfl, rfl⟩

/-- A name in single quotes. -/
def quotedName : WrittenName where
  name := ⟨['n', 'a', 'ï', 'f'], by decide, by simp [isBlank], by simp [punctuation]⟩
  marks := .single

/-- A name without quotes, behind a comma in white space. -/
def spacedName : Spacing × WrittenName where
  fst := ⟨[' ', '\u00a0'], ['\n'], by decide, by decide⟩
  snd := ⟨⟨['b', '-', '2'], by decide, by simp [isBlank], by simp [punctuation]⟩, .none⟩

theorem parse_written_quotedName :
    Enclosure.parentheses.Fits [spacedName] ∧ Blank ['\t'] ∧ Blank ['\u2003'] ∧
      (parse (.text "\t('naïf' \u00a0,\nb-2)\u2003")).items = ["naïf", "b-2"] ∧
      (parse (.text "\t('naïf' \u00a0,\nb-2)\u2003")).pairs = [] := by
  have hfits : Enclosure.parentheses.Fits [spacedName] := List.cons_ne_nil _ _
  have hfront : Blank ['\t'] := by decide
  have htail : Blank ['\u2003'] := by decide
  have hparse := (parse_written quotedName [spacedName]).2 .parentheses _ _ hfits hfront htail
  exact ⟨hfits, hfront, htail, hparse⟩

end SchemaMigration.ItemList
