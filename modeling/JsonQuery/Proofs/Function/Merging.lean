/-
# JsonQuery.Proofs.Function.Merging — objects merged into one.

`merge` reads the entries of its arguments from left to right and writes them into one object, in place
where a name is there and at the end where it is new.  So each name stands where it was read first, with
the value that was read last.  Reading an object that is merged already instead of what it was merged
from therefore comes to the same: it has the same first places and the same last values.
-/
import JsonQuery.Expr.Eval
import JsonQuery.Proofs.Json.Entries
import Mathlib.Data.List.Induction

namespace JsonQuery

/-- A new element at the end counts if it did not occur before. -/
theorem eraseDups_concat {α : Type} [DecidableEq α] (l : List α) (a : α) :
    (l ++ [a]).eraseDups = if a ∈ l then l.eraseDups else l.eraseDups ++ [a] := by
  rw [List.eraseDups_append, List.removeAll]
  by_cases h : a ∈ l <;> simp [h, List.eraseDups_cons]

namespace Builtin

variable {merged entries : Entries Value} {name : String}

theorem mergeEntries_append (merged before behind : Entries Value) :
    mergeEntries merged (before ++ behind) = mergeEntries (mergeEntries merged before) behind :=
  List.foldl_append

/-! ## What is merged -/

/-- The names stand in the order in which they are read first. -/
theorem names_mergeEntries (entries : Entries Value) :
    (mergeEntries [] entries).names = entries.names.eraseDups := by
  induction entries using List.reverseRecOn with
  | nil => rfl
  | append_singleton entries entry ih =>
      have hnames : Entries.names (entries ++ [entry]) = Entries.names entries ++ [entry.1] :=
        Entries.names_append entries [entry]
      rw [mergeEntries_append, hnames, eraseDups_concat]
      show (Entries.put _ entry.1 entry.2).names = _
      simp only [Entries.names_put, ih, List.mem_eraseDups]

theorem nodup_mergeEntries (entries : Entries Value) : (mergeEntries [] entries).names.Nodup := by
  have hnil : (Entries.names ([] : Entries Value)).Nodup := List.nodup_nil
  exact Entries.nodup_foldl_put hnil entries

/-! ## Merging what is merged -/

/-- A name that is there and is not among the entries may as well be written before them. -/
theorem mergeEntries_put (h : name ∈ merged.names) (hnone : name ∉ entries.names) (value : Value) :
    mergeEntries (merged.put name value) entries = (mergeEntries merged entries).put name value := by
  induction entries generalizing merged with
  | nil => rfl
  | cons entry rest ih =>
      simp only [Entries.names, List.map_cons, List.mem_cons, not_or] at hnone
      have hcomm := Entries.put_comm h (Ne.symm hnone.1) value entry.2
      show mergeEntries ((merged.put name value).put entry.1 entry.2) rest = _
      rw [← hcomm]
      exact ih (Entries.mem_names_put.mpr (.inl h)) hnone.2

/-- Writing an entry before merging writes it after. -/
theorem mergeEntries_put_right (hnames : entries.names.Nodup) (merged : Entries Value) (name : String)
    (value : Value) :
    mergeEntries merged (entries.put name value) = (mergeEntries merged entries).put name value := by
  induction entries generalizing merged with
  | nil => rfl
  | cons entry rest ih =>
      obtain ⟨key, own⟩ := entry
      simp only [Entries.names, List.map_cons, List.nodup_cons] at hnames
      by_cases hkey : key = name
      · subst hkey
        -- The new value goes to the place of the old one, and what follows leaves the name alone.
        rw [Entries.put, if_pos rfl]
        show mergeEntries (merged.put key value) rest =
          (mergeEntries (merged.put key own) rest).put key value
        rw [← mergeEntries_put (Entries.mem_names_put.mpr (.inr rfl)) hnames.1, Entries.put_put]
      · rw [Entries.put, if_neg hkey]
        exact ih hnames.2 (merged.put key own)

/-- Entries that are merged already stand for those that they were merged from. -/
theorem mergeEntries_mergeEntries (merged entries : Entries Value) :
    mergeEntries merged (mergeEntries [] entries) = mergeEntries merged entries := by
  induction entries using List.reverseRecOn with
  | nil => rfl
  | append_singleton entries entry ih =>
      rw [mergeEntries_append, mergeEntries_append]
      show mergeEntries merged ((mergeEntries [] entries).put entry.1 entry.2) =
        (mergeEntries merged entries).put entry.1 entry.2
      rw [mergeEntries_put_right (nodup_mergeEntries entries), ih]

/-! ## Calls -/

/-- All objects are merged by merging all their entries. -/
theorem mergeAll_objects (args : List (Entries Value)) :
    mergeAll (args.map Value.object) = some (mergeEntries [] args.flatten) := by
  induction args using List.reverseRecOn with
  | nil => rfl
  | append_singleton args arg ih =>
      rw [mergeAll] at ih ⊢
      rw [List.map_append, List.foldlM_append, ih, List.flatten_append, mergeEntries_append]
      simp [Value.entries?]

theorem call_merge_objects (apply : Apply) {args : List (Entries Value)} (hne : args ≠ [])
    (c : Context) (p : Progress) :
    call apply .merge (args.map Value.object) c p =
      some (some (.object (mergeEntries [] args.flatten)), p) := by
  obtain ⟨arg, rest, rfl⟩ := List.exists_cons_of_ne_nil hne
  have hall := mergeAll_objects (arg :: rest)
  rw [List.map_cons] at hall ⊢
  show some (value? .merge (.object arg :: rest.map Value.object), p) = _
  rw [value?, hall]
  rfl

/-- **`call_merge`** — objects, whose entries may repeat names, are merged into one without repeated names:
these stand in the order in which they are first read in the entries of all arguments, each with the value
of its last entry.  And merging is associative, the order of the members included. -/
theorem call_merge (apply : Apply) (c : Context) (p : Progress) :
    (∀ args : List (Entries Value), args ≠ [] → ∃ merged : Entries Value,
      call apply .merge (args.map Value.object) c p = some (some (.object merged), p) ∧
      merged.names.Nodup ∧
      merged.names = (Entries.names args.flatten).eraseDups ∧
      ∀ name, merged.get? name = Entries.get? args.flatten.reverse name) ∧
    ∀ first second third : Entries Value, ∃ left right all : Value,
      call apply .merge [.object first, .object second] c p = some (some left, p) ∧
      call apply .merge [.object second, .object third] c p = some (some right, p) ∧
      call apply .merge [.object first, .object second, .object third] c p = some (some all, p) ∧
      call apply .merge [left, .object third] c p = some (some all, p) ∧
      call apply .merge [.object first, right] c p = some (some all, p) := by
  refine ⟨?merged, ?associative⟩
  case merged =>
    intro args hne
    refine ⟨_, call_merge_objects apply hne c p, nodup_mergeEntries _, names_mergeEntries _,
      fun name => ?_⟩
    rw [mergeEntries, Entries.get?_foldl_put, Entries.get?, Option.or_none]
  case associative =>
    intro first second third
    have hcall : ∀ args : List (Entries Value), args ≠ [] →
        call apply .merge (args.map Value.object) c p =
          some (some (.object (mergeEntries [] args.flatten)), p) :=
      fun args hne => call_merge_objects apply hne c p
    have hleft : mergeEntries [] (mergeEntries [] (first ++ second) ++ third) =
        mergeEntries [] (first ++ (second ++ third)) := by
      rw [mergeEntries_append, mergeEntries_mergeEntries, ← mergeEntries_append, List.append_assoc]
    have hright : mergeEntries [] (first ++ mergeEntries [] (second ++ third)) =
        mergeEntries [] (first ++ (second ++ third)) := by
      rw [mergeEntries_append, mergeEntries_mergeEntries, ← mergeEntries_append]
    refine ⟨_, _, _, hcall [first, second] (List.cons_ne_nil _ _),
      hcall [second, third] (List.cons_ne_nil _ _),
      hcall [first, second, third] (List.cons_ne_nil _ _), ?_, ?_⟩
    · refine (hcall [_, third] (List.cons_ne_nil _ _)).trans ?_
      simp only [List.flatten_cons, List.flatten_nil, List.append_nil, hleft]
    · refine (hcall [first, _] (List.cons_ne_nil _ _)).trans ?_
      simp only [List.flatten_cons, List.flatten_nil, List.append_nil, hright]

/-- Arguments that repeat names, each within itself and both together. -/
theorem call_merge_repeated :
    let first : Entries Value := [("b", .bool true), ("a", .null), ("b", .string "x")]
    let second : Entries Value := [("c", .null), ("a", .string "y"), ("c", .string "z")]
    [first, second] ≠ [] ∧
    ∃ merged : Entries Value,
      call (Expr.evalAt 0) .merge [.object first, .object second] ⟨.null, {}⟩ {} =
        some (some (.object merged), {}) ∧
      merged.names = ["b", "a", "c"] ∧
      merged.get? "b" = some (.string "x") ∧ merged.get? "a" = some (.string "y") ∧
      merged.get? "c" = some (.string "z") := by
  intro first second
  have hne : [first, second] ≠ [] := List.cons_ne_nil _ _
  obtain ⟨merged, hcall, -, hnames, hget⟩ :=
    (call_merge (Expr.evalAt 0) ⟨.null, {}⟩ {}).1 [first, second] hne
  exact ⟨hne, merged, hcall, hnames.trans (by decide), hget "b", hget "a", hget "c"⟩

end Builtin

end JsonQuery
