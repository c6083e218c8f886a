/-
# JsonQuery.Proofs.Json.Entries — entries as a finite map.

Where no name is repeated, what is found under a name is the entry that there is, in whatever order the
entries stand.  So writing and removing an entry change what is found under its own name and nothing
else, although a removal also moves the last entry to another place.
-/
import JsonQuery.Json.Entries
import Mathlib.Data.List.Perm.Basic

namespace JsonQuery.Entries

variable {α : Type} {entries : Entries α} {name : String} {value : α}

theorem names_append (before behind : Entries α) :
    Entries.names (before ++ behind) = before.names ++ behind.names :=
  List.map_append

/-! ## Looking up -/

theorem mem_of_get? (h : entries.get? name = some value) : (name, value) ∈ entries := by
  induction entries with
  | nil => cases h
  | cons entry rest ih =>
      obtain ⟨key, own⟩ := entry
      simp only [Entries.get?] at h
      split at h
      next hkey =>
        obtain rfl := Option.some.inj h
        exact hkey ▸ List.mem_cons_self
      next => exact List.mem_cons_of_mem _ (ih h)

theorem mem_names_of_mem (h : (name, value) ∈ entries) : name ∈ entries.names :=
  List.mem_map_of_mem h

theorem exists_mem_of_mem_names (h : name ∈ entries.names) : ∃ value, (name, value) ∈ entries := by
  obtain ⟨⟨key, value⟩, hmem, rfl⟩ := List.mem_map.mp h
  exact ⟨value, hmem⟩

/-- Where no name is repeated, every entry is found under its name. -/
theorem get?_of_mem (hnames : entries.names.Nodup) (h : (name, value) ∈ entries) :
    entries.get? name = some value := by
  induction entries with
  | nil => cases h
  | cons entry rest ih =>
      obtain ⟨key, own⟩ := entry
      simp only [Entries.names, List.map_cons, List.nodup_cons] at hnames
      simp only [Entries.get?]
      rcases List.mem_cons.mp h with heq | hmem
      · obtain ⟨rfl, rfl⟩ := Prod.mk.inj heq
        simp
      · have hne : key ≠ name := fun heq => hnames.1 (heq ▸ List.mem_map.mpr ⟨_, hmem, rfl⟩)
        rw [if_neg hne]
        exact ih hnames.2 hmem

theorem get?_map {β : Type} (f : α → β) (entries : Entries α) (name : String) :
    Entries.get? (entries.map fun entry => (entry.1, f entry.2)) name =
      (entries.get? name).map f := by
  induction entries with
  | nil => rfl
  | cons entry rest ih =>
      rw [List.map_cons, Entries.get?, Entries.get?, ih]
      split <;> rfl

theorem get?_of_notMem (h : name ∉ entries.names) : entries.get? name = none := by
  cases hget : entries.get? name with
  | none => rfl
  | some value => exact absurd (mem_names_of_mem (mem_of_get? hget)) h

theorem notMem_names_of_get?_eq_none (h : entries.get? name = none) : name ∉ entries.names := by
  induction entries with
  | nil => exact List.not_mem_nil
  | cons entry rest ih =>
      obtain ⟨key, own⟩ := entry
      simp only [Entries.get?] at h
      split at h
      · cases h
      next hkey =>
        intro hmem
        rcases List.mem_cons.mp hmem with heq | hrest
        · exact hkey heq.symm
        · exact ih h hrest

theorem get?_eq_none_iff : entries.get? name = none ↔ name ∉ entries.names :=
  ⟨notMem_names_of_get?_eq_none, get?_of_notMem⟩

/-- Entries with unique names in any other order are the same map. -/
theorem get?_of_perm {others : Entries α} (hnames : entries.names.Nodup) (h : entries.Perm others)
    (name : String) : entries.get? name = others.get? name := by
  have hothers : others.names.Nodup := (h.map _).nodup_iff.mp hnames
  cases hget : others.get? name with
  | some value => exact get?_of_mem hnames (h.mem_iff.mpr (mem_of_get? hget))
  | none =>
      refine get?_of_notMem fun hmem => ?_
      obtain ⟨value, hvalue⟩ := exists_mem_of_mem_names hmem
      rw [get?_of_mem hothers (h.mem_iff.mp hvalue)] at hget
      cases hget

/-! ## Writing -/

/-- A new name goes to the end. -/
theorem put_of_notMem (h : name ∉ entries.names) (value : α) :
    entries.put name value = entries ++ [(name, value)] := by
  induction entries with
  | nil => rfl
  | cons entry rest ih =>
      obtain ⟨key, own⟩ := entry
      simp only [Entries.names, List.map_cons, List.mem_cons, not_or] at h
      rw [Entries.put, if_neg (Ne.symm h.1), ih h.2, List.cons_append]

/-- A name that is there keeps its place. -/
theorem names_put_of_mem (h : name ∈ entries.names) (value : α) :
    (entries.put name value).names = entries.names := by
  induction entries with
  | nil => cases h
  | cons entry rest ih =>
      obtain ⟨key, own⟩ := entry
      rw [Entries.put]
      split
      · rfl
      next hne =>
        have hrest := ih ((List.mem_cons.mp h).resolve_left (Ne.symm hne))
        exact congrArg (key :: ·) hrest

theorem nodup_put (hnames : entries.names.Nodup) (name : String) (value : α) :
    (entries.put name value).names.Nodup := by
  by_cases h : name ∈ entries.names
  · rwa [names_put_of_mem h]
  · rw [put_of_notMem h, names_append]
    exact (List.perm_append_singleton name _).nodup_iff.mpr (List.nodup_cons.mpr ⟨h, hnames⟩)

/-- Writing what is there changes nothing. -/
theorem put_of_get? (h : entries.get? name = some value) : entries.put name value = entries := by
  induction entries with
  | nil => cases h
  | cons entry rest ih =>
      obtain ⟨key, own⟩ := entry
      simp only [Entries.get?] at h
      rw [Entries.put]
      split at h
      next hkey =>
        obtain rfl := Option.some.inj h
        rw [if_pos hkey]
      next hkey => rw [if_neg hkey, ih h]

theorem get?_put (entries : Entries α) (name : String) (value : α) (key : String) :
    (entries.put name value).get? key = if key = name then some value else entries.get? key := by
  induction entries with
  | nil => simp only [put, get?, eq_comm]
  | cons entry rest ih =>
      obtain ⟨own, old⟩ := entry
      by_cases hown : own = name
      · subst hown
        rw [put, if_pos rfl, get?, get?]
        by_cases hkey : own = key
        · rw [if_pos hkey, if_pos hkey.symm]
        · rw [if_neg hkey, if_neg (Ne.symm hkey), if_neg hkey]
      · rw [put, if_neg hown, get?, get?, ih]
        by_cases hkey : own = key
        · rw [if_pos hkey, if_neg (hkey ▸ hown), if_pos hkey]
        · rw [if_neg hkey, if_neg hkey]

/-- Of two values that are written under one name the second counts. -/
theorem put_put (entries : Entries α) (name : String) (old new : α) :
    (entries.put name old).put name new = entries.put name new := by
  induction entries with
  | nil => simp only [put, if_pos]
  | cons entry rest ih =>
      obtain ⟨key, own⟩ := entry
      by_cases hkey : key = name
      · simp only [put, if_pos hkey]
      · simp only [put, if_neg hkey, ih]

/-- A name that is there may as well be written before another one. -/
theorem put_comm (h : name ∈ entries.names) {other : String} (hne : other ≠ name) (value own : α) :
    (entries.put other own).put name value = (entries.put name value).put other own := by
  induction entries with
  | nil => cases h
  | cons entry rest ih =>
      obtain ⟨key, old⟩ := entry
      by_cases hkey : key = name
      · subst hkey
        simp only [put, if_neg hne.symm, if_pos]
      · have hrest := ih ((List.mem_cons.mp h).resolve_left (Ne.symm hkey))
        by_cases hother : key = other
        · simp only [put, if_pos hother, if_neg hkey]
        · simp only [put, if_neg hother, if_neg hkey, hrest]

theorem names_put (entries : Entries α) (name : String) (value : α) :
    (entries.put name value).names =
      if name ∈ entries.names then entries.names else entries.names ++ [name] := by
  by_cases h : name ∈ entries.names
  · rw [if_pos h, names_put_of_mem h]
  · rw [if_neg h, put_of_notMem h, names_append]
    rfl

theorem mem_names_put {key : String} :
    key ∈ (entries.put name value).names ↔ key ∈ entries.names ∨ key = name := by
  rw [names_put]
  by_cases h : name ∈ entries.names
  · rw [if_pos h]
    exact ⟨.inl, fun hkey => hkey.elim id fun heq => heq ▸ h⟩
  · rw [if_neg h, List.mem_append, List.mem_singleton]

theorem mem_put {entry : String × α} (h : entry ∈ entries.put name value) :
    entry ∈ entries ∨ entry.2 = value := by
  induction entries with
  | nil => exact .inr (congrArg Prod.snd (List.mem_singleton.mp h))
  | cons first rest ih =>
      obtain ⟨key, old⟩ := first
      rw [put] at h
      split at h
      · rcases List.mem_cons.mp h with rfl | hmem
        · exact .inr rfl
        · exact .inl (List.mem_cons_of_mem _ hmem)
      · rcases List.mem_cons.mp h with rfl | hmem
        · exact .inl List.mem_cons_self
        · exact (ih hmem).imp_left (List.mem_cons_of_mem _)

/-! ## Writing one after another -/

theorem nodup_foldl_put {before : Entries α} (h : before.names.Nodup) (entries : Entries α) :
    (Entries.names (entries.foldl (fun acc entry => acc.put entry.1 entry.2) before)).Nodup := by
  induction entries generalizing before with
  | nil => exact h
  | cons entry rest ih => exact ih (nodup_put h entry.1 entry.2)

theorem mem_foldl_put {before : Entries α} {entry : String × α}
    (h : entry ∈ entries.foldl (fun acc entry => acc.put entry.1 entry.2) before) :
    entry ∈ before ∨ ∃ own ∈ entries, entry.2 = own.2 := by
  induction entries generalizing before with
  | nil => exact .inl h
  | cons first rest ih =>
      rcases ih h with hmem | ⟨own, hown, hvalue⟩
      · rcases mem_put hmem with hmem | hvalue
        · exact .inl hmem
        · exact .inr ⟨first, List.mem_cons_self, hvalue⟩
      · exact .inr ⟨own, List.mem_cons_of_mem _ hown, hvalue⟩

theorem get?_append (before behind : Entries α) (name : String) :
    get? (before ++ behind) name = (before.get? name).or (behind.get? name) := by
  induction before with
  | nil => rfl
  | cons entry rest ih =>
      rw [List.cons_append, get?, get?, ih]
      split <;> rfl

/-- Of the entries of one name the last that is written counts. -/
theorem get?_foldl_put (before entries : Entries α) (name : String) :
    get? (entries.foldl (fun acc entry => acc.put entry.1 entry.2) before) name =
      (get? entries.reverse name).or (before.get? name) := by
  induction entries generalizing before with
  | nil => rfl
  | cons entry rest ih =>
      rw [List.foldl_cons, ih, get?_put, List.reverse_cons, get?_append, Option.or_assoc, get?, get?]
      congr 1
      by_cases hname : entry.1 = name
      · rw [if_pos hname.symm, if_pos hname, Option.some_or]
      · rw [if_neg (Ne.symm hname), if_neg hname, Option.none_or]

/-- A name with at most one entry stands for the same from either end. -/
theorem get?_reverse (h : entries.names.count name ≤ 1) :
    get? entries.reverse name = entries.get? name := by
  induction entries with
  | nil => rfl
  | cons entry rest ih =>
      have hcount : (names rest).count name + (if entry.1 == name then 1 else 0) ≤ 1 := by
        rwa [names, List.map_cons, List.count_cons] at h
      simp only [List.reverse_cons, get?_append, get?]
      by_cases hname : entry.1 = name
      · -- There is no other entry of that name.
        have hnone : name ∉ names rest.reverse := by
          rw [names, List.map_reverse, List.mem_reverse]
          apply List.count_eq_zero.mp
          rw [if_pos (beq_iff_eq.mpr hname)] at hcount
          exact Nat.le_zero.mp (Nat.le_of_succ_le_succ hcount)
        simp only [if_pos hname, get?_of_notMem hnone, Option.none_or]
      · simp only [if_neg hname, ih (Nat.le_of_add_right_le hcount), Option.or_none]

/-! ## Removing -/

theorem findIdx?_of_notMem (h : name ∉ entries.names) :
    entries.findIdx? (·.1 == name) = none := by
  rw [List.findIdx?_eq_none_iff]
  exact fun entry hentry => beq_eq_false_iff_ne.mpr fun heq => h (heq ▸ List.mem_map_of_mem hentry)

theorem swapRemove_of_notMem (h : name ∉ entries.names) : entries.swapRemove name = entries := by
  rw [swapRemove, findIdx?_of_notMem h]

/-- The last entry takes the place of the one that goes; all others stay. -/
theorem swapRemove_perm {before : Entries α} (h : name ∉ before.names) (value : α)
    (behind : Entries α) :
    (swapRemove (before ++ (name, value) :: behind) name).Perm (before ++ behind) := by
  have hfind : (before ++ (name, value) :: behind).findIdx? (·.1 == name) = some before.length := by
    rw [List.findIdx?_append, findIdx?_of_notMem h, List.findIdx?_cons]
    simp
  rw [swapRemove, hfind]
  rcases behind.eq_nil_or_concat' with rfl | ⟨middle, last, rfl⟩
  · -- The entry itself is the last one.
    simp
  · have hlast : (before ++ (name, value) :: (middle ++ [last])).getLast? = some last := by
      rw [← List.cons_append, ← List.append_assoc, List.getLast?_concat]
    have hdrop : (before ++ last :: (middle ++ [last])).dropLast = before ++ last :: middle := by
      rw [← List.cons_append, ← List.append_assoc, List.dropLast_concat]
    rw [hlast]
    simp only [List.set_append_right _ _ (Nat.le_refl _), Nat.sub_self, List.set_cons_zero, hdrop]
    exact List.Perm.append_left before (List.perm_append_singleton last middle).symm

/-- Where no name is repeated, the entry of a name stands at one place, and no other there. -/
theorem exists_split (hnames : entries.names.Nodup) (h : name ∈ entries.names) :
    ∃ before value behind, entries = before ++ (name, value) :: behind ∧
      name ∉ Entries.names (before ++ behind) := by
  obtain ⟨value, hvalue⟩ := exists_mem_of_mem_names h
  obtain ⟨before, behind, rfl⟩ := List.append_of_mem hvalue
  refine ⟨before, value, behind, rfl, ?_⟩
  have hmiddle := (List.perm_middle.map Prod.fst).nodup_iff.mp hnames
  exact (List.nodup_cons.mp hmiddle).1

/-- Removing an entry removes nothing else. -/
theorem cons_swapRemove_perm (hnames : entries.names.Nodup) (h : name ∈ entries.names) :
    ∃ value, ((name, value) :: entries.swapRemove name).Perm entries := by
  obtain ⟨before, value, behind, rfl, hnone⟩ := exists_split hnames h
  rw [names_append, List.mem_append, not_or] at hnone
  exact ⟨value, ((swapRemove_perm hnone.1 value behind).cons _).trans List.perm_middle.symm⟩

theorem nodup_swapRemove (hnames : entries.names.Nodup) (name : String) :
    (entries.swapRemove name).names.Nodup := by
  by_cases h : name ∈ entries.names
  · obtain ⟨value, hperm⟩ := cons_swapRemove_perm hnames h
    exact (List.nodup_cons.mp ((hperm.map Prod.fst).nodup_iff.mpr hnames)).2
  · rwa [swapRemove_of_notMem h]

theorem get?_swapRemove (hnames : entries.names.Nodup) (name key : String) :
    (entries.swapRemove name).get? key = if key = name then none else entries.get? key := by
  by_cases h : name ∈ entries.names
  · obtain ⟨value, hperm⟩ := cons_swapRemove_perm hnames h
    have hall := (hperm.map Prod.fst).nodup_iff.mpr hnames
    by_cases hkey : key = name
    · subst hkey
      rw [if_pos rfl]
      exact get?_of_notMem (List.nodup_cons.mp hall).1
    · rw [if_neg hkey, ← get?_of_perm hall hperm, get?, if_neg (Ne.symm hkey)]
  · rw [swapRemove_of_notMem h]
    split
    next hkey => exact get?_of_notMem (hkey ▸ h)
    next => rfl

theorem mem_of_mem_swapRemove (hnames : entries.names.Nodup) {entry : String × α}
    (h : entry ∈ entries.swapRemove name) : entry ∈ entries := by
  by_cases hname : name ∈ entries.names
  · obtain ⟨value, hperm⟩ := cons_swapRemove_perm hnames hname
    exact hperm.mem_iff.mp (List.mem_cons_of_mem _ h)
  · rwa [swapRemove_of_notMem hname] at h

end JsonQuery.Entries
