/-
# JsonQuery.Proofs.Json.Reapplied — a merge patch applied again.

The first application of a patch may move members around: a removal fills its gap with the last
member, and new members go to the end.  After it the document is as the patch wants it, and this is a
property of the document that does not mention the application: no removed name is there, and
everything else that the patch names is there already, as the patch wants it.  A patch leaves such a
document alone, in the order in which its members stand.
-/
import JsonQuery.Proofs.Json.MergePatch

namespace JsonQuery.Json

/-! ## Documents that are as a patch wants them -/

/-- **`Conforms json patch`** — the document is as the patch wants it: it is the patch itself, or both
are objects, the names that the patch removes are missing, the others that it names are there, and
what they hold is as the members of the patch want it. -/
inductive Conforms : Json → Json → Prop where
  | replaced {patch : Json} : (∀ members, patch ≠ .object members) → Conforms patch patch
  | merged {members patch : Entries Json} :
      (∀ entry ∈ patch, members.get? entry.1 = none ↔ entry.2 = .null) →
      (∀ entry ∈ patch, ∀ value, members.get? entry.1 = some value → Conforms value entry.2) →
      Conforms (.object members) (.object patch)

theorem mergePatch_of_not_object (target : Json) {patch : Json}
    (h : ∀ members, patch ≠ .object members) : target.mergePatch patch = patch := by
  cases patch with
  | object members => exact absurd rfl (h members)
  | null | bool | number | string | array => simp only [mergePatch]

theorem memberAfter_of_ne_null (old : Option Json) {patch : Json} (h : patch ≠ .null) :
    memberAfter old patch = some (mergePatch (old.getD .null) patch) := by
  cases patch with
  | null => exact absurd rfl h
  | bool | number | string | array | object => rfl

/-! ## A patch leaves a conforming document alone -/

/-- A member of a patch that changes nothing under its name moves no member either. -/
theorem mergeMember_eq_self {members : Entries Json} {name : String} {patch : Json}
    (h : memberAfter (members.get? name) patch = members.get? name) :
    mergeMember members name patch = members := by
  cases patch with
  | null =>
      have hnone : members.get? name = none := h.symm
      exact Entries.swapRemove_of_notMem (Entries.notMem_names_of_get?_eq_none hnone)
  | bool | number | string | array | object => exact Entries.put_of_get? h.symm

theorem mergeMembers_eq_self {members patch : Entries Json}
    (h : ∀ entry ∈ patch, memberAfter (members.get? entry.1) entry.2 = members.get? entry.1) :
    mergeMembers members patch = members := by
  induction patch with
  | nil => rw [mergeMembers]
  | cons entry rest ih =>
      obtain ⟨hentry, hrest⟩ := List.forall_mem_cons.mp h
      rw [mergeMembers_cons, mergeMember_eq_self hentry]
      exact ih hrest

/-- **`mergePatch_of_conforms`** — a patch leaves a document that conforms to it as it is. -/
theorem mergePatch_of_conforms {json patch : Json} (h : Conforms json patch) :
    json.mergePatch patch = json := by
  induction h with
  | replaced hnone => exact mergePatch_of_not_object _ hnone
  | @merged members patch habsent _ ih =>
      rw [mergePatch]
      refine congrArg Json.object (mergeMembers_eq_self ?_)
      intro entry hentry
      show memberAfter (members.get? entry.1) entry.2 = members.get? entry.1
      cases hget : members.get? entry.1 with
      | none =>
          rw [(habsent entry hentry).mp hget]
          rfl
      | some value =>
          have hne : entry.2 ≠ .null := by
            intro hnull
            rw [(habsent entry hentry).mpr hnull] at hget
            cases hget
          rw [memberAfter_of_ne_null _ hne]
          exact congrArg some (ih entry hentry value hget)

/-! ## A patch makes a document conform -/

/-- One level of a patch, where the patches that it holds make conform what they are applied to. -/
theorem conforms_mergeMembers {target : Json} {own : Entries Json}
    (htarget : target.hasUniqueNames = true) (hown : own.names.Nodup)
    (hinner : ∀ entry ∈ own, ∀ old : Json, old.hasUniqueNames = true →
      Conforms (old.mergePatch entry.2) entry.2) :
    Conforms (.object (mergeMembers target.members own)) (.object own) := by
  obtain ⟨hnames, hmembers⟩ := members_of_hasUniqueNames htarget
  -- Whatever the other members of the patch do, one of them alone decides under its name.
  have hafter : ∀ entry ∈ own, (mergeMembers target.members own).get? entry.1
      = memberAfter (Entries.get? target.members entry.1) entry.2 := by
    intro entry hentry
    rw [get?_mergeMembers hnames hown, Entries.get?_of_mem hown hentry]
  apply Conforms.merged
  · intro entry hentry
    rw [hafter entry hentry]
    by_cases hnull : entry.2 = .null
    · simp [hnull, memberAfter]
    · simp [hnull, memberAfter_of_ne_null]
  · intro entry hentry value hvalue
    rw [hafter entry hentry] at hvalue
    by_cases hnull : entry.2 = .null
    · rw [hnull] at hvalue
      cases hvalue
    · rw [memberAfter_of_ne_null _ hnull] at hvalue
      obtain rfl := Option.some.inj hvalue
      apply hinner entry hentry
      cases hget : Entries.get? target.members entry.1 with
      | none => rfl
      | some old => exact hmembers _ (Entries.mem_of_get? hget)

/-- **`conforms_mergePatch`** — whatever the target, after a patch it conforms to the patch. -/
theorem conforms_mergePatch (target patch : Json) (htarget : target.hasUniqueNames = true)
    (hpatch : patch.hasUniqueNames = true) : Conforms (target.mergePatch patch) patch := by
  match patch with
  | .object own =>
      obtain ⟨hnames, hmembers⟩ := hasUniqueNames_object.mp hpatch
      rw [mergePatch]
      apply conforms_mergeMembers htarget hnames
      intro entry hentry old hold
      exact conforms_mergePatch old entry.2 hold (hmembers entry hentry)
  | .null | .bool _ | .number _ | .string _ | .array _ =>
      rw [mergePatch_of_not_object target]
      · exact .replaced nofun
      · exact nofun
termination_by sizeOf patch
decreasing_by
  have hpair : sizeOf entry.2 < sizeOf entry := by
    obtain ⟨name, value⟩ := entry
    simp
  have hmember := List.sizeOf_lt_of_mem hentry
  simp only [Json.object.sizeOf_spec]
  omega

/-- **`mergePatch_mergePatch`** — a patch makes a document conform to it, and applied again it changes
nothing: every object has the same members in the same order. -/
theorem mergePatch_mergePatch {target patch : Json} (htarget : target.hasUniqueNames = true)
    (hpatch : patch.hasUniqueNames = true) :
    Conforms (target.mergePatch patch) patch ∧
      (target.mergePatch patch).mergePatch patch = target.mergePatch patch := by
  have hconforms := conforms_mergePatch target patch htarget hpatch
  exact ⟨hconforms, mergePatch_of_conforms hconforms⟩

/-- Two members go, the last one fills a gap, and an object takes the place of a truth value. -/
theorem mergePatch_mergePatch_moved :
    (Json.object [("a", .null), ("b", .bool true), ("c", .string "x"), ("d", .null)]).hasUniqueNames
      = true ∧
    (Json.object [("a", .null), ("e", .array []), ("b", .object [("f", .null), ("g", .string "y")]),
      ("c", .null)]).hasUniqueNames = true ∧
    (Json.object [("a", .null), ("b", .bool true), ("c", .string "x"), ("d", .null)]).mergePatch
        (.object [("a", .null), ("e", .array []), ("b", .object [("f", .null), ("g", .string "y")]),
          ("c", .null)])
      = .object [("d", .null), ("b", .object [("g", .string "y")]), ("e", .array [])] ∧
    (Json.object [("d", .null), ("b", .object [("g", .string "y")]), ("e", .array [])]).mergePatch
        (.object [("a", .null), ("e", .array []), ("b", .object [("f", .null), ("g", .string "y")]),
          ("c", .null)])
      = .object [("d", .null), ("b", .object [("g", .string "y")]), ("e", .array [])] := by
  have htarget : (Json.object
      [("a", .null), ("b", .bool true), ("c", .string "x"), ("d", .null)]).hasUniqueNames = true := by
    decide
  have hpatch : (Json.object [("a", .null), ("e", .array []),
      ("b", .object [("f", .null), ("g", .string "y")]), ("c", .null)]).hasUniqueNames = true := by
    decide
  exact ⟨htarget, hpatch, rfl, (mergePatch_mergePatch htarget hpatch).2⟩

end JsonQuery.Json
