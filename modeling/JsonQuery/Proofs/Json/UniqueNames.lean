/-
# JsonQuery.Proofs.Json.UniqueNames — documents in which no object repeats a name.

A text can write a name twice in one object, but its reader puts every member where the name already
stands.  So no object of a document that has been read repeats a name.
-/
import JsonQuery.Proofs.Json.Everywhere
import JsonQuery.Json.Reader

namespace JsonQuery.Json

/-- Whether no object in a document repeats a name. -/
def hasUniqueNames (json : Json) : Bool :=
  json.everywhere fun
    | .object members => decide (Entries.names members).Nodup
    | _ => true

theorem hasUniqueNames_array {items : List Json} :
    (Json.array items).hasUniqueNames = true ↔ ∀ item ∈ items, item.hasUniqueNames = true := by
  refine ⟨everywhere_item, fun h => ?_⟩
  rw [hasUniqueNames, everywhere, Bool.true_and]
  induction items with
  | nil => rfl
  | cons item rest ih =>
      obtain ⟨hitem, hrest⟩ := List.forall_mem_cons.mp h
      rw [everywhereItems, Bool.and_eq_true]
      exact ⟨hitem, ih hrest⟩

theorem hasUniqueNames_object {members : Entries Json} :
    (Json.object members).hasUniqueNames = true ↔
      members.names.Nodup ∧ ∀ entry ∈ members, entry.2.hasUniqueNames = true := by
  constructor
  · intro h
    exact ⟨of_decide_eq_true (everywhere_self h), everywhere_member h⟩
  · rintro ⟨hnames, hmembers⟩
    rw [hasUniqueNames, everywhere, Bool.and_eq_true]
    refine ⟨decide_eq_true hnames, ?_⟩
    clear hnames
    induction members with
    | nil => rfl
    | cons entry rest ih =>
        obtain ⟨hentry, hrest⟩ := List.forall_mem_cons.mp hmembers
        rw [everywhereMembers, Bool.and_eq_true]
        exact ⟨hentry, ih hrest⟩

/-- The members of any document have unique names, if its objects have. -/
theorem members_of_hasUniqueNames {json : Json} (h : json.hasUniqueNames = true) :
    json.members.names.Nodup ∧ ∀ entry ∈ json.members, entry.2.hasUniqueNames = true := by
  cases json with
  | object members => exact hasUniqueNames_object.mp h
  | null | bool | number | string | array => exact ⟨List.nodup_nil, nofun⟩

/-! ## Reading -/

theorem eq_of_expect {word cs rest : List Char} {value json : Json}
    (h : (do return (value, ← expect word cs)) = some (json, rest)) : json = value := by
  obtain ⟨behind, -, hend⟩ := Option.bind_eq_some_iff.mp h
  exact (Prod.mk.inj (Option.some.inj hend)).1.symm

mutual

theorem hasUniqueNames_of_readValue : ∀ {fuel depth : Nat} {cs rest : List Char} {json : Json},
    readValue fuel depth cs = some (json, rest) → json.hasUniqueNames = true
  | 0, _, _, _, _, h => by cases h
  | fuel + 1, depth, cs, rest, json, h => by
      rw [readValue] at h
      split at h
      next => cases h
      next c tail hspace =>
        split at h
        next => exact eq_of_expect h ▸ rfl
        split at h
        next => exact eq_of_expect h ▸ rfl
        split at h
        next => exact eq_of_expect h ▸ rfl
        split at h
        next =>
          obtain ⟨⟨s, behind⟩, -, hend⟩ := Option.bind_eq_some_iff.mp h
          obtain ⟨rfl, -⟩ := Prod.mk.inj (Option.some.inj hend)
          rfl
        split at h
        next =>
          split at h
          · cases h
          split at h
          next =>
            obtain ⟨rfl, -⟩ := Prod.mk.inj (Option.some.inj h)
            rfl
          next =>
            obtain ⟨⟨items, behind⟩, hitems, hend⟩ := Option.bind_eq_some_iff.mp h
            obtain ⟨rfl, -⟩ := Prod.mk.inj (Option.some.inj hend)
            exact hasUniqueNames_array.mpr (hasUniqueNames_of_readItems hitems)
        split at h
        next =>
          split at h
          · cases h
          split at h
          next =>
            obtain ⟨rfl, -⟩ := Prod.mk.inj (Option.some.inj h)
            rfl
          next =>
            obtain ⟨⟨members, behind⟩, hmembers, hend⟩ := Option.bind_eq_some_iff.mp h
            obtain ⟨rfl, -⟩ := Prod.mk.inj (Option.some.inj hend)
            exact hasUniqueNames_of_readMembers rfl hmembers
        next =>
          obtain ⟨⟨n, behind⟩, -, hend⟩ := Option.bind_eq_some_iff.mp h
          obtain ⟨rfl, -⟩ := Prod.mk.inj (Option.some.inj hend)
          rfl

theorem hasUniqueNames_of_readItems : ∀ {fuel depth : Nat} {cs rest : List Char} {items : List Json},
    readItems fuel depth cs = some (items, rest) → ∀ item ∈ items, item.hasUniqueNames = true
  | 0, _, _, _, _, h => by cases h
  | fuel + 1, depth, cs, rest, items, h => by
      rw [readItems] at h
      obtain ⟨⟨item, behind⟩, hitem, hmore⟩ := Option.bind_eq_some_iff.mp h
      have hfirst := hasUniqueNames_of_readValue hitem
      dsimp only at hmore
      split at hmore
      next =>
        obtain ⟨⟨others, behind'⟩, hothers, hend⟩ := Option.bind_eq_some_iff.mp hmore
        obtain ⟨rfl, -⟩ := Prod.mk.inj (Option.some.inj hend)
        exact List.forall_mem_cons.mpr ⟨hfirst, hasUniqueNames_of_readItems hothers⟩
      next =>
        obtain ⟨rfl, -⟩ := Prod.mk.inj (Option.some.inj hmore)
        exact List.forall_mem_singleton.mpr hfirst
      next => cases hmore

theorem hasUniqueNames_of_readMembers : ∀ {fuel depth : Nat} {before members : List (String × Json)}
    {cs rest : List Char}, (Json.object before).hasUniqueNames = true →
    readMembers fuel depth before cs = some (members, rest) →
    (Json.object members).hasUniqueNames = true
  | 0, _, _, _, _, _, _, h => by cases h
  | fuel + 1, depth, before, members, cs, rest, hbefore, h => by
      rw [readMembers] at h
      split at h
      next tail hquote =>
        obtain ⟨⟨name, behind⟩, -, hmore⟩ := Option.bind_eq_some_iff.mp h
        dsimp only at hmore
        split at hmore
        next tail' hcolon =>
          obtain ⟨⟨value, behind'⟩, hvalue, hend⟩ := Option.bind_eq_some_iff.mp hmore
          have hput : (Json.object (Entries.put before name value)).hasUniqueNames = true := by
            obtain ⟨hnames, hmembers⟩ := hasUniqueNames_object.mp hbefore
            refine hasUniqueNames_object.mpr ⟨Entries.nodup_put hnames name value, ?_⟩
            intro entry hentry
            rcases Entries.mem_put hentry with hmem | heq
            · exact hmembers entry hmem
            · exact heq ▸ hasUniqueNames_of_readValue hvalue
          dsimp only at hend
          split at hend
          next => exact hasUniqueNames_of_readMembers hput hend
          next =>
            obtain ⟨rfl, -⟩ := Prod.mk.inj (Option.some.inj hend)
            exact hput
          next => cases hend
        next => cases hmore
      next => cases h

end

/-- **`hasUniqueNames_of_parse?`** — no object of a document that has been read repeats a name. -/
theorem hasUniqueNames_of_parse? {text : String} {json : Json} (h : parse? text = some json) :
    json.hasUniqueNames = true := by
  obtain ⟨⟨value, rest⟩, hvalue, hend⟩ := Option.bind_eq_some_iff.mp h
  dsimp only at hend
  split at hend
  · obtain rfl := Option.some.inj hend
    exact hasUniqueNames_of_readValue hvalue
  · cases hend

end JsonQuery.Json
