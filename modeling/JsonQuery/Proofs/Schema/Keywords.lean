/-
# JsonQuery.Proofs.Schema.Keywords — compiled keywords say what they say in the document.

Each keyword is compiled with a function that compiles the schemas in it, given the segments that
lead to them.  If that function gives a slot that stands for what the segments lead to, the compiled
keyword says of every instance what the keyword says in the document.  The lists of slots are built
in the order of the schemas, so the two are compared place by place.
-/
import JsonQuery.Proofs.Schema.Compilation
import JsonQuery.Proofs.Value.Fingerprint

namespace JsonQuery.Schema

/-! ## Lists compared place by place -/

section

variable {α β γ : Type} {R : α → β → Prop} {l : List α} {m : List β}

theorem map_eq_of_forall₂ (h : List.Forall₂ R l m) {f : α → γ} {g : β → γ}
    (hfg : ∀ a b, R a b → f a = g b) : l.map f = m.map g := by
  induction h with
  | nil => rfl
  | cons hhead _ ih => rw [List.map_cons, List.map_cons, hfg _ _ hhead, ih]

theorem all_eq_of_forall₂ (h : List.Forall₂ R l m) {f : α → Bool} {g : β → Bool}
    (hfg : ∀ a b, R a b → f a = g b) : l.all f = m.all g := by
  have hmap := congrArg (List.all · id) (map_eq_of_forall₂ h hfg)
  rwa [List.all_map, List.all_map] at hmap

theorem any_eq_of_forall₂ (h : List.Forall₂ R l m) {f : α → Bool} {g : β → Bool}
    (hfg : ∀ a b, R a b → f a = g b) : l.any f = m.any g := by
  have hmap := congrArg (List.any · id) (map_eq_of_forall₂ h hfg)
  rwa [List.any_map, List.any_map] at hmap

theorem countP_eq_of_forall₂ (h : List.Forall₂ R l m) {f : α → Bool} {g : β → Bool}
    (hfg : ∀ a b, R a b → f a = g b) : l.countP f = m.countP g := by
  have hmap := congrArg (List.countP id) (map_eq_of_forall₂ h hfg)
  rwa [List.countP_map, List.countP_map] at hmap

theorem all_eq_of_mem {f g : α → Bool} (h : ∀ a ∈ l, f a = g a) : l.all f = l.all g := by
  rw [Bool.eq_iff_iff, List.all_eq_true, List.all_eq_true]
  exact forall₂_congr fun a ha => by rw [h a ha]

theorem getElem?_of_forall₂ (h : List.Forall₂ R l m) (i : Nat) :
    (l[i]? = none ∧ m[i]? = none) ∨ ∃ a b, l[i]? = some a ∧ m[i]? = some b ∧ R a b := by
  induction h generalizing i with
  | nil => exact .inl ⟨rfl, rfl⟩
  | @cons a b rest others hhead _ ih =>
      cases i with
      | zero => exact .inr ⟨a, b, rfl, rfl, hhead⟩
      | succ i => simpa using ih i

end

/-! ## What keywords say -/

/-- A dependency demands what it demands in the document. -/
def Dependency.Says (origins : List Json) (d : Dependency) (json : Json) : Prop :=
  ∀ verdict judge, Agrees origins verdict judge → ∀ own : Entries Json,
    (Json.object own).isProper = true → d.accepts verdict own = Meaning.demand judge json own

/-- A keyword says what `direct` says, if the slots that it mentions say what their origins say. -/
def Keyword.Says (origins : List Json) (k : Keyword) (direct : Judge → Json → Bool) : Prop :=
  ∀ verdict judge, Agrees origins verdict judge → ∀ inst : Json, inst.isProper = true →
    k.accepts verdict inst = direct judge inst

/-- A list of keywords says what `direct` says. -/
def Says (origins : List Json) (list : List Keyword) (direct : Judge → Json → Bool) : Prop :=
  ∀ verdict judge, Agrees origins verdict judge → ∀ inst : Json, inst.isProper = true →
    list.all (·.accepts verdict inst) = direct judge inst

theorem Says.append {origins : List Json} {list others : List Keyword}
    {direct more : Judge → Json → Bool} (h : Says origins list direct)
    (hmore : Says origins others more) :
    Says origins (list ++ others) fun judge inst => direct judge inst && more judge inst := by
  intro verdict judge hagrees inst hinst
  rw [List.all_append, h verdict judge hagrees inst hinst, hmore verdict judge hagrees inst hinst]

theorem Keyword.Says.singleton {origins : List Json} {k : Keyword} {direct : Judge → Json → Bool}
    (h : k.Says origins direct) : Schema.Says origins [k] direct := by
  intro verdict judge hagrees inst hinst
  rw [List.all_cons, List.all_nil, Bool.and_true]
  exact h verdict judge hagrees inst hinst

namespace Compiling

variable {document : Json}

/-! ## Parts -/

/-- **`Compiles document schema part`** — a function that compiles the parts of a schema gives slots
for what stands where the segments lead. -/
def Compiles (document schema : Json) (part : Part) : Prop :=
  ∀ segments value, schema.follow? segments = some value →
    Builds document (part segments value) fun slot origins => Stands origins slot value

section

variable {members : Entries Json} {part : Part} (hproper : (Json.object members).isProper = true)
  (hpart : Compiles document (.object members) part)

include hpart

omit hpart in
include hproper in
/-- A schema under a name in the object of a keyword. -/
theorem follow?_named {keyword name : String} {schemas : Entries Json} {schema : Json}
    (h : members.get? keyword = some (.object schemas)) (hentry : (name, schema) ∈ schemas) :
    (Json.object members).follow? [keyword, name] = some schema := by
  have hnames : schemas.names.Nodup := Json.names_nodup (Json.isProper_get? hproper h)
  rw [Json.follow?_cons, Json.child?_of_get? h, Option.bind_some, Json.follow?_singleton,
    Json.child?_of_get? (Entries.get?_of_mem hnames hentry)]

theorem builds_part {name : String} {value : Json} (h : members.get? name = some value) :
    Builds document (part [name] value) fun slot origins => Stands origins slot value :=
  hpart [name] value (by rw [Json.follow?_singleton, Json.child?_of_get? h])

theorem builds_partOf (name : String) :
    Builds document (partOf part members name) fun slot? origins =>
      (slot? = none ∧ members.get? name = none)
        ∨ ∃ slot value, slot? = some slot ∧ members.get? name = some value
          ∧ Stands origins slot value := by
  unfold partOf
  cases h : members.get? name with
  | none => exact Builds.pure fun _ => .inl ⟨rfl, rfl⟩
  | some value =>
      exact (builds_part hpart h).map fun slot origins hstands =>
        .inr ⟨slot, value, rfl, rfl, hstands⟩

include hproper

theorem builds_named {keyword : String} {schemas : Entries Json}
    (h : members.get? keyword = some (.object schemas)) (rest : List (String × Json))
    (hrest : ∀ entry ∈ rest, entry ∈ schemas) :
    Builds document (named part keyword rest) fun slots origins =>
      List.Forall₂ (fun schema slot => slot.1 = schema.1 ∧ Stands origins slot.2 schema.2) rest
        slots := by
  induction rest with
  | nil => exact Builds.pure fun _ => .nil
  | cons entry rest ih =>
      obtain ⟨name, schema⟩ := entry
      obtain ⟨hentry, hrest⟩ := List.forall_mem_cons.mp hrest
      refine (hpart _ _ (follow?_named hproper h hentry)).bind fun slot => (ih hrest).map fun slots origins hslots hslot => ?_
      exact .cons ⟨rfl, hslot⟩ hslots

theorem builds_listed {keyword : String} {schemas : List Json}
    (h : members.get? keyword = some (.array schemas)) (rest : List Json) (i : Nat)
    (hrest : ∀ j, (hj : j < rest.length) → schemas[i + j]? = some rest[j]) :
    Builds document (listed part keyword i rest) fun slots origins =>
      List.Forall₂ (fun schema slot => Stands origins slot schema) rest slots := by
  induction rest generalizing i with
  | nil => exact Builds.pure fun _ => .nil
  | cons schema rest ih =>
      have hschema : schemas[i]? = some schema := hrest 0 (Nat.zero_lt_succ _)
      have hlt : i < 0x10000000000000000 :=
        lt_trans (List.getElem?_eq_some_iff.mp hschema).1
          (Json.length_lt (Json.isProper_get? hproper h))
      have hfollow : (Json.object members).follow? [keyword, toString i] = some schema := by
        rw [Json.follow?_cons, Json.child?_of_get? h, Option.bind_some, Json.follow?_singleton,
          Json.child?_of_getElem? hlt hschema]
      have hbehind : ∀ j, (hj : j < rest.length) → schemas[i + 1 + j]? = some rest[j] := by
        intro j hj
        rw [Nat.add_assoc, Nat.add_comm 1 j]
        exact hrest (j + 1) (Nat.succ_lt_succ hj)
      refine (hpart _ _ hfollow).bind fun slot =>
        (ih (i + 1) hbehind).map fun slots origins hslots hslot => ?_
      exact .cons hslot hslots

end

/-! ## Keywords that are there or not -/

theorem builds_whenPresent {members : Entries Json} {name : String}
    {compile : Json → Compiling Keyword} {Q : List Keyword → List Json → Prop}
    (hnone : members.get? name = none → ∀ origins, Q [] origins)
    (hsome : ∀ json, members.get? name = some json →
      Builds document (compile json) fun k origins => Q [k] origins) :
    Builds document (whenPresent members name compile) Q := by
  unfold whenPresent
  cases h : members.get? name with
  | none => exact Builds.pure (hnone h)
  | some json => exact (hsome json h).map fun _ _ hk => hk

section

variable {members : Entries Json} {name : String} {test : Judge → Json → Json → Bool}
  {origins : List Json}

theorem says_nil (h : members.get? name = none) :
    Says origins [] fun judge inst => Meaning.holds members name (test judge · inst) := by
  intro verdict judge _ inst _
  simp only [Meaning.holds, h]
  rfl

theorem says_singleton {json : Json} {k : Keyword} (h : members.get? name = some json)
    (hk : k.Says origins fun judge inst => test judge json inst) :
    Says origins [k] fun judge inst => Meaning.holds members name (test judge · inst) := by
  intro verdict judge hagrees inst hinst
  simp only [Meaning.holds, h, Option.all_some]
  exact hk.singleton verdict judge hagrees inst hinst

end

/-- A keyword that says what its value says, where there is one. -/
theorem says_whenPresent {members : Entries Json} {name : String}
    {compile : Json → Compiling Keyword} {test : Judge → Json → Json → Bool}
    (h : ∀ json, members.get? name = some json → Builds document (compile json) fun k origins =>
      k.Says origins fun judge inst => test judge json inst) :
    Builds document (whenPresent members name compile) fun list origins =>
      Says origins list fun judge inst => Meaning.holds members name (test judge · inst) := by
  exact builds_whenPresent (fun hnone _ => says_nil hnone) fun json hjson =>
    (h json hjson).imp fun _ _ hk => says_singleton hjson hk

/-! ## Keywords without schemas -/

theorem builds_typeOf (pointer : String) (name : Json) :
    Builds document (typeOf pointer name) fun type _ =>
      name.string?.bind JsonType.ofName? = some type := by
  unfold typeOf
  cases h : name.string?.bind JsonType.ofName? with
  | none => exact Builds.flaw
  | some type => exact Builds.pure fun _ => rfl

theorem isOfType_eq {name : Json} {type : JsonType}
    (h : name.string?.bind JsonType.ofName? = some type) (inst : Json) :
    JsonType.admits type inst = Meaning.isOfType name inst := by
  rw [Meaning.isOfType, h, Option.any_some]

theorem builds_typeKeyword (pointer : String) (names : Json) :
    Builds document (typeKeyword pointer names) fun k origins =>
      k.Says origins fun _ inst => Meaning.type names inst := by
  have hsingle : ∀ name : Json, Builds document
      (do return Keyword.type [← typeOf pointer name] : Compiling Keyword)
      fun k origins => k.Says origins fun _ inst => Meaning.isOfType name inst := by
    intro name
    refine (builds_typeOf pointer name).map fun type origins htype verdict judge _ inst _ => ?_
    simp only [Keyword.accepts, List.any_cons, List.any_nil, Bool.or_false]
    exact isOfType_eq htype inst
  cases names with
  | array names =>
      refine (Builds.mapM fun name _ => builds_typeOf pointer name).map
        fun types origins htypes verdict judge _ inst _ => ?_
      exact (any_eq_of_forall₂ htypes fun name type htype => (isOfType_eq htype inst).symm).symm
  | null | bool | number | string | object => exact hsingle _

theorem builds_enumKeyword (pointer : String) (values : Json) :
    Builds document (enumKeyword pointer values) fun k origins =>
      k.Says origins fun _ inst => Meaning.enum values inst := by
  cases values with
  | array values => exact Builds.pure fun _ _ _ _ _ _ => rfl
  | null | bool | number | string | object => exact Builds.flaw

theorem builds_const (value : Json) :
    Builds document (pure (Keyword.const value) : Compiling Keyword) fun k origins =>
      k.Says origins fun _ inst => sameJson value inst :=
  Builds.pure fun _ _ _ _ _ _ => rfl

theorem filterMap_of_mapM {items : List Json} {names : List String}
    (h : items.mapM Json.string? = some names) : items.filterMap Json.string? = names := by
  induction items generalizing names with
  | nil =>
      rw [List.mapM_nil] at h
      exact Option.some.inj h
  | cons item rest ih =>
      simp only [List.mapM_cons, Option.bind_eq_bind, Option.bind_eq_some_iff] at h
      obtain ⟨name, hname, others, hothers, hnames⟩ := h
      obtain rfl := Option.some.inj hnames
      rw [List.filterMap_cons_some hname, ih hothers]

theorem builds_namesOf (pointer keyword : String) (json : Json) :
    Builds document (namesOf pointer keyword json) fun names _ =>
      names = Meaning.namesIn json := by
  cases json with
  | array items =>
      simp only [namesOf]
      cases h : items.mapM Json.string? with
      | none => exact Builds.flaw
      | some names => exact Builds.pure fun _ => (filterMap_of_mapM h).symm
  | null | bool | number | string | object => exact Builds.flaw

theorem builds_required (pointer : String) (json : Json) :
    Builds document
      (do return Keyword.required (← namesOf pointer "required" json) : Compiling Keyword)
      fun k origins => k.Says origins fun _ inst => Meaning.required json inst := by
  refine (builds_namesOf pointer "required" json).map
    fun names origins hnames verdict judge _ inst _ => ?_
  subst hnames
  cases inst <;> rfl

theorem says_uniqueKeyword (members : Entries Json) (origins : List Json) :
    Says origins (uniqueKeyword members) fun _ inst =>
      Meaning.holds members "uniqueItems" (Meaning.uniqueItems · inst) := by
  intro verdict judge _ inst hinst
  cases hflag : members.get? "uniqueItems" with
  | none => simp only [uniqueKeyword, Meaning.holds, hflag]; rfl
  | some flag =>
      simp only [uniqueKeyword, Meaning.holds, hflag, Option.all_some]
      split
      next heq =>
        obtain rfl := Option.some.inj heq
        cases inst with
        | array items =>
            have hnumbers : ∀ v ∈ items.map Value.ofJson, v.NumbersIn Value.OfDocument := by
              simp only [List.forall_mem_map]
              exact fun item hitem => Value.numbersIn_ofJson item (Json.isProper_item hinst hitem)
            have hdistinct := Value.allDistinct_iff Value.marksAgree_ofDocument hnumbers
            rw [List.pairwise_map] at hdistinct
            rw [List.all_cons, List.all_nil, Bool.and_true, Bool.eq_iff_iff]
            exact hdistinct.trans (decide_eq_true_iff).symm
        | null | bool | number | string | object => rfl
      next hother =>
        cases flag with
        | bool b =>
            cases b with
            | true => exact absurd rfl hother
            | false => rfl
        | null | number | string | array | object => rfl

theorem matchesName_eq {source : String} {pattern : Pattern}
    (h : Pattern.ofText? source {} = .ok pattern) (name : String) :
    Meaning.matchesName source name = pattern.isMatch name := by
  rw [Meaning.matchesName, h]

/-! ## Keywords with schemas -/

section

variable {members : Entries Json} {part : Part} (hproper : (Json.object members).isProper = true)
  (hpart : Compiles document (.object members) part)

include hpart

theorem builds_contains {schema : Json} (h : members.get? "contains" = some schema) :
    Builds document (do return Keyword.contains (← part ["contains"] schema) : Compiling Keyword)
      fun k origins => k.Says origins fun judge inst => Meaning.contains judge schema inst := by
  refine (builds_part hpart h).map fun slot origins hstands verdict judge hagrees inst hinst => ?_
  cases inst with
  | array elements =>
      have hitem : ∀ item ∈ elements, verdict slot item = judge schema item := fun item hitem =>
        hagrees slot schema hstands item (Json.isProper_item hinst hitem)
      simp only [Keyword.accepts, Keyword.acceptsParts, Keyword.acceptsItems, Meaning.contains]
      rw [Bool.eq_iff_iff, List.any_eq_true, List.any_eq_true]
      exact exists_congr fun item => and_congr_right fun hmem => by rw [hitem item hmem]
  | null | bool | number | string | object => rfl

theorem builds_propertyNames {schema : Json} (h : members.get? "propertyNames" = some schema) :
    Builds document
      (do return Keyword.propertyNames (← part ["propertyNames"] schema) : Compiling Keyword)
      fun k origins => k.Says origins fun judge inst =>
        Meaning.propertyNames judge schema inst := by
  refine (builds_part hpart h).map fun slot origins hstands verdict judge hagrees inst hinst => ?_
  cases inst with
  | object own =>
      exact congrArg (own.all ·) (funext fun entry =>
        hagrees slot schema hstands _ (Json.isProper_string entry.1))
  | null | bool | number | string | array => rfl

theorem builds_not {schema : Json} (h : members.get? "not" = some schema) :
    Builds document (do return Keyword.not (← part ["not"] schema) : Compiling Keyword)
      fun k origins => k.Says origins fun judge inst => !judge schema inst := by
  refine (builds_part hpart h).map fun slot origins hstands verdict judge hagrees inst hinst => ?_
  exact congrArg (!·) (hagrees slot schema hstands inst hinst)

omit hpart in
theorem all_eq_of_partOf {origins : List Json} {slot? : Option Slot} {name : String}
    (h : (slot? = none ∧ members.get? name = none)
      ∨ ∃ slot value, slot? = some slot ∧ members.get? name = some value
        ∧ Stands origins slot value)
    {verdict : Verdict} {judge : Judge} (hagrees : Agrees origins verdict judge) {inst : Json}
    (hinst : inst.isProper = true) :
    slot?.all (verdict · inst) = (members.get? name).all (judge · inst) := by
  rcases h with ⟨rfl, hget⟩ | ⟨slot, value, rfl, hget, hstands⟩
  · rw [hget]; rfl
  · rw [hget]; exact hagrees slot value hstands inst hinst

theorem builds_conditional {condition : Json} (h : members.get? "if" = some condition) :
    Builds document (conditional part members condition) fun k origins =>
      k.Says origins fun judge inst => Meaning.conditional judge members condition inst := by
  refine (builds_part hpart h).bind fun slot => ?_
  refine (builds_partOf hpart "then").bind fun positive => ?_
  refine (builds_partOf hpart "else").map
    fun negative origins hnegative hpositive hstands verdict judge hagrees inst hinst => ?_
  simp only [Keyword.accepts, Meaning.conditional, hagrees slot condition hstands inst hinst]
  cases judge condition inst with
  | true => exact all_eq_of_partOf hpositive hagrees hinst
  | false => exact all_eq_of_partOf hnegative hagrees hinst

include hproper

theorem builds_combinator {keyword : String} (pointer : String) {make : List Slot → Keyword}
    {json : Json} (h : members.get? keyword = some json) :
    Builds document (combinator part pointer keyword make json) fun k origins =>
      ∃ slots, k = make slots ∧ List.Forall₂ (fun schema slot => Stands origins slot schema)
        (Meaning.itemsOf json) slots := by
  cases json with
  | array schemas =>
      have hall : ∀ j, (hj : j < schemas.length) → schemas[0 + j]? = some schemas[j] := by simp
      exact (builds_listed hproper hpart h schemas 0 hall).map fun slots origins hslots =>
        ⟨slots, rfl, hslots⟩
  | null | bool | number | string | object => exact Builds.flaw

theorem builds_items {json : Json} (h : members.get? "items" = some json) :
    Builds document (itemsKeyword part members json) fun k origins =>
      k.Says origins fun judge inst => Meaning.items judge members json inst := by
  have hsingle (hjson : ∀ schemas, json ≠ .array schemas) :
      Builds document (do return Keyword.items (← part ["items"] json)) fun k origins =>
        k.Says origins fun judge inst => Meaning.items judge members json inst := by
    refine (builds_part hpart h).map fun slot origins hstands verdict judge hagrees inst hinst => ?_
    cases inst with
    | array elements =>
        simp only [Keyword.accepts, Keyword.acceptsParts, Keyword.acceptsItems,
          Meaning.items_of_ne_array judge hjson]
        exact all_eq_of_mem fun item hitem =>
          hagrees slot json hstands item (Json.isProper_item hinst hitem)
    | null | bool | number | string | object => rfl
  cases json with
  | array schemas =>
      have hall : ∀ j, (hj : j < schemas.length) → schemas[0 + j]? = some schemas[j] := by simp
      refine (builds_listed hproper hpart h schemas 0 hall).bind fun slots => ?_
      refine (builds_partOf hpart "additionalItems").map
        fun additional origins hadditional hslots verdict judge hagrees inst hinst => ?_
      cases inst with
      | array elements =>
          simp only [Keyword.accepts, Keyword.acceptsParts, Keyword.acceptsItems, Meaning.items]
          refine all_eq_of_mem fun entry hitem => ?_
          obtain ⟨item, i⟩ := entry
          have hproperItem : item.isProper = true :=
            Json.isProper_item hinst (List.fst_mem_of_mem_zipIdx hitem)
          rcases getElem?_of_forall₂ hslots i with ⟨hschema, hslot⟩ | ⟨schema, slot, hschema, hslot, hs⟩
          · simp only [hschema, hslot, Option.none_or]
            rw [all_eq_of_partOf hadditional hagrees hproperItem]
          · simp only [hschema, hslot, Option.some_or, Option.all_some]
            rw [hagrees slot schema hs item hproperItem]
      | null | bool | number | string | object => rfl
  | null | bool | number | string | object => exact hsingle (by simp)

theorem builds_dependency {entries : Entries Json}
    (h : members.get? "dependencies" = some (.object entries)) (pointer : String)
    {entry : String × Json} (hentry : entry ∈ entries) :
    Builds document (dependency part pointer entry.1 entry.2) fun d origins =>
      d.Says origins entry.2 := by
  obtain ⟨name, json⟩ := entry
  have hfollow : (Json.object members).follow? ["dependencies", name] = some json :=
    follow?_named hproper h hentry
  cases json with
  | array names =>
      refine (builds_namesOf pointer "dependencies" (.array names)).map
        fun found origins hfound verdict judge _ own _ => ?_
      simp only [Dependency.accepts, Meaning.demand, hfound]
  | null | bool | number | string | object =>
      exact (hpart _ _ hfollow).map fun slot origins hstands verdict judge hagrees own hown =>
        hagrees slot _ hstands _ hown

theorem builds_dependencies_list {entries : Entries Json}
    (h : members.get? "dependencies" = some (.object entries)) (pointer : String)
    (rest : List (String × Json)) (hrest : ∀ entry ∈ rest, entry ∈ entries) :
    Builds document (dependencies part pointer rest) fun list origins =>
      List.Forall₂ (fun entry d => d.1 = entry.1 ∧ d.2.Says origins entry.2) rest list := by
  induction rest with
  | nil => exact Builds.pure fun _ => .nil
  | cons entry rest ih =>
      obtain ⟨hentry, hrest⟩ := List.forall_mem_cons.mp hrest
      refine (builds_dependency hproper hpart h pointer hentry).bind fun d => ?_
      exact (ih hrest).map fun list origins hlist hd => .cons ⟨rfl, hd⟩ hlist

theorem builds_dependencies (pointer : String) {json : Json}
    (h : members.get? "dependencies" = some json) :
    Builds document (do
      return Keyword.dependencies
        (← dependencies part pointer (← objectOf pointer "dependencies" json)) : Compiling Keyword)
      fun k origins => k.Says origins fun judge inst => Meaning.dependencies judge json inst := by
  cases json with
  | object entries =>
      refine (builds_dependencies_list hproper hpart h pointer entries fun _ => id).map
        fun list origins hlist verdict judge hagrees inst hinst => ?_
      cases inst with
      | object own =>
          refine (all_eq_of_forall₂ hlist fun entry d hd => ?_).symm
          rw [hd.1, hd.2 verdict judge hagrees own hinst]
      | null | bool | number | string | array => rfl
  | null | bool | number | string | array => exact Builds.flaw_bind

/-! ## The keywords about properties -/

theorem builds_properties (pointer : String) {json : Json}
    (h : members.get? "properties" = some json) :
    Builds document (do
      return Keyword.properties
        (← named part "properties" (← objectOf pointer "properties" json)) : Compiling Keyword)
      fun k origins => (k.Says origins fun judge inst => Meaning.properties judge json inst)
        ∧ propertyKeywords.knownNames [k] = Meaning.memberNames members "properties" := by
  cases json with
  | object schemas =>
      refine (builds_named hproper hpart h schemas fun _ => id).map fun slots origins hslots => ?_
      constructor
      · intro verdict judge hagrees inst hinst
        cases inst with
        | object own =>
            refine (all_eq_of_forall₂ hslots fun (name, schema) (key, slot) hslot => ?_).symm
            obtain ⟨rfl, hstands⟩ := hslot
            cases hvalue : Entries.get? own key with
            | none => simp only [hvalue, Option.all_none]
            | some value =>
                simp only [hvalue, Option.all_some]
                exact (hagrees slot schema hstands value (Json.isProper_get? hinst hvalue)).symm
        | null | bool | number | string | array => rfl
      · simp only [propertyKeywords.knownNames, Meaning.memberNames, h]
        exact (map_eq_of_forall₂ hslots fun _ _ hslot => hslot.1.symm).symm
  | null | bool | number | string | array => exact Builds.flaw_bind

theorem builds_patterned {schemas : Entries Json}
    (h : members.get? "patternProperties" = some (.object schemas)) (pointer : String)
    (rest : List (String × Json)) (hrest : ∀ entry ∈ rest, entry ∈ schemas) :
    Builds document (patterned part pointer rest) fun slots origins =>
      List.Forall₂ (fun schema slot => (∀ name, Meaning.matchesName schema.1 name
        = slot.1.isMatch name) ∧ Stands origins slot.2 schema.2) rest slots := by
  induction rest with
  | nil => exact Builds.pure fun _ => .nil
  | cons entry rest ih =>
      obtain ⟨source, schema⟩ := entry
      obtain ⟨hentry, hrest⟩ := List.forall_mem_cons.mp hrest
      have hfollow : (Json.object members).follow? ["patternProperties", source] = some schema :=
        follow?_named hproper h hentry
      simp only [patterned]
      cases hpattern : Pattern.ofText? source {} with
      | error fault => exact Builds.flaw
      | ok pattern =>
          refine (hpart _ _ hfollow).bind fun slot =>
            (ih hrest).map fun slots origins hslots hslot => ?_
          exact .cons ⟨matchesName_eq hpattern, hslot⟩ hslots

theorem builds_patternProperties (pointer : String) {json : Json}
    (h : members.get? "patternProperties" = some json) :
    Builds document (do
      let schemas ← objectOf pointer "patternProperties" json
      return Keyword.patternProperties (← patterned part pointer schemas) : Compiling Keyword)
      fun k origins => (k.Says origins fun judge inst => Meaning.patternProperties judge json inst)
        ∧ ∀ name, (propertyKeywords.knownPatterns [k]).any (·.isMatch name)
          = (Meaning.memberNames members "patternProperties").any (Meaning.matchesName · name) := by
  cases json with
  | object schemas =>
      refine (builds_patterned hproper hpart h pointer schemas fun _ => id).map
        fun slots origins hslots => ?_
      constructor
      · intro verdict judge hagrees inst hinst
        cases inst with
        | object own =>
            refine (all_eq_of_forall₂ hslots fun schema slot hslot => ?_).symm
            obtain ⟨hmatch, hstands⟩ := hslot
            simp only [hmatch]
            exact all_eq_of_mem fun entry hentry => (hagrees slot.2 schema.2 hstands entry.2
              (Json.isProper_member hinst (List.mem_of_mem_filter hentry))).symm
        | null | bool | number | string | array => rfl
      · intro name
        simp only [propertyKeywords.knownPatterns, Meaning.memberNames, h, Json.members,
          Entries.names, List.any_map]
        exact (any_eq_of_forall₂ hslots fun schema slot hslot => hslot.1 name).symm
  | null | bool | number | string | array => exact Builds.flaw_bind

omit hproper in
theorem builds_additionalProperties {schema : Json} {known : List String} {patterns : List Pattern}
    (h : members.get? "additionalProperties" = some schema)
    (hknown : known = Meaning.memberNames members "properties")
    (hpatterns : ∀ name, patterns.any (·.isMatch name)
      = (Meaning.memberNames members "patternProperties").any (Meaning.matchesName · name)) :
    Builds document (do
      let slot ← part ["additionalProperties"] schema
      return Keyword.additionalProperties slot known patterns : Compiling Keyword)
      fun k origins => k.Says origins fun judge inst =>
        Meaning.additionalProperties judge members schema inst := by
  refine (builds_part hpart h).map fun slot origins hstands verdict judge hagrees inst hinst => ?_
  cases inst with
  | object own =>
      simp only [Keyword.accepts, Keyword.acceptsParts, Keyword.acceptsMembers,
        Meaning.additionalProperties, hknown, hpatterns]
      exact all_eq_of_mem fun entry hentry => hagrees slot schema hstands entry.2
        (Json.isProper_member hinst (List.mem_of_mem_filter hentry))
  | null | bool | number | string | array => rfl

theorem builds_propertyKeywords (pointer : String) :
    Builds document (propertyKeywords part pointer members) fun list origins =>
      Says origins list fun judge inst =>
        Meaning.holds members "properties" (Meaning.properties judge · inst)
          && Meaning.holds members "patternProperties" (Meaning.patternProperties judge · inst)
          && Meaning.holds members "additionalProperties"
            (Meaning.additionalProperties judge members · inst) := by
  have hproperties := builds_whenPresent (Q := fun list origins =>
      propertyKeywords.knownNames list = Meaning.memberNames members "properties"
        ∧ Says origins list fun judge inst =>
          Meaning.holds members "properties" (Meaning.properties judge · inst))
    (fun hnone origins => ⟨by rw [Meaning.memberNames, hnone]; rfl, says_nil hnone⟩)
    (fun json h => (builds_properties hproper hpart pointer h).imp fun k origins hk =>
      ⟨hk.2, says_singleton h hk.1⟩)
  have hpatterns := builds_whenPresent (Q := fun list origins =>
      (∀ name, (propertyKeywords.knownPatterns list).any (·.isMatch name)
        = (Meaning.memberNames members "patternProperties").any (Meaning.matchesName · name))
      ∧ Says origins list fun judge inst =>
          Meaning.holds members "patternProperties" (Meaning.patternProperties judge · inst))
    (fun hnone origins => ⟨fun name => by rw [Meaning.memberNames, hnone]; rfl, says_nil hnone⟩)
    (fun json h => (builds_patternProperties hproper hpart pointer h).imp fun k origins hk =>
      ⟨hk.2, says_singleton h hk.1⟩)
  unfold propertyKeywords
  refine hproperties.bind_of fun properties hknown => ?_
  refine hpatterns.bind_of fun patterns hmatched => ?_
  refine (says_whenPresent fun json h => builds_additionalProperties hpart h hknown hmatched).map
    fun additional origins hadditional hpatterns hproperties => ?_
  exact hproperties.append hpatterns |>.append hadditional

theorem builds_allOf (pointer : String) {json : Json} (h : members.get? "allOf" = some json) :
    Builds document (combinator part pointer "allOf" .allOf json) fun k origins =>
      k.Says origins fun judge inst => (Meaning.itemsOf json).all (judge · inst) := by
  refine (builds_combinator hproper hpart pointer h).imp ?_
  rintro _ origins ⟨slots, rfl, hslots⟩ verdict judge hagrees inst hinst
  exact (all_eq_of_forall₂ hslots fun schema slot hslot =>
    (hagrees slot schema hslot inst hinst).symm).symm

theorem builds_anyOf (pointer : String) {json : Json} (h : members.get? "anyOf" = some json) :
    Builds document (combinator part pointer "anyOf" .anyOf json) fun k origins =>
      k.Says origins fun judge inst => (Meaning.itemsOf json).any (judge · inst) := by
  refine (builds_combinator hproper hpart pointer h).imp ?_
  rintro _ origins ⟨slots, rfl, hslots⟩ verdict judge hagrees inst hinst
  exact (any_eq_of_forall₂ hslots fun schema slot hslot =>
    (hagrees slot schema hslot inst hinst).symm).symm

theorem builds_oneOf (pointer : String) {json : Json} (h : members.get? "oneOf" = some json) :
    Builds document (combinator part pointer "oneOf" .oneOf json) fun k origins =>
      k.Says origins fun judge inst => (Meaning.itemsOf json).countP (judge · inst) == 1 := by
  refine (builds_combinator hproper hpart pointer h).imp ?_
  rintro _ origins ⟨slots, rfl, hslots⟩ verdict judge hagrees inst hinst
  exact congrArg (· == 1) (countP_eq_of_forall₂ hslots fun schema slot hslot =>
    (hagrees slot schema hslot inst hinst).symm).symm

/-- **`builds_keywords`** — the compiled keywords of a schema say what its keywords say. -/
theorem builds_keywords (pointer : String) :
    Builds document (keywords part pointer members) fun list origins =>
      Says origins list fun judge inst => Meaning.keywords judge members inst := by
  unfold keywords
  refine (says_whenPresent fun json _ => builds_typeKeyword pointer json).bind fun type => ?_
  refine (says_whenPresent fun json _ => builds_enumKeyword pointer json).bind fun enum => ?_
  refine (says_whenPresent fun json _ => builds_const json).bind fun const => ?_
  refine (says_whenPresent fun json _ => builds_required pointer json).bind fun required => ?_
  refine (builds_propertyKeywords hproper hpart pointer).bind fun properties => ?_
  refine (says_whenPresent fun json h => builds_items hproper hpart h).bind fun items => ?_
  refine (says_whenPresent fun json h => builds_contains hpart h).bind fun contains => ?_
  refine (says_whenPresent fun json h => builds_propertyNames hpart h).bind fun names => ?_
  refine (says_whenPresent fun json h =>
    builds_dependencies hproper hpart pointer h).bind fun deps => ?_
  refine (says_whenPresent fun json h => builds_allOf hproper hpart pointer h).bind fun allOf => ?_
  refine (says_whenPresent fun json h => builds_anyOf hproper hpart pointer h).bind fun anyOf => ?_
  refine (says_whenPresent fun json h => builds_oneOf hproper hpart pointer h).bind fun oneOf => ?_
  refine (says_whenPresent fun json h => builds_not hpart h).bind fun negation => ?_
  refine (says_whenPresent fun json h => builds_conditional hpart h).map ?_
  intro condition origins hcondition hnegation honeOf hanyOf hallOf hdeps hnames hcontains hitems
    hproperties hrequired hconst henum htype
  exact htype.append henum |>.append hconst |>.append hrequired |>.append hproperties
    |>.append hitems |>.append hcontains |>.append (says_uniqueKeyword members origins)
    |>.append hnames |>.append hdeps |>.append hallOf |>.append hanyOf |>.append honeOf
    |>.append hnegation |>.append hcondition

end

end Compiling

end JsonQuery.Schema
