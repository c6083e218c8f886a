/-
# JsonQuery.Proofs.Schema.Script — compiling a schema is a script of calls for its parts.

Every keyword is compiled with a function that compiles the schemas in it.  Whatever that function
is, it is called for the same parts in the same order: those of `children`.  What happens between
the calls depends on the slots that they give and on nothing else, so compiling a schema is a script
that can be run with any such function.  What is said here of the script once holds of every run:
which calls there are, that a result mentions no slots but those that the calls gave, and that two
functions that agree on the parts cannot be told apart.
-/
import JsonQuery.Proofs.Schema.Parts

namespace JsonQuery.Schema

/-! ## Scripts -/

namespace Compiling

/-- What compiles the parts of a schema: a result, a flaw, or a call that goes on with the slot of a
part. -/
inductive Script (α : Type) where
  | done (a : α)
  | stop (pointer : String) (flaw : SchemaError.Flaw)
  | call (segments : List String) (json : Json) (next : Slot → Script α)

namespace Script

variable {α β : Type}

/-- Runs a script with a function that compiles the parts. -/
def run (part : Part) : Script α → Compiling α
  | .done a => pure a
  | .stop pointer f => flaw pointer f
  | .call segments json next => do (next (← part segments json)).run part

/-- Goes on with a script. -/
def bind (f : α → Script β) : Script α → Script β
  | .done a => f a
  | .stop pointer flaw => .stop pointer flaw
  | .call segments json next => .call segments json fun slot => (next slot).bind f

theorem run_bind (part : Part) (s : Script α) (f : α → Script β) :
    (s.bind f).run part = s.run part >>= fun a => (f a).run part := by
  induction s with
  | done a => exact (pure_bind a fun a => (f a).run part).symm
  | stop pointer f => rfl
  | call segments json next ih =>
      simp only [bind, run, bind_assoc]
      exact congrArg _ (funext fun slot => ih slot)

/-- **`s.Follows owns Q children`** — unless a flaw stops it, a script calls for these parts, one
after another; and if the calls give slots of some kind, its result satisfies `Q`. -/
def Follows (owns : Slot → Prop) (Q : α → Prop) : Script α → List Child → Prop
  | .done a, children => children = [] ∧ Q a
  | .stop _ _, _ => True
  | .call segments json next, children => ∃ rest, children = (segments, json) :: rest
      ∧ ∀ slot, owns slot → (next slot).Follows owns Q rest

theorem Follows.imp {owns : Slot → Prop} {Q R : α → Prop} {s : Script α} {children : List Child}
    (hs : s.Follows owns Q children) (h : ∀ a, Q a → R a) : s.Follows owns R children := by
  induction s generalizing children with
  | done a => exact ⟨hs.1, h a hs.2⟩
  | stop pointer f => trivial
  | call segments json next ih =>
      obtain ⟨rest, hchildren, hnext⟩ := hs
      exact ⟨rest, hchildren, fun slot hslot => ih slot (hnext slot hslot)⟩

theorem Follows.bind {owns : Slot → Prop} {Q : α → Prop} {R : β → Prop} {s : Script α}
    {f : α → Script β} {children more : List Child} (hs : s.Follows owns Q children)
    (hf : ∀ a, Q a → (f a).Follows owns R more) : (s.bind f).Follows owns R (children ++ more) := by
  induction s generalizing children with
  | done a =>
      obtain ⟨rfl, hQ⟩ := hs
      exact hf a hQ
  | stop pointer f => trivial
  | call segments json next ih =>
      obtain ⟨rest, rfl, hnext⟩ := hs
      exact ⟨rest ++ more, rfl, fun slot hslot => ih slot (hnext slot hslot)⟩

/-- Functions that agree on the parts of a script run it alike. -/
theorem run_congr {Q : α → Prop} {s : Script α} {children : List Child} {part other : Part}
    (hs : s.Follows (fun _ => True) Q children)
    (h : ∀ child ∈ children, part child.1 child.2 = other child.1 child.2) :
    s.run part = s.run other := by
  induction s generalizing children with
  | done a => rfl
  | stop pointer f => rfl
  | call segments json next ih =>
      obtain ⟨rest, rfl, hnext⟩ := hs
      obtain ⟨hhead, hrest⟩ := List.forall_mem_cons.mp h
      simp only [run]
      rw [hhead]
      exact congrArg _ (funext fun slot => ih slot (hnext slot trivial) hrest)

end Script

/-! ## Computations that are scripts -/

/-- **`Walks children Q program`** — a computation that compiles parts is a script: it calls for
these parts in order, whatever compiles them, and if all slots that it is given are of some kind,
its result satisfies `Q` for that kind. -/
def Walks {α : Type} (children : List Child) (Q : (Slot → Prop) → α → Prop)
    (program : Part → Compiling α) : Prop :=
  ∃ s : Script α, (∀ part, program part = s.run part) ∧ ∀ owns, s.Follows owns (Q owns) children

namespace Walks

variable {α β : Type} {children more : List Child} {Q : (Slot → Prop) → α → Prop}
  {R : (Slot → Prop) → β → Prop}

theorem pure {a : α} (h : ∀ owns, Q owns a) : Walks [] Q fun _ => pure a :=
  ⟨.done a, fun _ => rfl, fun owns => ⟨rfl, h owns⟩⟩

theorem flaw {pointer : String} {f : SchemaError.Flaw} :
    Walks children Q fun _ => Compiling.flaw pointer f :=
  ⟨.stop pointer f, fun _ => rfl, fun _ => trivial⟩

theorem flaw_bind {pointer : String} {f : SchemaError.Flaw} {program : Part → α → Compiling β} :
    Walks children R fun part => Compiling.flaw pointer f >>= program part :=
  ⟨.stop pointer f, fun _ => rfl, fun _ => trivial⟩

theorem call (segments : List String) (json : Json) :
    Walks [(segments, json)] (fun owns slot => owns slot) fun part => part segments json :=
  ⟨.call segments json .done, fun _ => (bind_pure _).symm,
    fun _ => ⟨[], rfl, fun _ hslot => ⟨rfl, hslot⟩⟩⟩

theorem bind {program : Part → Compiling α} {next : Part → α → Compiling β}
    (h : Walks children Q program)
    (hnext : ∀ a, Walks more (fun owns b => Q owns a → R owns b) fun part => next part a) :
    Walks (children ++ more) R fun part => program part >>= next part := by
  obtain ⟨s, hrun, hfollows⟩ := h
  choose f hf hmore using hnext
  refine ⟨s.bind f, fun part => ?_, fun owns => (hfollows owns).bind fun a hQ => ?_⟩
  · simp only [Script.run_bind, hrun]
    exact congrArg _ (funext fun a => hf a part)
  · exact (hmore a owns).imp fun b hR => hR hQ

theorem imp {P : (Slot → Prop) → α → Prop} {program : Part → Compiling α}
    (h : Walks children Q program) (hP : ∀ owns a, Q owns a → P owns a) :
    Walks children P program := by
  obtain ⟨s, hrun, hfollows⟩ := h
  exact ⟨s, hrun, fun owns => (hfollows owns).imp (hP owns)⟩

/-- A last step that only puts the result in its form. -/
theorem map {program : Part → Compiling α} {f : α → β} (h : Walks children Q program)
    (hf : ∀ owns a, Q owns a → R owns (f a)) :
    Walks children R fun part => do return f (← program part) := by
  rw [← List.append_nil children]
  exact h.bind fun a => Walks.pure fun owns => hf owns a

/-- A first step that compiles nothing. -/
theorem bind_of_nil {program : Part → Compiling α} {next : Part → α → Compiling β}
    (h : Walks [] Q program)
    (hnext : ∀ a, Walks more (fun owns b => Q owns a → R owns b) fun part => next part a) :
    Walks more R fun part => program part >>= next part :=
  h.bind hnext

/-- A computation that compiles nothing, for each item of a list. -/
theorem mapM {γ : Type} {f : γ → Compiling α} (h : ∀ c, Walks [] (fun _ _ => True) fun _ => f c)
    (l : List γ) : Walks [] (fun _ _ => True) fun _ => l.mapM f := by
  induction l with
  | nil =>
      simp only [List.mapM_nil]
      exact Walks.pure fun _ => trivial
  | cons c rest ih =>
      simp only [List.mapM_cons]
      exact (h c).bind_of_nil fun a => ih.map fun _ _ _ _ => trivial

end Walks

end Compiling

/-! ## The slots that keywords mention -/

/-- The slots that a dependency mentions. -/
def Dependency.slots : Dependency → List Slot
  | .required _ => []
  | .schema slot => [slot]

/-- The slots that a keyword mentions. -/
def Keyword.slots : Keyword → List Slot
  | .type _ | .enum _ | .const _ | .required _ | .uniqueItems => []
  | .properties schemas => schemas.map (·.2)
  | .patternProperties schemas => schemas.map (·.2)
  | .additionalProperties slot _ _ => [slot]
  | .items slot | .contains slot | .propertyNames slot | .not slot | .ref slot => [slot]
  | .tuple slots additional => slots ++ additional.toList
  | .dependencies entries => entries.flatMap (·.2.slots)
  | .allOf slots | .anyOf slots | .oneOf slots => slots
  | .conditional condition positive negative => condition :: positive.toList ++ negative.toList

/-- The slots that a node mentions. -/
def Node.slots : Node → List Slot
  | .bool _ => []
  | .keywords list => list.flatMap Keyword.slots

/-- All slots in a list are of a kind. -/
def Own (owns : Slot → Prop) (slots : List Slot) : Prop := ∀ slot ∈ slots, owns slot

/-- All slots that keywords mention are of a kind. -/
def OwnAll (owns : Slot → Prop) (list : List Keyword) : Prop :=
  Own owns (list.flatMap Keyword.slots)

theorem Own.append {owns : Slot → Prop} {slots others : List Slot} (h : Own owns slots)
    (hothers : Own owns others) : Own owns (slots ++ others) :=
  fun slot hslot => (List.mem_append.mp hslot).elim (h slot) (hothers slot)

theorem OwnAll.append {owns : Slot → Prop} {list others : List Keyword} (h : OwnAll owns list)
    (hothers : OwnAll owns others) : OwnAll owns (list ++ others) := by
  rw [OwnAll, List.flatMap_append]
  exact Own.append h hothers

theorem OwnAll.singleton {owns : Slot → Prop} {k : Keyword} (h : Own owns k.slots) :
    OwnAll owns [k] := by
  rw [OwnAll, List.flatMap_singleton]
  exact h

namespace Compiling

/-! ## Keywords -/

theorem walks_named (keyword : String) (schemas : List (String × Json)) :
    Walks (Child.named keyword (some (.object schemas)))
      (fun owns (slots : List (String × Slot)) => Own owns (slots.map (·.2)))
      fun part => named part keyword schemas := by
  induction schemas with
  | nil => exact Walks.pure fun _ => by simp [Own]
  | cons entry rest ih =>
      obtain ⟨name, schema⟩ := entry
      refine (Walks.call [keyword, name] schema).bind fun slot =>
        ih.map fun owns slots hslots hslot => ?_
      exact List.forall_mem_cons.mpr ⟨hslot, hslots⟩

theorem walks_listed (keyword : String) (schemas : List Json) (i : Nat) :
    Walks ((schemas.zipIdx i).map fun entry => ([keyword, toString entry.2], entry.1)) Own
      fun part => listed part keyword i schemas := by
  induction schemas generalizing i with
  | nil => exact Walks.pure fun _ => by simp [Own]
  | cons schema rest ih =>
      refine (Walks.call [keyword, toString i] schema).bind fun slot =>
        (ih (i + 1)).map fun owns slots hslots hslot => ?_
      exact List.forall_mem_cons.mpr ⟨hslot, hslots⟩

theorem walks_partOf (members : Entries Json) (name : String) :
    Walks (Child.own name (members.get? name)) (fun owns slot? => Own owns slot?.toList)
      fun part => partOf part members name := by
  unfold partOf
  cases members.get? name with
  | none => exact Walks.pure fun _ => by simp [Own]
  | some json =>
      exact (Walks.call [name] json).map fun owns slot hslot => by simpa [Own] using hslot

/-- A keyword that is there or not. -/
theorem walks_whenPresent (children : Option Json → List Child) (hnone : children none = [])
    {compile : Part → Json → Compiling Keyword}
    (hsome : ∀ json, Walks (children (some json)) (fun owns k => Own owns k.slots)
      fun part => compile part json) (members : Entries Json) (name : String) :
    Walks (children (members.get? name)) OwnAll
      fun part => whenPresent members name (compile part) := by
  unfold whenPresent
  cases members.get? name with
  | none =>
      rw [hnone]
      exact Walks.pure fun _ => by simp [OwnAll, Own]
  | some json => exact (hsome json).map fun owns k => OwnAll.singleton

theorem walks_typeOf (pointer : String) (name : Json) :
    Walks [] (fun _ _ => True) fun _ => typeOf pointer name := by
  unfold typeOf
  split
  · exact Walks.pure fun _ => trivial
  · exact Walks.flaw

theorem walks_typeKeyword (pointer : String) (json : Json) :
    Walks [] (fun owns k => Own owns k.slots) fun _ => typeKeyword pointer json := by
  have hnone : ∀ types : List JsonType, ∀ owns, Own owns (Keyword.type types).slots := by
    intro types owns slot hslot
    cases hslot
  cases json with
  | array names =>
      exact (Walks.mapM (walks_typeOf pointer) names).map fun owns types _ => hnone types owns
  | null | bool | number | string | object =>
      exact (walks_typeOf pointer _).map fun owns type _ => hnone [type] owns

theorem walks_enumKeyword (pointer : String) (json : Json) :
    Walks [] (fun owns k => Own owns k.slots) fun _ => enumKeyword pointer json := by
  cases json with
  | array values => exact Walks.pure fun _ _ hslot => nomatch hslot
  | null | bool | number | string | object => exact Walks.flaw

theorem walks_const (value : Json) :
    Walks [] (fun owns k => Own owns k.slots) fun _ => pure (Keyword.const value) :=
  Walks.pure fun _ _ hslot => nomatch hslot

theorem walks_namesOf (pointer keyword : String) (json : Json) :
    Walks [] (fun _ _ => True) fun _ => namesOf pointer keyword json := by
  cases json with
  | array items =>
      simp only [namesOf]
      split
      · exact Walks.pure fun _ => trivial
      · exact Walks.flaw
  | null | bool | number | string | object => exact Walks.flaw

theorem walks_required (pointer : String) (json : Json) :
    Walks [] (fun owns k => Own owns k.slots)
      fun _ => do return Keyword.required (← namesOf pointer "required" json) :=
  (walks_namesOf pointer "required" json).map fun _ _ _ _ hslot => nomatch hslot

theorem walks_properties (pointer : String) (json : Json) :
    Walks (Child.named "properties" (some json)) (fun owns k => Own owns k.slots) fun part => do
      return Keyword.properties
        (← named part "properties" (← objectOf pointer "properties" json)) := by
  cases json with
  | object schemas => exact (walks_named "properties" schemas).map fun _ _ hslots => hslots
  | null | bool | number | string | array => exact Walks.flaw_bind

theorem walks_patterned (pointer : String) (schemas : List (String × Json)) :
    Walks (Child.named "patternProperties" (some (.object schemas)))
      (fun owns (slots : List (Pattern × Slot)) => Own owns (slots.map (·.2)))
      fun part => patterned part pointer schemas := by
  induction schemas with
  | nil => exact Walks.pure fun _ => by simp [Own]
  | cons entry rest ih =>
      obtain ⟨source, schema⟩ := entry
      simp only [patterned]
      cases Pattern.ofText? source {} with
      | error fault => exact Walks.flaw
      | ok pattern =>
          refine (Walks.call ["patternProperties", source] schema).bind fun slot =>
            ih.map fun owns slots hslots hslot => ?_
          exact List.forall_mem_cons.mpr ⟨hslot, hslots⟩

theorem walks_patternProperties (pointer : String) (json : Json) :
    Walks (Child.named "patternProperties" (some json)) (fun owns k => Own owns k.slots)
      fun part => do
        let schemas ← objectOf pointer "patternProperties" json
        return Keyword.patternProperties (← patterned part pointer schemas) := by
  cases json with
  | object schemas => exact (walks_patterned pointer schemas).map fun _ _ hslots => hslots
  | null | bool | number | string | array => exact Walks.flaw_bind

/-- A keyword that is a schema by itself. -/
theorem walks_own (name : String) (make : Slot → Keyword)
    (hmake : ∀ slot, (make slot).slots = [slot]) (json : Json) : Walks (Child.own name (some json)) (fun owns k => Own owns k.slots)
      fun part => do return make (← part [name] json) :=
  (Walks.call [name] json).map fun owns slot hslot => by simpa [Own, hmake] using hslot

theorem walks_propertyKeywords (pointer : String) (members : Entries Json) :
    Walks (Child.ofProperties members) OwnAll
      fun part => propertyKeywords part pointer members := by
  unfold propertyKeywords
  refine (walks_whenPresent (Child.named "properties") rfl
    (walks_properties pointer) members "properties").bind fun properties => ?_
  refine (walks_whenPresent (Child.named "patternProperties") rfl
    (walks_patternProperties pointer) members "patternProperties").bind fun patterns => ?_
  refine (walks_whenPresent (Child.own "additionalProperties") rfl (fun json =>
    walks_own "additionalProperties" (.additionalProperties · _ _) (fun _ => rfl) json) members
    "additionalProperties").map fun owns additional hadditional hpatterns hproperties => ?_
  exact (hproperties.append hpatterns).append hadditional

theorem walks_itemsKeyword (members : Entries Json) (json : Json) :
    Walks (Child.ofItems members (some json)) (fun owns k => Own owns k.slots)
      fun part => itemsKeyword part members json := by
  cases json with
  | array schemas =>
      refine (walks_listed "items" schemas 0).bind fun slots =>
        (walks_partOf members "additionalItems").map fun owns additional hadditional hslots => ?_
      exact hslots.append hadditional
  | null | bool | number | string | object => exact walks_own "items" .items (fun _ => rfl) _

theorem walks_dependency (pointer name : String) (json : Json) :
    Walks (Child.ofDependencies (some (.object [(name, json)])))
      (fun owns d => Own owns d.slots) fun part => dependency part pointer name json := by
  cases json with
  | array names =>
      exact (walks_namesOf pointer "dependencies" (.array names)).map fun _ _ _ _ hslot =>
        nomatch hslot
  | null | bool | number | string | object =>
      exact (Walks.call ["dependencies", name] _).map fun owns slot hslot => by
        simpa [Own, Dependency.slots] using hslot

theorem ofDependencies_cons (entry : String × Json) (rest : List (String × Json)) :
    Child.ofDependencies (some (.object (entry :: rest)))
      = Child.ofDependencies (some (.object [entry]))
        ++ Child.ofDependencies (some (.object rest)) := by
  simp only [Child.ofDependencies]
  rw [← List.filterMap_append, List.singleton_append]

theorem walks_dependencyList (pointer : String) (entries : List (String × Json)) :
    Walks (Child.ofDependencies (some (.object entries)))
      (fun owns (list : List (String × Dependency)) => Own owns (list.flatMap (·.2.slots)))
      fun part => dependencies part pointer entries := by
  induction entries with
  | nil => exact Walks.pure fun _ => by simp [Own]
  | cons entry rest ih =>
      obtain ⟨name, json⟩ := entry
      rw [ofDependencies_cons]
      refine (walks_dependency pointer name json).bind fun d => ih.map fun owns list hlist hd => ?_
      rw [List.flatMap_cons]
      exact hd.append hlist

theorem walks_dependencies (pointer : String) (json : Json) :
    Walks (Child.ofDependencies (some json)) (fun owns k => Own owns k.slots) fun part => do
      return Keyword.dependencies
        (← dependencies part pointer (← objectOf pointer "dependencies" json)) := by
  cases json with
  | object entries => exact (walks_dependencyList pointer entries).map fun _ _ hlist => hlist
  | null | bool | number | string | array => exact Walks.flaw_bind

theorem walks_combinator (pointer keyword : String) (make : List Slot → Keyword)
    (hmake : ∀ slots, (make slots).slots = slots) (json : Json) :
    Walks (Child.listed keyword (some json)) (fun owns k => Own owns k.slots)
      fun part => combinator part pointer keyword make json := by
  cases json with
  | array schemas =>
      exact (walks_listed keyword schemas 0).map fun owns slots hslots => by
        rw [hmake]
        exact hslots
  | null | bool | number | string | object => exact Walks.flaw

theorem walks_conditional (members : Entries Json) (json : Json) :
    Walks (Child.ofCondition members (some json)) (fun owns k => Own owns k.slots)
      fun part => conditional part members json := by
  unfold conditional
  refine (Walks.call ["if"] json).bind fun slot => ?_
  refine (walks_partOf members "then").bind fun positive => ?_
  refine (walks_partOf members "else").map fun owns negative hnegative hpositive hslot => ?_
  exact Own.append (List.forall_mem_cons.mpr ⟨hslot, hpositive⟩) hnegative

theorem ownAll_uniqueKeyword (owns : Slot → Prop) (members : Entries Json) :
    OwnAll owns (uniqueKeyword members) := by
  intro slot hslot
  unfold uniqueKeyword at hslot
  split at hslot <;> cases hslot

/-- **`walks_keywords`** — the keywords of a schema are compiled with the schemas in them, one after
another, and mention no other slots. -/
theorem walks_keywords (pointer : String) (members : Entries Json) :
    Walks (Child.ofKeywords members) OwnAll fun part => keywords part pointer members := by
  unfold keywords Child.ofKeywords
  simp only [List.flatten_cons, List.flatten_nil, List.append_nil]
  refine Walks.bind_of_nil (walks_whenPresent (fun _ => []) rfl
    (fun json => walks_typeKeyword pointer json) members "type") fun type => ?_
  refine Walks.bind_of_nil (walks_whenPresent (fun _ => []) rfl
    (fun json => walks_enumKeyword pointer json) members "enum") fun enum => ?_
  refine Walks.bind_of_nil (walks_whenPresent (fun _ => []) rfl
    (fun json => walks_const json) members "const") fun const => ?_
  refine Walks.bind_of_nil (walks_whenPresent (fun _ => []) rfl
    (fun json => walks_required pointer json) members "required") fun required => ?_
  refine (walks_propertyKeywords pointer members).bind fun properties => ?_
  refine (walks_whenPresent (Child.ofItems members) rfl
    (walks_itemsKeyword members) members "items").bind fun items => ?_
  refine (walks_whenPresent (Child.own "contains") rfl
    (walks_own "contains" .contains fun _ => rfl) members "contains").bind fun contains => ?_
  refine (walks_whenPresent (Child.own "propertyNames") rfl
    (walks_own "propertyNames" .propertyNames fun _ => rfl) members "propertyNames").bind
    fun names => ?_
  refine (walks_whenPresent Child.ofDependencies rfl
    (walks_dependencies pointer) members "dependencies").bind fun deps => ?_
  refine (walks_whenPresent (Child.listed "allOf") rfl
    (walks_combinator pointer "allOf" .allOf fun _ => rfl) members "allOf").bind fun allOf => ?_
  refine (walks_whenPresent (Child.listed "anyOf") rfl
    (walks_combinator pointer "anyOf" .anyOf fun _ => rfl) members "anyOf").bind fun anyOf => ?_
  refine (walks_whenPresent (Child.listed "oneOf") rfl
    (walks_combinator pointer "oneOf" .oneOf fun _ => rfl) members "oneOf").bind fun oneOf => ?_
  refine (walks_whenPresent (Child.own "not") rfl
    (walks_own "not" .not fun _ => rfl) members "not").bind fun negation => ?_
  refine (walks_whenPresent (Child.ofCondition members) rfl
    (walks_conditional members) members "if").map ?_
  intro owns condition hcondition hnegation honeOf hanyOf hallOf hdeps hnames hcontains hitems
    hproperties hrequired hconst henum htype
  exact htype.append henum |>.append hconst |>.append hrequired |>.append hproperties
    |>.append hitems |>.append hcontains |>.append (ownAll_uniqueKeyword owns members)
    |>.append hnames |>.append hdeps |>.append hallOf |>.append hanyOf |>.append honeOf
    |>.append hnegation |>.append hcondition

/-! ## Schemas -/

/-- What a schema comes to when its parts are compiled. -/
inductive Contents where
  | bool (accepts : Bool)
  | reference (text : String)
  | keywords (list : List Keyword)

/-- The definitions of a schema, which are compiled for their addresses alone. -/
def definitionsOf (part : Part) (pointer : String) : Option Json → Compiling Unit
  | some json => do
    let definitions ← objectOf pointer "definitions" json
    let _ ← named part "definitions" definitions
    return ()
  | none => return ()

/-- The reference of a schema, or else its keywords. -/
def referenceOrKeywords (part : Part) (pointer : String) (members : Entries Json) :
    Compiling Contents :=
  match members.get? "$ref" with
  | some (.string reference) => return .reference reference
  | some _ => flaw pointer .referenceNotText
  | none => return .keywords (← keywords part pointer members)

/-- The contents of a schema, given what compiles its parts. -/
def contents (part : Part) (pointer : String) : Json → Compiling Contents
  | .bool b => return .bool b
  | .object members => do
    definitionsOf part pointer (Entries.get? members "definitions")
    referenceOrKeywords part pointer members
  | _ => flaw pointer .notSchema

/-- Puts the contents of a schema into its slot; a reference has to wait. -/
def close (slot : Slot) (base : Uri) : Contents → Compiling Unit
  | .bool b => fill slot (.bool b)
  | .reference text => do postpone slot (← join base text)
  | .keywords list => fill slot (.keywords list)

theorem compileObject_eq (part : Part) (slot : Slot) (scopes : Scopes) (members : Entries Json) :
    compileObject part slot scopes members
      = contents part scopes.pointer (.object members) >>= close slot scopes.base := by
  unfold compileObject
  extract_lets rest
  have hrest : rest () = referenceOrKeywords part scopes.pointer members
      >>= close slot scopes.base := by
    unfold rest referenceOrKeywords
    cases members.get? "$ref" with
    | none => simp only [bind_assoc, pure_bind, close]
    | some json => cases json <;> rfl
  simp only [contents, bind_assoc, ← hrest]
  cases members.get? "definitions" with
  | none => rfl
  | some json => simp only [definitionsOf, bind_assoc, pure_bind]

theorem complete_eq (fuel : Nat) (schema : Json) (slot : Slot) (scopes : Scopes) :
    complete fuel schema slot scopes
      = contents (fun segments json => compileNode fuel json (scopes.descend segments))
        scopes.pointer schema >>= close slot scopes.base := by
  cases schema with
  | object members => exact compileObject_eq _ slot scopes members
  | bool b => exact (pure_bind (Contents.bool b) (close slot scopes.base)).symm
  | null | number | string | array => rfl

/-- What the contents of a schema have to do with the schema. -/
def Contents.Suits (owns : Slot → Prop) (schema : Json) : Contents → Prop
  | .bool b => schema = .bool b
  | .reference text => schema.get? "$ref" = some (.string text)
  | .keywords list => schema.get? "$ref" = none ∧ OwnAll owns list

theorem walks_definitionsOf (pointer : String) (json : Option Json) :
    Walks (Child.named "definitions" json) (fun _ _ => True)
      fun part => definitionsOf part pointer json := by
  cases json with
  | none => exact Walks.pure fun _ => trivial
  | some json =>
      cases json with
      | object definitions =>
          exact Walks.map (R := fun _ _ => True) (f := fun _ => ())
            (walks_named "definitions" definitions) fun _ _ _ => trivial
      | null | bool | number | string | array => exact Walks.flaw_bind

theorem walks_referenceOrKeywords (pointer : String) (members : Entries Json) :
    Walks (match members.get? "$ref" with
      | some _ => []
      | none => Child.ofKeywords members)
      (fun owns c => c.Suits owns (.object members))
      fun part => referenceOrKeywords part pointer members := by
  unfold referenceOrKeywords
  cases hget : members.get? "$ref" with
  | none => exact (walks_keywords pointer members).map fun owns list hlist => ⟨hget, hlist⟩
  | some json =>
      cases json with
      | string reference => exact Walks.pure fun _ => hget
      | null | bool | number | array | object => exact Walks.flaw

/-- **`walks_contents`** — a schema is compiled with its parts, one after another. -/
theorem walks_contents (pointer : String) (schema : Json) :
    Walks (children schema) (fun owns c => c.Suits owns schema)
      fun part => contents part pointer schema := by
  cases schema with
  | bool b => exact Walks.pure fun _ => rfl
  | null | number | string | array => exact Walks.flaw
  | object members =>
      exact (walks_definitionsOf pointer _).bind fun _ =>
        (walks_referenceOrKeywords pointer members).imp fun _ _ hsuits _ => hsuits

/-- **`compileNode_of_height_lt`** — a schema is compiled the same however many levels there are
beyond those that it nests, so the levels never cut a compilation off. -/
theorem compileNode_of_height_lt {schema : Json} {fuel : Nat} (h : schema.height < fuel)
    (more : Nat) (scopes : Scopes) :
    compileNode (fuel + more) schema scopes = compileNode fuel schema scopes := by
  induction fuel generalizing schema scopes with
  | zero => cases h
  | succ fuel ih =>
      have hcomplete : ∀ slot scopes,
          complete (fuel + more) schema slot scopes = complete fuel schema slot scopes := by
        intro slot scopes
        obtain ⟨s, hrun, hfollows⟩ := walks_contents scopes.pointer schema
        rw [complete_eq, complete_eq]
        simp only [hrun]
        refine congrArg (· >>= _) (Script.run_congr (hfollows _) fun child hchild => ?_)
        exact ih (lt_of_lt_of_le (height_lt_of_mem_children hchild) (Nat.le_of_lt_succ h)) _
      rw [Nat.add_right_comm, compileNode_succ, compileNode_succ]
      simp only [hcomplete]

end Compiling

end JsonQuery.Schema
