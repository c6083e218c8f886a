/-
# JsonQuery.Proofs.Schema.Agenda — a compilation laid out as a list of tasks.

Compiling a schema compiles its parts before it comes back to the schema itself, and settling one
reference may compile whole documents.  Here the same work is laid out flat: what is still to be
done stands in a list of tasks, the next one in front, and a step does one of them.  A stage of the
work has the tables of the compilation, and it knows for every slot what the slot was reserved
for.  No flaw of a schema stops the work, so it comes past every point that a compilation comes
past, and goes on behind those where a compilation stops.
-/
import Mathlib.Logic.Relation
import JsonQuery.Proofs.Schema.Parts

namespace JsonQuery.Schema

/-! ## Addresses without fragments -/

theorem fragment_withoutFragment (uri : Uri) : uri.withoutFragment.fragment = none := by
  unfold Uri.withoutFragment
  split <;> rfl

theorem withoutFragment_withoutFragment (uri : Uri) :
    uri.withoutFragment.withoutFragment = uri.withoutFragment := by
  have hfragment := fragment_withoutFragment uri
  generalize uri.withoutFragment = bare at hfragment ⊢
  obtain ⟨scheme, authority, path, query, fragment⟩ := bare
  obtain rfl : fragment = none := hfragment
  unfold Uri.withoutFragment
  split
  next h => cases h
  next => rfl

/-! ## Places -/

theorem Scopes.all_openDocument (scopes : Scopes) (base : Uri) :
    (scopes.openDocument base).all = scopes.all ++ [⟨base, ""⟩] := rfl

theorem Scopes.all_descend (scopes : Scopes) (segments : List String) :
    (scopes.descend segments).all = scopes.all.map (·.descend segments) := rfl

/-! ## What slots are reserved for -/

/-- What a slot is reserved for: a schema, and the places where it stands. -/
structure Origin where
  schema : Json
  scopes : Scopes

/-- What the identifier of a schema says: nothing if there is none, one more address of the schema,
or that the schema is a document of its own. -/
inductive Identity where
  | absent
  | place (address : Address)
  | document (base : Uri)
  deriving DecidableEq, Repr

/-- A text that is read as an identifier, and the address that it stands for. -/
def Identity.ofJoined (id : String) (joined : Uri) : Identity :=
  if id.startsWith "#" then .place (targetAddress joined) else .document joined.withoutFragment

/-- What is still to be done. -/
inductive Task where
  /-- Reserve a slot for a schema and compile it. -/
  | schema (origin : Origin)
  /-- Register a document unless there is one with its address. -/
  | register (address : String) (document : Json)
  /-- Enter a slot into the index. -/
  | enter (address : Address) (slot : Slot)
  /-- Let a slot wait for what a reference says at a base. -/
  | refer (slot : Slot) (base : Uri) (reference : String)
  /-- Have a slot for a target in the index, or compile what the target points to. -/
  | find (target : Uri)

namespace Origin

/-- The identifier of the schema; none if it cannot be read where the schema stands. -/
def identity? (o : Origin) : Option Identity :=
  match o.schema.get? "$id" with
  | some (.string id) => (o.scopes.base.join id).toOption.map (Identity.ofJoined id)
  | _ => some .absent

/-- The places of the schema, with the document that its identifier opens. -/
def inner (o : Origin) : Identity → Scopes
  | .document base => o.scopes.openDocument base
  | _ => o.scopes

/-- The text of the reference that the schema is, if it is one. -/
def reference? (o : Origin) : Option String := (o.schema.get? "$ref").bind Json.string?

/-- What the schema refers to, if it is a reference. -/
def target? (o : Origin) : Option Uri := do
  let identity ← o.identity?
  let reference ← o.reference?
  ((o.inner identity).base.join reference).toOption

/-- The document that an identifier opens is named without a fragment. -/
theorem withoutFragment_of_identity? {o : Origin} {base : Uri}
    (h : o.identity? = some (.document base)) : base.withoutFragment = base := by
  unfold identity? at h
  split at h
  next id hid =>
    obtain ⟨joined, -, hjoined⟩ := Option.map_eq_some_iff.mp h
    unfold Identity.ofJoined at hjoined
    split at hjoined
    · cases hjoined
    · obtain rfl := Identity.document.inj hjoined
      exact withoutFragment_withoutFragment joined
  next => cases h

/-- What there is to do because of the identifier of a schema. -/
def declarations (o : Origin) (slot : Slot) : Identity → List Task
  | .absent => []
  | .place address => [.enter address slot]
  | .document base => [.register base.toText o.schema]

/-- The addresses of the schema. -/
def entries (slot : Slot) (scopes : List Scope) : List Task :=
  scopes.map fun scope => .enter scope.address slot

/-- The parts of the schema, which stand below its places. -/
def parts (scopes : Scopes) (list : List Child) : List Task :=
  list.map fun child => .schema ⟨child.2, scopes.descend child.1⟩

/-- The reference of the schema. -/
def references (o : Origin) (slot : Slot) (base : Uri) : List Task :=
  (o.reference?.map (Task.refer slot base)).toList

/-- All that there is to do for a schema that has a slot. -/
def tasks (o : Origin) (slot : Slot) (identity : Identity) : List Task :=
  o.declarations slot identity ++ (entries slot (o.inner identity).all
    ++ (parts (o.inner identity) (children o.schema)
      ++ o.references slot (o.inner identity).base))

/-- The tasks for a schema, one kind after another. -/
theorem mem_tasks {o : Origin} {slot : Slot} {identity : Identity} {task : Task}
    (h : task ∈ o.tasks slot identity) :
    (∃ address, identity = .place address ∧ task = .enter address slot)
    ∨ (∃ base, identity = .document base ∧ task = .register base.toText o.schema)
    ∨ (∃ scope ∈ (o.inner identity).all, task = .enter scope.address slot)
    ∨ (∃ child ∈ children o.schema,
        task = .schema ⟨child.2, (o.inner identity).descend child.1⟩)
    ∨ ∃ text, task = .refer slot (o.inner identity).base text := by
  simp only [tasks, List.mem_append] at h
  rcases h with hdeclaration | hentry | hpart | hreference
  · cases identity with
    | absent => cases hdeclaration
    | place address => exact .inl ⟨address, rfl, List.mem_singleton.mp hdeclaration⟩
    | document base => exact .inr (.inl ⟨base, rfl, List.mem_singleton.mp hdeclaration⟩)
  · obtain ⟨scope, hscope, rfl⟩ := List.mem_map.mp hentry
    exact .inr (.inr (.inl ⟨scope, hscope, rfl⟩))
  · obtain ⟨child, hchild, rfl⟩ := List.mem_map.mp hpart
    exact .inr (.inr (.inr (.inl ⟨child, hchild, rfl⟩)))
  · obtain ⟨text, -, rfl⟩ := Option.map_eq_some_iff.mp (Option.mem_toList.mp hreference)
    exact .inr (.inr (.inr (.inr ⟨text, rfl⟩)))

end Origin

/-! ## Stages -/

/-- A stage of a compilation: what the slots so far are reserved for, the tables, and what is still
to be done before the next waiting reference. -/
structure Stage where
  origins : List Origin := []
  index : List (Address × Slot) := []
  documents : List (String × Json) := []
  waiting : List (Slot × Uri) := []
  agenda : List Task := []

namespace Stage

/-- The stage where a compilation begins: the document is registered and has to be compiled. -/
def start (document : Json) : Stage :=
  { documents := [(defaultBase.toText, document)],
    agenda := [.schema ⟨document, ⟨⟨defaultBase, ""⟩, []⟩⟩] }

/-- Starts what a target needs that is not in the index: the part of its document, or the document
itself and then the target once more. -/
def compileTarget? (resolver : Resolver) (s : Stage) (target : Uri) (rest : List Task) :
    Option Stage :=
  match s.documents.lookup target.withoutFragment.toText with
  | some document => (document.pointer? target.decodedFragment).map fun schema =>
    { s with agenda := .schema ⟨schema, ⟨⟨target.withoutFragment, target.decodedFragment⟩, []⟩⟩
        :: rest }
  | none => (resolver target.withoutFragment.toText).map fun document =>
    { s with
      documents := (target.withoutFragment.toText, document) :: s.documents
      agenda := .schema ⟨document, ⟨⟨target.withoutFragment, ""⟩, []⟩⟩ :: .find target :: rest }

/-- Does the next task; without one, the next waiting reference is looked for. -/
def step? (resolver : Resolver) (s : Stage) : Option Stage :=
  match s.agenda with
  | .schema o :: rest => o.identity?.map fun identity =>
    { s with origins := s.origins ++ [o], agenda := o.tasks s.origins.length identity ++ rest }
  | .register address document :: rest =>
    if (s.documents.lookup address).isSome then some { s with agenda := rest }
    else some { s with documents := (address, document) :: s.documents, agenda := rest }
  | .enter address slot :: rest =>
    some { s with index := (address, slot) :: s.index, agenda := rest }
  | .refer slot base reference :: rest => (base.join reference).toOption.map fun target =>
    { s with waiting := (slot, target) :: s.waiting, agenda := rest }
  | .find target :: rest =>
    if (s.index.lookup (targetAddress target)).isSome then some { s with agenda := rest }
    else s.compileTarget? resolver target rest
  | [] =>
    match s.waiting with
    | (_, target) :: rest => some { s with waiting := rest, agenda := [.find target] }
    | [] => none

/-- A number of steps. -/
def after? (resolver : Resolver) : Nat → Stage → Option Stage
  | 0, s => some s
  | n + 1, s => (s.step? resolver).bind (after? resolver n)

/-- **`Step resolver s t`** — what one step can do, with all that it depends on. -/
inductive Step (resolver : Resolver) (s : Stage) : Stage → Prop where
  | schema {o : Origin} {identity : Identity} {rest : List Task} :
      s.agenda = .schema o :: rest → o.identity? = some identity →
      Step resolver s { s with
        origins := s.origins ++ [o], agenda := o.tasks s.origins.length identity ++ rest }
  | registered {address : String} {document : Json} {rest : List Task} :
      s.agenda = .register address document :: rest → (s.documents.lookup address).isSome →
      Step resolver s { s with agenda := rest }
  | register {address : String} {document : Json} {rest : List Task} :
      s.agenda = .register address document :: rest → s.documents.lookup address = none →
      Step resolver s { s with documents := (address, document) :: s.documents, agenda := rest }
  | enter {address : Address} {slot : Slot} {rest : List Task} :
      s.agenda = .enter address slot :: rest →
      Step resolver s { s with index := (address, slot) :: s.index, agenda := rest }
  | refer {slot : Slot} {base target : Uri} {reference : String} {rest : List Task} :
      s.agenda = .refer slot base reference :: rest → base.join reference = .ok target →
      Step resolver s { s with waiting := (slot, target) :: s.waiting, agenda := rest }
  | found {target : Uri} {rest : List Task} :
      s.agenda = .find target :: rest → (s.index.lookup (targetAddress target)).isSome →
      Step resolver s { s with agenda := rest }
  | part {target : Uri} {document schema : Json} {rest : List Task} :
      s.agenda = .find target :: rest → s.index.lookup (targetAddress target) = none →
      s.documents.lookup target.withoutFragment.toText = some document →
      document.pointer? target.decodedFragment = some schema →
      Step resolver s { s with
        agenda := .schema ⟨schema, ⟨⟨target.withoutFragment, target.decodedFragment⟩, []⟩⟩ :: rest }
  | load {target : Uri} {document : Json} {rest : List Task} :
      s.agenda = .find target :: rest → s.index.lookup (targetAddress target) = none →
      s.documents.lookup target.withoutFragment.toText = none →
      resolver target.withoutFragment.toText = some document →
      Step resolver s { s with
        documents := (target.withoutFragment.toText, document) :: s.documents
        agenda := .schema ⟨document, ⟨⟨target.withoutFragment, ""⟩, []⟩⟩ :: .find target :: rest }
  | settle {slot : Slot} {target : Uri} {rest : List (Slot × Uri)} :
      s.agenda = [] → s.waiting = (slot, target) :: rest →
      Step resolver s { s with waiting := rest, agenda := [.find target] }

variable {resolver : Resolver} {s t : Stage}

theorem toOption_eq_some {base : Uri} {text : String} {uri : Uri} :
    (base.join text).toOption = some uri ↔ base.join text = .ok uri := by
  cases base.join text with
  | ok joined => simp [Except.toOption]
  | error fault => simp [Except.toOption]

theorem Step.of_compileTarget? {target : Uri} {rest : List Task}
    (hagenda : s.agenda = .find target :: rest)
    (hindex : s.index.lookup (targetAddress target) = none)
    (h : s.compileTarget? resolver target rest = some t) : Step resolver s t := by
  unfold compileTarget? at h
  split at h
  next document hdocument =>
    obtain ⟨schema, hschema, rfl⟩ := Option.map_eq_some_iff.mp h
    exact .part hagenda hindex hdocument hschema
  next hdocument =>
    obtain ⟨document, hresolver, rfl⟩ := Option.map_eq_some_iff.mp h
    exact .load hagenda hindex hdocument hresolver

/-- The steps that are computed are steps. -/
theorem Step.of_step? (h : s.step? resolver = some t) : Step resolver s t := by
  unfold step? at h
  split at h
  next o rest hagenda =>
    obtain ⟨identity, hidentity, rfl⟩ := Option.map_eq_some_iff.mp h
    exact .schema hagenda hidentity
  next address document rest hagenda =>
    split at h
    next hknown =>
      obtain rfl := Option.some.inj h
      exact .registered hagenda hknown
    next hnew =>
      obtain rfl := Option.some.inj h
      exact .register hagenda (Option.not_isSome_iff_eq_none.mp hnew)
  next address slot rest hagenda =>
    obtain rfl := Option.some.inj h
    exact .enter hagenda
  next slot base reference rest hagenda =>
    obtain ⟨target, htarget, rfl⟩ := Option.map_eq_some_iff.mp h
    exact .refer hagenda (toOption_eq_some.mp htarget)
  next target rest hagenda =>
    split at h
    next hfound =>
      obtain rfl := Option.some.inj h
      exact .found hagenda hfound
    next hmissing =>
      exact .of_compileTarget? hagenda (Option.not_isSome_iff_eq_none.mp hmissing) h
  next hagenda =>
    split at h
    next slot target rest hwaiting =>
      obtain rfl := Option.some.inj h
      exact .settle hagenda hwaiting
    next => cases h

/-- Every step is computed, so there is at most one. -/
theorem Step.step? (h : Step resolver s t) : s.step? resolver = some t := by
  cases h with
  | schema hagenda hidentity => simp [Stage.step?, hagenda, hidentity]
  | registered hagenda hknown => simp only [Stage.step?, hagenda, hknown, if_true]
  | register hagenda hnew => simp [Stage.step?, hagenda, hnew]
  | enter hagenda => simp [Stage.step?, hagenda]
  | refer hagenda htarget => simp [Stage.step?, hagenda, htarget, Except.toOption]
  | found hagenda hfound => simp only [Stage.step?, hagenda, hfound, if_true]
  | part hagenda hindex hdocument hpointer =>
      simp [Stage.step?, compileTarget?, hagenda, hindex, hdocument, hpointer]
  | load hagenda hindex hdocument hresolver =>
      simp [Stage.step?, compileTarget?, hagenda, hindex, hdocument, hresolver]
  | settle hagenda hwaiting => simp [Stage.step?, hagenda, hwaiting]

/-- **`Passes resolver document s`** — compiling a document comes past a stage. -/
def Passes (resolver : Resolver) (document : Json) (s : Stage) : Prop :=
  Relation.ReflTransGen (Step resolver) (start document) s

/-- **`Ends resolver document s`** — compiling a document comes to a stage where nothing is left to
do. -/
structure Ends (resolver : Resolver) (document : Json) (s : Stage) : Prop where
  passes : s.Passes resolver document
  agenda : s.agenda = []
  waiting : s.waiting = []

theorem Ends.not_step {document : Json} (h : s.Ends resolver document) : ¬ Step resolver s t := by
  intro hstep
  have hcomputed := hstep.step?
  simp [Stage.step?, h.agenda, h.waiting] at hcomputed

/-- There is one last stage at most. -/
theorem Ends.unique {document : Json} (hs : s.Ends resolver document)
    (ht : t.Ends resolver document) : s = t := by
  have hright : Relator.RightUnique (Step resolver) := fun u v w hv hw =>
    Option.some.inj (hv.step?.symm.trans hw.step?)
  have hlast : ∀ {u v : Stage}, u.Ends resolver document →
      Relation.ReflTransGen (Step resolver) u v → u = v := by
    intro u v hu hsteps
    rcases hsteps.cases_head with heq | ⟨w, hstep, -⟩
    · exact heq
    · exact absurd hstep hu.not_step
  rcases Relation.ReflTransGen.total_of_right_unique hright hs.passes ht.passes with h | h
  · exact hlast hs h
  · exact (hlast ht h).symm

theorem steps_of_after? {n : Nat} (h : s.after? resolver n = some t) :
    Relation.ReflTransGen (Step resolver) s t := by
  induction n generalizing s with
  | zero =>
      obtain rfl := Option.some.inj h
      exact .refl
  | succ n ih =>
      obtain ⟨middle, hstep, hrest⟩ := Option.bind_eq_some_iff.mp h
      exact .head (.of_step? hstep) (ih hrest)

/-- What can be computed of the stage after a number of steps holds of a stage that is passed. -/
theorem exists_passes_of_after? {document : Json} {n : Nat} {check : Stage → Bool}
    (h : ((start document).after? resolver n).any check = true) :
    ∃ s : Stage, s.Passes resolver document ∧ check s = true := by
  cases hafter : (start document).after? resolver n with
  | none =>
      rw [hafter] at h
      cases h
  | some s =>
      rw [hafter] at h
      exact ⟨s, steps_of_after? hafter, h⟩

/-- What is reserved stays as it is. -/
theorem Step.origins_grow (h : Step resolver s t) : s.origins <+: t.origins := by
  cases h with
  | schema => exact List.prefix_append _ _
  | registered | register | enter | refer | found | part | load | settle =>
      exact List.prefix_refl _

/-- A registered document stays what it is. -/
theorem Step.lookup_documents (h : Step resolver s t) {address : String} {document : Json}
    (hdocument : s.documents.lookup address = some document) :
    t.documents.lookup address = some document := by
  have hcons : ∀ {new : String} {other : Json}, s.documents.lookup new = none →
      ((new, other) :: s.documents).lookup address = some document := by
    intro new other hnew
    have hne : address ≠ new := by
      rintro rfl
      rw [hnew] at hdocument
      cases hdocument
    rw [List.lookup_cons, beq_eq_false_iff_ne.mpr hne]
    exact hdocument
  cases h with
  | register _ hnew => exact hcons hnew
  | load _ _ hnew _ => exact hcons hnew
  | schema | registered | enter | refer | found | part | settle => exact hdocument

theorem lookup_documents_of_passes {document : Json} (h : s.Passes resolver document) :
    s.documents.lookup defaultBase.toText = some document := by
  induction h with
  | refl => exact List.lookup_cons_self
  | tail _ hstep ih => exact hstep.lookup_documents ih

end Stage

end JsonQuery.Schema
