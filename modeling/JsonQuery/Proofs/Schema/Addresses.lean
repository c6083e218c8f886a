/-
# JsonQuery.Proofs.Schema.Addresses — what the addresses in the index stand for.

A reference is resolved through the index, or by walking the document that is registered under its
address.  The two tables are kept by different rules: a later entry of the index counts, and the
first document that is registered.  An entry of the index is always right about some document that
an identifier has opened under the address, so it can be wrong about the registered one only where
identifiers open an address again for another schema, or name a place that the document gives to
another one.  Where no identifier does, both ways lead to the same schema.
-/
import JsonQuery.Proofs.Schema.Rounds

namespace JsonQuery.Schema

namespace Stage

/-! ## Documents that an address has stood for -/

/-- **`s.Opens address document`** — a document is registered under an address, or an identifier has
opened the address for it. -/
def Opens (s : Stage) (address : String) (document : Json) : Prop :=
  s.documents.lookup address = some document ∨ ∃ o ∈ s.origins, ∃ base,
    o.identity? = some (.document base) ∧ base.toText = address ∧ o.schema = document

/-- **`s.Places address schema`** — a schema is at a place of a document that its address has stood
for. -/
def Places (s : Stage) (address : Address) (schema : Json) : Prop :=
  ∃ document, s.Opens address.1 document ∧ document.pointer? address.2 = some schema

/-- **`s.Backs address slot`** — the origin of a slot is named by an address, or placed there. -/
def Backs (s : Stage) (address : Address) (slot : Slot) : Prop :=
  ∃ o, s.origins[slot]? = some o ∧ (o.identity? = some (.place address) ∨ s.Places address o.schema)

/-- What has to hold of a task for its addresses to be right. -/
def Allows (s : Stage) : Task → Prop
  | .schema o => o.schema.isProper = true ∧ ∀ scope ∈ o.scopes.all, s.Places scope.address o.schema
  | .register _ document => document.isProper = true
  | .enter address slot => s.Backs address slot
  | .refer _ _ _ | .find _ => True

/-- All addresses of a stage are right, those in the index and those of tasks. -/
structure Backed (s : Stage) : Prop where
  index : ∀ entry ∈ s.index, s.Backs entry.1 entry.2
  documents : ∀ entry ∈ s.documents, entry.2.isProper = true
  agenda : ∀ task ∈ s.agenda, s.Allows task

variable {resolver : Resolver} {s t : Stage}

/-! ## What stays -/

theorem Opens.step (h : Step resolver s t) {address : String} {document : Json}
    (hopens : s.Opens address document) : t.Opens address document := by
  rcases hopens with hlookup | ⟨o, ho, hdocument⟩
  · exact .inl (h.lookup_documents hlookup)
  · exact .inr ⟨o, h.origins_grow.subset ho, hdocument⟩

theorem Places.step (h : Step resolver s t) {address : Address} {schema : Json}
    (hplaces : s.Places address schema) : t.Places address schema := by
  obtain ⟨document, hopens, hpointer⟩ := hplaces
  exact ⟨document, hopens.step h, hpointer⟩

theorem Backs.step (h : Step resolver s t) {address : Address} {slot : Slot}
    (hbacks : s.Backs address slot) : t.Backs address slot := by
  obtain ⟨o, hslot, hright⟩ := hbacks
  exact ⟨o, getElem?_origins (.single h) hslot, hright.imp_right (.step h)⟩

theorem Allows.step (h : Step resolver s t) {task : Task} (hallows : s.Allows task) :
    t.Allows task := by
  cases task with
  | schema o => exact ⟨hallows.1, fun scope hscope => (hallows.2 scope hscope).step h⟩
  | enter address slot => exact Backs.step h hallows
  | register | refer | find => exact hallows

/-! ## Steps -/

/-- What a pointer leads to from a place, is placed there. -/
theorem Places.descend {scope : Scope} {schema value : Json} {segments : List String}
    (h : s.Places scope.address schema) (hvalue : schema.follow? segments = some value) :
    s.Places (scope.descend segments).address value := by
  obtain ⟨document, hopens, hpointer⟩ := h
  refine ⟨document, hopens, ?_⟩
  change document.pointer? (Json.pointerBelow scope.pointer segments) = some value
  change document.pointer? scope.pointer = some schema at hpointer
  rw [Json.pointer?_pointerBelow, hpointer]
  exact hvalue

/-- The document that an identifier opens has its schema at its root. -/
theorem places_inner {o : Origin} {identity : Identity} (hidentity : o.identity? = some identity)
    (ho : o ∈ t.origins) (hplaces : ∀ scope ∈ o.scopes.all, t.Places scope.address o.schema) :
    ∀ scope ∈ (o.inner identity).all, t.Places scope.address o.schema := by
  cases identity with
  | absent | place => exact hplaces
  | document base =>
      intro scope hscope
      simp only [Origin.inner, Scopes.all_openDocument, List.mem_append,
        List.mem_singleton] at hscope
      rcases hscope with hscope | rfl
      · exact hplaces scope hscope
      · have hbase := Origin.withoutFragment_of_identity? hidentity
        exact ⟨o.schema, .inr ⟨o, ho, base, hidentity, congrArg Uri.toText hbase.symm, rfl⟩, rfl⟩

theorem isProper_of_mem_children {schema : Json} {child : Child} (hproper : schema.isProper = true)
    (h : child ∈ children schema) : child.2.isProper = true := by
  have hpointer : schema.pointer? (Json.pointerBelow "" child.1) = some child.2 := by
    rw [Json.pointer?_pointerBelow]
    exact follow?_of_mem_children hproper h
  exact Json.everywhere_pointer? hproper hpointer

/-- The tasks for a schema are right where the schema stands at its places. -/
theorem allows_tasks {o : Origin} {slot : Slot} {identity : Identity}
    (hidentity : o.identity? = some identity) (hslot : t.origins[slot]? = some o)
    (hproper : o.schema.isProper = true)
    (hplaces : ∀ scope ∈ o.scopes.all, t.Places scope.address o.schema) :
    ∀ task ∈ o.tasks slot identity, t.Allows task := by
  have hinner := places_inner hidentity (List.mem_of_getElem? hslot) hplaces
  intro task htask
  rcases Origin.mem_tasks htask with ⟨address, rfl, rfl⟩ | ⟨base, rfl, rfl⟩
    | ⟨scope, hscope, rfl⟩ | ⟨child, hchild, rfl⟩ | ⟨text, rfl⟩
  · exact ⟨o, hslot, .inl hidentity⟩
  · exact hproper
  · exact ⟨o, hslot, .inr (hinner scope hscope)⟩
  · refine ⟨isProper_of_mem_children hproper hchild, fun scope hscope => ?_⟩
    rw [Scopes.all_descend] at hscope
    obtain ⟨above, habove, rfl⟩ := List.mem_map.mp hscope
    exact (hinner above habove).descend (follow?_of_mem_children hproper hchild)
  · trivial

/-- A schema that is compiled for a target stands where the target points to. -/
theorem allows_schema (base : Uri) {pointer : String} {document schema : Json}
    (hdocument : t.documents.lookup base.withoutFragment.toText = some document)
    (hproper : document.isProper = true) (hpointer : document.pointer? pointer = some schema) :
    t.Allows (.schema ⟨schema, ⟨⟨base.withoutFragment, pointer⟩, []⟩⟩) := by
  refine ⟨Json.everywhere_pointer? hproper hpointer, fun scope hscope => ?_⟩
  obtain rfl := List.mem_singleton.mp hscope
  refine ⟨document, .inl ?_, hpointer⟩
  simpa only [Scope.address, withoutFragment_withoutFragment] using hdocument

/-- **`Backed.step`** — steps keep all addresses right. -/
theorem Backed.step (hresolver : ∀ address document, resolver address = some document →
      document.isProper = true) (hs : s.Backed) (h : Step resolver s t) : t.Backed := by
  have hindex : ∀ entry ∈ s.index, t.Backs entry.1 entry.2 := fun entry hentry =>
    (hs.index entry hentry).step h
  have htasks : ∀ task ∈ s.agenda, t.Allows task := fun task htask => (hs.agenda task htask).step h
  cases h with
  | @schema o identity rest hagenda hidentity =>
      rw [hagenda] at htasks
      obtain ⟨⟨hproper, hplaces⟩, hrest⟩ := List.forall_mem_cons.mp htasks
      refine ⟨hindex, hs.documents, fun task htask => ?_⟩
      rcases List.mem_append.mp htask with hnew | hold
      · exact allows_tasks hidentity (by simp) hproper hplaces task hnew
      · exact hrest task hold
  | registered hagenda _ =>
      rw [hagenda] at htasks
      exact ⟨hindex, hs.documents, (List.forall_mem_cons.mp htasks).2⟩
  | register hagenda _ =>
      rw [hagenda] at htasks
      obtain ⟨hproper, hrest⟩ := List.forall_mem_cons.mp htasks
      exact ⟨hindex, List.forall_mem_cons.mpr ⟨hproper, hs.documents⟩, hrest⟩
  | enter hagenda =>
      rw [hagenda] at htasks
      obtain ⟨hbacks, hrest⟩ := List.forall_mem_cons.mp htasks
      exact ⟨List.forall_mem_cons.mpr ⟨hbacks, hindex⟩, hs.documents, hrest⟩
  | refer hagenda _ =>
      rw [hagenda] at htasks
      exact ⟨hindex, hs.documents, (List.forall_mem_cons.mp htasks).2⟩
  | found hagenda _ =>
      rw [hagenda] at htasks
      exact ⟨hindex, hs.documents, (List.forall_mem_cons.mp htasks).2⟩
  | part hagenda _ hdocument hpointer =>
      rw [hagenda] at htasks
      obtain ⟨before, behind, hdocuments, -⟩ := List.lookup_eq_some_iff.mp hdocument
      have hproper := hs.documents _ (hdocuments ▸ List.mem_append_right before List.mem_cons_self)
      exact ⟨hindex, hs.documents, List.forall_mem_cons.mpr
        ⟨allows_schema _ hdocument hproper hpointer, (List.forall_mem_cons.mp htasks).2⟩⟩
  | load hagenda _ _ hloaded =>
      rw [hagenda] at htasks
      have hproper := hresolver _ _ hloaded
      exact ⟨hindex, List.forall_mem_cons.mpr ⟨hproper, hs.documents⟩, List.forall_mem_cons.mpr
        ⟨allows_schema _ List.lookup_cons_self hproper rfl, htasks⟩⟩
  | settle hagenda _ =>
      exact ⟨hindex, hs.documents, List.forall_mem_singleton.mpr trivial⟩

theorem backed_start {document : Json} (hproper : document.isProper = true) :
    (start document).Backed := by
  refine ⟨by simp [start], by simpa [start] using hproper, List.forall_mem_singleton.mpr ?_⟩
  exact allows_schema defaultBase List.lookup_cons_self hproper rfl

/-- All addresses of the stages of a compilation are right. -/
theorem backed_of_passes {document : Json} (hproper : document.isProper = true)
    (hresolver : ∀ address loaded, resolver address = some loaded → loaded.isProper = true)
    (h : s.Passes resolver document) : s.Backed := by
  induction h with
  | refl => exact backed_start hproper
  | tail _ hstep ih => exact ih.step hresolver hstep

end Stage

/-! ## Both ways to resolve a reference -/

/-- **`schema_of_lookup`** — every point between two rounds of a compilation is that of a stage, and
at every stage a slot that the index has for a place of a registered document has been compiled from
what the document has there, if no identifier opens the address of the document for another schema
and none names the place for another schema.  With such identifiers a reference can mean something
else through the index than through the document. -/
theorem schema_of_lookup {resolver : Resolver} {document : Json}
    (hproper : document.isProper = true)
    (hresolver : ∀ address loaded, resolver address = some loaded → loaded.isProper = true) :
    (∀ p, Compiling.Reached resolver document p → ∃ s : Stage, s.Passes resolver document
      ∧ s.index = p.index ∧ s.documents = p.documents ∧ s.origins.length = p.nodes.size)
    ∧ ∀ s : Stage, s.Passes resolver document → ∀ address pointer slot registered schema,
      s.index.lookup (address, pointer) = some slot →
      s.documents.lookup address = some registered → registered.pointer? pointer = some schema →
      (∀ o ∈ s.origins, ∀ base, o.identity? = some (.document base) → base.toText = address →
        o.schema = registered) →
      (∀ o ∈ s.origins, o.identity? = some (.place (address, pointer)) → o.schema = schema) →
      ∃ o, s.origins[slot]? = some o ∧ o.schema = schema := by
  refine ⟨fun p hp => ?_, ?_⟩
  · obtain ⟨s, hpasses, -, hs⟩ := Compiling.passes_of_reached hp
    exact ⟨s, hpasses, hs.index, hs.documents, hs.size⟩
  · intro s hpasses address pointer slot registered schema hindex hregistered hschema hopens hnames
    obtain ⟨before, behind, hentries, -⟩ := List.lookup_eq_some_iff.mp hindex
    obtain ⟨o, hslot, hright⟩ := (Stage.backed_of_passes hproper hresolver hpasses).index
      ((address, pointer), slot) (by simp [hentries])
    refine ⟨o, hslot, ?_⟩
    have ho := List.mem_of_getElem? hslot
    rcases hright with hplace | ⟨opened, hopened, hpointer⟩
    · exact hnames o ho hplace
    · have hsame : opened = registered := by
        rcases hopened with hlookup | ⟨other, hother, base, hidentity, hbase, rfl⟩
        · exact Option.some.inj (hlookup.symm.trans hregistered)
        · exact hopens other hother base hidentity hbase
      rw [hsame] at hpointer
      exact Option.some.inj (hpointer.symm.trans hschema)

/-- A schema with a named part and with a part that is a document of its own, in which references
are relative to it. -/
def innerDocument : Json :=
  .object [
    ("definitions", .object [
      ("A", .object [("$id", .string "#foo"), ("type", .string "integer")]),
      ("B", .object [
        ("$id", .string "other.json"),
        ("definitions", .object [("X", .object [("type", .string "string")])]),
        ("$ref", .string "#/definitions/X")])]),
    ("properties", .object [("a", .object [("$ref", .string "#foo")])])]

/-- The address of the part that is a document of its own. -/
def innerBase : Uri := { defaultBase with path := .segments ["other.json"] }

/-- The part of the inner document is found under its place in the outer one as well. -/
theorem schema_of_lookup_inner :
    innerDocument.isProper = true ∧ ∃ s : Stage, s.Passes (fun _ => none) innerDocument
      ∧ s.index.lookup (defaultBase.toText, "/definitions/B/definitions/X") = some 3
      ∧ ∃ o, s.origins[3]? = some o
        ∧ innerDocument.pointer? "/definitions/B/definitions/X" = some o.schema := by
  have hproper : innerDocument.isProper = true := by decide +kernel
  have hsome : (innerDocument.pointer? "/definitions/B/definitions/X").isSome = true := by
    decide +kernel
  have hcomputed : ((Stage.start innerDocument).after? (fun _ => none) 20).any (fun s => decide
      (s.index.lookup (defaultBase.toText, "/definitions/B/definitions/X") = some 3
        ∧ ∀ o ∈ s.origins, o.identity? ∈ [some .absent,
          some (.place (defaultBase.toText, "foo")), some (.document innerBase)])) = true := by
    decide +kernel
  obtain ⟨schema, hschema⟩ := Option.isSome_iff_exists.mp hsome
  obtain ⟨s, hpasses, hs⟩ := Stage.exists_passes_of_after? hcomputed
  obtain ⟨hindex, hidentities⟩ := of_decide_eq_true hs
  have hopens : ∀ o ∈ s.origins, ∀ base, o.identity? = some (.document base) →
      base.toText = defaultBase.toText → o.schema = innerDocument := by
    intro o ho base hidentity hbase
    have hmem := hidentities o ho
    simp only [hidentity, List.mem_cons, List.not_mem_nil, or_false, Option.some.injEq,
      reduceCtorEq, Identity.document.injEq, false_or] at hmem
    exact absurd (hmem ▸ hbase) (by decide +kernel)
  have hnames : ∀ o ∈ s.origins,
      o.identity? = some (.place (defaultBase.toText, "/definitions/B/definitions/X")) →
      o.schema = schema := by
    intro o ho hidentity
    have hmem := hidentities o ho
    simp [hidentity] at hmem
  have hresolver : ∀ (address : String) (loaded : Json), none = some loaded →
      loaded.isProper = true := fun _ _ h => nomatch h
  obtain ⟨o, hslot, rfl⟩ := (schema_of_lookup hproper hresolver).2 s hpasses _ _ 3 innerDocument
    schema hindex (Stage.lookup_documents_of_passes hpasses) hschema hopens hnames
  exact ⟨hproper, s, hpasses, hindex, o, hslot, hschema⟩

/-- A schema with a part whose identifier is the address of the schema with a fragment. -/
def reopenedDocument : Json :=
  .object [
    ("$id", .string "schema://example.com/root.json"),
    ("type", .string "object"),
    ("definitions", .object [
      ("A", .object [
        ("$id", .string "schema://example.com/root.json#foo"),
        ("type", .string "integer")])]),
    ("properties", .object [("a", .object [("$ref", .string "#")])])]

/-- The fragment of an identifier that does not begin with it gets lost, so the part takes the
address of the schema over in the index, while the schema stays registered under it.  A reference to
the schema then means the part: a number, which is no object, is accepted. -/
theorem exists_lookup_ne :
    (∃ s : Stage, s.Passes (fun _ => none) reopenedDocument ∧ ∃ slot o registered,
      s.index.lookup ("schema://example.com/root.json", "") = some slot
        ∧ s.documents.lookup "schema://example.com/root.json" = some registered
        ∧ registered.pointer? "" = some registered
        ∧ s.origins[slot]? = some o ∧ o.schema ≠ registered)
    ∧ ∃ schema, compile reopenedDocument = .ok schema
      ∧ schema.isValid (.object [("a", .number (.integer 1))]) {} = true := by
  have hcomputed : ((Stage.start reopenedDocument).after? (fun _ => none) 13).any (fun s =>
      s.index.lookup ("schema://example.com/root.json", "") == some 1
        && (s.documents.lookup "schema://example.com/root.json").any (fun registered =>
          (registered.get? "definitions").isSome)
        && s.origins[1]?.any fun o => (o.schema.get? "definitions").isNone) = true := by
    decide +kernel
  have hvalid : (compile reopenedDocument).toOption.any (fun schema =>
      schema.isValid (.object [("a", .number (.integer 1))]) {}) = true := by decide +kernel
  constructor
  · obtain ⟨s, hpasses, hs⟩ := Stage.exists_passes_of_after? hcomputed
    simp only [Bool.and_eq_true, beq_iff_eq, Option.any_eq_true] at hs
    obtain ⟨⟨hindex, registered, hregistered, hdefinitions⟩, o, hslot, hnone⟩ := hs
    refine ⟨s, hpasses, 1, o, registered, hindex, hregistered, rfl, hslot, fun heq => ?_⟩
    rw [← heq, Option.isNone_iff_eq_none.mp hnone] at hdefinitions
    cases hdefinitions
  · cases hcompile : compile reopenedDocument with
    | error e =>
        rw [hcompile] at hvalid
        cases hvalid
    | ok schema =>
        rw [hcompile] at hvalid
        exact ⟨schema, rfl, hvalid⟩

end JsonQuery.Schema
