/-
# JsonQuery.Proofs.Path.Descent — all nodes below the root, each once and in document order.

The path `$..*` goes through the containers of a document and from each of them to its children.
The walk over values is first shown to be a walk over the document itself (`containersTo`), of which
it is then said which parts it comes by and in which order: those of a limited depth, and a
container before all that is inside of it, which comes before all that is beside it further on
(`Precedes`).
-/
import JsonQuery.Proofs.Path.RootCache
import JsonQuery.Proofs.Path.Position

namespace JsonQuery

open Location (Element part? part?_cons part?_append)

/-! ## Going down a document -/

namespace Json

/-- The parts one step down a document, in order, with what a location calls them. -/
def parts : Json → List (Element × Json)
  | .array items => items.zipIdx.map fun item => (.index item.2, item.1)
  | .object members => members.map fun entry => (.name entry.1, entry.2)
  | .null | .bool _ | .number _ | .string _ => []

/-- Whether a document is an array or an object. -/
def isContainer : Json → Bool
  | .array _ | .object _ => true
  | .null | .bool _ | .number _ | .string _ => false

/-- The document itself, if it is a container. -/
def selfIfContainer (json : Json) : List (Location × Json) :=
  if json.isContainer then [([], json)] else []

/-- **`json.containersTo depth`** — the containers at and below the root of a document down to a
depth, each with its location and before those inside of it. -/
def containersTo : Nat → Json → List (Location × Json)
  | 0, json => json.selfIfContainer
  | depth + 1, json =>
    json.selfIfContainer ++ json.parts.flatMap fun p =>
      (containersTo depth p.2).map fun c => (p.1 :: c.1, c.2)

/-- The parts of the containers down to a depth, container by container. -/
def partsTo (depth : Nat) (json : Json) : List (Location × Json) :=
  (json.containersTo depth).flatMap fun c => c.2.parts.map fun p => (c.1 ++ [p.1], p.2)

variable {json part : Json} {e : Element} {l : Location}

theorem mem_parts (hproper : json.isProper = true) :
    (e, part) ∈ json.parts ↔ e.part? json = some part := by
  cases json with
  | null | bool | number | string => cases e <;> simp [parts, Element.part?]
  | array items =>
      cases e with
      | name s => simp [parts, Element.part?]
      | index i => simp [parts, Element.part?, List.mem_zipIdx_iff_getElem?, Prod.exists]
  | object members =>
      cases e with
      | index i => simp [parts, Element.part?]
      | name s =>
          have hmem : (Element.name s, part) ∈ (Json.object members).parts
              ↔ (s, part) ∈ members := by
            simp [parts]
          rw [hmem]
          exact ⟨Entries.get?_of_mem (names_nodup hproper), Entries.mem_of_get?⟩

/-- No two parts of a document are called the same. -/
theorem nodup_parts (hproper : json.isProper = true) : (json.parts.map (·.1)).Nodup := by
  cases json with
  | null | bool | number | string => exact List.nodup_nil
  | array items =>
      have hindices : (Json.array items).parts.map (·.1)
          = (List.range items.length).map Element.index := by
        rw [parts, List.map_map, List.range_eq_range', ← List.zipIdx_map_snd, List.map_map]
        rfl
      rw [hindices]
      exact List.nodup_range.map fun i j h => Element.index.inj h
  | object members =>
      have hnames : (Json.object members).parts.map (·.1)
          = (Entries.names members).map Element.name := by
        rw [parts, List.map_map, Entries.names, List.map_map]
        rfl
      rw [hnames]
      exact (names_nodup hproper).map fun s t h => Element.name.inj h

theorem isContainer_of_part? (h : e.part? json = some part) : json.isContainer = true := by
  cases json with
  | array | object => rfl
  | null | bool | number | string => cases e <;> cases h

theorem isProper_part? (hproper : json.isProper = true) (h : e.part? json = some part) :
    part.isProper = true :=
  Element.everywhere_part? hproper h

theorem mem_selfIfContainer : (l, part) ∈ json.selfIfContainer
    ↔ l = [] ∧ part = json ∧ part.isContainer = true := by
  unfold selfIfContainer
  split
  next h =>
    rw [List.mem_singleton, Prod.mk.injEq]
    exact ⟨fun ⟨hl, hpart⟩ => ⟨hl, hpart, hpart ▸ h⟩, fun ⟨hl, hpart, _⟩ => ⟨hl, hpart⟩⟩
  next h =>
    simp only [List.not_mem_nil, false_iff]
    rintro ⟨-, rfl, hpart⟩
    exact h hpart

/-- **`mem_containersTo`** — the walk comes by the containers of a limited depth and by nothing
else. -/
theorem mem_containersTo (hproper : json.isProper = true) {depth : Nat} :
    (l, part) ∈ json.containersTo depth ↔
      l.length ≤ depth ∧ part? l json = some part ∧ part.isContainer = true := by
  induction depth generalizing json l with
  | zero =>
      rw [containersTo, mem_selfIfContainer, Nat.le_zero, List.length_eq_zero_iff]
      refine and_congr_right fun hl => ?_
      subst hl
      exact and_congr_left fun _ => ⟨fun h => h ▸ rfl, fun h => (Option.some.inj h).symm⟩
  | succ depth ih =>
      rw [containersTo, List.mem_append, mem_selfIfContainer]
      simp only [List.mem_flatMap, List.mem_map, Prod.exists, Prod.mk.injEq]
      constructor
      · rintro (⟨rfl, rfl, hpart⟩ | ⟨e, child, hchild, k, found, hfound, rfl, rfl⟩)
        · exact ⟨Nat.zero_le _, rfl, hpart⟩
        · rw [mem_parts hproper] at hchild
          obtain ⟨hdepth, hpart, hcontainer⟩ := (ih (isProper_part? hproper hchild)).mp hfound
          refine ⟨Nat.succ_le_succ hdepth, ?_, hcontainer⟩
          rw [part?_cons, hchild, Option.bind_some, hpart]
      · rintro ⟨hdepth, hpart, hcontainer⟩
        cases l with
        | nil => exact .inl ⟨rfl, (Option.some.inj hpart).symm, hcontainer⟩
        | cons e k =>
            obtain ⟨child, hchild, hpart⟩ := Option.bind_eq_some_iff.mp hpart
            refine .inr ⟨e, child, (mem_parts hproper).mpr hchild, k, part, ?_, rfl, rfl⟩
            exact (ih (isProper_part? hproper hchild)).mpr
              ⟨Nat.le_of_succ_le_succ hdepth, hpart, hcontainer⟩

/-- **`mem_partsTo`** — every part below the root, down to one level more than its container. -/
theorem mem_partsTo (hproper : json.isProper = true) {depth : Nat} :
    (l, part) ∈ json.partsTo depth ↔
      1 ≤ l.length ∧ l.length ≤ depth + 1 ∧ part? l json = some part := by
  simp only [partsTo, List.mem_flatMap, List.mem_map, Prod.exists, Prod.mk.injEq]
  constructor
  · rintro ⟨above, container, hmem, e, child, hchild, rfl, rfl⟩
    obtain ⟨hdepth, habove, -⟩ := (mem_containersTo hproper).mp hmem
    rw [mem_parts (Location.everywhere_part? hproper habove)] at hchild
    rw [List.length_append, List.length_singleton, Location.part?_snoc habove]
    exact ⟨Nat.le_add_left _ _, Nat.succ_le_succ hdepth, hchild⟩
  · rintro ⟨hne, hdepth, hpart⟩
    obtain ⟨above, e, rfl⟩ : ∃ above e, l = above ++ [e] :=
      ⟨l.dropLast, l.getLast (List.ne_nil_of_length_pos hne), (List.dropLast_append_getLast _).symm⟩
    rw [List.length_append, List.length_singleton] at hdepth
    cases habove : part? above json with
    | none =>
        rw [part?_append, habove] at hpart
        cases hpart
    | some container =>
        rw [Location.part?_snoc habove] at hpart
        have hcontainer : (above, container) ∈ json.containersTo depth :=
          (mem_containersTo hproper).mpr
            ⟨Nat.le_of_succ_le_succ hdepth, habove, isContainer_of_part? hpart⟩
        have hproperAbove : container.isProper = true := Location.everywhere_part? hproper habove
        exact ⟨above, container, hcontainer, e, part, (mem_parts hproperAbove).mpr hpart, rfl, rfl⟩

end Json

namespace Location

/-- **`Precedes document l m`** — `l` comes before `m` in the order of a document: a part before all
that is inside of it, and that before all that is inside of a part further on. -/
inductive Precedes : Json → Location → Location → Prop where
  | above {document : Json} (e : Element) (l : Location) : Precedes document [] (e :: l)
  | within {document part : Json} {e : Element} {l m : Location} :
      e.part? document = some part → Precedes part l m → Precedes document (e :: l) (e :: m)
  | beside {document : Json} {e f : Element} (l m : Location) :
      [e, f].Sublist (document.parts.map (·.1)) → Precedes document (e :: l) (f :: m)

variable {document : Json}

theorem Precedes.irrefl (hproper : document.isProper = true) (l : Location) :
    ¬ Precedes document l l := by
  induction l generalizing document with
  | nil => exact nofun
  | cons e rest ih =>
      intro h
      cases h with
      | within hpart hrest => exact ih (Json.isProper_part? hproper hpart) hrest
      | beside _ _ htwice => exact List.nodup_iff_sublist.mp (Json.nodup_parts hproper) e htwice

end Location

namespace Json

open Location (Precedes)

variable {json : Json}

theorem pairwise_parts (json : Json) :
    json.parts.Pairwise fun p q => [p.1, q.1].Sublist (json.parts.map (·.1)) :=
  List.pairwise_map.mp (List.pairwise_iff_forall_sublist.mpr fun h => h)

theorem pairwise_selfIfContainer (json : Json) :
    json.selfIfContainer.Pairwise fun c d => Precedes json c.1 d.1 := by
  rw [selfIfContainer]
  split
  · exact List.pairwise_singleton _ _
  · exact .nil

/-- **`pairwise_containersTo`** — the walk comes by the containers in the order of the document. -/
theorem pairwise_containersTo (hproper : json.isProper = true) (depth : Nat) :
    (json.containersTo depth).Pairwise fun c d => Precedes json c.1 d.1 := by
  induction depth generalizing json with
  | zero => exact pairwise_selfIfContainer json
  | succ depth ih =>
      rw [containersTo, List.pairwise_append, List.pairwise_flatMap]
      refine ⟨pairwise_selfIfContainer json, ⟨fun p hp => ?_, ?_⟩, ?_⟩
      · -- Inside of a part the order is that of the part.
        have hpart : p.1.part? json = some p.2 := (mem_parts hproper).mp hp
        rw [List.pairwise_map]
        exact (ih (isProper_part? hproper hpart)).imp fun h => .within hpart h
      · refine (pairwise_parts json).imp fun hbeside c hc d hd => ?_
        obtain ⟨c, -, rfl⟩ := List.mem_map.mp hc
        obtain ⟨d, -, rfl⟩ := List.mem_map.mp hd
        exact .beside _ _ hbeside
      · rintro ⟨l, part⟩ hroot d hd
        obtain ⟨rfl, -, -⟩ := mem_selfIfContainer.mp hroot
        obtain ⟨p, -, hd⟩ := List.mem_flatMap.mp hd
        obtain ⟨d, -, rfl⟩ := List.mem_map.mp hd
        exact .above _ _

/-- No part is come by twice. -/
theorem nodup_partsTo (hproper : json.isProper = true) (depth : Nat) :
    ((json.partsTo depth).map (·.1)).Nodup := by
  rw [partsTo, List.map_flatMap, List.nodup_flatMap]
  constructor
  · rintro ⟨l, part⟩ hpart
    have hproperPart : part.isProper = true :=
      Location.everywhere_part? hproper ((mem_containersTo hproper).mp hpart).2.1
    have hcalled : (part.parts.map fun p => (l ++ [p.1], p.2)).map (·.1)
        = (part.parts.map (·.1)).map fun e => l ++ [e] := by
      rw [List.map_map, List.map_map]
      rfl
    rw [hcalled]
    exact (nodup_parts hproperPart).map fun e f h =>
      List.singleton_inj.mp (List.append_cancel_left h)
  · refine (pairwise_containersTo hproper depth).imp fun {c d} hprecedes l hc hd => ?_
    -- A location tells the container that it was come by from.
    simp only [List.map_map, List.mem_map, Function.comp_apply] at hc hd
    obtain ⟨p, -, rfl⟩ := hc
    obtain ⟨q, -, hsame⟩ := hd
    rw [(List.append_inj' hsame rfl).1] at hprecedes
    exact Precedes.irrefl hproper _ hprecedes

end Json

/-! ## The walk over values -/

namespace Node

theorem itemNodes_ofItems (n : Node) (i : Nat) (items : List Json) :
    n.itemNodes i (Value.ofItems items)
      = (items.zipIdx i).map fun item => n.below (.index item.2) (.ofJson item.1) := by
  induction items generalizing i with
  | nil => rfl
  | cons item rest ih => rw [Value.ofItems, itemNodes, ih, List.zipIdx_cons, List.map_cons]

/-- The children of the value of a document are its parts. -/
theorem children_ofJson (l : Location) (json : Json) :
    children ⟨l, .ofJson json⟩ = json.parts.map fun p => ⟨l ++ [p.1], .ofJson p.2⟩ := by
  cases json with
  | null | bool | number | string => simp only [children, Value.ofJson]; rfl
  | array items =>
      simp only [children, Value.ofJson]
      rw [itemNodes_ofItems, Json.parts, List.map_map]
      rfl
  | object members =>
      simp only [children, Value.ofJson, entryNodes]
      rw [Value.ofMembers_eq_map, Json.parts, List.map_map, List.map_map]
      rfl

theorem containersInItems_zero (l : Location) (i : Nat) (items : List Value) :
    containersInItems 0 l i items = [] := by
  induction items generalizing i with
  | nil => rfl
  | cons item rest ih => rw [containersInItems, ih, List.nil_append]

theorem containersInItems_succ (n : Node) (depth i : Nat) (items : List Value) :
    containersInItems (depth + 1) n.location i items
      = (n.itemNodes i items).flatMap (·.containers depth) := by
  induction items generalizing i with
  | nil => rfl
  | cons item rest ih =>
      rw [containersInItems, ih]
      rfl

theorem containersInEntries_zero (l : Location) (entries : Entries Value) :
    containersInEntries 0 l entries = [] := by
  induction entries with
  | nil => rfl
  | cons entry rest ih => rw [containersInEntries, ih, List.nil_append]

theorem containersInEntries_succ (n : Node) (depth : Nat) (entries : Entries Value) :
    containersInEntries (depth + 1) n.location entries
      = (n.entryNodes entries).flatMap (·.containers depth) := by
  induction entries with
  | nil => rfl
  | cons entry rest ih =>
      rw [containersInEntries, ih]
      rfl

/-- Below a node are the containers at and below its children. -/
theorem containers_ofJson_succ (depth : Nat) (l : Location) (json : Json) :
    containers ⟨l, .ofJson json⟩ (depth + 1)
      = (json.selfIfContainer.map fun c => ⟨l ++ c.1, .ofJson c.2⟩)
        ++ (children ⟨l, .ofJson json⟩).flatMap (·.containers depth) := by
  cases json with
  | null | bool | number | string => simp only [containers, children, Value.ofJson]; rfl
  | array items =>
      have hbelow :=
        containersInItems_succ ⟨l, .ofJson (.array items)⟩ depth 0 (Value.ofItems items)
      simp only [containers, children, Value.ofJson, containersFrom] at hbelow ⊢
      rw [hbelow]
      simp [Json.selfIfContainer, Json.isContainer, Value.ofJson]
  | object members =>
      have hbelow := containersInEntries_succ ⟨l, .ofJson (.object members)⟩ depth
        (Value.ofMembers members)
      simp only [containers, children, Value.ofJson, containersFrom] at hbelow ⊢
      rw [hbelow]
      simp [Json.selfIfContainer, Json.isContainer, Value.ofJson]

/-- **`containers_ofJson`** — walking over the value of a document is walking over the document. -/
theorem containers_ofJson (depth : Nat) (l : Location) (json : Json) :
    containers ⟨l, .ofJson json⟩ depth
      = (json.containersTo depth).map fun c => ⟨l ++ c.1, .ofJson c.2⟩ := by
  induction depth generalizing l json with
  | zero =>
      cases json with
      | null | bool | number | string => rfl
      | array items =>
          simp [containers, Value.ofJson, containersFrom, containersInItems_zero, Json.containersTo,
            Json.selfIfContainer, Json.isContainer]
      | object members =>
          simp [containers, Value.ofJson, containersFrom, containersInEntries_zero,
            Json.containersTo, Json.selfIfContainer, Json.isContainer]
  | succ depth ih =>
      rw [containers_ofJson_succ, children_ofJson, Json.containersTo, List.map_append,
        List.flatMap_map, List.map_flatMap]
      congr 1
      refine List.flatMap_congr fun p _ => ?_
      rw [ih, List.map_map]
      refine List.map_congr_left fun c _ => ?_
      rw [List.append_assoc]
      rfl

end Node

namespace Path

/-! ## Selection -/

variable {document : Json}

theorem found_descendants (document : Json) (maxDepth : Nat) :
    found ⟨.ofJson document, ⟨maxDepth, none⟩⟩ [.root 0, .descend, .wildcard]
        ⟨[], .ofJson document⟩
      = (document.partsTo maxDepth).map fun p => ⟨p.1, .ofJson p.2⟩ := by
  rw [found_root, found_cons]
  simp only [Step.hits, Step.targets]
  rw [Node.containers_ofJson, Json.partsTo, List.flatMap_map, List.map_flatMap]
  refine List.flatMap_congr fun c _ => ?_
  rw [found_wildcard, List.nil_append, Node.children_ofJson, List.map_map]
  rfl

/-- **`nodes_descendants`** — the path `$..*` selects every node whose location has at least one
element and at most one more than the depth limit, each once and no others; and it selects them
container by container in the order of the document, each container with its parts in order. -/
theorem nodes_descendants (hproper : document.isProper = true) (maxDepth : Nat)
    (registry : Registry) :
    ∃ path nodes, Path.compile "$..*" registry = .ok path ∧
      path.nodes document ⟨maxDepth, none⟩ = .ok nodes ∧
      (∀ n, n ∈ nodes ↔ 1 ≤ n.location.length ∧ n.location.length ≤ maxDepth + 1 ∧
        ∃ part, part? n.location document = some part ∧ n.value = .ofJson part) ∧
      (nodes.map (·.location)).Nodup ∧
      ∃ containers : List (Location × Json),
        (∀ l part, (l, part) ∈ containers ↔
          l.length ≤ maxDepth ∧ part? l document = some part ∧ part.isContainer = true) ∧
        containers.Pairwise (fun c d => Location.Precedes document c.1 d.1) ∧
        nodes = containers.flatMap fun c => c.2.parts.map fun p => ⟨c.1 ++ [p.1], .ofJson p.2⟩ := by
  have hcompile : Path.compile "$..*" registry
      = .ok ⟨"$..*", [.root 0, .descend, .wildcard]⟩ := rfl
  obtain ⟨progress, hevaluate⟩ := evaluate_of_compile hcompile document maxDepth
  rw [meaning, found_descendants] at hevaluate
  refine ⟨_, (document.partsTo maxDepth).map fun p => ⟨p.1, .ofJson p.2⟩, hcompile, ?_, ?_, ?_,
    document.containersTo maxDepth, ?_, Json.pairwise_containersTo hproper maxDepth, ?_⟩
  · rw [Path.nodes, hevaluate]
    rfl
  · rintro ⟨l, v⟩
    simp only [List.mem_map, Prod.exists, Node.mk.injEq, Json.mem_partsTo hproper]
    constructor
    · rintro ⟨l, part, ⟨hpos, hdepth, hpart⟩, rfl, rfl⟩
      exact ⟨hpos, hdepth, part, hpart, rfl⟩
    · rintro ⟨hpos, hdepth, part, hpart, rfl⟩
      exact ⟨l, part, ⟨hpos, hdepth, hpart⟩, rfl, rfl⟩
  · rw [List.map_map]
    exact Json.nodup_partsTo hproper maxDepth
  · exact fun l part => Json.mem_containersTo hproper
  · rw [Json.partsTo, List.map_flatMap]
    refine List.flatMap_congr fun c _ => ?_
    rw [List.map_map]
    rfl

/-- In `{"a": [{"b": null}], "c": true}` with a depth limit of one, the object in the array is
selected and its member is not. -/
theorem nodes_descendants_nested :
    let document : Json := .object [("a", .array [.object [("b", .null)]]), ("c", .bool true)]
    document.isProper = true ∧ ∃ path nodes, Path.compile "$..*" = .ok path ∧
      path.nodes document ⟨1, none⟩ = .ok nodes ∧
      nodes.map (·.location) = [[.name "a"], [.name "c"], [.name "a", .index 0]] ∧
      (nodes.map (·.location)).Nodup := by
  intro document
  have hproper : document.isProper = true := by decide +kernel
  obtain ⟨path, nodes, hcompile, hnodes, -, hnodup, -⟩ := nodes_descendants hproper 1 .builtins
  have heval : ((Path.compile "$..*").toOption.bind fun path =>
      (path.nodes document ⟨1, none⟩).toOption.map fun nodes => nodes.map (·.location))
        = some [[.name "a"], [.name "c"], [.name "a", .index 0]] := by decide +kernel
  rw [hcompile] at heval
  change (path.nodes document ⟨1, none⟩).toOption.map _ = _ at heval
  rw [hnodes] at heval
  exact ⟨hproper, path, nodes, hcompile, hnodes, Option.some.inj heval, hnodup⟩

end Path

end JsonQuery
