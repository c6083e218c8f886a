/-
# JsonQuery.Proofs.Path.Standing — the nodes that a path selects stand where they say.

A node carries its location along, and what moves from one node to others has to move the location
with the value.  A value is that of the part of the document at its location, with one exception:
the name `length` leads from an array to the number of its items, which is no part of the document
(`StandsIn`).  Every step behind the sign keeps this, since no such step starts over.
-/
import JsonQuery.Proofs.Path.Position
import JsonQuery.Proofs.Path.RootCache

namespace JsonQuery

open Location (part? part?_snoc)

/-- **`n.StandsIn document`** — the value of a node is what stands at its location. -/
inductive Node.StandsIn (document : Json) : Node → Prop where
  | part {l : Location} {json : Json} : part? l document = some json →
      StandsIn document ⟨l, .ofJson json⟩
  | length {l : Location} {items : List Json} : part? l document = some (.array items) →
      StandsIn document ⟨l ++ [.name "length"], .number (Number.ofInt items.length)⟩

namespace Node

/-- **`n.IsTruthful document`** — the location of a node leads from the root to its value and the
pointer to the document of the value; or the node is the `length` of an array that the rest of the
location leads to. -/
def IsTruthful (document : Json) (n : Node) : Prop :=
  (Location.resolve? n.location (.ofJson document) = some n.value
    ∧ document.pointer? (Location.pointer n.location) = some n.value.toJson)
  ∨ ∃ above items, n.location = above ++ [.name "length"]
    ∧ Location.resolve? above (.ofJson document) = some (.array items)
    ∧ n.value = .number (Number.ofInt items.length)

variable {document json : Json} {l : Location} {n m : Node}

/-- What stands in a document in form is where it says. -/
theorem StandsIn.isTruthful (hproper : document.isProper = true) (h : n.StandsIn document) :
    n.IsTruthful document := by
  cases h with
  | @part l json hpart =>
      left
      have hjson : json.isProper = true := Location.everywhere_part? hproper hpart
      rw [Location.resolve?_ofJson, hpart, Value.toJson_ofJson json hjson]
      exact ⟨rfl, Location.pointer?_pointer hproper hpart⟩
  | @length l items hpart =>
      right
      refine ⟨l, Value.ofItems items, rfl, ?_, ?_⟩
      · rw [Location.resolve?_ofJson, hpart, Option.map_some, Value.ofJson]
      · rw [Value.ofItems_eq_map, List.length_map]

theorem StandsIn.below {e : Location.Element} {child : Json} (h : part? l document = some json)
    (hchild : e.part? json = some child) : StandsIn document ⟨l ++ [e], .ofJson child⟩ :=
  .part ((part?_snoc h e).trans hchild)

/-! ## Around a node -/

theorem getElem?_ofItems (items : List Json) (i : Nat) :
    (Value.ofItems items)[i]? = items[i]?.map .ofJson := by
  rw [Value.ofItems_eq_map, List.getElem?_map]

theorem mem_itemNodes {i : Nat} {values : List Value} (h : m ∈ n.itemNodes i values) :
    ∃ k v, values[k]? = some v ∧ m = n.below (.index (i + k)) v := by
  induction values generalizing i with
  | nil => cases h
  | cons v rest ih =>
      rw [itemNodes] at h
      rcases List.mem_cons.mp h with rfl | hrest
      · exact ⟨0, v, rfl, rfl⟩
      · obtain ⟨k, w, hk, rfl⟩ := ih hrest
        exact ⟨k + 1, w, hk, by rw [Nat.add_assoc, Nat.add_comm 1]⟩

theorem standsIn_children (hproper : document.isProper = true) (h : n.StandsIn document) :
    ∀ m ∈ n.children, m.StandsIn document := by
  intro m hm
  cases h with
  | length => simp only [children] at hm; cases hm
  | @part l json hpart =>
  cases json with
  | null | bool | number | string => simp only [children, Value.ofJson] at hm; cases hm
  | array items =>
      simp only [children, Value.ofJson] at hm
      obtain ⟨k, v, hv, rfl⟩ := mem_itemNodes hm
      rw [getElem?_ofItems] at hv
      obtain ⟨item, hitem, rfl⟩ := Option.map_eq_some_iff.mp hv
      rw [Nat.zero_add]
      exact .below hpart hitem
  | object members =>
      simp only [children, entryNodes, Value.ofJson, Value.ofMembers_eq_map, List.map_map,
        List.mem_map] at hm
      obtain ⟨⟨name, value⟩, hentry, rfl⟩ := hm
      -- A name that stood twice would lead to the first of the two values only.
      have hnames := Json.names_nodup (Location.everywhere_part? hproper hpart)
      exact .below hpart (Entries.get?_of_mem hnames hentry)

theorem standsIn_member (h : n.StandsIn document) (name : String) :
    ∀ m ∈ n.member name, m.StandsIn document := by
  intro m hm
  cases h with
  | length => simp only [member] at hm; cases hm
  | @part l json hpart =>
  cases json with
  | null | bool | number | string => simp only [member, Value.ofJson] at hm; cases hm
  | array items =>
      simp only [member, Value.ofJson, Value.ofItems_eq_map, List.length_map] at hm
      split at hm
      next hname =>
        obtain rfl := List.mem_singleton.mp hm
        exact hname ▸ .length hpart
      next => cases hm
  | object members =>
      simp only [member, Value.ofJson, Location.get?_ofMembers] at hm
      cases hvalue : Entries.get? members name with
      | none => rw [hvalue] at hm; cases hm
      | some value =>
          rw [hvalue] at hm
          obtain rfl := List.mem_singleton.mp hm
          exact .below hpart hvalue

theorem standsIn_itemsAt (h : n.StandsIn document) (places : Nat → List Nat) :
    ∀ m ∈ n.itemsAt places, m.StandsIn document := by
  intro m hm
  cases h with
  | length => simp only [itemsAt] at hm; cases hm
  | @part l json hpart =>
  cases json with
  | null | bool | number | string | object =>
      simp only [itemsAt, Value.ofJson] at hm; cases hm
  | array items =>
      simp only [itemsAt, Value.ofJson, getElem?_ofItems, List.mem_filterMap, Option.map_map,
        Option.map_eq_some_iff] at hm
      obtain ⟨i, -, item, hitem, rfl⟩ := hm
      exact .below hpart hitem

theorem standsIn_ancestor (n : Node) (levels : Nat) :
    ∀ m ∈ n.ancestor (.ofJson document) levels, m.StandsIn document := by
  intro m hm
  simp only [ancestor, Location.resolve?_ofJson] at hm
  split at hm
  · cases hm
  · cases hpart : part? (n.location.take (n.location.length - levels)) document with
    | none => rw [hpart] at hm; cases hm
    | some json =>
        rw [hpart] at hm
        obtain rfl := List.mem_singleton.mp hm
        exact .part hpart

mutual

theorem standsIn_containersFrom (hproper : document.isProper = true) (depth : Nat) (l : Location)
    (json : Json) (h : part? l document = some json) :
    ∀ m ∈ containersFrom depth l (.ofJson json), m.StandsIn document := by
  cases json with
  | null | bool | number | string =>
      intro m hm
      rw [Value.ofJson] at hm
      cases hm
  | array items =>
      have hself : StandsIn document ⟨l, .ofJson (.array items)⟩ := .part h
      rw [Value.ofJson] at hself
      rw [Value.ofJson, containersFrom]
      refine List.forall_mem_cons.mpr ⟨hself, ?_⟩
      refine standsIn_containersInItems hproper depth l 0 items fun k item hitem => ?_
      rw [Nat.zero_add, part?_snoc h]
      exact hitem
  | object members =>
      have hself : StandsIn document ⟨l, .ofJson (.object members)⟩ := .part h
      rw [Value.ofJson] at hself
      rw [Value.ofJson, containersFrom]
      refine List.forall_mem_cons.mpr ⟨hself, ?_⟩
      refine standsIn_containersInEntries hproper depth l members fun name value hentry => ?_
      rw [part?_snoc h]
      exact Entries.get?_of_mem (Json.names_nodup (Location.everywhere_part? hproper h)) hentry

theorem standsIn_containersInItems (hproper : document.isProper = true) (depth : Nat) (l : Location)
    (i : Nat) (items : List Json)
    (h : ∀ k item, items[k]? = some item → part? (l ++ [.index (i + k)]) document = some item) :
    ∀ m ∈ containersInItems depth l i (Value.ofItems items), m.StandsIn document := by
  cases items with
  | nil => exact List.forall_mem_nil _
  | cons item rest =>
      have hrest := standsIn_containersInItems hproper depth l (i + 1) rest fun k item hitem => by
        rw [Nat.add_assoc, Nat.add_comm 1]
        exact h (k + 1) item hitem
      rw [Value.ofItems]
      cases depth with
      | zero => rwa [containersInItems, List.nil_append]
      | succ depth =>
          rw [containersInItems]
          exact List.forall_mem_append.mpr
            ⟨standsIn_containersFrom hproper depth _ item (h 0 item rfl), hrest⟩

theorem standsIn_containersInEntries (hproper : document.isProper = true) (depth : Nat)
    (l : Location) (members : List (String × Json))
    (h : ∀ name value, (name, value) ∈ members →
      part? (l ++ [.name name]) document = some value) :
    ∀ m ∈ containersInEntries depth l (Value.ofMembers members), m.StandsIn document := by
  match members with
  | [] => exact List.forall_mem_nil _
  | (name, value) :: rest =>
      have hrest := standsIn_containersInEntries hproper depth l rest fun name value hentry =>
        h name value (List.mem_cons_of_mem _ hentry)
      rw [Value.ofMembers]
      cases depth with
      | zero => rwa [containersInEntries, List.nil_append]
      | succ depth =>
          rw [containersInEntries]
          exact List.forall_mem_append.mpr
            ⟨standsIn_containersFrom hproper depth _ value (h name value List.mem_cons_self), hrest⟩

end

end Node

namespace Path

/-! ## Selection -/

variable {document : Json} {c : Context} {n : Node}

theorem standsIn_targets (hproper : document.isProper = true) (hroot : c.root = .ofJson document)
    {step : Step} (hstep : step.isRelative = true) (h : n.StandsIn document) :
    ∀ m ∈ step.targets c n, m.StandsIn document := by
  cases step with
  | root | current => cases hstep
  | parent levels =>
      rw [Step.targets, hroot]
      exact n.standsIn_ancestor levels
  | name key => exact n.standsIn_member h key
  | index | slice =>
      rw [Step.targets]
      exact n.standsIn_itemsAt h _
  | wildcard => exact n.standsIn_children hproper h
  | descend =>
      cases h with
      | part hpart => exact Node.standsIn_containersFrom hproper _ _ _ hpart
      | length => exact List.forall_mem_nil _
  | filter | union => exact List.forall_mem_nil _

mutual

theorem standsIn_hits (hproper : document.isProper = true) (hroot : c.root = .ofJson document)
    (step : Step) (hstep : step.isRelative = true) {n : Node} (h : n.StandsIn document) :
    ∀ m ∈ step.hits c n, m.StandsIn document := by
  cases step with
  | filter f =>
      rw [Step.hits]
      exact fun m hm => n.standsIn_children hproper h m (List.mem_of_mem_filter hm)
  | union branches =>
      rw [Step.isRelative] at hstep
      rw [Step.hits]
      exact standsIn_hitsOfBranches hproper hroot branches hstep h
  | root | current | parent | name | index | slice | wildcard | descend =>
      simp only [Step.hits]
      exact standsIn_targets hproper hroot hstep h

theorem standsIn_hitsOfBranches (hproper : document.isProper = true)
    (hroot : c.root = .ofJson document) (branches : List Step)
    (hbranches : allRelative branches = true) {n : Node} (h : n.StandsIn document) :
    ∀ m ∈ hitsOfBranches c branches n, m.StandsIn document := by
  cases branches with
  | nil => exact List.forall_mem_nil _
  | cons branch rest =>
      rw [allRelative, Bool.and_eq_true] at hbranches
      rw [hitsOfBranches]
      exact List.forall_mem_append.mpr ⟨standsIn_hits hproper hroot branch hbranches.1 h,
        standsIn_hitsOfBranches hproper hroot rest hbranches.2 h⟩

end

/-- From a node that stands where it says, steps lead to such nodes. -/
theorem standsIn_found (hproper : document.isProper = true) (hroot : c.root = .ofJson document)
    {steps : List Step} (hsteps : allRelative steps = true) (h : n.StandsIn document) :
    ∀ m ∈ found c steps n, m.StandsIn document := by
  induction steps generalizing n with
  | nil =>
      rw [found]
      exact List.forall_mem_singleton.mpr h
  | cons step rest ih =>
      rw [allRelative, Bool.and_eq_true] at hsteps
      intro m hm
      rw [found_cons] at hm
      obtain ⟨hit, hhit, hm⟩ := List.mem_flatMap.mp hm
      exact ih hsteps.2 (standsIn_hits hproper hroot step hsteps.1 h hit hhit) m hm

/-- Whatever sign a path starts with, from the root it leads where the steps behind the sign lead. -/
theorem exists_rest_of_compile {text : String} {registry : Registry} {path : Path}
    (h : Path.compile text registry = .ok path) :
    ∃ head rest, path.steps = head :: rest ∧ allRelative rest = true ∧
      ∀ c steps, found c (head :: steps) ⟨[], c.root⟩ = found c steps ⟨[], c.root⟩ := by
  obtain ⟨⟨last, hsteps⟩, -⟩ := stepsRead_of_compile h
  obtain ⟨head, rest, heq, hhead, hrest⟩ := hsteps.exists_relative
  refine ⟨head, rest, heq, hrest, fun c steps => ?_⟩
  rcases hhead with rfl | rfl
  · rw [found_root]
  · rw [found_cons]
    simp only [Step.hits, Step.targets, List.flatMap_singleton]

theorem standsIn_meaning {text : String} {registry : Registry} {path : Path}
    (h : Path.compile text registry = .ok path) (hproper : document.isProper = true)
    (maxDepth : Nat) : ∀ n ∈ path.meaning document maxDepth, n.StandsIn document := by
  obtain ⟨head, rest, heq, hrest, hsign⟩ := exists_rest_of_compile h
  have hstart : Node.StandsIn document ⟨[], .ofJson document⟩ := .part rfl
  rw [meaning, heq, hsign ⟨.ofJson document, ⟨maxDepth, none⟩⟩]
  exact standsIn_found hproper rfl hrest hstart

/-- **`nodes_truthful`** — every node that a path selects is where it says. -/
theorem nodes_truthful {text : String} {registry : Registry} {path : Path}
    (h : Path.compile text registry = .ok path) {document : Json}
    (hproper : document.isProper = true) {options : Options} {nodes : List Node}
    (hnodes : path.nodes document options = .ok nodes) : ∀ n ∈ nodes, n.IsTruthful document := by
  intro n hn
  rw [nodes_eq_of_ok h hnodes] at hn
  exact (standsIn_meaning h hproper options.maxDepth n hn).isTruthful hproper

/-- An item of an array whose name has to be escaped, and the length of the array. -/
theorem nodes_truthful_length : ∃ path nodes, Path.compile "$['a/b'][0, 'length']" = .ok path
    ∧ (Json.object [("a/b", .array [.bool true])]).isProper = true
    ∧ path.nodes (.object [("a/b", .array [.bool true])]) {} = .ok nodes
    ∧ nodes.map (fun n => Location.pointer n.location) = ["/a~1b/0", "/a~1b/length"]
    ∧ ∀ n ∈ nodes, n.IsTruthful (.object [("a/b", .array [.bool true])]) := by
  have heval : ((Path.compile "$['a/b'][0, 'length']").toOption.bind fun path =>
      (path.nodes (.object [("a/b", .array [.bool true])]) {}).toOption.map fun nodes =>
        nodes.map fun n => Location.pointer n.location) = some ["/a~1b/0", "/a~1b/length"] := by
    decide +kernel
  have hproper : (Json.object [("a/b", .array [.bool true])]).isProper = true := by decide +kernel
  obtain ⟨path, hpath, hselected⟩ := Option.bind_eq_some_iff.mp heval
  obtain ⟨nodes, hnodes, hpointers⟩ := Option.map_eq_some_iff.mp hselected
  have hcompile := eq_ok_of_toOption hpath
  have hok := eq_ok_of_toOption hnodes
  exact ⟨path, nodes, hcompile, hproper, hok, hpointers, nodes_truthful hcompile hproper hok⟩

end Path

end JsonQuery
