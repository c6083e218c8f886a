/-
# JsonQuery.Proofs.Path.Distinct — no location is selected twice.

A step that leads to children adds one element to the location, a different one for every child.  So
nodes at one depth stay apart whatever such steps follow.  Descent adds any number of elements;
what keeps its nodes apart is that those it starts from are at one depth, and that the steps behind
it add equally many elements to all.  A second descent would break both, since a location does not
tell where the first one ended.
-/
import JsonQuery.Proofs.Path.Descent
import JsonQuery.Proofs.Path.Standing
import JsonQuery.Proofs.Slice.Indices

namespace JsonQuery

open Location (Element)

/-! ## Nodes that are apart -/

namespace Node

/-- The locations of nodes, in order. -/
def locations (nodes : List Node) : List Location := nodes.map (·.location)

/-- **`Apart nodes`** — no two of some nodes have one location. -/
def Apart (nodes : List Node) : Prop := (locations nodes).Nodup

/-- **`n.Reaches count nodes`** — every one of some nodes is so many elements below `n`. -/
def Reaches (n : Node) (count : Nat) (nodes : List Node) : Prop :=
  ∀ m ∈ nodes, ∃ below : Location, m.location = n.location ++ below ∧ below.length = count

variable {n : Node} {nodes : List Node} {count more : Nat} {follow : Node → List Node}

theorem Reaches.length_eq (h : n.Reaches count nodes) {m : Node} (hm : m ∈ nodes) :
    m.location.length = n.location.length + count := by
  obtain ⟨below, hlocation, hlength⟩ := h m hm
  rw [hlocation, List.length_append, hlength]

theorem Reaches.flatMap (h : n.Reaches count nodes)
    (hfollow : ∀ m ∈ nodes, m.Reaches more (follow m)) :
    n.Reaches (count + more) (nodes.flatMap follow) := by
  intro x hx
  obtain ⟨m, hm, hx⟩ := List.mem_flatMap.mp hx
  obtain ⟨below, hlocation, hlength⟩ := h m hm
  obtain ⟨further, hlocation', hlength'⟩ := hfollow m hm x hx
  refine ⟨below ++ further, ?_, ?_⟩
  · rw [hlocation', hlocation, List.append_assoc]
  · rw [List.length_append, hlength, hlength']

/-- What follows nodes that are apart is apart, if from each of them it is, and a location tells
from which of them it has been reached. -/
theorem Apart.flatMap (h : Apart nodes) (hfollow : ∀ m ∈ nodes, Apart (follow m))
    (htell : ∀ m ∈ nodes, ∀ m' ∈ nodes, ∀ x ∈ follow m, ∀ x' ∈ follow m',
      x.location = x'.location → m.location = m'.location) : Apart (nodes.flatMap follow) := by
  rw [Apart, locations, List.map_flatMap, List.nodup_flatMap]
  refine ⟨hfollow, ?_⟩
  have hdiffer : nodes.Pairwise fun m m' => m.location ≠ m'.location := List.pairwise_map.mp h
  refine hdiffer.imp_of_mem fun {m m'} hm hm' hne l hl hl' => hne ?_
  obtain ⟨x, hx, rfl⟩ := List.mem_map.mp hl
  obtain ⟨x', hx', hsame⟩ := List.mem_map.mp hl'
  exact htell m hm m' hm' x hx x' hx' hsame.symm

/-- Where equally many elements are added, what is left without them tells. -/
theorem Apart.flatMap_reaches (h : Apart nodes) (hfollow : ∀ m ∈ nodes, Apart (follow m))
    (hreaches : ∀ m ∈ nodes, m.Reaches count (follow m)) : Apart (nodes.flatMap follow) := by
  refine h.flatMap hfollow fun m hm m' hm' x hx x' hx' hsame => ?_
  obtain ⟨below, hlocation, hlength⟩ := hreaches m hm x hx
  obtain ⟨below', hlocation', hlength'⟩ := hreaches m' hm' x' hx'
  rw [hlocation, hlocation'] at hsame
  exact (List.append_inj' hsame (hlength.trans hlength'.symm)).1

/-- From nodes at one depth, the part of that length tells. -/
theorem Apart.flatMap_below (h : Apart nodes) (hdepth : n.Reaches count nodes)
    (hfollow : ∀ m ∈ nodes, Apart (follow m))
    (hbelow : ∀ m ∈ nodes, ∀ x ∈ follow m, m.location <+: x.location) :
    Apart (nodes.flatMap follow) := by
  refine h.flatMap hfollow fun m hm m' hm' x hx x' hx' hsame => ?_
  obtain ⟨below, hlocation⟩ := hbelow m hm x hx
  obtain ⟨below', hlocation'⟩ := hbelow m' hm' x' hx'
  have hlength : m.location.length = m'.location.length :=
    (hdepth.length_eq hm).trans (hdepth.length_eq hm').symm
  rw [← hlocation, ← hlocation'] at hsame
  exact (List.append_inj hsame hlength).1

/-! ## Around a node -/

/-- **`n.Spreads nodes`** — some nodes are one element below `n`, each another one. -/
structure Spreads (n : Node) (nodes : List Node) : Prop where
  reaches : n.Reaches 1 nodes
  apart : Apart nodes

namespace Spreads

theorem nil : n.Spreads [] := ⟨List.forall_mem_nil _, List.nodup_nil⟩

theorem singleton (e : Element) (v : Value) : n.Spreads [n.below e v] := by
  refine ⟨fun m hm => ?_, List.nodup_singleton _⟩
  obtain rfl := List.mem_singleton.mp hm
  exact ⟨[e], rfl, rfl⟩

theorem sublist {others : List Node} (h : n.Spreads nodes) (hsub : others.Sublist nodes) :
    n.Spreads others :=
  ⟨fun m hm => h.reaches m (hsub.subset hm), List.Nodup.sublist (hsub.map _) h.apart⟩

/-- Nodes that are called differently, one element below. -/
theorem of_map {α : Type} {xs : List α} {element : α → Element} {value : α → Value}
    (h : (xs.map element).Nodup) : n.Spreads (xs.map fun x => n.below (element x) (value x)) := by
  constructor
  · intro m hm
    obtain ⟨x, -, rfl⟩ := List.mem_map.mp hm
    exact ⟨[element x], rfl, rfl⟩
  · have hlocations : locations (xs.map fun x => n.below (element x) (value x))
        = (xs.map element).map fun e => n.location ++ [e] := by
      rw [locations, List.map_map, List.map_map]
      rfl
    rw [Apart, hlocations]
    exact h.map fun e e' hsame => List.singleton_inj.mp (List.append_cancel_left hsame)

end Spreads

variable {document : Json}

theorem spreads_children (hproper : document.isProper = true) (h : n.StandsIn document) :
    n.Spreads n.children := by
  cases h with
  | @part l json hpart =>
      have hparts : (json.parts.map (·.1)).Nodup :=
        Json.nodup_parts (Location.everywhere_part? hproper hpart)
      rw [children_ofJson]
      exact .of_map hparts
  | length => exact .nil

theorem spreads_member (n : Node) (name : String) : n.Spreads (n.member name) := by
  rw [member]
  split
  next =>
    split
    · exact .singleton _ _
    · exact .nil
  next =>
    split
    · exact .singleton _ _
    · exact .nil
  next => exact .nil

/-- Items at different places are called differently. -/
theorem spreads_itemsAt {places : Nat → List Nat} (h : ∀ len, (places len).Nodup) (n : Node) :
    n.Spreads (n.itemsAt places) := by
  rw [itemsAt]
  split
  next items hitems =>
    constructor
    · intro m hm
      obtain ⟨i, -, hm⟩ := List.mem_filterMap.mp hm
      obtain ⟨v, -, rfl⟩ := Option.map_eq_some_iff.mp hm
      exact ⟨[.index i], rfl, rfl⟩
    · rw [Apart, locations, List.map_filterMap]
      refine (h items.length).filterMap fun i j l hi hj => ?_
      simp only [Option.mem_def, Option.map_map, Option.map_eq_some_iff, Function.comp_apply,
        below] at hi hj
      obtain ⟨v, -, rfl⟩ := hi
      obtain ⟨w, -, hsame⟩ := hj
      exact (Element.index.inj (List.singleton_inj.mp (List.append_cancel_left hsame))).symm
  next => exact .nil

/-- The containers at and below a node that stands where it says are at different places. -/
theorem apart_containers (hproper : document.isProper = true) (h : n.StandsIn document)
    (depth : Nat) : Apart (n.containers depth) := by
  cases h with
  | @part l json hpart =>
      have hwalk := Json.pairwise_containersTo (Location.everywhere_part? hproper hpart) depth
      rw [containers_ofJson, Apart, locations, List.map_map, List.Nodup, List.pairwise_map]
      refine hwalk.imp fun {c d} hprecedes hsame => ?_
      rw [Function.comp_apply, Function.comp_apply] at hsame
      rw [List.append_cancel_left hsame] at hprecedes
      exact hprecedes.irrefl (Location.everywhere_part? hproper hpart)
  | length => exact List.nodup_nil

theorem prefix_containers (h : n.StandsIn document) (depth : Nat) :
    ∀ m ∈ n.containers depth, n.location <+: m.location := by
  intro m hm
  cases h with
  | @part l json hpart =>
      rw [containers_ofJson] at hm
      obtain ⟨c, -, rfl⟩ := List.mem_map.mp hm
      exact List.prefix_append l c.1
  | length => cases hm

end Node

namespace Path

open Node (Apart)

/-! ## Selection -/

/-- Whether a step is `..`. -/
def Step.isDescent : Step → Bool
  | .descend => true
  | .root _ | .current | .parent _ | .name _ | .index _ | .slice _ | .wildcard | .filter _
  | .union _ => false

/-- Whether a step stays below the node that it starts from and does not branch: it is no carets and
no union. -/
def Step.staysBelow : Step → Bool
  | .parent _ | .union _ => false
  | .root _ | .current | .name _ | .index _ | .slice _ | .wildcard | .descend | .filter _ => true

variable {document : Json} {c : Context} {n : Node} {steps : List Step}

/-- A step to children spreads. -/
theorem spreads_hits (hproper : document.isProper = true) (h : n.StandsIn document) {step : Step}
    (hrelative : step.isRelative = true) (hbelow : step.staysBelow = true)
    (hstep : step.isDescent = false) : n.Spreads (step.hits c n) := by
  cases step with
  | root | current => cases hrelative
  | parent | union => cases hbelow
  | descend => cases hstep
  | name key => simpa only [Step.hits, Step.targets] using n.spreads_member key
  | index i =>
      simp only [Step.hits, Step.targets]
      refine Node.spreads_itemsAt (fun len => ?_) n
      cases normalizeIndex i len with
      | none => exact List.nodup_nil
      | some place => exact List.nodup_singleton place
  | slice s => simpa only [Step.hits, Step.targets] using n.spreads_itemsAt s.nodup_indices
  | wildcard => simpa only [Step.hits, Step.targets] using Node.spreads_children hproper h
  | filter f =>
      rw [Step.hits]
      exact (Node.spreads_children hproper h).sublist List.filter_sublist

theorem hits_descend (n : Node) : Step.descend.hits c n = n.containers c.options.maxDepth := by
  simp only [Step.hits, Step.targets]

/-- Such steps lead to nodes below the one they start from. -/
theorem prefix_found (hproper : document.isProper = true) (hroot : c.root = .ofJson document)
    (hrelative : allRelative steps = true) (hbelow : steps.all (·.staysBelow) = true)
    (h : n.StandsIn document) : ∀ m ∈ found c steps n, n.location <+: m.location := by
  induction steps generalizing n with
  | nil =>
      rw [found]
      exact List.forall_mem_singleton.mpr (List.prefix_refl _)
  | cons step rest ih =>
      rw [allRelative, Bool.and_eq_true] at hrelative
      rw [List.all_cons, Bool.and_eq_true] at hbelow
      intro m hm
      rw [found_cons] at hm
      obtain ⟨hit, hhit, hm⟩ := List.mem_flatMap.mp hm
      have hstands : hit.StandsIn document :=
        standsIn_hits hproper hroot step hrelative.1 h hit hhit
      have hfirst : n.location <+: hit.location := by
        cases hstep : step.isDescent with
        | true =>
            cases step with
            | descend =>
                rw [hits_descend] at hhit
                exact Node.prefix_containers h _ hit hhit
            | _ => cases hstep
        | false =>
            have hspreads := spreads_hits (c := c) hproper h hrelative.1 hbelow.1 hstep
            obtain ⟨below, hlocation, -⟩ := hspreads.reaches hit hhit
            exact ⟨below, hlocation.symm⟩
      exact hfirst.trans (ih hrelative.2 hbelow.2 hstands m hm)

/-- **`found_apart`** — without a descent, every step adds one element, and the nodes are apart. -/
theorem found_apart (hproper : document.isProper = true) (hroot : c.root = .ofJson document)
    (hrelative : allRelative steps = true) (hbelow : steps.all (·.staysBelow) = true)
    (hnone : steps.countP (·.isDescent) = 0) (h : n.StandsIn document) :
    n.Reaches steps.length (found c steps n) ∧ Apart (found c steps n) := by
  induction steps generalizing n with
  | nil =>
      rw [found]
      refine ⟨List.forall_mem_singleton.mpr ⟨[], ?_, rfl⟩, List.nodup_singleton _⟩
      exact (List.append_nil _).symm
  | cons step rest ih =>
      rw [allRelative, Bool.and_eq_true] at hrelative
      rw [List.all_cons, Bool.and_eq_true] at hbelow
      rw [List.countP_cons, Nat.add_eq_zero_iff] at hnone
      have hstep : step.isDescent = false := by
        rw [Bool.eq_false_iff]
        intro hdescent
        simp [hdescent] at hnone
      have hspreads := spreads_hits (c := c) hproper h hrelative.1 hbelow.1 hstep
      have hrest : ∀ hit ∈ step.hits c n,
          hit.Reaches rest.length (found c rest hit) ∧ Apart (found c rest hit) :=
        fun hit hhit => ih hrelative.2 hbelow.2 hnone.1
          (standsIn_hits hproper hroot step hrelative.1 h hit hhit)
      rw [found_cons, List.length_cons, Nat.add_comm]
      exact ⟨hspreads.reaches.flatMap fun hit hhit => (hrest hit hhit).1,
        hspreads.apart.flatMap_reaches (fun hit hhit => (hrest hit hhit).2)
          fun hit hhit => (hrest hit hhit).1⟩

/-- With one descent the nodes are still apart. -/
theorem apart_found (hproper : document.isProper = true) (hroot : c.root = .ofJson document)
    (hrelative : allRelative steps = true) (hbelow : steps.all (·.staysBelow) = true)
    (hone : steps.countP (·.isDescent) ≤ 1) (h : n.StandsIn document) :
    Apart (found c steps n) := by
  induction steps generalizing n with
  | nil =>
      rw [found]
      exact List.nodup_singleton _
  | cons step rest ih =>
      rw [allRelative, Bool.and_eq_true] at hrelative
      rw [List.all_cons, Bool.and_eq_true] at hbelow
      rw [List.countP_cons] at hone
      have hstands : ∀ hit ∈ step.hits c n, hit.StandsIn document :=
        standsIn_hits hproper hroot step hrelative.1 h
      rw [found_cons]
      cases hstep : step.isDescent with
      | true =>
          -- Behind the descent equally many elements are added to all containers.
          have hnone : rest.countP (·.isDescent) = 0 := by
            simp only [hstep, if_true] at hone
            omega
          have hrest := fun hit hhit =>
            found_apart hproper hroot hrelative.2 hbelow.2 hnone (hstands hit hhit)
          have hcontainers : Apart (step.hits c n) := by
            cases step with
            | descend =>
                rw [hits_descend]
                exact Node.apart_containers hproper h _
            | _ => cases hstep
          exact hcontainers.flatMap_reaches (fun hit hhit => (hrest hit hhit).2)
            fun hit hhit => (hrest hit hhit).1
      | false =>
          -- In front of it the nodes are at one depth, and all that follows is below them.
          have hspreads := spreads_hits (c := c) hproper h hrelative.1 hbelow.1 hstep
          have hfew : rest.countP (·.isDescent) ≤ 1 := by
            simpa [hstep] using hone
          exact hspreads.apart.flatMap_below hspreads.reaches
            (fun hit hhit => ih hrelative.2 hbelow.2 hfew (hstands hit hhit))
            fun hit hhit => prefix_found hproper hroot hrelative.2 hbelow.2 (hstands hit hhit)

/-- **`nodes_distinct`** — a path without unions and carets that descends at most once selects no
location twice, in any document and with any depth limit. -/
theorem nodes_distinct {text : String} {registry : Registry} {path : Path}
    (h : Path.compile text registry = .ok path)
    (hbelow : path.steps.all (·.staysBelow) = true)
    (hone : path.steps.countP (·.isDescent) ≤ 1)
    (hproper : document.isProper = true) (maxDepth : Nat) :
    ∃ nodes, path.nodes document ⟨maxDepth, none⟩ = .ok nodes ∧
      (nodes.map (·.location)).Nodup := by
  obtain ⟨progress, hevaluate⟩ := evaluate_of_compile h document maxDepth
  refine ⟨path.meaning document maxDepth, ?_, ?_⟩
  · rw [Path.nodes, hevaluate]
    rfl
  · obtain ⟨head, rest, heq, hrelative, hsign⟩ := exists_rest_of_compile h
    rw [heq, List.all_cons, Bool.and_eq_true] at hbelow
    rw [heq, List.countP_cons] at hone
    have hfew : rest.countP (·.isDescent) ≤ 1 := Nat.le_trans (Nat.le_add_right _ _) hone
    have hstart : Node.StandsIn document ⟨[], .ofJson document⟩ := .part rfl
    rw [meaning, heq, hsign ⟨.ofJson document, ⟨maxDepth, none⟩⟩]
    exact apart_found hproper rfl hrelative hbelow.2 hfew hstart

/-- The path `$.a..[1::-1]` on arrays in arrays, the inner one read backward as the outer one is. -/
theorem nodes_distinct_backward :
    let document : Json := .object [("a", .array [.null, .array [.bool true, .bool false]])]
    ∃ path nodes, Path.compile "$.a..[1::-1]" = .ok path ∧
      path.steps.all (·.staysBelow) = true ∧ path.steps.countP (·.isDescent) = 1 ∧
      document.isProper = true ∧ path.nodes document ⟨5, none⟩ = .ok nodes ∧
      nodes.map (·.location) = [[.name "a", .index 1], [.name "a", .index 0],
        [.name "a", .index 1, .index 1], [.name "a", .index 1, .index 0]] ∧
      (nodes.map (·.location)).Nodup := by
  intro document
  let path : Path := ⟨"$.a..[1::-1]", [.root 0, .name "a", .descend, .slice ⟨some 1, none, -1⟩]⟩
  have hcompile : Path.compile "$.a..[1::-1]" = .ok path := rfl
  have hproper : document.isProper = true := by decide +kernel
  obtain ⟨nodes, hnodes, hnodup⟩ := nodes_distinct hcompile rfl (by decide) hproper 5
  have heval : (path.nodes document ⟨5, none⟩).toOption.map (fun nodes => nodes.map (·.location))
      = some [[.name "a", .index 1], [.name "a", .index 0],
        [.name "a", .index 1, .index 1], [.name "a", .index 1, .index 0]] := by decide +kernel
  rw [hnodes] at heval
  exact ⟨path, nodes, hcompile, rfl, rfl, hproper, hnodes, Option.some.inj heval, hnodup⟩

-- Two descents come by the same node on two ways.
example : ((Path.compile "$..*..*").toOption.bind fun path =>
    (path.nodes (.array [.array [.array [.null]]]) ⟨5, none⟩).toOption.map fun nodes =>
      decide (nodes.map (·.location)).Nodup) = some false := by decide +kernel

end Path

end JsonQuery
