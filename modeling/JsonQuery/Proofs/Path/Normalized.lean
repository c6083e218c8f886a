/-
# JsonQuery.Proofs.Path.Normalized — a normalized path selects the node that it is of.

The normalized path of a location is read as the steps of the location.  So no two locations are
written alike, and what the path selects in a document is found by walking down the location: the
value of the part there, or the length of an array.
-/
import JsonQuery.Proofs.Path.Rereading
import JsonQuery.Proofs.Path.Standing

namespace JsonQuery

open Location (Element part?)

/-- Whether all arrays of a document have lengths in the range of integers, as arrays in memory have,
so that every item has an index. -/
def Json.isIndexable (document : Json) : Bool :=
  document.everywhere fun
    | .array items => items.length < 0x8000000000000000
    | _ => true

namespace Location

/-- The steps of a location say which one it is. -/
theorem Element.toStep_injective : Function.Injective Element.toStep := by
  intro a b h
  cases a with
  | index i =>
      cases b with
      | index j => rw [Int.ofNat.inj (Path.Step.index.inj h)]
      | name t => cases h
  | name s =>
      cases b with
      | index j => cases h
      | name t => rw [Path.Step.name.inj h]

/-- **`eq_of_normalized_eq`** — locations that can be read back are not written alike. -/
theorem eq_of_normalized_eq {l m : Location} (hl : l.all Element.isSmall = true)
    (hlLength : l.length < maxNesting) (hm : m.all Element.isSmall = true)
    (hmLength : m.length < maxNesting) (h : l.normalized = m.normalized) : l = m := by
  have hread := Path.compile_normalized hl hlLength .builtins
  rw [h, Path.compile_normalized hm hmLength .builtins] at hread
  have hsteps := (List.cons.inj (Path.mk.inj (Except.ok.inj hread)).2).2
  exact (List.map_injective_iff.mpr Element.toStep_injective hsteps).symm

end Location

namespace Path

variable {c : Context} {document json : Json}

/-! ## Walking down -/

/-- An index that is in range stands for itself. -/
theorem normalizeIndex_of_lt {i length : Nat} (hi : i < length)
    (hlength : length < 0x8000000000000000) : normalizeIndex i length = some i := by
  have hforward : ¬ (i : Int) < 0 := by omega
  simp only [normalizeIndex, hforward, if_false]
  rw [if_pos (by omega)]
  rfl

/-- The step of a location leads to the part that the location leads to, and nowhere else. -/
theorem hits_toStep {e : Element} (hshort : document.isIndexable = true)
    (h : e.part? document = some json) (above : Location) :
    e.toStep.hits c ⟨above, .ofJson document⟩ = [⟨above ++ [e], .ofJson json⟩] := by
  cases e with
  | index i =>
      cases document with
      | array items =>
          have hitem : items[i]? = some json := h
          obtain ⟨hlt, -⟩ := List.getElem?_eq_some_iff.mp hitem
          have hlength : items.length < 0x8000000000000000 :=
            of_decide_eq_true (Json.everywhere_self hshort)
          have hhits : (Element.index i).toStep.hits c ⟨above, .ofJson (.array items)⟩
              = Node.itemsAt ⟨above, .ofJson (.array items)⟩ fun len =>
                (normalizeIndex i len).toList := by
            simp only [Element.toStep, Step.hits, Step.targets]
          rw [hhits]
          simp only [Node.itemsAt, Value.ofJson, Value.ofItems_eq_map, List.length_map,
            normalizeIndex_of_lt hlt hlength, Option.toList_some, List.filterMap_cons,
            List.filterMap_nil, List.getElem?_map, hitem, Option.map_some, Node.below]
      | null | bool | number | string | object => cases h
  | name s =>
      cases document with
      | object members =>
          have hmember : Entries.get? members s = some json := h
          simp only [Element.toStep, Step.hits, Step.targets, Node.member, Value.ofJson,
            Location.get?_ofMembers, hmember, Option.map_some, Node.below]
      | null | bool | number | string | array => cases h

/-- The steps of a location lead to the part that the location leads to, and nowhere else. -/
theorem found_toStep {l : Location} (hshort : document.isIndexable = true)
    (h : part? l document = some json) (above : Location) :
    found c (l.map Element.toStep) ⟨above, .ofJson document⟩ = [⟨above ++ l, .ofJson json⟩] := by
  induction l generalizing document above with
  | nil =>
      obtain rfl := Option.some.inj h
      rw [List.map_nil, found, List.append_nil]
  | cons e rest ih =>
      obtain ⟨part, hpart, hrest⟩ := Option.bind_eq_some_iff.mp h
      rw [List.map_cons, found_cons, hits_toStep hshort hpart, List.flatMap_singleton,
        ih (Element.everywhere_part? hshort hpart) hrest, ← List.append_cons]

/-- The steps of where a node stands lead to the node. -/
theorem found_of_standsIn {n : Node} (hshort : document.isIndexable = true)
    (h : n.StandsIn document) :
    found c (n.location.map Element.toStep) ⟨[], .ofJson document⟩ = [n] := by
  cases h with
  | part hpart => exact found_toStep hshort hpart []
  | @length l items hpart =>
      have hlength : (Element.name "length").toStep.hits c ⟨l, .ofJson (.array items)⟩
          = Node.member ⟨l, .ofJson (.array items)⟩ "length" := by
        simp only [Element.toStep, Step.hits, Step.targets]
      rw [List.map_append, found_append, found_toStep hshort hpart [], List.nil_append,
        List.flatMap_singleton, List.map_singleton, found_cons, hlength]
      simp only [Node.member, Value.ofJson, Value.ofItems_eq_map, List.length_map, if_true,
        List.flatMap_singleton, found, Node.below]

/-- **`nodes_normalized`** — where a node stands, its normalized path selects it, and nothing else. -/
theorem nodes_normalized {n : Node} (hshort : document.isIndexable = true)
    (h : n.StandsIn document) (hlength : n.location.length < maxNesting)
    (hsmall : n.location.all Element.isSmall = true) (registry : Registry) :
    ∃ own, Path.compile (Location.normalized n.location) registry = .ok own
      ∧ ∀ maxDepth, own.nodes document ⟨maxDepth, none⟩ = .ok [n] := by
  have hcompile := compile_normalized hsmall hlength registry
  refine ⟨_, hcompile, fun maxDepth => ?_⟩
  obtain ⟨progress, hevaluate⟩ := evaluate_of_compile hcompile document maxDepth
  rw [Path.nodes, hevaluate, meaning, found_root, found_of_standsIn hshort h]
  rfl

/-- **`normalized_reread`** — a location of at most 255 steps with indices in range is written as a
path that is read as its steps, so that no other such location is written like it; and the normalized
path of every node that a path selects in a document, as far as its location is one of these, selects
that node in the document and nothing else. -/
theorem normalized_reread (registry : Registry) :
    (∀ l : Location, l.length ≤ 255 → l.all Element.isSmall = true →
      Path.compile l.normalized registry = .ok ⟨l.normalized, .root 0 :: l.map Element.toStep⟩
        ∧ ∀ m : Location, m.length ≤ 255 → m.all Element.isSmall = true →
          l.normalized = m.normalized → l = m)
    ∧ ∀ (text : String) (path : Path) (document : Json) (options : Options) (nodes : List Node),
      Path.compile text registry = .ok path → document.isProper = true →
      document.isIndexable = true → path.nodes document options = .ok nodes →
      ∀ n ∈ nodes, List.length n.location ≤ 255 → n.location.all Element.isSmall = true →
        ∃ own, Path.compile (Location.normalized n.location) registry = .ok own
          ∧ ∀ maxDepth, own.nodes document ⟨maxDepth, none⟩ = .ok [n] := by
  constructor
  · intro l hlength hsmall
    refine ⟨compile_normalized hsmall (Nat.lt_succ_of_le hlength) registry, ?_⟩
    intro m hmLength hmSmall h
    exact Location.eq_of_normalized_eq hsmall (Nat.lt_succ_of_le hlength) hmSmall
      (Nat.lt_succ_of_le hmLength) h
  · intro text path document options nodes hcompile hproper hindexable hnodes n hn hlength hsmall
    rw [nodes_eq_of_ok hcompile hnodes] at hn
    have hstands := standsIn_meaning hcompile hproper options.maxDepth n hn
    exact nodes_normalized hindexable hstands (Nat.lt_succ_of_le hlength) hsmall registry

/-- A name with an apostrophe and a line feed, and the two nodes of a union, one of them a length. -/
theorem normalized_reread_length :
    Path.compile (Location.normalized [.name "it's\n", .index 3])
      = .ok ⟨Location.normalized [.name "it's\n", .index 3], [.root 0, .name "it's\n", .index 3]⟩
    ∧ ∃ path nodes, Path.compile "$['a'][0, 'length']" = .ok path
      ∧ path.nodes (.object [("a", .array [.bool true])]) {} = .ok nodes
      ∧ nodes.map (·.location) = [[.name "a", .index 0], [.name "a", .name "length"]]
      ∧ ∀ n ∈ nodes, ∃ own, Path.compile (Location.normalized n.location) = .ok own
        ∧ ∀ maxDepth, own.nodes (.object [("a", .array [.bool true])]) ⟨maxDepth, none⟩
          = .ok [n] := by
  obtain ⟨hread, hselects⟩ := normalized_reread .builtins
  refine ⟨(hread [.name "it's\n", .index 3] (by decide) (by decide)).1, ?_⟩
  have heval : ((Path.compile "$['a'][0, 'length']").toOption.bind fun path =>
      (path.nodes (.object [("a", .array [.bool true])]) {}).toOption.map fun nodes =>
        nodes.map (·.location)) = some [[.name "a", .index 0], [.name "a", .name "length"]] := by
    decide +kernel
  obtain ⟨path, hpath, hselected⟩ := Option.bind_eq_some_iff.mp heval
  obtain ⟨nodes, hnodes, hlocations⟩ := Option.map_eq_some_iff.mp hselected
  have hcompile := eq_ok_of_toOption hpath
  have hok := eq_ok_of_toOption hnodes
  refine ⟨path, nodes, hcompile, hok, hlocations, fun n hn => ?_⟩
  have hsmall : ∀ l ∈ ([[.name "a", .index 0], [.name "a", .name "length"]] : List Location),
      l.length ≤ 255 ∧ l.all Element.isSmall = true := by decide
  obtain ⟨hlength, hindices⟩ := hsmall n.location (hlocations ▸ List.mem_map_of_mem hn)
  exact hselects _ path _ {} nodes hcompile (by decide +kernel) (by decide +kernel) hok n hn hlength
    hindices

end Path

end JsonQuery
