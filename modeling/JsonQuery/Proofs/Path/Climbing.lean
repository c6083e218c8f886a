/-
# JsonQuery.Proofs.Path.Climbing — carets behind a path climb from what it selects.

Carets behind a path text are one more step of the path, or they make the carets that the path ends
with more.  Either way the longer path leads from every node of the shorter one to its ancestor so
many levels up.  That a caret at the end is read as part of the path at all, and nothing before it
differently, is a fact about the reader; that the ancestor of an ancestor is the ancestor further up
needs nodes that stand where they say, since every ancestor is looked up again from the root.
-/
import JsonQuery.Proofs.Path.Extending
import JsonQuery.Proofs.Path.Standing
import JsonQuery.Proofs.Path.Taking

namespace JsonQuery.Path

open Text (isBlank)

/-- **`Climbs levels steps climbing`** — the steps of a path with so many carets behind it: they are
one more step, or join the carets at the end. -/
inductive Climbs (levels : Nat) : List Step → List Step → Prop where
  | apart {steps : List Step} : Climbs levels steps (steps ++ [.parent levels])
  | joined {before : List Step} {last : Nat} : 1 ≤ last →
      Climbs levels (before ++ [.parent last]) (before ++ [.parent (last + levels)])

namespace Reader

variable {α β : Type} {g : Registry} {extra : Nat} {r s : Reading}

/-! ## Two readers side by side -/

/-- **`ClimbsFrom extra x y g r s`** — where `x` reads steps from `r` to the end of the text and `y`
reads steps from `s`, so does `y`, and those that `y` reads have the carets behind them. -/
def ClimbsFrom (extra : Nat) (x y : Reader (List Step)) (g : Registry) (r s : Reading) : Prop :=
  ∀ steps climbing r' s', x g r = .ok (steps, r') → r'.cursor.rest = [] →
    y g s = .ok (climbing, s') → s'.cursor.rest = [] ∧ Climbs (extra + 1) steps climbing

namespace ClimbsFrom

theorem fail {cause : ParseError.Cause} {y : Reader (List Step)} :
    ClimbsFrom extra (Reader.fail cause) y g r s := fun _ _ _ _ hrun => nomatch hrun

theorem fail_bind {cause : ParseError.Cause} {f : α → Reader (List Step)} {y : Reader (List Step)} :
    ClimbsFrom extra (Reader.fail cause >>= f) y g r s := fun _ _ _ _ hrun => nomatch hrun

theorem ite {c : Prop} [Decidable c] {x x' y y' : Reader (List Step)}
    (hx : ClimbsFrom extra x x' g r s) (hy : ClimbsFrom extra y y' g r s) :
    ClimbsFrom extra (if c then x else y) (if c then x' else y') g r s := by
  split
  · exact hx
  · exact hy

theorem bind {x y : Reader α} {f h : α → Reader (List Step)} (hs : s.spot = r.spot.withCarets extra)
    (hx : ∀ a r', x g r = .ok (a, r') →
      Reads y g (r.spot.withCarets extra) a (r'.spot.withCarets extra))
    (hf : ∀ a r' s', x g r = .ok (a, r') → s'.spot = r'.spot.withCarets extra →
      ClimbsFrom extra (f a) (h a) g r' s') :
    ClimbsFrom extra (x >>= f) (y >>= h) g r s := by
  intro steps climbing r'' s'' hrun hend hrun'
  obtain ⟨a, r', hfirst, hsecond⟩ := bind_eq_ok.mp hrun
  obtain ⟨b, s', hfirst', hsecond'⟩ := bind_eq_ok.mp hrun'
  obtain ⟨t, hread, hspot⟩ := hx a r' hfirst s hs
  obtain ⟨rfl, rfl⟩ := Prod.mk.inj (Except.ok.inj (hread.symm.trans hfirst'))
  exact hf a r' t hfirst hspot steps climbing r'' s'' hsecond hend hsecond'

theorem get_bind {f h : Reading → Reader (List Step)} (hf : ClimbsFrom extra (f r) (h s) g r s) :
    ClimbsFrom extra (get >>= f) (get >>= h) g r s := hf

theorem current_bind {f h : Option Char → Reader (List Step)}
    (hs : s.spot = r.spot.withCarets extra)
    (hend : r.cursor.rest = [] → ClimbsFrom extra (f none) (h (some '^')) g r s)
    (hf : ∀ c, r.cursor.rest ≠ [] → r.cursor.current = c → ClimbsFrom extra (f c) (h c) g r s) :
    ClimbsFrom extra (current >>= f) (current >>= h) g r s := by
  change ClimbsFrom extra (f r.cursor.current) (h s.cursor.current) g r s
  have htext := (Reading.spot_eq_withCarets hs).1
  by_cases hnil : r.cursor.rest = []
  · rw [Text.Cursor.current, Text.Cursor.current, htext, hnil]
    exact hend hnil
  · have hsame : s.cursor.current = r.cursor.current := by
      rw [Text.Cursor.current, htext]
      exact Reading.head?_withCarets hnil
    rw [hsame]
    exact hf _ hnil rfl

/-- Behind what is read alike to the end of the text. -/
theorem bind_closes {x y : Reader α} {f h : α → Reader (List Step)} (hx : Closes extra x y)
    (hs : s.spot = r.spot.withCarets extra)
    (hf : ∀ a r' s', s'.spot = r'.spot.withCarets extra → ClimbsFrom extra (f a) (h a) g r' s') :
    ClimbsFrom extra (x >>= f) (y >>= h) g r s :=
  bind hs (fun a r' hrun => (hx g r a r' hrun).2) fun a r' s' _ => hf a r' s'

/-- Behind a character that is not behind the end of the text. -/
theorem advance_bind {f h : Unit → Reader (List Step)} (hstart : r.cursor.rest ≠ [])
    (hs : s.spot = r.spot.withCarets extra)
    (hf : ∀ a r' s', s'.spot = r'.spot.withCarets extra → ClimbsFrom extra (f a) (h a) g r' s') :
    ClimbsFrom extra (advance >>= f) (advance >>= h) g r s :=
  bind hs (fun a r' hrun => Continues.advance g r a r' hstart hrun) fun a r' s' _ => hf a r' s'

/-- Going back to another depth moves nothing. -/
theorem setDepth {x y : Reader (List Step)} (h : ClimbsFrom extra x y g r s) (depth : Nat) :
    ClimbsFrom extra (x >>= fun steps => Reader.setDepth depth >>= fun _ => pure steps)
      (y >>= fun steps => Reader.setDepth depth >>= fun _ => pure steps) g r s := by
  intro steps climbing r'' s'' hrun hend hrun'
  obtain ⟨steps, r', hfirst, hsecond⟩ := bind_eq_ok.mp hrun
  obtain ⟨climbing, s', hfirst', hsecond'⟩ := bind_eq_ok.mp hrun'
  obtain ⟨rfl, rfl⟩ := Prod.mk.inj (Except.ok.inj hsecond)
  obtain ⟨rfl, rfl⟩ := Prod.mk.inj (Except.ok.inj hsecond')
  exact h steps climbing r' s' hfirst hend hfirst'

end ClimbsFrom

/-! ## The steps of a path -/

/-- Carets at the end of the text are the last step. -/
theorem takes_carets (fuel outer count : Nat) (before : List Step) :
    Takes (readWhile (· = '^') >>= fun run => pathSteps fuel outer (.parent run.length :: before)) g
      (List.replicate count '^')
      fun steps rest => steps = before.reverse ++ [.parent count] ∧ rest = [] := by
  have hrun : (List.replicate count '^').all (· = '^') = true := by
    rw [List.all_replicate]
    cases count <;> rfl
  have hread : ∀ depth roots, Reads (readWhile (· = '^')) g
      ⟨List.replicate count '^', depth, roots⟩ (List.replicate count '^') ⟨[], depth, roots⟩ := by
    intro depth roots
    have hread : Reads (readWhile (· = '^')) g ⟨List.replicate count '^' ++ [], depth, roots⟩
        (List.replicate count '^') ⟨[], depth, roots⟩ := Reads.readWhile hrun rfl
    rwa [List.append_nil] at hread
  refine (Takes.of_reads hread).bind fun run rest ⟨hrun, hrest⟩ => ?_
  subst hrun hrest
  refine (takes_pathSteps_end outer _ rfl).imp fun steps rest ⟨hsteps, hrest⟩ => ⟨?_, hrest⟩
  rw [hsteps, List.reverse_cons, List.length_replicate]

/-- Carets that the text ends with, and the same with more behind them. -/
theorem climbsFrom_carets {fuel fuel' outer : Nat} {before : List Step}
    (hstart : r.cursor.rest ≠ []) (hs : s.spot = r.spot.withCarets extra)
    (hend : r.cursor.rest.dropWhile (· = '^') = []) :
    ClimbsFrom extra (readWhile (· = '^') >>= fun run =>
        pathSteps fuel outer (.parent run.length :: before))
      (readWhile (· = '^') >>= fun run =>
        pathSteps fuel' outer (.parent run.length :: before)) g r s := by
  intro steps climbing r' s' hrun _ hrun'
  have hcarets : r.cursor.rest = List.replicate r.cursor.rest.length '^' := by
    rw [List.dropWhile_eq_nil_iff] at hend
    exact List.eq_replicate_iff.mpr ⟨rfl, fun c hc => of_decide_eq_true (hend c hc)⟩
  have hmore : s.cursor.rest = List.replicate (r.cursor.rest.length + (extra + 1)) '^' := by
    rw [(Reading.spot_eq_withCarets hs).1, hcarets, List.replicate_append_replicate,
      List.length_replicate]
  obtain ⟨rfl, -⟩ := takes_carets fuel outer _ before r hcarets steps r' hrun
  obtain ⟨rfl, hrest⟩ := takes_carets fuel' outer _ before s hmore climbing s' hrun'
  exact ⟨hrest, .joined (List.length_pos_of_ne_nil hstart)⟩

theorem climbsFrom_pathSteps {fuel fuel' : Nat} (hfuel : fuel ≤ fuel') (outer : Nat)
    (before : List Step) (hs : s.spot = r.spot.withCarets extra) :
    ClimbsFrom extra (pathSteps fuel outer before) (pathSteps fuel' outer before) g r s := by
  induction fuel generalizing fuel' before r s with
  | zero => exact .fail
  | succ fuel ih =>
      obtain ⟨fuel', rfl⟩ : ∃ inner, fuel' = inner + 1 := ⟨fuel' - 1, by omega⟩
      have hnext : ∀ (before : List Step) (r s : Reading), s.spot = r.spot.withCarets extra →
          ClimbsFrom extra (pathSteps fuel outer before) (pathSteps fuel' outer before) g r s :=
        fun before r s hs => ih (by omega) before hs
      have hmember : ∀ (before : List Step) (r s : Reading), s.spot = r.spot.withCarets extra →
          ClimbsFrom extra (memberStep >>= fun step => pathSteps fuel outer (step :: before))
            (memberStep >>= fun step => pathSteps fuel' outer (step :: before)) g r s :=
        fun before r s hs => .bind_closes .memberStep hs fun step => hnext _
      unfold pathSteps
      refine .bind hs ?_ fun _ r₁ s₁ _ hs₁ => .get_bind ?_
      · intro u r' hrun
        obtain ⟨-, rfl⟩ := Prod.mk.inj (Except.ok.inj hrun)
        exact Reads.setDepth _
      rw [(Reading.spot_eq_withCarets hs₁).2.1]
      refine .ite .fail_bind (.current_bind hs₁ (fun hnil => ?_) fun c hstart hcurrent => ?_)
      · -- The path has ended where the carets begin.
        intro steps climbing r' s' hrun _ hrun'
        have hcarets : s₁.cursor.rest = List.replicate (extra + 1) '^' := by
          rw [(Reading.spot_eq_withCarets hs₁).1, hnil, List.nil_append]
        obtain ⟨rfl, -⟩ := Prod.mk.inj (Except.ok.inj hrun)
        obtain ⟨rfl, hrest⟩ := takes_carets fuel' outer _ before s₁ hcarets climbing s' hrun'
        exact ⟨hrest, .apart⟩
      · split
        · refine .advance_bind hstart hs₁ fun _ r₂ s₂ hs₂ => .current_bind hs₂ (fun _ => ?_) ?_
          · exact hmember _ r₂ s₂ hs₂
          · intro c hstart _
            refine .ite ?_ (hmember _ r₂ s₂ hs₂)
            refine .advance_bind hstart hs₂ fun _ r₃ s₃ hs₃ => .current_bind hs₃ (fun _ => ?_) ?_
            · exact hmember _ r₃ s₃ hs₃
            · intro c _ _
              exact .ite (hnext _ r₃ s₃ hs₃) (hmember _ r₃ s₃ hs₃)
        · exact .advance_bind hstart hs₁ fun _ r₂ s₂ hs₂ =>
            .bind_closes (closes_brackets (by omega) []) hs₂ fun step => hnext _
        · by_cases hend : r₁.cursor.rest.dropWhile (· = '^') = []
          · exact climbsFrom_carets hstart hs₁ hend
          · refine .bind hs₁ (fun run r' hrun => ?_) fun run r₂ s₂ _ hs₂ => hnext _ r₂ s₂ hs₂
            have hleft := congrArg Spot.text (spot_of_readWhile hrun).2
            have hne : r'.cursor.rest ≠ [] := fun hnil => hend (hleft.symm.trans hnil)
            exact (Extends.readWhile _ g r₁ run r' hrun hne).2
        · intro steps climbing r' s' hrun hend _
          obtain ⟨-, rfl⟩ := Prod.mk.inj (Except.ok.inj hrun)
          exact absurd hend hstart

/-- A path that ends with its text. -/
theorem climbsFrom_path {fuel fuel' : Nat} (hfuel : fuel ≤ fuel')
    (hs : s.spot = r.spot.withCarets extra) :
    ClimbsFrom extra (path fuel) (path fuel') g r s := by
  cases fuel with
  | zero => exact .fail
  | succ fuel =>
      obtain ⟨fuel', rfl⟩ : ∃ inner, fuel' = inner + 1 := ⟨fuel' - 1, by omega⟩
      unfold path
      refine .bind_closes .headStep hs fun head r₁ s₁ hs₁ => .get_bind ?_
      rw [(Reading.spot_eq_withCarets hs₁).2.1]
      exact (climbsFrom_pathSteps (by omega) _ _ hs₁).setDepth _

/-! ## Whole texts -/

/-- Around the path of a text stand blanks and nothing else. -/
theorem exists_path_of_whole {steps : List Step} {r' : Reading} (h : whole g r = .ok (steps, r')) :
    r.cursor.rest.dropWhile isBlank ≠ [] ∧
      ∃ r₁ r₂, r₁.spot = ⟨r.cursor.rest.dropWhile isBlank, r.depth, r.roots⟩ ∧
      path (8 * (r₁.cursor.rest.length + 2)) g r₁ = .ok (steps, r₂) ∧
      r₂.cursor.rest.dropWhile isBlank = [] := by
  unfold whole at h
  obtain ⟨u, r₁, hblanks, h⟩ := bind_eq_ok.mp h
  obtain ⟨-, rfl⟩ := Prod.mk.inj (Except.ok.inj hblanks)
  obtain ⟨c, r₂, hdemand, h⟩ := bind_eq_ok.mp h
  obtain ⟨rfl, hcurrent⟩ := Ensures.demand c r₂ hdemand
  dsimp only at h
  split at h
  · cases h
  · obtain ⟨r₃, r₄, hget, h⟩ := bind_eq_ok.mp h
    obtain ⟨rfl, rfl⟩ := Prod.mk.inj (Except.ok.inj hget)
    obtain ⟨steps', r₅, hpath, h⟩ := bind_eq_ok.mp h
    change (if r₅.cursor.skipBlanks.atEnd then pure steps' else Reader.fail .syntaxError :
      Reader (List Step)) g _ = _ at h
    split at h
    next hend =>
      obtain ⟨rfl, -⟩ := Prod.mk.inj (Except.ok.inj h)
      have hstart : r.cursor.skipBlanks.rest ≠ [] := Reading.rest_ne_nil hcurrent
      rw [Text.Cursor.skipBlanks_rest] at hstart
      refine ⟨hstart, { r with cursor := r.cursor.skipBlanks }, r₅, ?_, hpath, ?_⟩
      · rw [Reading.spot, Text.Cursor.skipBlanks_rest]
      · rw [← Text.Cursor.skipBlanks_rest]
        exact List.isEmpty_iff.mp hend
    next => cases h

/-- The text of a path goes on to the end, or the carets behind it cannot be read. -/
theorem climbs_of_whole {steps climbing : List Step} {r' s' : Reading}
    (hs : s.spot = r.spot.withCarets extra) (hrun : whole g r = .ok (steps, r'))
    (hrun' : whole g s = .ok (climbing, s')) : Climbs (extra + 1) steps climbing := by
  obtain ⟨hstart, r₁, r₂, hr₁, hpath, hend⟩ := exists_path_of_whole hrun
  obtain ⟨-, s₁, s₂, hs₁, hpath', hend'⟩ := exists_path_of_whole hrun'
  have hspot : s₁.spot = r₁.spot.withCarets extra := by
    obtain ⟨htext, hdepth, hroots⟩ := Reading.spot_eq_withCarets hs
    rw [hs₁, hr₁, Spot.withCarets, htext, List.dropWhile_append,
      List.isEmpty_eq_false_iff.mpr hstart, hdepth, hroots]
    rfl
  have hfuel : 8 * (r₁.cursor.rest.length + 2) ≤ 8 * (s₁.cursor.rest.length + 2) := by
    have hlength := Reading.length_rest_le hspot
    omega
  by_cases hdone : r₂.cursor.rest = []
  · exact (climbsFrom_path hfuel hspot steps climbing r₂ s₂ hpath hdone hpath').2
  · -- Blanks behind the path would stand before the carets.
    obtain ⟨-, hreads⟩ := (extends_descent hfuel).path g r₁ steps r₂ hpath hdone
    obtain ⟨t, hread, ht⟩ := hreads s₁ hspot
    obtain ⟨-, rfl⟩ := Prod.mk.inj (Except.ok.inj (hread.symm.trans hpath'))
    rw [(Reading.spot_eq_withCarets ht).1, List.dropWhile_eq_nil_iff] at hend'
    have hcaret := hend' '^' (List.mem_append_right _ (List.mem_replicate.mpr ⟨by omega, rfl⟩))
    cases hcaret

end Reader

/-- **`climbs_of_compile`** — what carets behind a path text do to its steps. -/
theorem climbs_of_compile {text : String} {registry : Registry} {path climbing : Path}
    {levels : Nat} (hlevels : 1 ≤ levels) (h : Path.compile text registry = .ok path)
    (hmore : Path.compile (text ++ String.ofList (List.replicate levels '^')) registry
      = .ok climbing) : Climbs levels path.steps climbing.steps := by
  obtain ⟨extra, rfl⟩ : ∃ extra, levels = extra + 1 := ⟨levels - 1, by omega⟩
  obtain ⟨r, hrun⟩ := exists_run_of_compile h
  obtain ⟨s, hrun'⟩ := exists_run_of_compile hmore
  refine Reader.climbs_of_whole ?_ hrun hrun'
  refine Reading.spot_withCarets ?_ rfl rfl
  rw [Text.Cursor.start, Text.Cursor.start, String.toList_append, String.toList_ofList]

/-! ## Ancestors -/

variable {document : Json} {levels : Nat}

/-- **`a.IsAbove document levels n`** — a node is at the location of `n` without its last elements,
with the value of the part of the document there. -/
structure IsAbove (document : Json) (levels : Nat) (n a : Node) : Prop where
  location : a.location = n.location.take (n.location.length - levels)
  value : ∃ part, Location.part? a.location document = some part ∧ a.value = .ofJson part

/-- Above a node that stands where it says there is a part of the document. -/
theorem exists_part_above {n : Node} (h : n.StandsIn document) (hlevels : 1 ≤ levels) :
    ∃ part, Location.part? (n.location.take (n.location.length - levels)) document = some part := by
  have habove : ∀ (l : Location) (json : Json) (count : Nat),
      Location.part? l document = some json →
        ∃ part, Location.part? (l.take count) document = some part := by
    intro l json count hpart
    rw [← List.take_append_drop count l, Location.part?_append] at hpart
    obtain ⟨part, hfirst, -⟩ := Option.bind_eq_some_iff.mp hpart
    exact ⟨part, hfirst⟩
  cases h with
  | part hpart => exact habove _ _ _ hpart
  | @length l items hpart =>
      have hshort : (l ++ [Location.Element.name "length"]).length - levels ≤ l.length := by
        rw [List.length_append, List.length_singleton]
        omega
      rw [List.take_append_of_le_length hshort]
      exact habove l _ _ hpart

/-- The ancestor is there if the location is long enough. -/
theorem exists_ancestor {n : Node} (h : n.StandsIn document) (hlevels : 1 ≤ levels)
    (hlong : levels ≤ n.location.length) :
    ∃ a, n.ancestor (.ofJson document) levels = [a] ∧ IsAbove document levels n a := by
  obtain ⟨part, hpart⟩ := exists_part_above h hlevels
  refine ⟨⟨n.location.take (n.location.length - levels), .ofJson part⟩, ?_, rfl, part, hpart, rfl⟩
  simp only [Node.ancestor, if_neg (Nat.not_lt.mpr hlong), Location.resolve?_ofJson, hpart,
    Option.map_some]

theorem ancestor_eq_nil {n : Node} (root : Value) (hshort : n.location.length < levels) :
    n.ancestor root levels = [] := by
  rw [Node.ancestor, if_pos hshort]

/-- Climbing further from an ancestor is climbing further from the node. -/
theorem ancestor_add {n : Node} (h : n.StandsIn document) {last : Nat} (hlast : 1 ≤ last)
    (levels : Nat) : n.ancestor (.ofJson document) (last + levels)
      = (n.ancestor (.ofJson document) last).flatMap (·.ancestor (.ofJson document) levels) := by
  by_cases hlong : last ≤ n.location.length
  · obtain ⟨a, ha, habove⟩ := exists_ancestor h hlast hlong
    have hlength : a.location.length = n.location.length - last := by
      rw [habove.location, List.length_take]
      omega
    rw [ha, List.flatMap_singleton, Node.ancestor, Node.ancestor, hlength]
    have hsame : n.location.length < last + levels ↔ n.location.length - last < levels := by omega
    simp only [hsame, habove.location, List.take_take]
    have hplace : n.location.length - (last + levels)
        = min (n.location.length - last - levels) (n.location.length - last) := by omega
    rw [hplace]
  · rw [ancestor_eq_nil _ (by omega), ancestor_eq_nil _ (by omega), List.flatMap_nil]

/-- One by one, the ancestors of nodes whose locations are long enough. -/
theorem forall₂_ancestors {nodes : List Node} (h : ∀ n ∈ nodes, n.StandsIn document)
    (hlevels : 1 ≤ levels) :
    List.Forall₂ (IsAbove document levels) (nodes.filter (levels ≤ ·.location.length))
      (nodes.flatMap (·.ancestor (.ofJson document) levels)) := by
  induction nodes with
  | nil => exact .nil
  | cons n rest ih =>
      obtain ⟨hn, hrest⟩ := List.forall_mem_cons.mp h
      rw [List.flatMap_cons, List.filter_cons]
      by_cases hlong : levels ≤ n.location.length
      · obtain ⟨a, ha, habove⟩ := exists_ancestor hn hlevels hlong
        rw [if_pos (decide_eq_true hlong), ha]
        exact .cons habove (ih hrest)
      · rw [if_neg (by simpa using hlong), ancestor_eq_nil _ (by omega), List.nil_append]
        exact ih hrest

/-! ## What the longer path selects -/

theorem found_parent (c : Context) (n : Node) :
    found c [.parent levels] n = n.ancestor c.root levels := by
  rw [found_singleton]
  simp only [Step.hits, Step.targets]

/-- The nodes of a part of a path from its sign on stand where they say. -/
theorem standsIn_before {text : String} {registry : Registry} {path : Path}
    (h : Path.compile text registry = .ok path) (hproper : document.isProper = true)
    {before after : List Step} (hsteps : path.steps = before ++ after) (maxDepth : Nat) :
    ∀ n ∈ found ⟨.ofJson document, ⟨maxDepth, none⟩⟩ before ⟨[], .ofJson document⟩,
      n.StandsIn document := by
  have hstart : Node.StandsIn document ⟨[], .ofJson document⟩ := .part rfl
  obtain ⟨head, rest, heq, hrest, hsign⟩ := exists_rest_of_compile h
  rw [hsteps] at heq
  cases before with
  | nil =>
      rw [found]
      exact List.forall_mem_singleton.mpr hstart
  | cons sign before =>
      rw [List.cons_append] at heq
      obtain ⟨rfl, rfl⟩ := List.cons.inj heq
      rw [allRelative_append, Bool.and_eq_true] at hrest
      rw [hsign ⟨.ofJson document, ⟨maxDepth, none⟩⟩]
      exact standsIn_found hproper rfl hrest.1 hstart

/-- **`meaning_of_climbs`** — the longer path leads to the ancestors of what the shorter one leads
to. -/
theorem meaning_of_climbs {text : String} {registry : Registry} {path climbing : Path}
    (h : Path.compile text registry = .ok path) (hclimbs : Climbs levels path.steps climbing.steps)
    (hproper : document.isProper = true) (maxDepth : Nat) :
    climbing.meaning document maxDepth
      = (path.meaning document maxDepth).flatMap (·.ancestor (.ofJson document) levels) := by
  rw [meaning, meaning]
  generalize hsteps : path.steps = steps at hclimbs
  generalize climbing.steps = more at hclimbs
  cases hclimbs with
  | apart =>
      rw [found_append]
      exact List.flatMap_congr fun n _ => found_parent _ n
  | @joined before last hlast =>
      rw [found_append, found_append, List.flatMap_assoc]
      refine List.flatMap_congr fun n hn => ?_
      rw [found_parent, found_parent]
      exact ancestor_add (standsIn_before h hproper hsteps maxDepth n hn) hlast levels

/-- **`nodes_climb`** — carets behind a path text climb from what the path selects: of the nodes
whose location is long enough the longer path selects the ancestors, in the same order. -/
theorem nodes_climb {text : String} {registry : Registry} {path climbing : Path} {levels : Nat}
    (hlevels : 1 ≤ levels) (h : Path.compile text registry = .ok path)
    (hmore : Path.compile (text ++ String.ofList (List.replicate levels '^')) registry
      = .ok climbing)
    (hproper : document.isProper = true) (maxDepth : Nat) :
    ∃ nodes above, path.nodes document ⟨maxDepth, none⟩ = .ok nodes ∧
      climbing.nodes document ⟨maxDepth, none⟩ = .ok above ∧
      List.Forall₂ (IsAbove document levels) (nodes.filter (levels ≤ ·.location.length)) above := by
  obtain ⟨progress, hevaluate⟩ := evaluate_of_compile h document maxDepth
  obtain ⟨progress', hevaluate'⟩ := evaluate_of_compile hmore document maxDepth
  refine ⟨path.meaning document maxDepth, climbing.meaning document maxDepth, ?_, ?_, ?_⟩
  · rw [Path.nodes, hevaluate]
    rfl
  · rw [Path.nodes, hevaluate']
    rfl
  · rw [meaning_of_climbs h (climbs_of_compile hlevels h hmore) hproper maxDepth]
    exact forall₂_ancestors (standsIn_meaning h hproper maxDepth) hlevels

/-- One more caret behind `$..['length', 0]^` joins the one that is there: of the four nodes two are
the root, with nothing above it, and above each of the other two is the root. -/
theorem nodes_climb_length :
    let document : Json := .array [.array [.bool true]]
    ∃ path climbing nodes above, Path.compile "$..['length', 0]^" = .ok path ∧
      Path.compile ("$..['length', 0]^" ++ String.ofList (List.replicate 1 '^')) = .ok climbing ∧
      document.isProper = true ∧ path.nodes document ⟨5, none⟩ = .ok nodes ∧
      nodes.map (·.location) = [[], [], [.index 0], [.index 0]] ∧
      climbing.nodes document ⟨5, none⟩ = .ok above ∧
      above.map (·.location) = [[], []] ∧
      List.Forall₂ (IsAbove document 1) (nodes.filter (1 ≤ ·.location.length)) above := by
  intro document
  have heval : ((Path.compile "$..['length', 0]^").toOption.bind fun path =>
      (Path.compile ("$..['length', 0]^" ++ String.ofList (List.replicate 1 '^'))).toOption.map
        fun climbing => ((path.meaning document 5).map (·.location),
          (climbing.meaning document 5).map (·.location)))
      = some ([[], [], [.index 0], [.index 0]], [[], []]) := by decide +kernel
  have hproper : document.isProper = true := by decide +kernel
  obtain ⟨path, hpath, hselected⟩ := Option.bind_eq_some_iff.mp heval
  obtain ⟨climbing, hclimbing, hlocations⟩ := Option.map_eq_some_iff.mp hselected
  obtain ⟨hnodes, habove⟩ := Prod.mk.inj hlocations
  have h := eq_ok_of_toOption hpath
  have hmore := eq_ok_of_toOption hclimbing
  obtain ⟨nodes, above, hok, hok', hclimb⟩ := nodes_climb (Nat.le_refl 1) h hmore hproper 5
  rw [← nodes_eq_of_ok h hok] at hnodes
  rw [← nodes_eq_of_ok hmore hok'] at habove
  exact ⟨path, climbing, nodes, above, h, hmore, hproper, hok, hnodes, hok', habove,
    hclimb⟩

end JsonQuery.Path
