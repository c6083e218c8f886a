/-
# JsonQuery.Proofs.Schema.Rounds — settling references fills the table without gaps.

A compilation compiles its document and then settles one waiting reference after the other.  Every
point between two of these rounds is the point of a stage that has no task left, so what has been
established of stages holds at the end: no reference waits any more, and each slot is filled
according to its origin.
-/
import JsonQuery.Proofs.Schema.Simulation

namespace JsonQuery.Schema

/-! ## Rounds -/

namespace Compiling

/-- What a compilation does before it settles references. -/
def begin (document : Json) : Compiling Slot := do
  register defaultBase.toText document
  compileAt document defaultBase ""

/-- **`Reached resolver document p`** — compiling a document comes to `p` between two rounds. -/
inductive Reached (resolver : Resolver) (document : Json) : Progress → Prop where
  | start {root : Slot} {p : Progress} : begin document {} = .ok (root, p) →
      Reached resolver document p
  | next {p q : Progress} : Reached resolver document p → settleOne resolver p = .ok (true, q) →
      Reached resolver document q

/-- **`Settles resolver document slot target resolved`** — in some round a slot is taken up that
waits for a target, and the target is resolved to a slot. -/
def Settles (resolver : Resolver) (document : Json) (slot : Slot) (target : Uri)
    (resolved : Slot) : Prop :=
  ∃ p q rest, Reached resolver document p ∧ p.waiting = (slot, target) :: rest
    ∧ resolve resolver target { p with waiting := rest } = .ok (resolved, q)

variable {resolver : Resolver} {document : Json} {s : Stage} {p q : Progress}

theorem settleOne_eq_false (h : settleOne resolver p = .ok (false, q)) :
    p.waiting = [] ∧ p = q := by
  unfold settleOne at h
  obtain ⟨own, r, hget, hcase⟩ := bind_eq_ok.mp h
  obtain ⟨rfl, rfl⟩ := Prod.mk.inj (Except.ok.inj hget)
  cases hwaiting : p.waiting with
  | nil =>
      simp only [hwaiting] at hcase
      exact ⟨rfl, (pure_eq_ok.mp hcase).2⟩
  | cons entry rest =>
      simp only [hwaiting] at hcase
      obtain ⟨⟨⟩, r, -, hcase⟩ := bind_eq_ok.mp hcase
      obtain ⟨resolved, r, -, hcase⟩ := bind_eq_ok.mp hcase
      obtain ⟨⟨⟩, r, -, hreturn⟩ := bind_eq_ok.mp hcase
      cases (pure_eq_ok.mp hreturn).1

/-- A round takes up one waiting slot and fills it with the slot that its target is resolved to. -/
theorem settleOne_eq_true (h : settleOne resolver p = .ok (true, q)) :
    ∃ slot target rest resolved r, p.waiting = (slot, target) :: rest
      ∧ resolve resolver target { p with waiting := rest } = .ok (resolved, r)
      ∧ q = { r with nodes := r.nodes.setIfInBounds slot (.keywords [.ref resolved]) } := by
  unfold settleOne at h
  obtain ⟨own, r, hget, hcase⟩ := bind_eq_ok.mp h
  obtain ⟨rfl, rfl⟩ := Prod.mk.inj (Except.ok.inj hget)
  cases hwaiting : p.waiting with
  | nil =>
      simp only [hwaiting] at hcase
      cases (pure_eq_ok.mp hcase).1
  | cons entry rest =>
      obtain ⟨slot, target⟩ := entry
      simp only [hwaiting] at hcase
      obtain ⟨⟨⟩, r, hset, hcase⟩ := bind_eq_ok.mp hcase
      obtain ⟨-, rfl⟩ := Prod.mk.inj (Except.ok.inj hset)
      obtain ⟨resolved, r, hresolve, hcase⟩ := bind_eq_ok.mp hcase
      obtain ⟨⟨⟩, r', hfill, hreturn⟩ := bind_eq_ok.mp hcase
      obtain ⟨-, rfl⟩ := Prod.mk.inj (Except.ok.inj hfill)
      obtain ⟨-, rfl⟩ := pure_eq_ok.mp hreturn
      exact ⟨slot, target, rest, resolved, r, rfl, hresolve, rfl⟩

/-- A round is one step or more, from a stage without tasks to one without tasks. -/
theorem settleOne_reaches (hreached : Reached resolver document p) (hagenda : s.agenda = [])
    (hs : s.Matches (Settles resolver document) [] p)
    (hrun : settleOne resolver p = .ok (true, q)) :
    ∃ t, Relation.TransGen (Stage.Step resolver) s t ∧ t.agenda = []
      ∧ t.Matches (Settles resolver document) [] q := by
  obtain ⟨slot, target, rest, resolved, r, hwaiting, hresolve, rfl⟩ := settleOne_eq_true hrun
  obtain ⟨o, hslot, htarget⟩ := hs.awaited (slot, target) (by simp [hwaiting])
  have hstep : Stage.Step resolver s _ := .settle hagenda (hs.waiting.trans hwaiting)
  obtain ⟨t, ht, hresolved⟩ :=
    resolve_reaches resolver rfl (hs.reopen hwaiting [.find target]) hresolve
  have hslot := Stage.getElem?_origins ht.steps hslot
  refine ⟨t, .head' hstep ht.steps, ht.agenda, ht.table.fill hslot ?_ ⟨?_, fun h => nomatch h⟩⟩
  · simpa [Node.slots, Keyword.slots, Own] using hresolved
  · exact fun _ => ⟨target, resolved, htarget, rfl, p, r, rest, hreached, hwaiting, hresolve⟩

/-- A compilation begins like its first stage. -/
theorem matches_start (found : Slot → Uri → Slot → Prop) (document : Json) :
    (Stage.start document).Matches found [] { documents := [(defaultBase.toText, document)] } :=
  ⟨rfl, rfl, rfl, rfl, by simp, by simp, by simp, by simp [Stage.start]⟩

theorem begin_reaches (resolver : Resolver) (found : Slot → Uri → Slot → Prop) {root : Slot}
    (hrun : begin document {} = .ok (root, p)) :
    ∃ s, Reaches resolver found (Stage.start document) [] [] p s
      ∧ s.origins[root]? = some ⟨document, ⟨⟨defaultBase, ""⟩, []⟩⟩ := by
  obtain ⟨⟨⟩, r, hregister, hcompile⟩ := bind_eq_ok.mp hrun
  obtain ⟨-, rfl⟩ := Prod.mk.inj (Except.ok.inj hregister)
  exact compileNode_reaches resolver _ (o := ⟨document, _⟩) rfl (matches_start found document)
    hcompile

/-- **`passes_of_reached`** — between two rounds a compilation is where a stage without tasks is. -/
theorem passes_of_reached (h : Reached resolver document p) :
    ∃ s : Stage, s.Passes resolver document ∧ s.agenda = []
      ∧ s.Matches (Settles resolver document) [] p := by
  induction h with
  | start hrun =>
      obtain ⟨s, hs, -⟩ := begin_reaches resolver (Settles resolver document) hrun
      exact ⟨s, hs.steps, hs.agenda, hs.table⟩
  | next hreached hone ih =>
      obtain ⟨s, hpasses, hagenda, hs⟩ := ih
      obtain ⟨t, hsteps, hagenda, ht⟩ := settleOne_reaches hreached hagenda hs hone
      exact ⟨t, hpasses.trans hsteps.to_reflTransGen, hagenda, ht⟩

theorem settle_reaches (rounds : Nat) (hreached : Reached resolver document p)
    (hagenda : s.agenda = []) (hs : s.Matches (Settles resolver document) [] p)
    (hrun : settle resolver rounds p = .ok ((), q)) :
    ∃ t, Reaches resolver (Settles resolver document) s [] [] q t ∧ q.waiting = [] := by
  induction rounds generalizing s p with
  | zero =>
      unfold settle at hrun
      obtain ⟨own, r, hget, hcase⟩ := bind_eq_ok.mp hrun
      obtain ⟨rfl, rfl⟩ := Prod.mk.inj (Except.ok.inj hget)
      split at hcase
      next => cases hcase
      next hwaiting =>
        obtain ⟨-, rfl⟩ := pure_eq_ok.mp hcase
        exact ⟨s, ⟨.refl, hagenda, hs⟩, by simpa using hwaiting⟩
  | succ rounds ih =>
      unfold settle at hrun
      obtain ⟨more, r, hone, hrest⟩ := bind_eq_ok.mp hrun
      cases more with
      | true =>
          obtain ⟨t, hsteps, htagenda, ht⟩ := settleOne_reaches hreached hagenda hs hone
          obtain ⟨u, hu, hwaiting⟩ := ih (.next hreached hone) htagenda ht hrest
          exact ⟨u, ⟨hsteps.to_reflTransGen.trans hu.steps, hu.agenda, hu.table⟩, hwaiting⟩
      | false =>
          obtain ⟨hwaiting, rfl⟩ := settleOne_eq_false hone
          obtain ⟨-, rfl⟩ := pure_eq_ok.mp hrest
          exact ⟨s, ⟨.refl, hagenda, hs⟩, hwaiting⟩

end Compiling

/-! ## Compiled schemas -/

/-- A compilation is its beginning and then rounds. -/
theorem compileWithin_eq (rounds : Nat) (resolver : Resolver) (document : Json) :
    compileWithin rounds resolver document = (do
      let (root, p) ← Compiling.begin document {}
      let (_, q) ← Compiling.settle resolver rounds p
      return ⟨q.nodes, root⟩) := by
  unfold compileWithin Compiling.begin
  simp only [StateT.run, bind, StateT.bind, Except.bind]
  cases Compiling.register defaultBase.toText document {} with
  | error e => rfl
  | ok registered =>
      cases hcompile : Compiling.compileAt document defaultBase "" registered.2 with
      | error e => simp only [hcompile]
      | ok compiled =>
          simp only [hcompile]
          cases Compiling.settle resolver rounds compiled.2 <;> rfl

theorem compileWithin_eq_ok {rounds : Nat} {resolver : Resolver} {document : Json}
    {schema : Schema} (h : compileWithin rounds resolver document = .ok schema) :
    ∃ root p q, Compiling.begin document {} = .ok (root, p)
      ∧ Compiling.settle resolver rounds p = .ok ((), q) ∧ schema = ⟨q.nodes, root⟩ := by
  rw [compileWithin_eq] at h
  cases hbegin : Compiling.begin document {} with
  | error e =>
      rw [hbegin] at h
      cases h
  | ok begun =>
      obtain ⟨root, p⟩ := begun
      rw [hbegin] at h
      cases hsettle : Compiling.settle resolver rounds p with
      | error e =>
          simp only [bind, Except.bind, hsettle] at h
          cases h
      | ok settled =>
          simp only [bind, Except.bind, hsettle] at h
          exact ⟨root, p, settled.2, rfl, hsettle, (Except.ok.inj h).symm⟩

/-- **`filled_of_compileWithin`** — the table of a compiled schema has no gaps: the root and all
slots that its nodes mention exist, and each slot holds what its origin at the last stage asks for.
A reference holds the slot that its target was resolved to and nothing else, and a slot accepts
everything by itself only where the schema is `true`. -/
theorem filled_of_compileWithin {rounds : Nat} {resolver : Resolver} {document : Json}
    {schema : Schema} (h : compileWithin rounds resolver document = .ok schema) :
    schema.root < schema.size
      ∧ (∀ node ∈ schema.nodes, ∀ slot ∈ node.slots, slot < schema.size)
      ∧ ∃ s : Stage, s.Ends resolver document ∧ s.origins.length = schema.size
        ∧ ∀ slot o node, s.origins[slot]? = some o → schema.nodes[slot]? = some node →
          (o.reference?.isSome → ∃ target resolved, o.target? = some target
            ∧ node = .keywords [.ref resolved]
            ∧ Compiling.Settles resolver document slot target resolved)
          ∧ (node = .bool true → o.schema = .bool true) := by
  obtain ⟨root, p, q, hbegin, hsettle, rfl⟩ := compileWithin_eq_ok h
  obtain ⟨s, hs, hroot⟩ :=
    Compiling.begin_reaches resolver (Compiling.Settles resolver document) hbegin
  obtain ⟨t, ht, hwaiting⟩ :=
    Compiling.settle_reaches rounds (.start hbegin) hs.agenda hs.table hsettle
  have hroot := (List.getElem?_eq_some_iff.mp (Stage.getElem?_origins ht.steps hroot)).1
  have hsize : t.origins.length = q.nodes.size := ht.table.size
  refine ⟨hroot.trans_eq hsize, ?_, t, ⟨hs.steps.trans ht.steps, ht.agenda, ?_⟩, hsize, ?_⟩
  · intro node hnode slot hslot
    obtain ⟨i, hi, rfl⟩ := Array.mem_iff_getElem.mp hnode
    exact ht.table.mentioned i _ (Array.getElem?_eq_getElem hi) slot hslot
  · rw [ht.table.waiting, hwaiting]
  · intro slot o node hslot hnode
    rcases ht.table.filled slot o node hslot hnode with hopened | hwait | hfilled
    · cases hopened
    · rw [hwaiting] at hwait
      cases hwait
    · exact ⟨hfilled.reference, hfilled.accepting⟩

/-- Ways that lead to each other: a way that turns into another document, which knows the first one
and has a part that is no schema by its place. -/
def waysDocument : Json :=
  .object [
    ("$id", .string "schema://example.com/ways.json"),
    ("definitions", .object [("way", .object [("$ref", .string "turns.json#/turns/left")])]),
    ("items", .object [("$ref", .string "#/definitions/way")]),
    ("contains", .bool true)]

/-- The other document. -/
def turnsDocument : Json :=
  .object [
    ("turns", .object [("left", .object [("not", .object [("$ref", .string "ways.json")])])]),
    ("const", .string "turn")]

/-- The documents by their addresses. -/
def waysResolver : Resolver := fun address =>
  [("schema://example.com/turns.json", turnsDocument)].lookup address

/-- Three references are settled with slots that exist. -/
theorem filled_of_compileWithin_ways :
    ∃ schema, compileWithin 4 waysResolver waysDocument = .ok schema ∧ schema.size = 7
      ∧ schema.root < schema.size
      ∧ ∀ node ∈ schema.nodes, ∀ slot ∈ node.slots, slot < schema.size := by
  have hcompiles :
      (compileWithin 4 waysResolver waysDocument).toOption.map Schema.size = some 7 := by
    decide +kernel
  cases hcompile : compileWithin 4 waysResolver waysDocument with
  | error e => simp [hcompile, Except.toOption] at hcompiles
  | ok schema =>
      obtain ⟨hroot, hmentioned, -⟩ := filled_of_compileWithin hcompile
      rw [hcompile] at hcompiles
      exact ⟨schema, rfl, Option.some.inj hcompiles, hroot, hmentioned⟩

end JsonQuery.Schema
