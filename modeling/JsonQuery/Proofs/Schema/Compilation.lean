/-
# JsonQuery.Proofs.Schema.Compilation — what a compilation keeps true of the table that it fills.

While a document is compiled its table has slots that are not filled yet, and slots of references
that wait.  Every slot, filled or not, has the schema of the document that it was reserved for: its
origin.  A node is faithful if it says about instances what its origin says, provided the slots that
it mentions do.  Since origins never change and are only added to, a node stays faithful, and what
two steps of a compilation establish holds together at its end.
-/
import JsonQuery.Proofs.Schema.Meaning
import JsonQuery.Proofs.Schema.Verdict

namespace JsonQuery.Schema

/-! ## Origins -/

/-- **`Stands origins slot schema`** — a slot has been reserved for a schema. -/
def Stands (origins : List Json) (slot : Slot) (schema : Json) : Prop := origins[slot]? = some schema

theorem Stands.mono {origins later : List Json} {slot : Slot} {schema : Json}
    (h : Stands origins slot schema) (hlater : origins <+: later) : Stands later slot schema := by
  obtain ⟨more, rfl⟩ := hlater
  have hlt : slot < origins.length := (List.getElem?_eq_some_iff.mp h).1
  rw [Stands, List.getElem?_append_left hlt]
  exact h

/-- A verdict on slots and a judgement of schemas agree wherever a slot has an origin. -/
def Agrees (origins : List Json) (verdict : Verdict) (judge : Judge) : Prop :=
  ∀ slot schema, Stands origins slot schema → ∀ inst : Json, inst.isProper = true →
    verdict slot inst = judge schema inst

theorem Agrees.mono {origins later : List Json} {verdict : Verdict} {judge : Judge}
    (h : Agrees later verdict judge) (hlater : origins <+: later) : Agrees origins verdict judge :=
  fun slot schema hstands => h slot schema (hstands.mono hlater)

/-- **`Faithful document origins node schema`** — a node says what a schema says, as far as the slots
that it mentions say what their origins say. -/
def Faithful (document : Json) (origins : List Json) (node : Node) (schema : Json) : Prop :=
  ∀ verdict judge, Agrees origins verdict judge → ∀ inst : Json, inst.isProper = true →
    node.accepts verdict inst = Meaning.ofSchema document judge schema inst

theorem Faithful.mono {document : Json} {origins later : List Json} {node : Node} {schema : Json}
    (h : Faithful document origins node schema) (hlater : origins <+: later) :
    Faithful document later node schema :=
  fun verdict judge hagrees => h verdict judge (hagrees.mono hlater)

/-! ## Sound progress -/

/-- **`Sound document origins opened p`** — the table of `p` so far is right: every slot that is
neither opened nor waiting is faithful to its origin, waiting slots have references as origins, and
the index leads from a pointer to a slot for what the pointer leads to in the document. -/
structure Sound (document : Json) (origins : List Json) (opened : List Slot) (p : Progress) :
    Prop where
  size : origins.length = p.nodes.size
  nodes : ∀ slot node schema, p.nodes[slot]? = some node → Stands origins slot schema →
    slot ∈ opened ∨ slot ∈ p.waiting.map (·.1) ∨ Faithful document origins node schema
  waiting : ∀ entry ∈ p.waiting, entry.2.withoutFragment = defaultBase ∧
    ∃ members reference, Stands origins entry.1 (.object members)
      ∧ Entries.get? members "$ref" = some (.string reference)
      ∧ defaultBase.join reference = .ok entry.2
  index : ∀ entry ∈ p.index, ∃ schema, document.pointer? entry.1.2 = some schema
    ∧ Stands origins entry.2 schema
  documents : p.documents = [(defaultBase.toText, document)]

namespace Sound

variable {document : Json} {origins : List Json} {opened : List Slot} {p : Progress}

/-- A new slot is opened for a schema. -/
theorem reserve (h : Sound document origins opened p) (schema : Json) :
    Sound document (origins ++ [schema]) (p.nodes.size :: opened)
      { p with nodes := p.nodes.push (.bool true) } := by
  have hgrown : origins <+: origins ++ [schema] := List.prefix_append _ _
  refine ⟨by simp [h.size], ?_, ?_, ?_, h.documents⟩
  · intro slot node own hnode hstands
    by_cases hslot : slot = p.nodes.size
    · exact .inl (hslot ▸ List.mem_cons_self)
    · rw [Array.getElem?_push, if_neg hslot] at hnode
      have hlt : slot < origins.length := h.size ▸ (Array.getElem?_eq_some_iff.mp hnode).1
      have hown : Stands origins slot own := by
        rw [Stands, List.getElem?_append_left hlt] at hstands
        exact hstands
      rcases h.nodes slot node own hnode hown with hopen | hwait | hfaithful
      · exact .inl (List.mem_cons_of_mem _ hopen)
      · exact .inr (.inl hwait)
      · exact .inr (.inr (hfaithful.mono hgrown))
  · intro entry hentry
    obtain ⟨hbase, members, reference, hstands, hreference⟩ := h.waiting entry hentry
    exact ⟨hbase, members, reference, hstands.mono hgrown, hreference⟩
  · intro entry hentry
    obtain ⟨own, hpointer, hstands⟩ := h.index entry hentry
    exact ⟨own, hpointer, hstands.mono hgrown⟩

/-- An opened slot is filled with a node that is faithful to its origin. -/
theorem fill {slot : Slot} (h : Sound document origins (slot :: opened) p) {schema : Json}
    (hslot : Stands origins slot schema) {node : Node}
    (hnode : Faithful document origins node schema) :
    Sound document origins opened { p with nodes := p.nodes.setIfInBounds slot node } := by
  refine ⟨by simp [h.size], ?_, h.waiting, h.index, h.documents⟩
  intro other found own hfound hown
  rw [Array.getElem?_setIfInBounds] at hfound
  by_cases heq : slot = other
  · subst heq
    have hlt : slot < p.nodes.size := h.size ▸ (List.getElem?_eq_some_iff.mp hslot).1
    obtain rfl : schema = own := Option.some.inj (hslot.symm.trans hown)
    simp only [if_true, if_pos hlt, Option.some.injEq] at hfound
    exact .inr (.inr (hfound ▸ hnode))
  · rw [if_neg heq] at hfound
    rcases h.nodes other found own hfound hown with hopen | hrest
    · exact .inl ((List.mem_cons.mp hopen).resolve_left fun h => heq h.symm)
    · exact .inr hrest

/-- An opened slot whose origin is a reference waits for it. -/
theorem postpone {slot : Slot} (h : Sound document origins (slot :: opened) p)
    {members : Entries Json} {reference : String} {target : Uri}
    (hslot : Stands origins slot (.object members))
    (hreference : members.get? "$ref" = some (.string reference))
    (hjoin : defaultBase.join reference = .ok target)
    (htarget : target.withoutFragment = defaultBase) :
    Sound document origins opened { p with waiting := (slot, target) :: p.waiting } := by
  refine ⟨h.size, ?_, ?_, h.index, h.documents⟩
  · intro other node own hnode hown
    rcases h.nodes other node own hnode hown with hopen | hwait | hfaithful
    · rcases List.mem_cons.mp hopen with rfl | hopen
      · exact .inr (.inl (by simp))
      · exact .inl hopen
    · exact .inr (.inl (by simp [hwait]))
    · exact .inr (.inr hfaithful)
  · exact List.forall_mem_cons.mpr ⟨⟨htarget, members, reference, hslot, hreference, hjoin⟩, h.waiting⟩

/-- A waiting slot is opened again. -/
theorem reopen {slot : Slot} {target : Uri} {rest : List (Slot × Uri)}
    (h : Sound document origins opened p) (hwaiting : p.waiting = (slot, target) :: rest) :
    Sound document origins (slot :: opened) { p with waiting := rest } := by
  refine ⟨h.size, ?_, ?_, h.index, h.documents⟩
  · intro other node own hnode hown
    rcases h.nodes other node own hnode hown with hopen | hwait | hfaithful
    · exact .inl (List.mem_cons_of_mem _ hopen)
    · rw [hwaiting, List.map_cons, List.mem_cons] at hwait
      rcases hwait with rfl | hwait
      · exact .inl List.mem_cons_self
      · exact .inr (.inl hwait)
    · exact .inr (.inr hfaithful)
  · exact fun entry hentry => h.waiting entry (hwaiting ▸ List.mem_cons_of_mem _ hentry)

/-- The address of a place in the document is entered for a slot of what stands there. -/
theorem enter (h : Sound document origins opened p) {slot : Slot} {schema : Json}
    {address : Address} (hpointer : document.pointer? address.2 = some schema)
    (hslot : Stands origins slot schema) :
    Sound document origins opened { p with index := (address, slot) :: p.index } :=
  ⟨h.size, h.nodes, h.waiting,
    List.forall_mem_cons.mpr ⟨⟨schema, hpointer, hslot⟩, h.index⟩, h.documents⟩

end Sound

/-! ## Steps of a compilation -/

namespace Compiling

variable {α β : Type} {document : Json}

theorem bind_eq_ok {c : Compiling α} {f : α → Compiling β} {p q : Progress} {b : β} :
    (c >>= f) p = .ok (b, q) ↔ ∃ a r, c p = .ok (a, r) ∧ f a r = .ok (b, q) := by
  cases hc : c p with
  | error e => simp [bind, StateT.bind, Except.bind, hc]
  | ok result =>
      obtain ⟨a, r⟩ := result
      simp only [bind, StateT.bind, Except.bind, hc, Except.ok.injEq, Prod.mk.injEq]
      constructor
      · exact fun h => ⟨a, r, ⟨rfl, rfl⟩, h⟩
      · rintro ⟨_, _, ⟨rfl, rfl⟩, h⟩
        exact h

theorem pure_eq_ok {a b : α} {p q : Progress} :
    (pure a : Compiling α) p = .ok (b, q) ↔ a = b ∧ p = q := by
  change Except.ok (a, p) = .ok (b, q) ↔ a = b ∧ p = q
  rw [Except.ok.injEq, Prod.mk.injEq]

/-- **`Builds document c Q`** — from a sound progress `c` leads to a sound progress with the same
slots opened, and its result satisfies `Q` from there on, however many origins are still added. -/
def Builds (document : Json) (c : Compiling α) (Q : α → List Json → Prop) : Prop :=
  ∀ origins opened p a q, Sound document origins opened p → c p = .ok (a, q) →
    ∃ grown, origins <+: grown ∧ Sound document grown opened q
      ∧ ∀ later, grown <+: later → Q a later

theorem Builds.pure {a : α} {Q : α → List Json → Prop} (h : ∀ origins, Q a origins) :
    Builds document (pure a) Q := by
  intro origins opened p b q hsound hrun
  obtain ⟨rfl, rfl⟩ := pure_eq_ok.mp hrun
  exact ⟨origins, List.prefix_refl _, hsound, fun later _ => h later⟩

/-- What the first step establishes is at hand when the second one is judged; what it establishes
of its result alone, already when the second one is run. -/
theorem Builds.bind_of {c : Compiling α} {f : α → Compiling β} {P : α → Prop}
    {Q : α → List Json → Prop} {R : β → List Json → Prop}
    (hc : Builds document c fun a origins => P a ∧ Q a origins)
    (hf : ∀ a, P a → Builds document (f a) fun b origins => Q a origins → R b origins) :
    Builds document (c >>= f) R := by
  intro origins opened p b q hsound hrun
  obtain ⟨a, r, hfirst, hsecond⟩ := bind_eq_ok.mp hrun
  obtain ⟨middle, hmiddle, hsound, hQ⟩ := hc origins opened p a r hsound hfirst
  have hP : P a := (hQ middle (List.prefix_refl _)).1
  obtain ⟨grown, hgrown, hsound, hR⟩ := hf a hP middle opened r b q hsound hsecond
  exact ⟨grown, hmiddle.trans hgrown, hsound,
    fun later hlater => hR later hlater (hQ later (hgrown.trans hlater)).2⟩

theorem Builds.imp {c : Compiling α} {Q R : α → List Json → Prop} (hc : Builds document c Q)
    (h : ∀ a origins, Q a origins → R a origins) : Builds document c R := by
  intro origins opened p a q hsound hrun
  obtain ⟨grown, hgrown, hsound, hQ⟩ := hc origins opened p a q hsound hrun
  exact ⟨grown, hgrown, hsound, fun later hlater => h a later (hQ later hlater)⟩

theorem Builds.bind {c : Compiling α} {f : α → Compiling β} {Q : α → List Json → Prop}
    {R : β → List Json → Prop} (hc : Builds document c Q)
    (hf : ∀ a, Builds document (f a) fun b origins => Q a origins → R b origins) :
    Builds document (c >>= f) R :=
  Builds.bind_of (hc.imp fun _ _ hQ => ⟨trivial, hQ⟩) fun a _ => hf a

/-- A last step that only puts the result in its form. -/
theorem Builds.map {c : Compiling α} {f : α → β} {Q : α → List Json → Prop}
    {R : β → List Json → Prop} (hc : Builds document c Q)
    (h : ∀ a origins, Q a origins → R (f a) origins) :
    Builds document (do return f (← c)) R :=
  hc.bind fun a => Builds.pure fun origins => h a origins

theorem Builds.flaw {pointer : String} {f : SchemaError.Flaw} {Q : α → List Json → Prop} :
    Builds document (Compiling.flaw pointer f) Q := by
  intro origins opened p a q _ hrun
  cases hrun

theorem Builds.flaw_bind {pointer : String} {f : SchemaError.Flaw} {g : α → Compiling β}
    {Q : β → List Json → Prop} : Builds document (Compiling.flaw pointer f >>= g) Q := by
  intro origins opened p b q _ hrun
  cases hrun

/-- Every item by itself, in order. -/
theorem Builds.mapM {f : α → Compiling β} {Q : α → β → List Json → Prop} {l : List α}
    (h : ∀ a ∈ l, Builds document (f a) (Q a)) :
    Builds document (l.mapM f) fun results origins =>
      List.Forall₂ (fun a b => Q a b origins) l results := by
  induction l with
  | nil =>
      rw [List.mapM_nil]
      exact Builds.pure fun _ => .nil
  | cons a rest ih =>
      rw [List.mapM_cons]
      have hrest := ih fun b hb => h b (List.mem_cons_of_mem _ hb)
      refine (h a List.mem_cons_self).bind fun b => hrest.map fun results origins hresults hb => ?_
      exact .cons hb hresults

end Compiling

end JsonQuery.Schema
