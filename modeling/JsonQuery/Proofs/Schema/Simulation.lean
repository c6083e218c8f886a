/-
# JsonQuery.Proofs.Schema.Simulation — a compilation does what is on the agenda.

What a compilation does between two points can be done in steps from the one stage to the other, as
long as no flaw stops it: a schema takes one task off the agenda and is followed by the tasks of its
parts, in the order in which the compilation calls for them.  The tables of stage and compilation
are the same at both points.  Along with that goes what the slots are good for: all that are
mentioned exist, and a slot that is neither opened nor waiting is filled according to its origin.
-/
import JsonQuery.Proofs.Schema.Agenda
import JsonQuery.Proofs.Schema.Script

namespace JsonQuery.Schema

/-! ## Filled slots -/

/-- **`o.Filled found slot node`** — a node is what a slot is filled with for its origin: a
reference leads to a slot that was found for its target, and nothing but the schema that accepts
everything is compiled to the node that accepts everything. -/
structure Origin.Filled (found : Slot → Uri → Slot → Prop) (slot : Slot) (node : Node)
    (o : Origin) : Prop where
  reference : o.reference?.isSome → ∃ target resolved, o.target? = some target
    ∧ node = .keywords [.ref resolved] ∧ found slot target resolved
  accepting : node = .bool true → o.schema = .bool true

/-- **`s.Matches found opened p`** — a stage and a compilation are at the same point: their tables
are the same, the slots in them exist, waiting slots wait for the targets of their origins, and all
other slots are filled unless they are opened. -/
structure Stage.Matches (found : Slot → Uri → Slot → Prop) (s : Stage) (opened : List Slot)
    (p : Progress) : Prop where
  size : s.origins.length = p.nodes.size
  index : s.index = p.index
  documents : s.documents = p.documents
  waiting : s.waiting = p.waiting
  entered : ∀ entry ∈ p.index, entry.2 < p.nodes.size
  mentioned : ∀ (slot : Slot) (node : Node), p.nodes[slot]? = some node →
    Own (· < p.nodes.size) node.slots
  awaited : ∀ entry ∈ p.waiting, ∃ o, s.origins[entry.1]? = some o ∧ o.target? = some entry.2
  filled : ∀ (slot : Slot) (o : Origin) (node : Node), s.origins[slot]? = some o →
    p.nodes[slot]? = some node →
    slot ∈ opened ∨ slot ∈ p.waiting.map (·.1) ∨ o.Filled found slot node

namespace Stage.Matches

variable {found : Slot → Uri → Slot → Prop} {s : Stage} {opened : List Slot} {p : Progress}

theorem withAgenda (h : s.Matches found opened p) (agenda : List Task) :
    Stage.Matches found { s with agenda := agenda } opened p :=
  ⟨h.size, h.index, h.documents, h.waiting, h.entered, h.mentioned, h.awaited, h.filled⟩

/-- A slot is opened for an origin. -/
theorem reserve (h : s.Matches found opened p) (o : Origin) (agenda : List Task) :
    Stage.Matches found { s with origins := s.origins ++ [o], agenda := agenda }
      (p.nodes.size :: opened) { p with nodes := p.nodes.push (.bool true) } := by
  refine ⟨by simp [h.size], h.index, h.documents, h.waiting, ?_, ?_, ?_, ?_⟩
  · intro entry hentry
    rw [Array.size_push]
    exact Nat.lt_succ_of_lt (h.entered entry hentry)
  · intro slot node hnode other hother
    rw [Array.getElem?_push] at hnode
    split at hnode
    · obtain rfl := Option.some.inj hnode
      cases hother
    · rw [Array.size_push]
      exact Nat.lt_succ_of_lt (h.mentioned slot node hnode other hother)
  · intro entry hentry
    obtain ⟨own, hown, htarget⟩ := h.awaited entry hentry
    refine ⟨own, ?_, htarget⟩
    rw [List.getElem?_append_left (List.getElem?_eq_some_iff.mp hown).1, hown]
  · intro slot own node hown hnode
    by_cases hslot : slot = p.nodes.size
    · exact .inl (hslot ▸ List.mem_cons_self)
    · rw [Array.getElem?_push, if_neg hslot] at hnode
      have hlt : slot < s.origins.length := h.size ▸ (Array.getElem?_eq_some_iff.mp hnode).1
      rw [List.getElem?_append_left hlt] at hown
      rcases h.filled slot own node hown hnode with hopened | hrest
      · exact .inl (List.mem_cons_of_mem _ hopened)
      · exact .inr hrest

/-- An opened slot is filled. -/
theorem fill {slot : Slot} {o : Origin} {node : Node} (h : s.Matches found (slot :: opened) p)
    (hslot : s.origins[slot]? = some o) (hown : Own (· < s.origins.length) node.slots)
    (hfilled : o.Filled found slot node) :
    s.Matches found opened { p with nodes := p.nodes.setIfInBounds slot node } := by
  refine ⟨by simp [h.size], h.index, h.documents, h.waiting, ?_, ?_, h.awaited, ?_⟩
  · simpa using h.entered
  · intro other own hnode
    simp only [Array.size_setIfInBounds]
    rw [Array.getElem?_setIfInBounds] at hnode
    split at hnode
    · split at hnode
      · obtain rfl := Option.some.inj hnode
        exact h.size ▸ hown
      · cases hnode
    · exact h.mentioned other own hnode
  · intro other own found hown hnode
    rw [Array.getElem?_setIfInBounds] at hnode
    by_cases heq : slot = other
    · subst heq
      have hlt : slot < p.nodes.size := h.size ▸ (List.getElem?_eq_some_iff.mp hslot).1
      obtain rfl : o = own := Option.some.inj (hslot.symm.trans hown)
      simp only [if_true, if_pos hlt, Option.some.injEq] at hnode
      exact .inr (.inr (hnode ▸ hfilled))
    · rw [if_neg heq] at hnode
      rcases h.filled other own found hown hnode with hopened | hrest
      · exact .inl ((List.mem_cons.mp hopened).resolve_left fun h => heq h.symm)
      · exact .inr hrest

/-- An opened slot waits for the target of its origin. -/
theorem postpone {slot : Slot} {o : Origin} {target : Uri}
    (h : s.Matches found (slot :: opened) p) (hslot : s.origins[slot]? = some o)
    (htarget : o.target? = some target) (agenda : List Task) :
    Stage.Matches found { s with waiting := (slot, target) :: s.waiting, agenda := agenda } opened
      { p with waiting := (slot, target) :: p.waiting } := by
  refine ⟨h.size, h.index, h.documents, congrArg _ h.waiting, h.entered, h.mentioned, ?_, ?_⟩
  · exact List.forall_mem_cons.mpr ⟨⟨o, hslot, htarget⟩, h.awaited⟩
  · intro other own node hown hnode
    rcases h.filled other own node hown hnode with hopened | hwaiting | hfilled
    · rcases List.mem_cons.mp hopened with rfl | hopened
      · exact .inr (.inl List.mem_cons_self)
      · exact .inl hopened
    · exact .inr (.inl (List.mem_cons_of_mem _ hwaiting))
    · exact .inr (.inr hfilled)

/-- A waiting slot is opened again. -/
theorem reopen {slot : Slot} {target : Uri} {rest : List (Slot × Uri)}
    (h : s.Matches found opened p) (hwaiting : p.waiting = (slot, target) :: rest)
    (agenda : List Task) :
    Stage.Matches found { s with waiting := rest, agenda := agenda } (slot :: opened)
      { p with waiting := rest } := by
  refine ⟨h.size, h.index, h.documents, rfl, h.entered, h.mentioned, ?_, ?_⟩
  · exact fun entry hentry => h.awaited entry (hwaiting ▸ List.mem_cons_of_mem _ hentry)
  · intro other own node hown hnode
    rcases h.filled other own node hown hnode with hopened | hwait | hfilled
    · exact .inl (List.mem_cons_of_mem _ hopened)
    · rw [hwaiting, List.map_cons, List.mem_cons] at hwait
      rcases hwait with rfl | hwait
      · exact .inl List.mem_cons_self
      · exact .inr (.inl hwait)
    · exact .inr (.inr hfilled)

/-- A slot that exists is entered into the index. -/
theorem enter {slot : Slot} (h : s.Matches found opened p) (hslot : slot < s.origins.length)
    (address : Address) (agenda : List Task) :
    Stage.Matches found { s with index := (address, slot) :: s.index, agenda := agenda } opened
      { p with index := (address, slot) :: p.index } :=
  ⟨h.size, congrArg _ h.index, h.documents, h.waiting,
    List.forall_mem_cons.mpr ⟨h.size ▸ hslot, h.entered⟩, h.mentioned, h.awaited, h.filled⟩

/-- A document is registered. -/
theorem register (h : s.Matches found opened p) (address : String) (document : Json)
    (agenda : List Task) :
    Stage.Matches found { s with
      documents := (address, document) :: s.documents, agenda := agenda } opened
      { p with documents := (address, document) :: p.documents } :=
  ⟨h.size, h.index, congrArg _ h.documents, h.waiting, h.entered, h.mentioned, h.awaited, h.filled⟩

end Stage.Matches

/-! ## Runs of tasks -/

/-- **`Reaches resolver found s rest opened q t`** — in steps from `s`, a stage `t` is reached that
matches a progress and has only the rest of the agenda before it. -/
structure Reaches (resolver : Resolver) (found : Slot → Uri → Slot → Prop) (s : Stage)
    (rest : List Task) (opened : List Slot) (q : Progress) (t : Stage) : Prop where
  steps : Relation.ReflTransGen (Stage.Step resolver) s t
  agenda : t.agenda = rest
  table : t.Matches found opened q

theorem Stage.origins_grow {resolver : Resolver} {s t : Stage}
    (h : Relation.ReflTransGen (Stage.Step resolver) s t) : s.origins <+: t.origins := by
  induction h with
  | refl => exact List.prefix_refl _
  | tail _ hstep ih => exact ih.trans hstep.origins_grow

theorem Stage.getElem?_origins {resolver : Resolver} {s t : Stage} {slot : Slot} {o : Origin}
    (h : Relation.ReflTransGen (Stage.Step resolver) s t) (hslot : s.origins[slot]? = some o) :
    t.origins[slot]? = some o := by
  obtain ⟨more, hmore⟩ := Stage.origins_grow h
  rw [← hmore, List.getElem?_append_left (List.getElem?_eq_some_iff.mp hslot).1, hslot]

namespace Compiling

variable (resolver : Resolver) {found : Slot → Uri → Slot → Prop} {s : Stage} {opened : List Slot}
  {rest : List Task} {p q : Progress}

/-! ## Identifiers and addresses -/

/-- What an identifier has done. -/
def declare (schema : Json) (slot : Slot) : Identity → Compiling Unit
  | .absent => pure ()
  | .place address => enter address slot
  | .document base => registerNew base.toText schema

theorem join_eq_ok {base uri : Uri} {text : String} :
    join base text p = .ok (uri, q) ↔ base.join text = .ok uri ∧ p = q := by
  unfold join
  cases base.join text with
  | ok joined => simp only [pure_eq_ok, Except.ok.injEq]
  | error fault => exact iff_of_false (fun h => nomatch h) fun h => nomatch h.1

/-- An identifier that can be read is read as what its schema is. -/
theorem identify_ok {o : Origin} {slot : Slot} {inner : Scopes}
    (h : identify o.schema slot o.scopes p = .ok (inner, q)) :
    ∃ identity, o.identity? = some identity ∧ inner = o.inner identity
      ∧ declare o.schema slot identity p = .ok ((), q) := by
  unfold identify at h
  unfold Origin.identity?
  cases hid : o.schema.get? "$id" with
  | none =>
      rw [hid] at h
      obtain ⟨rfl, rfl⟩ := pure_eq_ok.mp h
      exact ⟨.absent, rfl, rfl, rfl⟩
  | some value =>
      rw [hid] at h
      cases value with
      | null | bool | number | array | object =>
          obtain ⟨rfl, rfl⟩ := pure_eq_ok.mp h
          exact ⟨.absent, rfl, rfl, rfl⟩
      | string id =>
          obtain ⟨joined, r, hjoin, hdeclare⟩ := bind_eq_ok.mp h
          obtain ⟨hjoined, rfl⟩ := join_eq_ok.mp hjoin
          simp only [hjoined, Except.toOption, Option.map_some, Option.some.injEq,
            exists_eq_left', Identity.ofJoined]
          split at hdeclare
          next hplace =>
            obtain ⟨⟨⟩, r, henter, hreturn⟩ := bind_eq_ok.mp hdeclare
            obtain ⟨rfl, rfl⟩ := pure_eq_ok.mp hreturn
            rw [if_pos hplace]
            exact ⟨rfl, henter⟩
          next hdocument =>
            obtain ⟨⟨⟩, r, hregister, hreturn⟩ := bind_eq_ok.mp hdeclare
            obtain ⟨rfl, rfl⟩ := pure_eq_ok.mp hreturn
            rw [if_neg hdocument]
            exact ⟨rfl, hregister⟩

theorem enter_reaches {slot : Slot} {address : Address}
    (hagenda : s.agenda = .enter address slot :: rest) (hslot : slot < s.origins.length)
    (hs : s.Matches found opened p) (hrun : enter address slot p = .ok ((), q)) :
    ∃ t, Reaches resolver found s rest opened q t := by
  obtain ⟨-, rfl⟩ := Prod.mk.inj (Except.ok.inj hrun)
  exact ⟨_, .single (.enter hagenda), rfl, hs.enter hslot address rest⟩

theorem registerNew_reaches {address : String} {document : Json}
    (hagenda : s.agenda = .register address document :: rest)
    (hs : s.Matches found opened p) (hrun : registerNew address document p = .ok ((), q)) :
    ∃ t, Reaches resolver found s rest opened q t := by
  obtain ⟨known, r, hdocument, hregister⟩ := bind_eq_ok.mp hrun
  obtain ⟨rfl, rfl⟩ := Prod.mk.inj (Except.ok.inj hdocument)
  cases hlookup : p.documents.lookup address with
  | some document =>
      rw [hlookup] at hregister
      obtain ⟨-, rfl⟩ := pure_eq_ok.mp hregister
      exact ⟨_, .single (.registered hagenda (by rw [hs.documents, hlookup]; rfl)), rfl,
        hs.withAgenda rest⟩
  | none =>
      rw [hlookup] at hregister
      obtain ⟨-, rfl⟩ := Prod.mk.inj (Except.ok.inj hregister)
      exact ⟨_, .single (.register hagenda (by rw [hs.documents, hlookup])), rfl,
        hs.register address document rest⟩

theorem declare_reaches {o : Origin} {slot : Slot} {identity : Identity}
    (hagenda : s.agenda = o.declarations slot identity ++ rest) (hslot : slot < s.origins.length)
    (hs : s.Matches found opened p) (hrun : declare o.schema slot identity p = .ok ((), q)) :
    ∃ t, Reaches resolver found s rest opened q t := by
  cases identity with
  | absent =>
      obtain ⟨-, rfl⟩ := pure_eq_ok.mp hrun
      exact ⟨s, .refl, hagenda, hs⟩
  | place address => exact enter_reaches resolver hagenda hslot hs hrun
  | document base => exact registerNew_reaches resolver hagenda hs hrun

theorem enterAll_reaches {slot : Slot} {scopes : List Scope}
    (hagenda : s.agenda = Origin.entries slot scopes ++ rest) (hslot : slot < s.origins.length)
    (hs : s.Matches found opened p) (hrun : enterAll slot scopes p = .ok ((), q)) :
    ∃ t, Reaches resolver found s rest opened q t := by
  induction scopes generalizing s p with
  | nil =>
      obtain ⟨-, rfl⟩ := pure_eq_ok.mp hrun
      exact ⟨s, .refl, hagenda, hs⟩
  | cons scope scopes ih =>
      obtain ⟨⟨⟩, r, henter, hrest⟩ := bind_eq_ok.mp hrun
      obtain ⟨t, ht⟩ := enter_reaches resolver hagenda hslot hs henter
      have hgrown := (Stage.origins_grow ht.steps).length_le
      obtain ⟨u, hu⟩ := ih ht.agenda (hslot.trans_le hgrown) ht.table hrest
      exact ⟨u, ht.steps.trans hu.steps, hu.agenda, hu.table⟩

/-! ## Schemas -/

/-- A script does what there is to do for the parts that it calls for.  As slots are only added,
what it makes of the slots of the parts can be said of all that exist at its end. -/
theorem run_reaches {α : Type} {script : Script α} {part : Part} {scopes : Scopes}
    {list : List Child} {Q : Nat → α → Prop} {a : α}
    (hpart : ∀ child ∈ list, ∀ (s : Stage) (rest : List Task) (p q : Progress) (slot : Slot),
      s.agenda = .schema ⟨child.2, scopes.descend child.1⟩ :: rest → s.Matches found opened p →
      part child.1 child.2 p = .ok (slot, q) →
      ∃ t, Reaches resolver found s rest opened q t ∧ slot < t.origins.length)
    (hagenda : s.agenda = Origin.parts scopes list ++ rest) (hs : s.Matches found opened p)
    (hfollows : ∀ n, s.origins.length ≤ n → script.Follows (· < n) (Q n) list)
    (hrun : script.run part p = .ok (a, q)) :
    ∃ t, Reaches resolver found s rest opened q t ∧ Q t.origins.length a := by
  induction script generalizing s p list with
  | done b =>
      obtain ⟨rfl, rfl⟩ := pure_eq_ok.mp hrun
      obtain ⟨rfl, hQ⟩ := hfollows _ (Nat.le_refl _)
      exact ⟨s, ⟨.refl, hagenda, hs⟩, hQ⟩
  | stop pointer f => cases hrun
  | call segments json next ih =>
      obtain ⟨slot, r, hcall, hnext⟩ := bind_eq_ok.mp hrun
      obtain ⟨behind, rfl, -⟩ := hfollows _ (Nat.le_refl _)
      obtain ⟨t, ht, hslot⟩ := hpart _ List.mem_cons_self s _ p r slot hagenda hs hcall
      have hgrown := (Stage.origins_grow ht.steps).length_le
      have hrest := fun child hchild => hpart child (List.mem_cons_of_mem _ hchild)
      obtain ⟨u, hu, hQ⟩ := ih slot hrest ht.agenda ht.table (fun n hn => by
          obtain ⟨other, heq, hfollow⟩ := hfollows n (hgrown.trans hn)
          obtain rfl := (List.cons.inj heq).2
          exact hfollow slot (hslot.trans_le hn)) hnext
      exact ⟨u, ⟨ht.steps.trans hu.steps, hu.agenda, hu.table⟩, hQ⟩

/-- The contents of a schema are put into its slot, or a reference is left to wait. -/
theorem close_reaches {o : Origin} {identity : Identity} {slot : Slot} {c : Contents}
    (hagenda : s.agenda = o.references slot (o.inner identity).base ++ rest)
    (hidentity : o.identity? = some identity) (hslot : s.origins[slot]? = some o)
    (hs : s.Matches found (slot :: opened) p) (hc : c.Suits (· < s.origins.length) o.schema)
    (hrun : close slot (o.inner identity).base c p = .ok ((), q)) :
    ∃ t, Reaches resolver found s rest opened q t := by
  cases c with
  | bool b =>
      have hschema : o.schema = .bool b := hc
      have hreference : o.reference? = none := by rw [Origin.reference?, hschema]; rfl
      obtain ⟨-, rfl⟩ := Prod.mk.inj (Except.ok.inj hrun)
      rw [Origin.references, hreference] at hagenda
      refine ⟨s, .refl, hagenda, hs.fill hslot (fun _ h => nomatch h) ⟨?_, ?_⟩⟩
      · simp [hreference]
      · intro haccepts
        rw [hschema, Node.bool.inj haccepts]
  | keywords list =>
      obtain ⟨hget, hown⟩ := hc
      have hreference : o.reference? = none := by rw [Origin.reference?, hget]; rfl
      obtain ⟨-, rfl⟩ := Prod.mk.inj (Except.ok.inj hrun)
      rw [Origin.references, hreference] at hagenda
      refine ⟨s, .refl, hagenda, hs.fill hslot hown ⟨?_, fun h => nomatch h⟩⟩
      simp [hreference]
  | reference text =>
      have hget : o.schema.get? "$ref" = some (.string text) := hc
      have hreference : o.reference? = some text := by rw [Origin.reference?, hget]; rfl
      obtain ⟨target, r, hjoin, hpostpone⟩ := bind_eq_ok.mp hrun
      obtain ⟨htarget, rfl⟩ := join_eq_ok.mp hjoin
      obtain ⟨-, rfl⟩ := Prod.mk.inj (Except.ok.inj hpostpone)
      rw [Origin.references, hreference] at hagenda
      refine ⟨_, .single (.refer hagenda htarget), rfl, hs.postpone hslot ?_ rest⟩
      simp [Origin.target?, hidentity, hreference, htarget, Except.toOption]

/-- A slot is reserved for a schema and entered under all its addresses; what is left are the tasks
of the parts and of the reference. -/
theorem open_reaches {o : Origin} {identity : Identity} {p₁ p₂ : Progress}
    (hagenda : s.agenda = .schema o :: rest) (hs : s.Matches found opened p)
    (hidentity : o.identity? = some identity)
    (hdeclare : declare o.schema p.nodes.size identity
      { p with nodes := p.nodes.push (.bool true) } = .ok ((), p₁))
    (henter : enterAll p.nodes.size (o.inner identity).all p₁ = .ok ((), p₂)) :
    ∃ t, Reaches resolver found s (Origin.parts (o.inner identity) (children o.schema)
        ++ (o.references p.nodes.size (o.inner identity).base ++ rest))
        (p.nodes.size :: opened) p₂ t
      ∧ t.origins[p.nodes.size]? = some o := by
  -- The slot is the one behind all others.
  have hsize : p.nodes.size = s.origins.length := hs.size.symm
  have hreserved := hs.reserve o (o.tasks s.origins.length identity ++ rest)
  have hstep : Stage.Step resolver s _ := .schema hagenda hidentity
  rw [hsize] at hreserved hdeclare henter ⊢
  simp only [Origin.tasks, List.append_assoc] at hstep hreserved
  have hslot : (s.origins ++ [o])[s.origins.length]? = some o := by simp
  have hlt : s.origins.length < (s.origins ++ [o]).length := by simp
  obtain ⟨t, ht⟩ := declare_reaches resolver rfl hlt hreserved hdeclare
  have hlt := hlt.trans_le (Stage.origins_grow ht.steps).length_le
  obtain ⟨u, hu⟩ := enterAll_reaches resolver ht.agenda hlt ht.table henter
  have hsteps := ht.steps.trans hu.steps
  exact ⟨u, ⟨.head hstep hsteps, hu.agenda, hu.table⟩, Stage.getElem?_origins hsteps hslot⟩

/-- **`compileNode_reaches`** — compiling a schema does the task of the schema, and the slot that it
gives is the one that was reserved for it. -/
theorem compileNode_reaches (fuel : Nat) {o : Origin} {slot : Slot}
    (hagenda : s.agenda = .schema o :: rest) (hs : s.Matches found opened p)
    (hrun : compileNode fuel o.schema o.scopes p = .ok (slot, q)) :
    ∃ t, Reaches resolver found s rest opened q t ∧ t.origins[slot]? = some o := by
  induction fuel generalizing o s opened rest p q slot with
  | zero => cases hrun
  | succ fuel ih =>
      rw [compileNode_succ] at hrun
      obtain ⟨reserved, p₁, hreserve, hbehind⟩ := bind_eq_ok.mp hrun
      obtain ⟨rfl, rfl⟩ := Prod.mk.inj (Except.ok.inj hreserve)
      obtain ⟨inner, p₂, hidentify, hbehind⟩ := bind_eq_ok.mp hbehind
      obtain ⟨identity, hidentity, rfl, hdeclare⟩ := identify_ok hidentify
      obtain ⟨⟨⟩, p₃, henter, hbehind⟩ := bind_eq_ok.mp hbehind
      obtain ⟨⟨⟩, p₄, hcomplete, hreturn⟩ := bind_eq_ok.mp hbehind
      obtain ⟨rfl, rfl⟩ := pure_eq_ok.mp hreturn
      obtain ⟨t, ht, hslot⟩ := open_reaches resolver hagenda hs hidentity hdeclare henter
      -- The parts are compiled by the same function, with one level less.
      rw [complete_eq] at hcomplete
      obtain ⟨c, p₅, hcontents, hclose⟩ := bind_eq_ok.mp hcomplete
      obtain ⟨script, hscript, hfollows⟩ :=
        walks_contents (o.inner identity).pointer o.schema
      replace hcontents : script.run _ p₃ = .ok (c, p₅) :=
        (congrFun (hscript _) p₃).symm.trans hcontents
      obtain ⟨u, hu, hsuits⟩ := run_reaches resolver (Q := fun n c => c.Suits (· < n) o.schema)
        (fun child _ s rest p q slot hagenda hs hrun => by
          obtain ⟨t, ht, hstands⟩ := ih (o := ⟨child.2, _⟩) hagenda hs hrun
          exact ⟨t, ht, (List.getElem?_eq_some_iff.mp hstands).1⟩)
        ht.agenda ht.table (fun n _ => hfollows (· < n)) hcontents
      have hslot := Stage.getElem?_origins hu.steps hslot
      obtain ⟨v, hv⟩ := close_reaches resolver hu.agenda hidentity hslot hu.table hsuits hclose
      exact ⟨v, ⟨ht.steps.trans (hu.steps.trans hv.steps), hv.agenda, hv.table⟩,
        Stage.getElem?_origins hv.steps hslot⟩

/-! ## References -/

/-- The part of a document that a target points to is compiled for it. -/
theorem compilePart_reaches {target : Uri} {slot : Slot}
    (hagenda : s.agenda = .find target :: rest) (hs : s.Matches found opened p)
    (hindex : p.index.lookup (targetAddress target) = none)
    (hrun : compilePart target p = .ok (slot, q)) :
    ∃ t, Reaches resolver found s rest opened q t ∧ slot < t.origins.length := by
  unfold compilePart targetAddress at hrun
  obtain ⟨known, r, hdocument, hcompile⟩ := bind_eq_ok.mp hrun
  obtain ⟨rfl, rfl⟩ := Prod.mk.inj (Except.ok.inj hdocument)
  cases hlookup : p.documents.lookup target.withoutFragment.toText with
  | none =>
      rw [hlookup] at hcompile
      cases hcompile
  | some document =>
      rw [hlookup, Option.bind_some] at hcompile
      cases hpointer : document.pointer? target.decodedFragment with
      | none =>
          rw [hpointer] at hcompile
          cases hcompile
      | some schema =>
          rw [hpointer] at hcompile
          have hstep : Stage.Step resolver s _ := .part hagenda (by rw [hs.index, hindex])
            (by rw [hs.documents, hlookup]) hpointer
          obtain ⟨t, ht, hslot⟩ := compileNode_reaches resolver _
            (o := ⟨schema, _⟩) rfl (hs.withAgenda _) hcompile
          exact ⟨t, ⟨.head hstep ht.steps, ht.agenda, ht.table⟩,
            (List.getElem?_eq_some_iff.mp hslot).1⟩

theorem found_reaches {target : Uri} {slot : Slot}
    (hagenda : s.agenda = .find target :: rest) (hs : s.Matches found opened p)
    (hindex : p.index.lookup (targetAddress target) = some slot) :
    ∃ t, Reaches resolver found s rest opened p t ∧ slot < t.origins.length := by
  obtain ⟨before, behind, hentries, -⟩ := List.lookup_eq_some_iff.mp hindex
  have hstep : Stage.Step resolver s _ := .found hagenda (by rw [hs.index, hindex]; rfl)
  refine ⟨_, ⟨.single hstep, rfl, hs.withAgenda rest⟩, ?_⟩
  exact hs.size ▸ hs.entered (targetAddress target, slot) (by simp [hentries])

/-- **`resolve_reaches`** — resolving a target does the task of finding it. -/
theorem resolve_reaches {target : Uri} {slot : Slot}
    (hagenda : s.agenda = .find target :: rest) (hs : s.Matches found opened p)
    (hrun : resolve resolver target p = .ok (slot, q)) :
    ∃ t, Reaches resolver found s rest opened q t ∧ slot < t.origins.length := by
  unfold resolve at hrun
  obtain ⟨entry, r, hslotAt, hbehind⟩ := bind_eq_ok.mp hrun
  obtain ⟨rfl, rfl⟩ := Prod.mk.inj (Except.ok.inj hslotAt)
  cases hindex : p.index.lookup (targetAddress target) with
  | some known =>
      rw [hindex] at hbehind
      obtain ⟨rfl, rfl⟩ := pure_eq_ok.mp hbehind
      exact found_reaches resolver hagenda hs hindex
  | none =>
      rw [hindex] at hbehind
      obtain ⟨document, r, hdocumentAt, hbehind⟩ := bind_eq_ok.mp hbehind
      obtain ⟨rfl, rfl⟩ := Prod.mk.inj (Except.ok.inj hdocumentAt)
      split at hbehind
      next => exact compilePart_reaches resolver hagenda hs hindex hbehind
      next hunknown =>
        cases hresolver : resolver target.withoutFragment.toText with
        | none =>
            rw [hresolver] at hbehind
            cases hbehind
        | some document =>
            rw [hresolver] at hbehind
            obtain ⟨⟨⟩, p₁, hregister, hbehind⟩ := bind_eq_ok.mp hbehind
            obtain ⟨-, rfl⟩ := Prod.mk.inj (Except.ok.inj hregister)
            obtain ⟨root, p₂, hcompile, hbehind⟩ := bind_eq_ok.mp hbehind
            obtain ⟨entry, r, hslotAt, hbehind⟩ := bind_eq_ok.mp hbehind
            obtain ⟨rfl, rfl⟩ := Prod.mk.inj (Except.ok.inj hslotAt)
            have hstep : Stage.Step resolver s _ := .load hagenda (by rw [hs.index, hindex])
              (by rw [hs.documents]; exact Option.not_isSome_iff_eq_none.mp hunknown) hresolver
            obtain ⟨t, ht, -⟩ : ∃ t, Reaches resolver found _ (.find target :: rest) opened p₂ t
                ∧ t.origins[root]? = some _ :=
              compileNode_reaches resolver _ (o := ⟨document, _⟩) rfl (hs.register _ document _)
                hcompile
            obtain ⟨u, hu, hslot⟩ : ∃ u, Reaches resolver found t rest opened q u
                ∧ slot < u.origins.length := by
              cases hagain : p₂.index.lookup (targetAddress target) with
              | some known =>
                  rw [hagain] at hbehind
                  obtain ⟨rfl, rfl⟩ := pure_eq_ok.mp hbehind
                  exact found_reaches resolver ht.agenda ht.table hagain
              | none =>
                  rw [hagain] at hbehind
                  exact compilePart_reaches resolver ht.agenda ht.table hagain hbehind
            exact ⟨u, ⟨.head hstep (ht.steps.trans hu.steps), hu.agenda, hu.table⟩, hslot⟩

end Compiling

end JsonQuery.Schema
