/-
# JsonQuery.Proofs.Schema.Correctness — a compiled schema accepts what its document says.

Compiling a schema at a place of the document leaves a slot that stands for what is at the place;
settling a reference leaves a node that refers to a slot for what the reference points to, whether
that slot was found in the index or compiled for the purpose.  When nothing is open and nothing
waits, every node is faithful to its origin, and then the verdicts on slots and the judgements of
schemas agree at every number of levels, by induction on the levels alone.
-/
import JsonQuery.Proofs.Schema.Keywords

namespace JsonQuery.Schema

/-! ## References that are fragments -/

theorem reverse_dropWhile_reverse_cons {α : Type} {p : α → Bool} {a : α} (ha : p a = false)
    (l : List α) : ∃ rest, (((a :: l).reverse.dropWhile p).reverse) = a :: rest := by
  rw [List.reverse_cons, List.dropWhile_append]
  split
  · exact ⟨[], by simp [ha]⟩
  · exact ⟨((l.reverse.dropWhile p).reverse), by simp⟩

theorem cleaned_fragment {text : String} {rest : List Char} (h : text.toList = '#' :: rest) :
    ∃ fragment, Uri.cleaned text = '#' :: fragment := by
  simp only [Uri.cleaned, h]
  rw [List.dropWhile_cons_of_neg (by decide)]
  obtain ⟨behind, hbehind⟩ := reverse_dropWhile_reverse_cons
    (p := fun c : Char => decide (c.toNat ≤ 0x20)) (a := '#') (by decide) rest
  rw [hbehind, List.filter_cons_of_pos (by decide)]
  exact ⟨_, rfl⟩

/-- A reference that is a fragment alone stays in the document. -/
theorem join_defaultBase {reference : String} (h : reference.toList.head? = some '#') {target : Uri}
    (hjoin : defaultBase.join reference = .ok target) : target.withoutFragment = defaultBase := by
  obtain ⟨rest, hrest⟩ : ∃ rest, reference.toList = '#' :: rest := by
    cases hlist : reference.toList with
    | nil => rw [hlist] at h; cases h
    | cons c rest =>
        rw [hlist] at h
        exact ⟨rest, by rw [Option.some.inj h]⟩
  obtain ⟨fragment, hcleaned⟩ := cleaned_fragment hrest
  have hscheme : Uri.scheme? ('#' :: fragment) = none := rfl
  simp only [Uri.join, Uri.read, hcleaned, hscheme, Except.ok.injEq] at hjoin
  rw [← hjoin]
  rfl

theorem isLocal_reference {members : Entries Json} (h : isLocalHere (.object members) = true)
    {reference : String} (hreference : members.get? "$ref" = some (.string reference)) :
    reference.toList.head? = some '#' := by
  have hget : (Json.object members).get? "$ref" = some (.string reference) := hreference
  simp only [isLocalHere, hget, Bool.and_eq_true, beq_iff_eq] at h
  exact h.2

/-! ## Schemas -/

namespace Compiling

variable {document : Json}

/-- The place of a pointer in a document without identifiers. -/
def scopesAt (pointer : String) : Scopes := ⟨⟨defaultBase, pointer⟩, []⟩

theorem descend_scopesAt (pointer : String) (segments : List String) :
    (scopesAt pointer).descend segments = scopesAt (Json.pointerBelow pointer segments) := rfl

theorem identify_of_isLocal {schema : Json} (h : isLocalHere schema = true) (slot : Slot)
    (scopes : Scopes) : identify schema slot scopes = pure scopes := by
  unfold identify
  cases hid : schema.get? "$id" with
  | none => rfl
  | some value =>
      cases value with
      | string id => simp [isLocalHere, hid] at h
      | null | bool | number | array | object => rfl

/-- What a compiled schema does to an opened slot: the slot is closed, faithful to the schema or
waiting for its reference. -/
def Closes (document : Json) (slot : Slot) (schema : Json) (c : Compiling Unit) : Prop :=
  ∀ origins opened p q, Sound document origins (slot :: opened) p → Stands origins slot schema →
    c p = .ok ((), q) → ∃ grown, origins <+: grown ∧ Sound document grown opened q

theorem Closes.fill {slot : Slot} {schema : Json} {node : Node}
    (h : ∀ origins, Faithful document origins node schema) :
    Closes document slot schema (fill slot node) := by
  intro origins opened p q hsound hstands hrun
  obtain ⟨-, rfl⟩ := Prod.mk.inj (Except.ok.inj hrun)
  exact ⟨origins, List.prefix_refl _, hsound.fill hstands (h origins)⟩

theorem Closes.fill_keywords {slot : Slot} {members : Entries Json}
    {c : Compiling (List Keyword)} (hreference : members.get? "$ref" = none)
    (hc : Builds document c fun list origins =>
      Says origins list fun judge inst => Meaning.keywords judge members inst) :
    Closes document slot (.object members) (do Compiling.fill slot (.keywords (← c))) := by
  intro origins opened p q hsound hstands hrun
  obtain ⟨list, r, hlist, hfill⟩ := bind_eq_ok.mp hrun
  obtain ⟨-, rfl⟩ := Prod.mk.inj (Except.ok.inj hfill)
  obtain ⟨grown, hgrown, hsound, hsays⟩ := hc origins (slot :: opened) p list r hsound hlist
  refine ⟨grown, hgrown, hsound.fill (hstands.mono hgrown) ?_⟩
  intro verdict judge hagrees inst hinst
  simp only [Node.accepts, Meaning.ofSchema, hreference]
  exact hsays grown (List.prefix_refl _) verdict judge hagrees inst hinst

/-- A reference closes its slot by letting it wait. -/
theorem Closes.postpone {slot : Slot} {members : Entries Json} {reference : String}
    (hlocal : isLocalHere (.object members) = true)
    (hreference : members.get? "$ref" = some (.string reference)) :
    Closes document slot (.object members) (do
      Compiling.postpone slot (← Compiling.join defaultBase reference)) := by
  intro origins opened p q hsound hstands hrun
  obtain ⟨target, r, hjoin, hpostpone⟩ := bind_eq_ok.mp hrun
  obtain ⟨-, rfl⟩ := Prod.mk.inj (Except.ok.inj hpostpone)
  unfold Compiling.join at hjoin
  cases huri : defaultBase.join reference with
  | error fault =>
      rw [huri] at hjoin
      cases hjoin
  | ok uri =>
      rw [huri] at hjoin
      obtain ⟨rfl, rfl⟩ := pure_eq_ok.mp hjoin
      have htarget := join_defaultBase (isLocal_reference hlocal hreference) huri
      exact ⟨origins, List.prefix_refl _, hsound.postpone hstands hreference huri htarget⟩

theorem Closes.bind {α : Type} {slot : Slot} {schema : Json} {c : Compiling α}
    {f : α → Compiling Unit} {Q : α → List Json → Prop} (hc : Builds document c Q)
    (hf : ∀ a, Closes document slot schema (f a)) : Closes document slot schema (c >>= f) := by
  intro origins opened p q hsound hstands hrun
  obtain ⟨a, r, hfirst, hsecond⟩ := bind_eq_ok.mp hrun
  obtain ⟨middle, hmiddle, hsound, -⟩ := hc origins (slot :: opened) p a r hsound hfirst
  obtain ⟨grown, hgrown, hsound⟩ := hf a middle opened r q hsound (hstands.mono hmiddle) hsecond
  exact ⟨grown, hmiddle.trans hgrown, hsound⟩

theorem Closes.flaw {slot : Slot} {schema : Json} {pointer : String} {f : SchemaError.Flaw} :
    Closes document slot schema (flaw pointer f) := by
  intro origins opened p q _ _ hrun
  cases hrun

/-- The parts of a schema that is an object close its slot. -/
theorem closes_compileObject {members : Entries Json} {part : Part} {slot : Slot} {pointer : String}
    (hproper : (Json.object members).isProper = true)
    (hlocal : isLocalHere (.object members) = true)
    (hpart : Compiles document (.object members) part) :
    Closes document slot (.object members)
      (compileObject part slot (scopesAt pointer) members) := by
  unfold compileObject
  extract_lets rest
  have hreference : Closes document slot (.object members) (rest ()) := by
    unfold rest
    split
    next reference href => exact Closes.postpone hlocal href
    next => exact Closes.flaw
    next href => exact Closes.fill_keywords href (builds_keywords hproper hpart _)
  cases hdefinitions : members.get? "definitions" with
  | none => exact hreference
  | some json =>
      cases json with
      | object definitions =>
          change Closes document slot _ (named part "definitions" definitions >>= fun _ => _)
          exact Closes.bind (builds_named hproper hpart hdefinitions definitions fun _ => id)
            fun _ => hreference
      | null | bool | number | string | array =>
          intro origins opened p q _ _ hrun
          cases hrun

/-- What is left to do for a schema that has its slot and its addresses. -/
def complete (fuel : Nat) (schema : Json) (slot : Slot) (scopes : Scopes) : Compiling Unit :=
  match schema with
  | .bool b => Compiling.fill slot (.bool b)
  | .object members =>
    compileObject (fun segments json => compileNode fuel json (scopes.descend segments)) slot scopes
      members
  | _ => Compiling.flaw scopes.pointer .notSchema

theorem compileNode_succ (fuel : Nat) (schema : Json) (scopes : Scopes) :
    compileNode (fuel + 1) schema scopes = (do
      let slot ← Compiling.reserve
      let scopes ← identify schema slot scopes
      enterAll slot scopes.all
      complete fuel schema slot scopes
      return slot) := by
  cases schema <;> rfl

/-- **`builds_compileNode`** — compiling what stands at a place of the document gives a slot that
stands for it. -/
theorem builds_compileNode (hproper : document.isProper = true) (hlocal : isLocal document = true)
    (fuel : Nat) {schema : Json} {pointer : String}
    (hpointer : document.pointer? pointer = some schema) :
    Builds document (compileNode fuel schema (scopesAt pointer)) fun slot origins =>
      Stands origins slot schema := by
  induction fuel generalizing schema pointer with
  | zero => exact Builds.flaw
  | succ fuel ih =>
      have hlocalSchema : isLocalHere schema = true :=
        Json.everywhere_self (Json.everywhere_pointer? hlocal hpointer)
      have hproperSchema : schema.isProper = true := Json.everywhere_pointer? hproper hpointer
      have hcomplete : ∀ slot, Closes document slot schema
          (complete fuel schema slot (scopesAt pointer)) := by
        intro slot
        cases schema with
        | bool b => exact Closes.fill fun _ _ _ _ _ _ => rfl
        | object members =>
            refine closes_compileObject hproperSchema hlocalSchema fun segments value hvalue => ?_
            rw [descend_scopesAt]
            refine ih ?_
            rw [Json.pointer?_pointerBelow, hpointer]
            exact hvalue
        | null | number | string | array => exact Closes.flaw
      intro origins opened p slot q hsound hrun
      rw [compileNode_succ] at hrun
      obtain ⟨reserved, p₁, hreserve, hbehind⟩ := bind_eq_ok.mp hrun
      obtain ⟨rfl, rfl⟩ := Prod.mk.inj (Except.ok.inj hreserve)
      rw [identify_of_isLocal hlocalSchema, pure_bind] at hbehind
      obtain ⟨⟨⟩, p₂, henter, hcompleted⟩ := bind_eq_ok.mp hbehind
      obtain ⟨-, rfl⟩ := Prod.mk.inj (Except.ok.inj henter)
      obtain ⟨⟨⟩, p₃, hfill, hreturn⟩ := bind_eq_ok.mp hcompleted
      obtain ⟨rfl, rfl⟩ := pure_eq_ok.mp hreturn
      -- The slot is the one behind all others, and its origin is added at the end.
      have hstands : Stands (origins ++ [schema]) p.nodes.size schema := by
        rw [Stands, ← hsound.size]
        simp
      have hat : document.pointer? (scopesAt pointer).outer.address.2 = some schema := hpointer
      have hentered := (hsound.reserve schema).enter hat hstands
      obtain ⟨grown, hgrown, hdone⟩ := hcomplete _ _ opened _ _ hentered hstands hfill
      exact ⟨grown, (List.prefix_append _ _).trans hgrown, hdone,
        fun later hlater => hstands.mono (hgrown.trans hlater)⟩

/-! ## References -/

theorem builds_documentAt (address : String) :
    Builds document (documentAt address) fun found _ =>
      found = [(defaultBase.toText, document)].lookup address := by
  intro origins opened p found q hsound hrun
  obtain ⟨hfound, rfl⟩ := Prod.mk.inj (Except.ok.inj hrun)
  exact ⟨origins, List.prefix_refl _, hsound, fun _ _ => hsound.documents ▸ hfound.symm⟩

theorem builds_slotAt (address : Address) :
    Builds document (slotAt address) fun found origins =>
      ∀ slot, found = some slot →
        ∃ schema, document.pointer? address.2 = some schema ∧ Stands origins slot schema := by
  intro origins opened p found q hsound hrun
  obtain ⟨hfound, rfl⟩ := Prod.mk.inj (Except.ok.inj hrun)
  refine ⟨origins, List.prefix_refl _, hsound, fun later hlater slot hslot => ?_⟩
  have hlookup : p.index.lookup address = some slot := hfound.trans hslot
  obtain ⟨before, behind, hindex, -⟩ := List.lookup_eq_some_iff.mp hlookup
  obtain ⟨schema, hpointer, hstands⟩ := hsound.index (address, slot) (by simp [hindex])
  exact ⟨schema, hpointer, hstands.mono hlater⟩

theorem builds_compilePart (hproper : document.isProper = true) (hlocal : isLocal document = true)
    {target : Uri} (htarget : target.withoutFragment = defaultBase) :
    Builds document (compilePart target) fun slot origins =>
      ∃ schema, document.pointer? target.decodedFragment = some schema
        ∧ Stands origins slot schema := by
  unfold compilePart targetAddress
  simp only [htarget]
  refine Builds.bind_of ((builds_documentAt _).imp fun _ _ h => ⟨h, trivial⟩) fun found hfound => ?_
  rw [hfound, List.lookup_cons_self, Option.bind_some]
  cases hschema : document.pointer? target.decodedFragment with
  | none =>
      intro origins opened p slot q _ hrun
      cases hrun
  | some schema =>
      refine (builds_compileNode hproper hlocal (schema.height + 1) hschema).imp ?_
      exact fun slot origins hstands _ => ⟨schema, rfl, hstands⟩

/-- What a target in the document is resolved to stands for what its fragment points to. -/
theorem builds_resolve (hproper : document.isProper = true) (hlocal : isLocal document = true)
    (resolver : Resolver) {target : Uri} (htarget : target.withoutFragment = defaultBase) :
    Builds document (resolve resolver target) fun slot origins =>
      ∃ schema, document.pointer? target.decodedFragment = some schema
        ∧ Stands origins slot schema := by
  unfold resolve
  refine (builds_slotAt _).bind fun found => ?_
  cases found with
  | some slot => exact Builds.pure fun origins h => h slot rfl
  | none =>
      simp only [htarget]
      refine Builds.bind_of ((builds_documentAt _).imp fun _ _ h => ⟨h, trivial⟩)
        fun known hknown => ?_
      rw [hknown, List.lookup_cons_self]
      exact (builds_compilePart hproper hlocal htarget).imp fun _ _ h _ _ => h

/-- A settled reference is faithful to the schema that it stands in. -/
theorem faithful_ref {origins : List Json} {members : Entries Json} {reference : String}
    {target : Uri} {slot : Slot} {schema : Json}
    (hreference : members.get? "$ref" = some (.string reference))
    (hjoin : defaultBase.join reference = .ok target)
    (hpointer : document.pointer? target.decodedFragment = some schema)
    (hstands : Stands origins slot schema) :
    Faithful document origins (.keywords [.ref slot]) (.object members) := by
  intro verdict judge hagrees inst hinst
  simp only [Node.accepts, List.all_cons, List.all_nil, Bool.and_true, Keyword.accepts,
    Meaning.ofSchema, hreference, referenced?, hjoin, hpointer, Option.any_some]
  exact hagrees slot schema hstands inst hinst

/-- Settling one reference keeps the progress sound. -/
theorem settleOne_sound (hproper : document.isProper = true) (hlocal : isLocal document = true)
    {resolver : Resolver} {origins : List Json} {p q : Progress} {more : Bool}
    (hsound : Sound document origins [] p) (hrun : settleOne resolver p = .ok (more, q)) :
    ∃ grown, origins <+: grown ∧ Sound document grown [] q ∧ (more = false → q.waiting = []) := by
  unfold settleOne at hrun
  obtain ⟨own, p₁, hget, hcase⟩ := bind_eq_ok.mp hrun
  obtain ⟨rfl, rfl⟩ := Prod.mk.inj (Except.ok.inj hget)
  cases hwaiting : p.waiting with
  | nil =>
      simp only [hwaiting] at hcase
      obtain ⟨rfl, rfl⟩ := pure_eq_ok.mp hcase
      exact ⟨origins, List.prefix_refl _, hsound, fun _ => hwaiting⟩
  | cons entry rest =>
      obtain ⟨slot, target⟩ := entry
      simp only [hwaiting] at hcase
      obtain ⟨⟨⟩, p₂, hset, hresolving⟩ := bind_eq_ok.mp hcase
      obtain ⟨-, rfl⟩ := Prod.mk.inj (Except.ok.inj hset)
      obtain ⟨resolved, p₃, hresolve, hfilling⟩ := bind_eq_ok.mp hresolving
      obtain ⟨⟨⟩, p₄, hfill, hreturn⟩ := bind_eq_ok.mp hfilling
      obtain ⟨-, rfl⟩ := Prod.mk.inj (Except.ok.inj hfill)
      obtain ⟨rfl, rfl⟩ := pure_eq_ok.mp hreturn
      obtain ⟨htarget, members, reference, hstands, hreference, hjoin⟩ :=
        hsound.waiting (slot, target) (hwaiting ▸ List.mem_cons_self)
      obtain ⟨grown, hgrown, hresolved, hpost⟩ := builds_resolve hproper hlocal resolver htarget
        origins [slot] _ resolved p₃ (hsound.reopen hwaiting) hresolve
      obtain ⟨schema, hpointer, hschema⟩ := hpost grown (List.prefix_refl _)
      have hfaithful := faithful_ref hreference hjoin hpointer hschema
      exact ⟨grown, hgrown, hresolved.fill (hstands.mono hgrown) hfaithful, fun h => nomatch h⟩

/-- Settling keeps the progress sound, and nothing waits in the end. -/
theorem settle_sound (hproper : document.isProper = true) (hlocal : isLocal document = true)
    {resolver : Resolver} (rounds : Nat) {origins : List Json} {p q : Progress}
    (hsound : Sound document origins [] p) (hrun : settle resolver rounds p = .ok ((), q)) :
    ∃ grown, origins <+: grown ∧ Sound document grown [] q ∧ q.waiting = [] := by
  induction rounds generalizing origins p with
  | zero =>
      unfold settle at hrun
      obtain ⟨own, p₁, hget, hcase⟩ := bind_eq_ok.mp hrun
      obtain ⟨rfl, rfl⟩ := Prod.mk.inj (Except.ok.inj hget)
      split at hcase
      next => cases hcase
      next hwaiting =>
        obtain ⟨-, rfl⟩ := pure_eq_ok.mp hcase
        exact ⟨origins, List.prefix_refl _, hsound, by simpa using hwaiting⟩
  | succ rounds ih =>
      unfold settle at hrun
      obtain ⟨more, p₁, hone, hrest⟩ := bind_eq_ok.mp hrun
      obtain ⟨middle, hmiddle, hsound, hdone⟩ := settleOne_sound hproper hlocal hsound hone
      cases more with
      | true =>
          obtain ⟨grown, hgrown, hsound, hwaiting⟩ := ih hsound hrest
          exact ⟨grown, hmiddle.trans hgrown, hsound, hwaiting⟩
      | false =>
          obtain ⟨-, rfl⟩ := pure_eq_ok.mp hrest
          exact ⟨middle, hmiddle, hsound, hdone rfl⟩

end Compiling

/-! ## Compiled schemas -/

/-- A document is registered before anything else happens. -/
theorem sound_register (document : Json) :
    Sound document [] [] { documents := [(defaultBase.toText, document)] } :=
  ⟨rfl, by simp, by simp, by simp, rfl⟩

/-- **`compile_faithful`** — every slot of a compiled schema stands for a part of the document to
which its node is faithful, and the root stands for the document, however many rounds it takes to
settle the references. -/
theorem compile_faithful {rounds : Nat} {document : Json} {resolver : Resolver} {schema : Schema}
    (hproper : document.isProper = true) (hlocal : isLocal document = true)
    (hcompile : compileWithin rounds resolver document = .ok schema) :
    ∃ origins : List Json, origins.length = schema.nodes.size ∧ Stands origins schema.root document
      ∧ ∀ slot node own, schema.nodes[slot]? = some node → Stands origins slot own →
        Faithful document origins node own := by
  obtain ⟨root, p, hrun, rfl⟩ : ∃ root p, (do
      Compiling.register defaultBase.toText document
      let root ← Compiling.compileAt document defaultBase ""
      Compiling.settle resolver rounds
      return root : Compiling Slot) {} = .ok (root, p) ∧ (⟨p.nodes, root⟩ : Schema) = schema := by
    unfold compileWithin at hcompile
    cases hresult : (do
        Compiling.register defaultBase.toText document
        let root ← Compiling.compileAt document defaultBase ""
        Compiling.settle resolver rounds
        return root : Compiling Slot).run {} with
    | error e =>
        rw [hresult] at hcompile
        cases hcompile
    | ok result =>
        rw [hresult] at hcompile
        exact ⟨result.1, result.2, hresult, Except.ok.inj hcompile⟩
  obtain ⟨⟨⟩, p₁, hregister, hcompiling⟩ := Compiling.bind_eq_ok.mp hrun
  obtain ⟨-, rfl⟩ := Prod.mk.inj (Except.ok.inj hregister)
  obtain ⟨found, p₂, hnode, hsettling⟩ := Compiling.bind_eq_ok.mp hcompiling
  obtain ⟨⟨⟩, p₃, hsettle, hreturn⟩ := Compiling.bind_eq_ok.mp hsettling
  obtain ⟨rfl, rfl⟩ := Compiling.pure_eq_ok.mp hreturn
  have hroot : document.pointer? "" = some document := rfl
  obtain ⟨middle, -, hsound, hstands⟩ := Compiling.builds_compileNode hproper hlocal
    (document.height + 1) hroot [] [] _ found p₂ (sound_register document) hnode
  obtain ⟨origins, hgrown, hsettled, hwaiting⟩ :=
    Compiling.settle_sound hproper hlocal rounds hsound hsettle
  refine ⟨origins, hsettled.size, hstands origins hgrown, fun slot node own hnode hown => ?_⟩
  rcases hsettled.nodes slot node own hnode hown with hopen | hwait | hfaithful
  · cases hopen
  · rw [hwaiting] at hwait
    cases hwait
  · exact hfaithful

/-- **`isValid_compile`** — a schema compiled from a document without identifiers, whose references
are fragments alone, accepts an instance under a depth limit exactly if the document says so where
as many levels are left below the root.  It does not matter how many rounds the compilation may
take: `compile` allows `maxRounds` of them. -/
theorem isValid_compile {rounds : Nat} {document : Json} {resolver : Resolver} {schema : Schema}
    (hproper : document.isProper = true) (hlocal : isLocal document = true)
    (hcompile : compileWithin rounds resolver document = .ok schema) {inst : Json}
    (hinst : inst.isProper = true) (options : Options) :
    schema.isValid inst options = judge document (options.maxDepth + 1) document inst := by
  obtain ⟨origins, hsize, hroot, hfaithful⟩ := compile_faithful hproper hlocal hcompile
  have hagrees : ∀ levels, Agrees origins (schema.accepts levels) (judge document levels) := by
    intro levels
    induction levels with
    | zero => exact fun _ _ _ _ _ => rfl
    | succ levels ih =>
        intro slot own hstands inst hinst
        have hlt : slot < schema.nodes.size :=
          hsize ▸ (List.getElem?_eq_some_iff.mp hstands).1
        have hnode : schema.nodes[slot]? = some schema.nodes[slot] := Array.getElem?_eq_getElem hlt
        simp only [Schema.accepts, judge, hnode, Option.all_some]
        exact hfaithful slot _ own hnode hstands _ _ ih inst hinst
  rw [isValid_eq_accepts]
  exact hagrees _ schema.root document hroot inst hinst

/-- Trees without repeated children: a schema that refers to itself from a definition, through a
name with a slash and an escape of addresses. -/
def treeDocument : Json :=
  .object [
    ("definitions", .object [("a/b%", .object [("items", .object [("$ref", .string "#")])])]),
    ("type", .array [.string "array"]),
    ("allOf", .array [.object [("$ref", .string "#/definitions/a~1b%25")]]),
    ("uniqueItems", .bool true)]

/-- A tree of height two is judged to be valid, and so it is. -/
theorem isValid_compile_tree :
    treeDocument.isProper = true ∧ isLocal treeDocument = true ∧
    ∃ schema, compile treeDocument = .ok schema
      ∧ schema.isValid (.array [.array [], .array [.array []]]) { maxDepth := 10 }
        = judge treeDocument 11 treeDocument (.array [.array [], .array [.array []]])
      ∧ judge treeDocument 11 treeDocument (.array [.array [], .array [.array []]]) = true := by
  have hproper : treeDocument.isProper = true := by decide +kernel
  have hlocal : isLocal treeDocument = true := by decide +kernel
  have hinst : (Json.array [.array [], .array [.array []]]).isProper = true := by decide +kernel
  have hcompiles : (compile treeDocument).isOk = true := by decide +kernel
  cases hcompile : compile treeDocument with
  | error e => simp [hcompile, Except.isOk, Except.toBool] at hcompiles
  | ok schema =>
      exact ⟨hproper, hlocal, schema, rfl,
        isValid_compile hproper hlocal hcompile hinst { maxDepth := 10 }, by decide +kernel⟩

example : judge treeDocument 11 treeDocument (.array [.array [], .array []]) = false := by
  decide +kernel

end JsonQuery.Schema
