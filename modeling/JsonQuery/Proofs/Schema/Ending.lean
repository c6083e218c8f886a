/-
# JsonQuery.Proofs.Schema.Ending — every compilation ends.

A schema is compiled with the schemas in it, which nest less deeply, so the levels that a
compilation is given are never used up.  The loop over waiting references is not bounded by anything
that is at hand when it begins: a round can compile whole documents and leave more references
waiting than there were.  But a round is at least one step of a stage, and every step leaves less to
do, in a well-founded order.  So there is a last round, whatever the references and identifiers are,
if the resolver has finitely many documents.
-/
import JsonQuery.Proofs.Schema.Measure
import JsonQuery.Proofs.Schema.Rounds

namespace JsonQuery.Schema

namespace Compiling

variable {α β : Type} {resolver : Resolver}

/-! ## Computations without rounds -/

/-- **`Concludes c`** — a computation never reports that its rounds have been used up. -/
def Concludes (c : Compiling α) : Prop := ∀ p, c p ≠ .error .unfinished

theorem Concludes.bind {c : Compiling α} {f : α → Compiling β} (hc : Concludes c)
    (hf : ∀ a, Concludes (f a)) : Concludes (c >>= f) := by
  intro p hrun
  cases hfirst : c p with
  | error e =>
      simp only [Bind.bind, StateT.bind, Except.bind, hfirst] at hrun
      exact hc p (hfirst.trans (congrArg _ (Except.error.inj hrun)))
  | ok result =>
      simp only [Bind.bind, StateT.bind, Except.bind, hfirst] at hrun
      exact hf result.1 result.2 hrun

theorem Concludes.pure (a : α) : Concludes (pure a) := fun _ h => nomatch h

theorem Concludes.flaw (pointer : String) (f : SchemaError.Flaw) :
    Concludes (Compiling.flaw (α := α) pointer f) := fun _ h => nomatch h

theorem concludes_reserve : Concludes reserve := fun _ h => nomatch h

theorem concludes_fill (slot : Slot) (node : Node) : Concludes (fill slot node) :=
  fun _ h => nomatch h

theorem concludes_enter (address : Address) (slot : Slot) : Concludes (enter address slot) :=
  fun _ h => nomatch h

theorem concludes_slotAt (address : Address) : Concludes (slotAt address) := fun _ h => nomatch h

theorem concludes_documentAt (address : String) : Concludes (documentAt address) :=
  fun _ h => nomatch h

theorem concludes_register (address : String) (document : Json) :
    Concludes (register address document) := fun _ h => nomatch h

theorem concludes_registerNew (address : String) (document : Json) :
    Concludes (registerNew address document) := by
  refine (concludes_documentAt address).bind fun known => ?_
  split
  · exact concludes_register address document
  · exact Concludes.pure ()

theorem concludes_join (base : Uri) (text : String) : Concludes (join base text) := by
  unfold join
  split
  · exact Concludes.pure _
  · exact fun _ h => nomatch h

theorem concludes_enterAll (slot : Slot) (scopes : List Scope) :
    Concludes (enterAll slot scopes) := by
  induction scopes with
  | nil => exact Concludes.pure ()
  | cons scope rest ih => exact (concludes_enter scope.address slot).bind fun _ => ih

theorem concludes_identify (schema : Json) (slot : Slot) (scopes : Scopes) :
    Concludes (identify schema slot scopes) := by
  unfold identify
  split
  · refine (concludes_join _ _).bind fun joined => ?_
    split
    · exact (concludes_enter _ _).bind fun _ => Concludes.pure _
    · exact (concludes_registerNew _ _).bind fun _ => Concludes.pure _
  · exact Concludes.pure _

theorem concludes_run {part : Part} (hpart : ∀ segments json, Concludes (part segments json))
    (script : Script α) : Concludes (script.run part) := by
  induction script with
  | done a => exact Concludes.pure a
  | stop pointer f => exact Concludes.flaw pointer f
  | call segments json next ih => exact (hpart segments json).bind ih

theorem concludes_close (slot : Slot) (base : Uri) (c : Contents) :
    Concludes (close slot base c) := by
  cases c with
  | bool b => exact concludes_fill slot (.bool b)
  | keywords list => exact concludes_fill slot (.keywords list)
  | reference text => exact (concludes_join base text).bind fun target => fun _ h => nomatch h

theorem concludes_compileNode (fuel : Nat) (schema : Json) (scopes : Scopes) :
    Concludes (compileNode fuel schema scopes) := by
  induction fuel generalizing schema scopes with
  | zero => exact Concludes.flaw _ _
  | succ fuel ih =>
      rw [compileNode_succ]
      refine concludes_reserve.bind fun slot => ?_
      refine (concludes_identify schema slot scopes).bind fun inner => ?_
      refine (concludes_enterAll slot inner.all).bind fun _ => ?_
      refine Concludes.bind ?_ fun _ => Concludes.pure slot
      obtain ⟨script, hscript, -⟩ := walks_contents inner.pointer schema
      rw [complete_eq]
      refine Concludes.bind ?_ (concludes_close slot inner.base)
      intro p hp
      refine concludes_run (fun segments json => ih json (inner.descend segments)) script p ?_
      exact (congrFun (hscript _) p).symm.trans hp

theorem concludes_compilePart (target : Uri) : Concludes (compilePart target) := by
  refine (concludes_documentAt _).bind fun known => ?_
  split
  · exact concludes_compileNode _ _ _
  · exact fun _ h => nomatch h

theorem concludes_resolve (target : Uri) : Concludes (resolve resolver target) := by
  refine (concludes_slotAt _).bind fun entry => ?_
  split
  · exact Concludes.pure _
  · refine (concludes_documentAt _).bind fun known => ?_
    split
    · exact concludes_compilePart target
    · split
      · exact fun _ h => nomatch h
      · refine (concludes_register _ _).bind fun _ => (concludes_compileNode _ _ _).bind fun _ =>
          (concludes_slotAt _).bind fun again => ?_
        split
        · exact Concludes.pure _
        · exact concludes_compilePart target

theorem concludes_settleOne : Concludes (settleOne resolver) := by
  refine Concludes.bind (fun _ h => nomatch h) fun p => ?_
  split
  · exact Concludes.pure _
  · refine Concludes.bind (fun _ h => nomatch h) fun _ => ?_
    refine (concludes_resolve _).bind fun resolved => ?_
    exact (concludes_fill _ _).bind fun _ => Concludes.pure _

theorem concludes_begin (document : Json) : Concludes (begin document) :=
  (concludes_register _ _).bind fun _ => concludes_compileNode _ _ _

/-! ## Rounds -/

variable {p q : Progress}

theorem settle_of_error {e : SchemaError} (h : settleOne resolver p = .error e) (rounds : Nat) :
    settle resolver (rounds + 1) p = .error e := by
  simp only [settle, Bind.bind, StateT.bind, Except.bind, h]

theorem settle_of_false (h : settleOne resolver p = .ok (false, q)) (rounds : Nat) :
    settle resolver (rounds + 1) p = .ok ((), q) := by
  simp only [settle, Bind.bind, StateT.bind, Except.bind, h]
  rfl

theorem settle_of_true (h : settleOne resolver p = .ok (true, q)) (rounds : Nat) :
    settle resolver (rounds + 1) p = settle resolver rounds q := by
  simp only [settle, Bind.bind, StateT.bind, Except.bind, h]
  rfl

end Compiling

/-! ## Stages -/

namespace Stage

variable {library : List (String × Json)} {s t : Stage}

theorem orderly_of_passes {document : Json} {resolver : Resolver}
    (h : s.Passes resolver document) : s.Orderly := by
  induction h with
  | refl => exact orderly_start document
  | tail _ hstep ih => exact ih.step hstep

theorem measure_lt_of_steps (hs : s.Orderly)
    (h : Relation.TransGen (Step (.of library)) s t) :
    t.Orderly ∧ (t.measure library).IsDershowitzMannaLT (s.measure library) := by
  induction h with
  | single hstep => exact ⟨hs.step hstep, hstep.measure_lt hs⟩
  | tail _ hstep ih =>
      obtain ⟨hmiddle, hlt⟩ := ih
      exact ⟨hmiddle.step hstep, (hstep.measure_lt hmiddle).trans hlt⟩

theorem wellFounded_measure (library : List (String × Json)) :
    WellFounded fun t s : Stage => (t.measure library).IsDershowitzMannaLT (s.measure library) :=
  InvImage.wf _ Multiset.wellFounded_isDershowitzMannaLT

end Stage

namespace Compiling

/-- **`exists_rounds`** — from every point between two rounds, finitely many rounds are left. -/
theorem exists_rounds {library : List (String × Json)} {document : Json} {s : Stage} {p : Progress}
    (hreached : Reached (.of library) document p) (horderly : s.Orderly) (hagenda : s.agenda = [])
    (hs : s.Matches (Settles (.of library) document) [] p) :
    ∃ rounds, settle (.of library) rounds p ≠ .error .unfinished
      ∧ ∀ more, settle (.of library) (rounds + more) p = settle (.of library) rounds p := by
  induction s using (Stage.wellFounded_measure library).induction generalizing p with
  | h s ih =>
      cases hone : settleOne (.of library) p with
      | error e =>
          refine ⟨1, ?_, fun more => ?_⟩
          · rw [settle_of_error hone]
            exact fun h => concludes_settleOne p (hone.trans (congrArg _ (Except.error.inj h)))
          · rw [add_comm, settle_of_error hone, settle_of_error hone]
      | ok result =>
          obtain ⟨taken, q⟩ := result
          -- A round that takes a reference up is one step or more, so less is left behind it.
          cases taken with
          | false =>
              refine ⟨1, ?_, fun more => ?_⟩
              · rw [settle_of_false hone]
                exact fun h => nomatch h
              · rw [add_comm, settle_of_false hone, settle_of_false hone]
          | true =>
              obtain ⟨t, hsteps, htagenda, ht⟩ := settleOne_reaches hreached hagenda hs hone
              obtain ⟨htorderly, hlt⟩ := Stage.measure_lt_of_steps horderly hsteps
              obtain ⟨rounds, hfinished, hmore⟩ :=
                ih t hlt (.next hreached hone) htorderly htagenda ht
              refine ⟨rounds + 1, ?_, fun more => ?_⟩
              · rw [settle_of_true hone]
                exact hfinished
              · rw [add_right_comm, settle_of_true hone, settle_of_true hone]
                exact hmore more

end Compiling

/-! ## Compilations -/

/-- **`compileWithin_ends`** — compiling a document ends with a resolver that has finitely many
documents.  Levels beyond the nesting of a schema change nothing, so none are missing, and there is
a number of rounds that are not all needed: more of them change nothing, and the compilation does
not report that they were too few. -/
theorem compileWithin_ends (library : List (String × Json)) (document : Json) :
    (∀ (schema : Json) (scopes : Scopes) (fuel : Nat), schema.height < fuel →
      Compiling.compileNode fuel schema scopes
        = Compiling.compileNode (schema.height + 1) schema scopes)
    ∧ ∃ rounds, compileWithin rounds (.of library) document ≠ .error .unfinished
      ∧ ∀ more, compileWithin (rounds + more) (.of library) document
        = compileWithin rounds (.of library) document := by
  constructor
  · intro schema scopes fuel h
    obtain ⟨more, rfl⟩ := Nat.exists_eq_add_of_lt h
    rw [add_right_comm]
    exact Compiling.compileNode_of_height_lt (Nat.lt_succ_self _) more scopes
  · simp only [compileWithin_eq]
    cases hbegin : Compiling.begin document {} with
    | error e =>
        refine ⟨0, fun h => ?_, fun more => rfl⟩
        exact Compiling.concludes_begin document {} (hbegin.trans (congrArg _ (Except.error.inj h)))
    | ok begun =>
        obtain ⟨root, p⟩ := begun
        have hreached : Compiling.Reached (.of library) document p := .start hbegin
        obtain ⟨s, hpasses, hagenda, hs⟩ := Compiling.passes_of_reached hreached
        obtain ⟨rounds, hfinished, hmore⟩ := Compiling.exists_rounds hreached
          (Stage.orderly_of_passes hpasses) hagenda hs
        refine ⟨rounds, ?_, fun more => ?_⟩
        · cases hsettle : Compiling.settle (.of library) rounds p with
          | error e =>
              rw [hsettle] at hfinished
              simpa [bind, Except.bind, hsettle] using hfinished
          | ok settled => simp [bind, Except.bind, hsettle, pure, Except.pure]
        · simp only [bind, Except.bind, hmore more]

end JsonQuery.Schema
