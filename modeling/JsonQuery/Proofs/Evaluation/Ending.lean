/-
# JsonQuery.Proofs.Evaluation.Ending — which evaluations end without a budget.

The walk over a tree is well founded, but a call that applies a reference leaves the tree: it goes on
with the body of a reference that may have come as a value.  A reference that is applied to itself
never ends.  In a stratified text that cannot happen: what a passed reference does when it is applied
is bounded by the size of its body (`Expr.room`).
-/
import JsonQuery.Proofs.Evaluation.Depth
import JsonQuery.Proofs.Evaluation.Judgment
import JsonQuery.Proofs.Expr.Stratified
import JsonQuery.Proofs.Value.Hereditary

namespace JsonQuery

open Evaluation
open Value (hereditary_refersOnly)

/-! ## Evaluations with an outcome -/

namespace Evaluation

variable {α β : Type}

/-- **`Yields Q f`** — `f` always has an outcome, and its result satisfies `Q`. -/
def Yields (Q : α → Prop) (f : Evaluation α) : Prop :=
  ∀ c p, ∃ a q, f c p = some (a, q) ∧ Q a

namespace Yields

variable {Q : α → Prop} {S : β → Prop}

theorem pure {a : α} (h : Q a) : Yields Q (Pure.pure a : Evaluation α) :=
  fun _ p => ⟨a, p, rfl, h⟩

theorem bind {f : Evaluation α} {g : α → Evaluation β} (hf : Yields Q f)
    (hg : ∀ a, Q a → Yields S (g a)) : Yields S (f >>= g) := by
  intro c p
  obtain ⟨a, p', ha, hQ⟩ := hf c p
  obtain ⟨b, q, hb, hS⟩ := hg a hQ c p'
  exact ⟨b, q, bind_eq_some.mpr ⟨a, p', ha, hb⟩, hS⟩

theorem judgment : Judgment @Yields where
  pure := pure
  bind := bind
  tick := fun _ _ => ⟨_, _, rfl, trivial⟩

theorem imp {Q' : α → Prop} {f : Evaluation α} (hf : Yields Q f) (h : ∀ a, Q a → Q' a) :
    Yields Q' f :=
  judgment.imp hf h

theorem guard {missing : α} {f : Evaluation α} (hmissing : Q missing) (hf : Yields Q f) :
    Yields Q (do if !(← tick) then return missing else f) :=
  judgment.guard hmissing hf

end Yields

end Evaluation

/-! ## Stratified expressions end -/

namespace Expr

/-- A depth that suffices for an expression, where the bodies of all passed references have at most
a size: one application for every node on the way down and, if a computed reference can be applied,
as many again for its body. -/
noncomputable def room (size : Nat) (e : Expr) : Nat :=
  sizeOf e + if e.appliesWritten then 0 else size + 1

/-- **`Passed size body`** — what is known of a reference that comes as a value. -/
def Passed (size : Nat) (body : Expr) : Prop := body.appliesWritten ∧ sizeOf body ≤ size

/-- **`Fits size n e`** — what makes a depth of `n` suffice for `e`. -/
structure Fits (size n : Nat) (e : Expr) : Prop where
  stratified : e.stratified false
  size_le : sizeOf e ≤ size
  room_le : e.room size ≤ n

theorem room_lt (size : Nat) {e part : Expr} (hsize : sizeOf part < sizeOf e)
    (h : e.appliesWritten → part.appliesWritten) : part.room size < e.room size := by
  simp only [room]
  by_cases hpart : part.appliesWritten
  · rw [if_pos hpart]
    omega
  · rw [if_neg hpart, if_neg fun he => hpart (h he)]
    omega

/-- The parts of a direct node fit with it. -/
theorem Fits.child {size n : Nat} {e part : Expr} (h : Fits size n e) (hdirect : e.isDirect)
    (hpart : part ∈ e.children) : Fits size n part := by
  have hsize : sizeOf part < sizeOf e := sizeOf_lt_of_mem_children hpart
  have hroom : part.room size < e.room size :=
    room_lt size hsize fun hwritten => appliesWritten_of_mem_children hwritten hpart
  exact ⟨stratified_of_mem_children hdirect h.stratified hpart,
    Nat.le_trans (Nat.le_of_lt hsize) h.size_le, Nat.le_trans (Nat.le_of_lt hroom) h.room_le⟩

/-- A passed reference fits where computed references may be applied. -/
theorem Passed.fits {size n : Nat} {body : Expr} (h : Passed size body) (hn : size ≤ n) :
    Fits size n body where
  stratified := stratified_of_appliesWritten _ _ h.1
  size_le := h.2
  room_le := by
    rw [room, if_pos h.1]
    exact Nat.le_trans h.2 hn

/-- The values that evaluation works on while references of a size are passed. -/
abbrev Tame (size : Nat) (v : Value) : Prop := v.RefersOnly (Passed size)

/-- A value that a call may apply: if it is a reference, a depth of `n` suffices for its body. -/
def Callable (size n : Nat) (v : Value) : Prop := ∀ id body, v = .reference id body → Fits size n body

theorem isReference_iff {e : Expr} : e.isReference ↔ ∃ id body, e = .reference id body := by
  cases e <;> simp [isReference]

/-- A reference that is applied where it is written needs no more depth for its body. -/
theorem callable_written {size n id : Nat} {body : Expr}
    (h : sizeOf (reference id body) ≤ size ∧ (reference id body).room size ≤ n)
    (hstratified : (reference id body).stratified true) :
    Callable size n (.reference id body) := by
  rintro id' body' heq
  obtain ⟨-, rfl⟩ := Value.reference.inj heq
  have hsize : sizeOf body < sizeOf (reference id body) := by simp +arith
  have hroom := room_lt size hsize fun hwritten => by
    simpa only [appliesWritten] using hwritten
  exact ⟨by simpa [stratified] using hstratified, by omega, by omega⟩

theorem Tame.callable {size n : Nat} {v : Value} (h : Tame size v) (hn : size ≤ n) :
    Callable size n v := by
  rintro id body rfl
  exact (Value.refersOnly_reference.mp h).fits hn

/-- The values of arguments, at the places where they are applied and at the others. -/
def TameArgs (size n : Nat) (applied : Nat → Bool) : List Value → Prop
  | [] => True
  | v :: vs =>
    (if applied 0 then Callable size n v else Tame size v) ∧
      TameArgs size n (fun i => applied (i + 1)) vs

theorem tameArgs_iff {size n : Nat} {applied : Nat → Bool} {vs : List Value} :
    TameArgs size n applied vs ↔
      ∀ i v, vs[i]? = some v → if applied i then Callable size n v else Tame size v := by
  induction vs generalizing applied with
  | nil => exact ⟨fun _ => nofun, fun _ => trivial⟩
  | cons v vs ih =>
      constructor
      · rintro ⟨hv, hvs⟩ i w hw
        cases i with
        | zero =>
            obtain rfl := Option.some.inj hw
            exact hv
        | succ i => exact ih.mp hvs i w hw
      · intro h
        exact ⟨h 0 v rfl, ih.mpr fun i => h (i + 1)⟩

theorem stratified_of_not_isReference {e : Expr} {applied : Bool} (h : e.stratified applied)
    (hnot : e.isReference = false) : e.stratified false := by
  cases e with
  | reference id body => simp [isReference] at hnot
  | _ => exact h

/-- **`Tames size n apply`** — a body that fits a depth of `n` ends with a tame value where it is
applied to one. -/
def Tames (size n : Nat) (apply : Apply) : Prop :=
  ∀ body v, Fits size n body → Tame size v → Yields (fun r => ∀ w ∈ r, Tame size w) (apply body v)

variable {size n : Nat} {apply : Apply}

/-- A call on tame arguments ends with a tame value, if depth `n` is enough for what it applies. -/
theorem yields_call (happly : Tames size n apply) (b : Builtin) (vs : List Value)
    (hvs : TameArgs size n (fun i => b.appliedPlace? vs.length == some i) vs) :
    Yields (fun r => ∀ w ∈ r, Tame size w) (b.call apply vs) := by
  rw [tameArgs_iff] at hvs
  refine Yields.judgment.call hereditary_refersOnly ?applied ?others
  case applied =>
    intro i id body hplace hreference v hv
    have hcallable := hvs i _ hreference
    rw [if_pos (beq_iff_eq.mpr hplace)] at hcallable
    exact happly body v (hcallable id body rfl) hv
  case others =>
    intro i arg hplace harg
    have htame := hvs i arg harg
    rwa [if_neg (by simpa using hplace)] at htame

/-- An argument comes to what may stand at its place: it is a reference that is applied where it is
written, or it is evaluated, and there is room for one more body if its value is applied. -/
theorem yields_arg {arg : Expr} {v : Value} {applied : Bool}
    (harg : sizeOf arg ≤ size ∧ arg.room size ≤ n) (hstratified : arg.stratified applied)
    (hwritten : applied = true → arg.isReference = true ∨ size ≤ n)
    (heval : Fits size (n + 1) arg → Yields (fun r => ∀ w ∈ r, Tame size w) (arg.eval apply v)) :
    Yields (fun r => ∀ w ∈ r, if applied then Callable size n w else Tame size w)
      (arg.eval apply v) := by
  by_cases hplace : applied = true ∧ arg.isReference = true
  · obtain ⟨rfl, hreference⟩ := hplace
    obtain ⟨id, body, rfl⟩ := isReference_iff.mp hreference
    simp only [eval]
    refine .guard nofun (.pure ?_)
    rintro w ⟨⟩
    exact callable_written harg hstratified
  · have hfits : Fits size (n + 1) arg := by
      refine ⟨?_, harg.1, Nat.le_succ_of_le harg.2⟩
      cases applied with
      | false => exact hstratified
      | true => exact stratified_of_not_isReference hstratified (by simpa using hplace)
    refine (heval hfits).imp fun r hr w hw => ?_
    cases applied with
    | false => exact hr w hw
    | true => exact Tame.callable (hr w hw) ((hwritten rfl).resolve_left fun h => hplace ⟨rfl, h⟩)

/-- **`yields_eval`** — an expression that fits ends with a tame value on every tame value, if the
bodies that fit with one depth less do. -/
theorem yields_eval (happly : Tames size n apply) (e : Expr) {v : Value}
    (he : Fits size (n + 1) e) (hv : Tame size v) :
    Yields (fun r => ∀ w ∈ r, Tame size w) (e.eval apply v) := by
  have hstratified := he.stratified
  have hparts : ∀ part ∈ e.children, Fits size (n + 1) part → ∀ w, Tame size w →
      Yields (fun r => ∀ u ∈ r, Tame size u) (part.eval apply w) := by
    intro part hpart hfits w hw
    have hsize := sizeOf_lt_of_mem_children hpart
    exact yields_eval happly part hfits hw
  cases e with
  | call function args =>
      simp only [stratified] at hstratified
      have hargs : ∀ arg ∈ args, sizeOf arg ≤ size ∧ arg.room size ≤ n := fun arg harg => by
        have hlt : sizeOf arg < sizeOf (call function args) := sizeOf_lt_of_mem_children harg
        have hroom := room_lt size hlt fun h => appliesWritten_of_mem_children h harg
        have := he.size_le
        have := he.room_le
        omega
      -- An applied argument is written in place, or there is room for one more body.
      have hwritten : ∀ i arg, args[i]? = some arg →
          (function.body.appliedPlace? args.length == some i) = true →
          arg.isReference = true ∨ size ≤ n := by
        intro i arg harg happlied
        by_cases h : writtenInPlace function args
        · rw [writtenInPlace, eq_of_beq happlied] at h
          simp only [harg, Option.any_some] at h
          exact .inl h
        · have hroom := he.room_le
          rw [room, if_neg (by simp [appliesWritten, h])] at hroom
          exact .inr (by omega)
      have hvalues := Yields.judgment.evalArgs (P := fun i w =>
          if function.body.appliedPlace? args.length == some i then Callable size n w
          else Tame size w) fun i arg harg => by
        have hmem : arg ∈ args := List.mem_of_getElem? harg
        exact yields_arg (hargs arg hmem) (stratified_of_getElem? hstratified harg)
          (hwritten i arg harg) fun hfits => hparts arg hmem hfits v hv
      simp only [eval]
      refine .guard (by simp) (hvalues.bind fun values hvalues => ?_)
      cases values with
      | none => exact .pure (by simp)
      | some values =>
          obtain ⟨hlength, hvalues⟩ := hvalues values rfl
          rw [← hlength] at hvalues
          exact yields_call happly function.body values (tameArgs_iff.mpr hvalues)
  | reference id body =>
      simp only [eval]
      refine .guard (by simp) (.pure ?_)
      rintro w ⟨⟩
      have hsize : sizeOf body < sizeOf (reference id body) :=
        sizeOf_lt_of_mem_children List.mem_cons_self
      exact Value.refersOnly_reference.mpr
        ⟨by simpa [stratified] using hstratified, by have := he.size_le; omega⟩
  | _ =>
      refine Yields.judgment.eval hereditary_refersOnly rfl (fun _ _ => Value.refersOnly_ofJson _)
        (fun _ _ _ _ => .object) (fun part hpart => ?_) hv
      exact hparts part hpart (he.child rfl hpart)

/-- An expression that fits a depth ends at that depth. -/
theorem yields_evalAt (n : Nat) (e : Expr) {v : Value} (he : Fits size n e) (hv : Tame size v) :
    Yields (fun r => ∀ w ∈ r, Tame size w) (evalAt n e v) := by
  induction n generalizing e v with
  | zero =>
      have hroom := he.room_le
      have : 0 < sizeOf e := by cases e <;> simp +arith
      simp only [room] at hroom
      omega
  | succ n ih => exact yields_eval (fun body v hbody hv => ih body hbody hv) e he hv

end Expr

/-! ## Self-application -/

namespace Expr

/-- `map(@,[@])`: the current value is applied to itself. -/
def selfApplied : Expr := .call (.ofBuiltin .map) [.current, .list [.current]]

/-- Without a budget, the self-application of a reference to it has an outcome at no depth: every
application is one more of the same. -/
theorem selfApplied_endless (n id : Nat) (c : Context) (p : Progress)
    (hbudget : c.options.stepBudget = none) :
    evalAt n selfApplied (.reference id selfApplied) c p = none := by
  induction n generalizing p with
  | zero => rfl
  | succ n ih =>
      have htick : ∀ p, tick c p = some (true, { p with steps := p.steps + 1 }) := by
        intro p
        simp [tick, Progress.isExhausted, hbudget]
      simp [evalAt_succ, selfApplied, eval, evalArgs, evalItems, bind_apply, pure_apply, htick,
        Value.isNull, Function.ofBuiltin, Builtin.call, allOrNone]
      -- Four nodes on, the reference is applied to itself again.
      intro result q hagain
      have hnone := (ih _).symm.trans hagain
      cases hnone

end Expr

namespace Query

/-- **`ends_of_stratified`** — a query ends on every document if every reference that it passes on as
a value applies only references written in place. -/
theorem ends_of_stratified (q : Query) (h : q.expr.stratified false) (document : Json)
    (maxDepth : Nat) : q.Ends document maxDepth := by
  obtain ⟨value, progress, hrun, -⟩ := Expr.yields_evalAt _ q.expr
    ⟨h, Nat.le_refl (sizeOf q.expr), Nat.le_refl _⟩ (Value.refersOnly_ofJson document)
    ⟨.ofJson document, ⟨maxDepth, none⟩⟩ {}
  exact ⟨value, progress, _, hrun⟩

/-- A reference that is passed on to a call, whose body applies nothing. -/
theorem ends_of_stratified_passed :
    (⟨"(&a) | map(@,[@])", .pipe (.reference 1 (.field "a")) Expr.selfApplied⟩ : Query).Ends
      .null 100 :=
  ends_of_stratified _ (by decide) .null 100

/-- `(&map(@,[@])) | map(@,[@])`: a reference to the self-application, and the self-application. -/
def endless : Query :=
  ⟨"(&map(@,[@])) | map(@,[@])", .pipe (.reference 1 Expr.selfApplied) Expr.selfApplied⟩

theorem compile_endless : compile endless.source = .ok endless := by
  rfl

theorem not_ends_endless (document : Json) (maxDepth : Nat) : ¬ endless.Ends document maxDepth := by
  rintro ⟨value, progress, n, hrun⟩
  cases n with
  | zero => exact nomatch hrun
  | succ n =>
      have hloop := Expr.selfApplied_endless (n + 1) 1 ⟨.ofJson document, ⟨maxDepth, none⟩⟩
        ⟨2, []⟩ rfl
      -- The pipe and the reference are two steps; then the reference is the current value.
      exact nomatch hloop.symm.trans hrun

/-- Not every text that compiles has an evaluation that ends. -/
theorem compiles_without_end : ∃ source q, compile source = .ok q ∧
    ∀ document maxDepth, ¬ q.Ends document maxDepth :=
  ⟨_, endless, compile_endless, not_ends_endless⟩

end Query

end JsonQuery
