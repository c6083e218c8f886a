/-
# JsonQuery.Proofs.Path.Pointing — where the errors of paths point.

A reader of paths has no way back: it steps over characters and stops, if it does, where it is then
(`Forward`).  Readers put together of such readers are of this kind, so that the place of an error is
a place of the text wherever in the descent it is raised.
-/
import JsonQuery.Proofs.Expr.Pointing
import JsonQuery.Proofs.Path.DescentCoupling
import JsonQuery.Proofs.Path.Reading

namespace JsonQuery

open Text (Cursor Position)

namespace Path

namespace Reader

variable {α β : Type} {g : Registry} {r : Reading}

theorem bind_eq_error {x : Reader α} {f : α → Reader β} {e : ParseError} :
    (x >>= f) g r = .error e ↔
      x g r = .error e ∨ ∃ a r', x g r = .ok (a, r') ∧ f a g r' = .error e := by
  change (x g r >>= fun result => f result.1 g result.2) = _ ↔ _
  cases x g r with
  | error e' => simp [bind, Except.bind]
  | ok result =>
      obtain ⟨a, r'⟩ := result
      simp only [bind, Except.bind, Except.ok.injEq, Prod.mk.injEq, reduceCtorEq, false_or]
      constructor
      · exact fun h => ⟨a, r', ⟨rfl, rfl⟩, h⟩
      · rintro ⟨_, _, ⟨rfl, rfl⟩, h⟩
        exact h

/-- **`Forward x`** — `x` leaves the cursor further on, and where it stops it is further on as well. -/
structure Forward (x : Reader α) : Prop where
  moves : ∀ g r, Ensures x g r fun _ r' => ∃ n, r'.cursor = r.cursor.advanceBy n
  points : ∀ g r e, x g r = .error e → r.cursor.Leads e.position

namespace Forward

/-- A reader that stops nowhere. -/
theorem of_ok {x : Reader α}
    (h : ∀ g r, ∃ a r' n, x g r = .ok (a, r') ∧ r'.cursor = r.cursor.advanceBy n) : Forward x where
  moves g r a r' hrun := by
    obtain ⟨b, r'', n, hgoes, hcursor⟩ := h g r
    obtain ⟨-, rfl⟩ := Prod.mk.inj (Except.ok.inj (hgoes.symm.trans hrun))
    exact ⟨n, hcursor⟩
  points g r e hrun := by
    obtain ⟨b, r', n, hgoes, -⟩ := h g r
    cases hgoes.symm.trans hrun

theorem pure (a : α) : Forward (Pure.pure a : Reader α) := of_ok fun _ r => ⟨a, r, 0, rfl, rfl⟩

theorem fail {cause : ParseError.Cause} : Forward (Reader.fail cause : Reader α) where
  moves _ _ := .fail
  points g r e hrun := by
    cases hrun
    exact r.cursor.leads_position

/-- Further on from further on is further on. -/
theorem bind {x : Reader α} {f : α → Reader β} (hx : Forward x) (hf : ∀ a, Forward (f a)) :
    Forward (x >>= f) where
  moves g r := by
    refine (hx.moves g r).bind fun a r' ⟨m, hm⟩ => ((hf a).moves g r').imp fun b r'' ⟨n, hn⟩ => ?_
    exact ⟨m + n, by rw [hn, hm, Cursor.advanceBy_advanceBy]⟩
  points g r e hrun := by
    obtain hfirst | ⟨a, r', hfirst, hsecond⟩ := bind_eq_error.mp hrun
    · exact hx.points g r e hfirst
    · obtain ⟨m, hm⟩ := hx.moves g r a r' hfirst
      have hleads := (hf a).points g r' e hsecond
      rw [hm] at hleads
      exact hleads.of_advanceBy

theorem ite {c : Prop} [Decidable c] {x y : Reader α} (hx : Forward x) (hy : Forward y) :
    Forward (if c then x else y) := by
  split
  next => exact hx
  next => exact hy

/-! ## Primitive readers -/

theorem get : Forward (MonadState.get : Reader Reading) := of_ok fun _ r => ⟨r, r, 0, rfl, rfl⟩

theorem read : Forward (MonadReader.read : Reader Registry) :=
  of_ok fun g r => ⟨g, r, 0, rfl, rfl⟩

theorem current : Forward current := of_ok fun _ r => ⟨r.cursor.current, r, 0, rfl, rfl⟩

theorem next : Forward next := of_ok fun _ r => ⟨r.cursor.peek 1, r, 0, rfl, rfl⟩

theorem advance : Forward advance :=
  of_ok fun _ r => ⟨(), { r with cursor := r.cursor.advance }, 1, rfl, rfl⟩

theorem readWhile (accept : Char → Bool) : Forward (readWhile accept) := by
  refine of_ok fun _ r => ?_
  exact ⟨_, { r with cursor := (r.cursor.readWhile accept).2 }, _, rfl, rfl⟩

theorem skipBlanks : Forward skipBlanks := by
  refine of_ok fun _ r => ?_
  exact ⟨(), { r with cursor := r.cursor.skipBlanks }, _, rfl, rfl⟩

theorem headStep : Forward headStep := by
  unfold Reader.headStep
  refine current.bind fun c => ?_
  split
  · refine of_ok fun _ r => ?_
    exact ⟨_, { r with roots := r.roots + 1, cursor := r.cursor.advance }, 1, rfl, rfl⟩
  · exact advance.bind fun _ => pure _
  · exact fail

theorem coupling : DescentCoupling fun {_} x _ => Forward x where
  pure := pure
  fail := fail
  bind := bind
  get hf := get.bind fun r => hf r r (Nat.le_refl _) rfl
  current := current
  next hf _ := next.bind hf
  advanceBy n := of_ok fun _ r => ⟨(), { r with cursor := r.cursor.advanceBy n }, n, rfl, rfl⟩
  skipBlanks := skipBlanks
  readWhile := readWhile
  -- A change of the depth is no move.
  modifyDepth f := of_ok fun _ r => ⟨(), { r with depth := f r.depth }, 0, rfl, rfl⟩
  headStep := headStep
  read hf := read.bind hf

end Forward

/-- **`forward_whole`** — the reader of whole paths only moves forward. -/
theorem forward_whole : Forward whole := by
  unfold whole
  have hpath : Forward (get >>= fun r => path (8 * (r.cursor.rest.length + 2)) >>= fun steps =>
      skipBlanks >>= fun _ => get >>= fun r =>
        if r.cursor.atEnd then pure steps else fail .syntaxError : Reader (List Step)) :=
    .bind .get fun r => .bind (Forward.coupling.descent (Nat.le_refl _)).path fun steps =>
      .bind .skipBlanks fun _ => .bind .get fun r => .ite (.pure steps) .fail
  exact .bind .skipBlanks fun _ => .bind Forward.coupling.demand fun c =>
    .ite (.bind .fail fun _ => hpath) hpath

end Reader

/-- **`leads_of_parseSteps`** — the errors of paths are places of their text. -/
theorem leads_of_parseSteps {text : String} {registry : Registry} {e : ParseError}
    (h : parseSteps text registry = .error e) : (Cursor.start text).Leads e.position := by
  refine Reader.forward_whole.points registry { cursor := Cursor.start text } e ?_
  change (Reader.whole registry { cursor := Cursor.start text }).map Prod.fst = .error e at h
  cases hrun : Reader.whole registry { cursor := Cursor.start text } with
  | error e' =>
      rw [hrun] at h
      cases h
      rfl
  | ok result =>
      rw [hrun] at h
      cases h

end Path

/-! ## Both languages -/

/-- **`parse_error_position`** — whatever the text and the functions that there are, the position of
an error of either parser is that behind some number of characters of the text: the line counts the
line feeds among them, the column the characters behind the last of these, both from one. -/
theorem parse_error_position (text : String) (registry : Registry) (e : ParseError)
    (h : Expr.parse text registry = .error e ∨ Path.parseSteps text registry = .error e) :
    ∃ k ≤ text.toList.length, e.position.line = 1 + (text.toList.take k).count '\n' ∧
      e.position.column = 1 + ((text.toList.take k).rtakeWhile (· ≠ '\n')).length := by
  have hleads : (Cursor.start text).Leads e.position := by
    rcases h with h | h
    · exact Expr.leads_of_parse h
    · exact Path.leads_of_parseSteps h
  obtain ⟨k, hk, hafter⟩ := hleads.eq_after
  refine ⟨k, hk, ?_, ?_⟩
  · rw [hafter, Position.line_after]
  · rw [hafter, Position.column_after]

set_option maxRecDepth 4096 in
/-- A literal on the second line that is no JSON, which is found out behind it, and a bracket behind
the end of a path. -/
theorem parse_error_position_second_line :
    Expr.parse "\n\x60x\x60 " .builtins = .error ⟨.invalidLiteral, ⟨2, 1⟩⟩ ∧
    (∃ k ≤ 5, 2 = 1 + ("\n\x60x\x60 ".toList.take k).count '\n' ∧
      1 = 1 + (("\n\x60x\x60 ".toList.take k).rtakeWhile (· ≠ '\n')).length) ∧
    Path.parseSteps "$.a\n[" .builtins = .error ⟨.syntaxError, ⟨2, 1⟩⟩ ∧
    ∃ k ≤ 5, 2 = 1 + ("$.a\n[".toList.take k).count '\n' ∧
      1 = 1 + (("$.a\n[".toList.take k).rtakeWhile (· ≠ '\n')).length := by
  have hexpr : Expr.parse "\n\x60x\x60 " .builtins = .error ⟨.invalidLiteral, ⟨2, 1⟩⟩ := by rfl
  have hpath : Path.parseSteps "$.a\n[" .builtins = .error ⟨.syntaxError, ⟨2, 1⟩⟩ := by rfl
  exact ⟨hexpr, parse_error_position _ .builtins _ (.inl hexpr),
    hpath, parse_error_position _ .builtins _ (.inr hpath)⟩

end JsonQuery
