/-
# JsonQuery.Proofs.Expr.Enclosure — texts around parts.

Parentheses, lists, objects, calls, filters and references have expressions as parts.  Whatever these
are, they mean there what they mean on their own, and the whole is the node over their trees.  Only the
nesting of the whole can be too deep where that of the parts is not, and then some part uses the last
level that it may.
-/
import JsonQuery.Proofs.Expr.Entries

namespace JsonQuery

open JsonQuery.Expr
open Text (isBlank isAsciiDigit)

variable {registry : Registry}

/-- Whether a text is a star with blanks around it. -/
def Part.isStar (p : Part registry) : Bool := p.chars.filter (!isBlank ·) == ['*']

/-- The text of an entry. -/
def Entry.text (e : Entry registry) : String := e.key.text ++ ":" ++ e.part.text

/-- A text around parts. -/
inductive Enclosure (registry : Registry) where
  /-- `(part)` -/
  | paren (part : Part registry)
  /-- `[part,…,part]` -/
  | list (parts : List (Part registry))
  /-- An object of keys and parts. -/
  | hash (entries : List (Entry registry))
  /-- `name(part,…,part)` -/
  | call (name : Identifier) (function : Function) (args : List (Part registry))
  /-- `@[?part]` -/
  | filter (part : Part registry)
  /-- `&part` -/
  | reference (part : Part registry)

namespace Enclosure

/-- The text. -/
def text : Enclosure registry → String
  | .paren part => "(" ++ part.text ++ ")"
  | .list parts => "[" ++ ",".intercalate (parts.map Part.text) ++ "]"
  | .hash entries => "\x7b" ++ ",".intercalate (entries.map Entry.text) ++ "\x7d"
  | .call name _ args => name.text ++ "(" ++ ",".intercalate (args.map Part.text) ++ ")"
  | .filter part => "@[?" ++ part.text ++ "]"
  | .reference part => "&" ++ part.text

/-- The parts. -/
def parts : Enclosure registry → List (Part registry)
  | .paren part | .filter part | .reference part => [part]
  | .list parts | .call _ _ parts => parts
  | .hash entries => entries.map Entry.part

/-- The node over the trees of the parts, whose references move along with them; the trees keep their
shape (`Expr.toText_shift`). -/
def tree : Enclosure registry → Expr
  | .paren part => part.tree.shift 1
  | .list parts => .list (Part.treesFrom 1 parts)
  | .hash entries => .hash (Entry.treesFrom 1 entries)
  | .call name function args => .call function (Part.treesFrom (name.chars.length + 1) args)
  | .filter part => projectAll (.filter (part.tree.shift 3)) .current
  | .reference part => .reference 0 (part.tree.shift 1)

/-- **`e.Admissible`** — there is a part; a list is not the wildcard `[*]`; the name of a call is that
of a function, which takes that many arguments. -/
def Admissible : Enclosure registry → Prop
  | .list parts => parts ≠ [] ∧ ∀ part, parts = [part] → part.isStar = false
  | .hash entries => entries ≠ []
  | .call name function args =>
    args ≠ [] ∧ registry.find? name.text = some function ∧
      ∀ n, function.arity = some n → args.length = n
  | _ => True

end Enclosure

/-! ## Spelling -/

theorem Part.toList_join (p : Part registry) (ps : List (Part registry)) :
    (",".intercalate ((p :: ps).map Part.text)).toList = p.chars ++ Part.others ps := by
  induction ps generalizing p with
  | nil =>
      rw [Part.others, List.append_nil]
      rfl
  | cons q ps ih =>
      have hjoin : ",".intercalate ((p :: q :: ps).map Part.text) =
          p.text ++ "," ++ ",".intercalate ((q :: ps).map Part.text) := String.intercalate_cons_cons
      rw [hjoin, String.toList_append, String.toList_append, ih]
      simp [Part.others, Part.chars]

theorem Entry.toList_text (e : Entry registry) : e.text.toList = e.chars := by
  simp [Entry.text, Key.text, Entry.chars, Part.chars]

theorem Entry.toList_join (e : Entry registry) (es : List (Entry registry)) :
    (",".intercalate ((e :: es).map Entry.text)).toList = e.chars ++ Entry.others es := by
  induction es generalizing e with
  | nil =>
      rw [Entry.others, List.append_nil, ← e.toList_text]
      rfl
  | cons e' es ih =>
      have hjoin : ",".intercalate ((e :: e' :: es).map Entry.text) =
          e.text ++ "," ++ ",".intercalate ((e' :: es).map Entry.text) :=
        String.intercalate_cons_cons
      rw [hjoin, String.toList_append, String.toList_append, ih, e.toList_text]
      simp [Entry.others]

/-! ## Closing -/

namespace Expr

variable {limit : Prop}

/-- What a node over parts needs of their heights. -/
theorem limit_of_height {p : Part registry} (hlimit : ¬ p.LeavesRoom → limit)
    (hdeep : maxNesting < p.operand.height + 1) : limit := by
  refine hlimit fun hroom => ?_
  have hheight := hroom.height _ p.yields_operand
  omega

theorem limit_of_heights {ps : List (Part registry)} {n : Nat}
    (hlimit : ¬ (∀ p ∈ ps, p.LeavesRoom) → limit)
    (hdeep : maxNesting < greatestHeight (Part.operandsFrom n ps) + 1) : limit := by
  refine hlimit fun hroom => ?_
  have hheight := greatestHeight_lt (Part.height_of_operandsFrom (n := n) hroom)
  omega

theorem close_list {ps : List (Part registry)} (n : Nat)
    (hlimit : ¬ (∀ p ∈ ps, p.LeavesRoom) → limit) :
    OrTooDeep limit
      (Group.close (.list false) .list ((Part.operandsFrom n ps).map .operand) [])
      [.operand ⟨.list (Part.treesFrom n ps), false,
        greatestHeight (Part.operandsFrom n ps) + 1⟩] := by
  rw [← Part.operandsFrom_expr]
  refine OrTooDeep.bind (.inl (asOperands_operand _)) ?_
  exact .pushNode _ _ _ (limit_of_heights hlimit)

theorem close_call {ps : List (Part registry)} {function : Function} (n : Nat)
    (harity : ∀ n, function.arity = some n → ps.length = n)
    (hlimit : ¬ (∀ p ∈ ps, p.LeavesRoom) → limit) :
    OrTooDeep limit
      (Group.close (.call function false) .call ((Part.operandsFrom n ps).map .operand) [])
      [.operand ⟨.call function (Part.treesFrom n ps), false,
        greatestHeight (Part.operandsFrom n ps) + 1⟩] := by
  have hchecked :
      checkArity function ((Part.operandsFrom n ps).map Item.operand).length = .ok () := by
    rw [List.length_map, Part.length_operandsFrom]
    unfold checkArity
    split
    · rename_i expected hexpected
      rw [if_pos (harity expected hexpected).symm]
    · rfl
  rw [← Part.operandsFrom_expr]
  refine OrTooDeep.bind (.inl hchecked) (OrTooDeep.bind (.inl (asOperands_operand _)) ?_)
  exact .pushNode _ _ _ (limit_of_heights hlimit)

theorem close_hash {es : List (Entry registry)} (n : Nat)
    (hlimit : ¬ (∀ e ∈ es, e.part.LeavesRoom) → limit) :
    OrTooDeep limit
      (Group.close (.hash false) .hash (Entry.items (Entry.operandsFrom n es)) [])
      [.operand ⟨.hash (Entry.treesFrom n es), false,
        greatestHeight ((Entry.operandsFrom n es).map (·.2)) + 1⟩] := by
  rw [← Entry.operandsFrom_expr]
  refine OrTooDeep.bind (.inl (Entry.asEntries_items _)) (.pushNode _ _ _ fun hdeep => ?_)
  refine hlimit fun hroom => ?_
  have hheight := greatestHeight_lt (Entry.height_of_operandsFrom (n := n) hroom)
  omega

theorem close_paren {p : Part registry} (n : Nat) (hlimit : ¬ p.LeavesRoom → limit) :
    OrTooDeep limit (Group.close .paren .paren [.operand (p.operand.shift n)] [])
      [.operand ⟨p.tree.shift n, false, p.operand.height⟩] := by
  rw [← p.operand_expr]
  exact .pushNode _ _ _ fun hdeep => limit_of_height hlimit (Nat.lt_succ_of_lt hdeep)

/-- The current value has height one, and a filter over it one more than its predicate. -/
theorem close_filter {p : Part registry} (n : Nat) (hlimit : ¬ p.LeavesRoom → limit) :
    OrTooDeep limit
      (Group.close (.filter true) .filter [.operand (p.operand.shift n)]
        [.operand ⟨.current, false, 1⟩])
      [.operand ⟨projectAll (.filter (p.tree.shift n)) .current, true,
        max 1 p.operand.height + 1⟩] := by
  rw [← p.operand_expr]
  refine .pushNode _ _ _ fun hdeep => limit_of_height hlimit ?_
  have hheight : maxNesting < max 1 p.operand.height + 1 := hdeep
  have hsmall : 2 ≤ maxNesting := by decide
  omega

end Expr

/-! ## Reading -/

namespace Expr.Machine

variable {limit : Prop} {m : Machine} {setting : Setting}

/-- An operand with nothing behind it. -/
theorem ends_of_operand {e : Expr} {projecting : Bool} {height : Nat}
    (hm : m.place = .between setting [.afterOperand, .finish]
      ⟨[.operand ⟨e, projecting, height⟩], [], 0⟩ []) :
    m.Ends (.ok e) ∨ m.EndsTooDeep limit :=
  (leads_end hm rfl).ends fun _ hm' => ends_of_finish hm' (.inl rfl)

/-- The closer of a group with nothing behind it. -/
theorem ends_of_close {s : State} {closer : Closer} {c : Char} {waiting : Stacks}
    {items : List Item} {group : Group} {e : Expr} {projecting : Bool} {height : Nat}
    (parts : List Item) (hs : s.closer? = some closer)
    (hplan : ∀ r : Reader, r.planAt (some c) s = r.go 1 [] (.token (.closing closer)))
    (hblank : isBlank c = false)
    (hreduce : waiting.reduceToBarrier = .ok ⟨parts.reverse ++ .opened group :: items, [.barrier], 1⟩)
    (hparts : ∀ g, .opened g ∉ parts)
    (hclose : OrTooDeep limit (group.close closer parts items) [.operand ⟨e, projecting, height⟩])
    (hm : m.place = .between setting [s, .afterOperand, .finish] waiting [c]) :
    m.Ends (.ok e) ∨ m.EndsTooDeep limit :=
  (leads_close hs hplan hblank rfl hreduce hparts hclose hm).ends fun _ hm' => ends_of_operand hm'

/-- A text in parentheses. -/
theorem ends_paren (p : Part registry) (hlimit : ¬ p.LeavesRoom → limit) {chars : List Char}
    (hchars : chars = '(' :: (p.chars ++ [')']))
    (hm : m.place = .between ⟨registry, chars.length⟩ [.operand, .afterOperand, .finish] {} chars) :
    m.Ends (.ok (p.tree.shift 1)) ∨ m.EndsTooDeep limit := by
  subst hchars
  have hopen : m.Leads limit (.between ⟨registry, _⟩
      (.operand :: .afterOperand :: .parenEnd :: [.afterOperand, .finish])
      ⟨[.opened .paren], [.barrier], 1⟩ (p.chars ++ [')'])) :=
    leads_char hm rfl (by decide) (fun _ => rfl) (.inl rfl) rfl
  have hlength : ('(' :: (p.chars ++ [')'])).length = 1 + p.length + [')'].length := by
    simp [Part.length]
    omega
  obtain ⟨waiting, hreduce, hlead⟩ := leads_part .parenEnd [.afterOperand, .finish] [.opened .paren]
    [] 1 [')'] rfl rfl (Nat.le_refl 1) hlimit (List.nil_append p.chars).symm (List.forall_mem_nil _)
    (congrArg (Setting.mk registry) hlength)
  refine (hopen.trans hlead).ends fun m' hm' => ?_
  exact ends_of_close [.operand (p.operand.shift 1)] rfl (fun _ => rfl) rfl hreduce (by simp)
    (close_paren 1 hlimit) hm'

/-- A filter of the current value. -/
theorem ends_filter (p : Part registry) (hlimit : ¬ p.LeavesRoom → limit) {chars : List Char}
    (hchars : chars = '@' :: '[' :: '?' :: (p.chars ++ [']']))
    (hm : m.place = .between ⟨registry, chars.length⟩ [.operand, .afterOperand, .finish] {} chars) :
    m.Ends (.ok (projectAll (.filter (p.tree.shift 3)) .current)) ∨ m.EndsTooDeep limit := by
  subst hchars
  have hcurrent : m.Leads limit (.between ⟨registry, _⟩ [.afterOperand, .finish]
      ⟨[.operand ⟨.current, false, 1⟩], [], 0⟩ ('[' :: '?' :: (p.chars ++ [']']))) :=
    leads_char hm rfl (by decide) (fun _ => rfl) (.inl rfl) rfl
  have hbracket : m.Leads limit (.between ⟨registry, _⟩ [.bracketStep, .afterOperand, .finish]
      ⟨[.operand ⟨.current, false, 1⟩], [], 0⟩ ('?' :: (p.chars ++ [']']))) :=
    hcurrent.trans fun m' hm' => leads_char hm' rfl (by decide) (fun _ => rfl) (.inl rfl) rfl
  have hopen : m.Leads limit (.between ⟨registry, _⟩
      (.operand :: .afterOperand :: .filterEnd :: [.afterOperand, .finish])
      ⟨[.opened (.filter true), .operand ⟨.current, false, 1⟩], [.barrier], 1⟩ (p.chars ++ [']'])) :=
    hbracket.trans fun m' hm' => leads_char hm' rfl (by decide) (fun _ => rfl) (.inl rfl) rfl
  have hlength : ('@' :: '[' :: '?' :: (p.chars ++ [']'])).length = 3 + p.length + [']'].length := by
    simp [Part.length]
    omega
  obtain ⟨waiting, hreduce, hlead⟩ := leads_part .filterEnd [.afterOperand, .finish]
    [.opened (.filter true), .operand ⟨.current, false, 1⟩] [] 3 [']'] rfl rfl (Nat.le_refl 1) hlimit
    (List.nil_append p.chars).symm (List.forall_mem_nil _) (congrArg (Setting.mk registry) hlength)
  refine (hopen.trans hlead).ends fun m' hm' => ?_
  exact ends_of_close [.operand (p.operand.shift 3)] rfl (fun _ => rfl) rfl hreduce (by simp)
    (close_filter 3 hlimit) hm'

/-- What the stacks of the body of a reference come to. -/
theorem result_reference {p : Part registry} {inner : Stacks} (hresult : inner.result = .ok p.operand)
    (hlimit : ¬ p.LeavesRoom → limit) :
    OrTooDeep limit (inner.within 1 ⟨[], [.operator (.reference 0)], 0⟩).result
      ⟨.reference 0 (p.tree.shift 1), false, p.operand.height + 1⟩ := by
  have hreduce : OrTooDeep limit
      (Expr.reduceWhile (fun _ => true) (inner.within 1 ⟨[], [.operator (.reference 0)], 0⟩).items
        (inner.within 1 ⟨[], [.operator (.reference 0)], 0⟩).pending)
      ([.operand ⟨.reference 0 (p.tree.shift 1), false, p.operand.height + 1⟩], []) := by
    rw [Stacks.reduceWhile_of_part hresult, ← p.operand_expr]
    refine OrTooDeep.bind (.pushNode _ _ _ fun hdeep => limit_of_height hlimit hdeep) ?_
    exact .inl rfl
  exact OrTooDeep.bind (OrTooDeep.bind (hreduce.bind (.inl rfl)) (.inl rfl)) (.inl rfl)

/-- A reference. -/
theorem ends_reference (p : Part registry) (hlimit : ¬ p.LeavesRoom → limit) {chars : List Char}
    (hchars : chars = '&' :: p.chars)
    (hm : m.place = .between ⟨registry, chars.length⟩ [.operand, .afterOperand, .finish] {} chars) :
    m.Ends (.ok (.reference 0 (p.tree.shift 1))) ∨ m.EndsTooDeep limit := by
  subst hchars
  have hrest : m.cursor.rest = '&' :: p.chars := congrArg Place.rest hm
  -- The reference is known by its place, which is the start of the text.
  have hoffset : m.cursor.offset = 0 := by
    have hlength : m.cursor.offset + m.cursor.rest.length = ('&' :: p.chars).length :=
      congrArg Setting.length (congrArg Place.setting hm)
    rw [hrest] at hlength
    omega
  have hplan : m.plan .operand =
      .ok ⟨1, [.operand], .token (.operator (.reference 0)), m.scratch⟩ := by
    rw [plan_of_place rfl hm, ← hoffset]
    rfl
  obtain ⟨hbuffer, hparts⟩ := scratch_between hm
  have hopen : m.Leads limit (.between ⟨registry, ('&' :: p.chars).length⟩
      [.operand, .afterOperand, .finish] ⟨[], [.operator (.reference 0)], 0⟩ p.chars) :=
    leads_between hm rfl (by decide) hplan (.inl rfl) rfl hbuffer hparts rfl
  -- No group keeps the reference off what follows, but it binds less than every operator.
  have hbounds : Outer.Bounds ⟨1, ⟨[], [.operator (.reference 0)], 0⟩, [.finish], []⟩ := by
    refine ⟨?_, rfl, rfl⟩
    rintro op rest ⟨⟩
    exact ⟨0, rfl⟩
  obtain ⟨inner, hresult, -, hlead⟩ := p.leads limit _ hbounds (Nat.zero_le 1) hlimit
    (List.nil_append p.chars).symm (List.forall_mem_nil _)
  refine hopen.ends fun m' hm' => (hlead m' ?_).ends fun m'' hm'' => ?_
  · rw [hm', List.append_nil]
    rfl
  · exact ends_of_finish hm'' (result_reference hresult hlimit)

/-- An object. -/
theorem ends_hash (e : Entry registry) (es : List (Entry registry))
    (hlimit : ¬ (∀ e' ∈ e :: es, e'.part.LeavesRoom) → limit) {chars : List Char}
    (hchars : chars = '\x7b' :: (e.chars ++ (Entry.others es ++ ['\x7d'])))
    (hm : m.place = .between ⟨registry, chars.length⟩ [.operand, .afterOperand, .finish] {} chars) :
    m.Ends (.ok (.hash (Entry.treesFrom 1 (e :: es)))) ∨ m.EndsTooDeep limit := by
  subst hchars
  have hopen : m.Leads limit (.between ⟨registry, _⟩ (.hashKey :: [.afterOperand, .finish])
      ⟨[.opened (.hash false)], [.barrier], 1⟩ (e.chars ++ (Entry.others es ++ ['\x7d']))) :=
    leads_char hm rfl (by decide) (fun _ => rfl) (.inl rfl) rfl
  have hlength : ('\x7b' :: (e.chars ++ (Entry.others es ++ ['\x7d']))).length =
      1 + e.chars.length + (Entry.others es).length + ['\x7d'].length := by
    simp
    omega
  obtain ⟨waiting, hreduce, hlead⟩ := leads_entries [.afterOperand, .finish]
    [.opened (.hash false)] [] 1 ['\x7d'] rfl (Nat.le_refl 1) hlimit
    (congrArg (Setting.mk registry) hlength)
  refine (hopen.trans hlead).ends fun m' hm' => ?_
  exact ends_of_close _ rfl (fun _ => rfl) rfl hreduce (Entry.opened_notMem_items _)
    (close_hash 1 hlimit) hm'

/-- A bracket with a part in it opens a list. -/
theorem leads_bracket {c : Char} {rest behind : List Char} {below : List State} {waiting : Stacks}
    (hstarts : Part.StartsWell c rest) (hbehind : behind.head?.all isClosing)
    (hstar : c = '*' → rest.all isBlank → behind.head? ≠ some ']')
    (hdepth : waiting.depth + 1 ≤ maxNesting)
    (hm : m.place = .between setting (.bracketOperand :: below) waiting (c :: (rest ++ behind))) :
    m.Leads limit (.between setting (.operand :: .afterOperand :: .listEnd :: below)
      ⟨.opened (.list false) :: waiting.items, .barrier :: waiting.pending, waiting.depth + 1⟩
      (c :: (rest ++ behind))) := by
  obtain ⟨hbuffer, hparts⟩ := scratch_between hm
  have hrest : m.cursor.rest = c :: (rest ++ behind) := congrArg Place.rest hm
  have hnot : ∀ d ∈ [')', ']', '?', ':'], c ≠ d := by
    rintro d hd rfl
    exact hstarts.closer hd
  have hclosing : ∀ d tail, behind = d :: tail → isClosing d := by
    rintro d tail rfl
    exact hbehind
  -- The bracket opens a list as no other reading of it fits how the part starts.
  have hwildcard : (c = '*' && m.cursor.peekSignificant == some ']') = false := by
    by_cases hc : c = '*'
    · have hpeek : m.cursor.peekSignificant =
          (rest.find? (!isBlank ·)).or (behind.find? (!isBlank ·)) := by
        rw [Text.Cursor.peekSignificant, hrest, List.drop_one, List.tail_cons, List.find?_append]
      cases hfind : rest.find? (!isBlank ·) with
      | some d =>
          have hd : d ≠ ']' := by
            rintro rfl
            exact hstarts.star hc hfind
          simp [hpeek, hfind, hd]
      | none =>
          have hblanks : rest.all isBlank := by
            simpa [List.find?_eq_none] using hfind
          have hhead := hstar hc hblanks
          cases hbehind' : behind with
          | nil => simp [hpeek, hfind, hbehind']
          | cons d tail =>
              have hd : d ≠ ']' := by
                rintro rfl
                exact hhead (by rw [hbehind']; rfl)
              have hblank : isBlank d = false := by
                rcases eq_of_isClosing (hclosing d tail hbehind') with rfl | rfl | rfl | rfl <;> rfl
              simp [hpeek, hfind, hbehind', hblank, hd]
    · simp [hc]
  have hnegative : (c = '-' && (m.cursor.peek 1).any isAsciiDigit) = false := by
    by_cases hc : c = '-'
    · have hpeek : m.cursor.peek 1 = (rest ++ behind).head? := by
        rw [Text.Cursor.peek, hrest, List.getElem?_cons_succ, List.head?_eq_getElem?]
      have hminus := hstarts.minus hc
      cases rest with
      | cons d rest => simpa [hpeek] using fun _ => hminus
      | nil =>
          cases hbehind' : behind with
          | nil => simp [hpeek, hbehind']
          | cons d tail =>
              have hdigit : isAsciiDigit d = false := by
                rcases eq_of_isClosing (hclosing d tail hbehind') with rfl | rfl | rfl | rfl <;> rfl
              simp [hpeek, hbehind', hdigit]
    · simp [hc]
  have hplan : m.plan .bracketOperand = .ok ⟨0, Reader.expressionThen .listEnd,
      .token (.opening (.list false)), m.scratch⟩ := by
    rw [plan_of_place hstarts.blank hm]
    simp only [Reader.planAt, Reader.bracketOperand, hwildcard, hnegative, hstarts.digit,
      hnot ']' (by decide), hnot '?' (by decide), hnot ':' (by decide)]
    rfl
  refine leads_between hm rfl (by decide) hplan (.openGroup _ _ fun hdeep => ?_) rfl hbuffer hparts
    rfl
  exact absurd hdepth (Nat.not_le_of_lt hdeep)

/-- A list. -/
theorem ends_list (p : Part registry) (ps : List (Part registry))
    (hstar : ps = [] → p.isStar = false)
    (hlimit : ¬ (∀ q ∈ p :: ps, q.LeavesRoom) → limit) {chars : List Char}
    (hchars : chars = '[' :: (p.chars ++ (Part.others ps ++ [']'])))
    (hm : m.place = .between ⟨registry, chars.length⟩ [.operand, .afterOperand, .finish] {} chars) :
    m.Ends (.ok (.list (Part.treesFrom 1 (p :: ps)))) ∨ m.EndsTooDeep limit := by
  have hlength : chars.length = 1 + p.length + (Part.others ps).length + [']'].length := by
    rw [hchars]
    simp [Part.length]
    omega
  rw [hlength, hchars] at hm
  generalize hsetting : Setting.mk registry _ = setting at hm
  obtain ⟨blanks, c, rest, hsplit, hblanks, hstarts⟩ := p.exists_first
  have hbracket : m.Leads limit (.between setting [.bracketOperand, .afterOperand, .finish] {}
      (p.chars ++ (Part.others ps ++ [']']))) :=
    leads_char hm rfl (by decide) (fun _ => rfl) (.inl rfl) rfl
  have hblank : m.Leads limit (.between setting [.bracketOperand, .afterOperand, .finish] {}
      (c :: (rest ++ (Part.others ps ++ [']'])))) := by
    refine hbracket.trans fun m' hm' => leads_blanks hm' rfl rfl hblanks ?_
    rw [hsplit]
    simp [Place.between]
  -- A star with nothing but blanks behind it is the whole of the part, so that it is not the last.
  have hopen : m.Leads limit (.between setting
      (.operand :: .afterOperand :: .listEnd :: [.afterOperand, .finish])
      ⟨[.opened (.list false)], [.barrier], 1⟩ (c :: (rest ++ (Part.others ps ++ [']'])))) := by
    refine hblank.trans fun m' hm' => leads_bracket hstarts ?_ (fun hc hall => ?_) (by decide) hm'
    · cases ps <;> rfl
    · cases ps with
      | cons q ps => simp [Part.others]
      | nil =>
          have hblanks' : ∀ b ∈ rest, isBlank b := List.all_eq_true.mp hall
          have hfilter : p.chars.filter (!isBlank ·) = ['*'] := by
            rw [hsplit, hc, List.filter_append, List.filter_cons_of_pos rfl,
              List.filter_eq_nil_iff.mpr (by simpa using hblanks),
              List.filter_eq_nil_iff.mpr (by simpa using hblanks')]
            rfl
          have hnot := hstar rfl
          rw [Part.isStar, hfilter] at hnot
          cases hnot
  obtain ⟨waiting, hreduce, hlead⟩ := leads_parts [.afterOperand, .finish]
    [.opened (.list false)] [] 1 [']'] (.inl rfl) rfl (Nat.le_refl 1) hlimit hsplit hblanks
    hsetting.symm
  refine (hopen.trans hlead).ends fun m' hm' => ?_
  exact ends_of_close _ rfl (fun _ => rfl) rfl hreduce (by simp) (close_list 1 hlimit) hm'

/-- A call. -/
theorem ends_call (name : Identifier) {function : Function} (p : Part registry)
    (ps : List (Part registry)) (hfind : registry.find? name.text = some function)
    (harity : ∀ n, function.arity = some n → (p :: ps).length = n)
    (hlimit : ¬ (∀ q ∈ p :: ps, q.LeavesRoom) → limit) {chars : List Char}
    (hchars : chars = name.chars ++ '(' :: (p.chars ++ (Part.others ps ++ [')'])))
    (hm : m.place = .between ⟨registry, chars.length⟩ [.operand, .afterOperand, .finish] {} chars) :
    m.Ends (.ok (.call function (Part.treesFrom (name.chars.length + 1) (p :: ps)))) ∨
      m.EndsTooDeep limit := by
  have hlength : chars.length =
      name.chars.length + 1 + p.length + (Part.others ps).length + [')'].length := by
    rw [hchars]
    simp [Part.length]
    omega
  rw [hlength, hchars] at hm
  generalize hsetting : Setting.mk registry _ = setting at hm
  obtain ⟨blanks, c, rest, hsplit, hblanks, hstarts⟩ := p.exists_first
  have hname : m.Leads limit (.inName setting [.identifierRead false, .afterOperand, .finish] {}
      ('(' :: (p.chars ++ (Part.others ps ++ [')']))) name.chars.reverse) :=
    leads_word false rfl hm
  have hcall : m.Leads limit (.between setting [.firstArgument, .afterOperand, .finish]
      ⟨[.opened (.call function false)], [.barrier], 1⟩
      (p.chars ++ (Part.others ps ++ [')']))) := by
    refine hname.trans fun m' hm' => ?_
    obtain ⟨hcurrent, -, hparts'⟩ := current_of_inName hm'
    have hfound : m'.registry.find? m'.scratch.text = some function := by
      have htext : m'.scratch.text = name.text := text_of_place hm' rfl
      have hregistry : m'.registry = setting.registry :=
        congrArg Setting.registry (congrArg Place.setting hm')
      rw [htext, hregistry, ← hsetting]
      exact hfind
    have hplan' : m'.plan (.identifierRead false) = .ok ⟨1, [.firstArgument],
        .token (.opening (.call function false)), m'.scratch.clearText⟩ := by
      have hblank : isBlank '(' = false := rfl
      simp only [Reader.plan, hcurrent, Option.any_some, hblank, Bool.and_false, Bool.false_eq_true,
        if_false, Reader.planAt, Reader.finishIdentifier, if_true, hfound]
      rfl
    exact leads_between hm' rfl (by decide) hplan' (.inl rfl) rfl rfl hparts' rfl
  have hblank : m.Leads limit (.between setting [.firstArgument, .afterOperand, .finish]
      ⟨[.opened (.call function false)], [.barrier], 1⟩
      (c :: (rest ++ (Part.others ps ++ [')'])))) := by
    refine hcall.trans fun m' hm' => leads_blanks hm' rfl rfl hblanks ?_
    rw [hsplit]
    simp [Place.between]
  have hopen : m.Leads limit (.between setting
      (.operand :: .afterOperand :: .argumentEnd :: [.afterOperand, .finish])
      ⟨[.opened (.call function false)], [.barrier], 1⟩
      (c :: (rest ++ (Part.others ps ++ [')'])))) := by
    refine hblank.trans fun m' hm' => ?_
    have hne : c ≠ ')' := by
      rintro rfl
      exact hstarts.closer List.mem_cons_self
    have hplan' : ∀ r : Reader, r.planAt (some c) .firstArgument =
        r.go 0 (Reader.expressionThen .argumentEnd) := by
      intro r
      simp only [Reader.planAt, Option.some.injEq, hne, if_false]
    exact leads_char hm' hstarts.blank (by decide) hplan' (.inl rfl) rfl
  obtain ⟨waiting, hreduce, hlead⟩ := leads_parts [.afterOperand, .finish]
    [.opened (.call function false)] [] (name.chars.length + 1) [')'] (.inr rfl) rfl (Nat.le_refl 1)
    hlimit hsplit hblanks hsetting.symm
  refine (hopen.trans hlead).ends fun m' hm' => ?_
  exact ends_of_close _ rfl (fun _ => rfl) rfl hreduce (by simp)
    (close_call (name.chars.length + 1) harity hlimit) hm'

end Expr.Machine

/-- **`parse_enclosure`** — a text around parts is read as the node over their trees, unless something
nests too deep, for which one of the parts has to use the last level. -/
theorem parse_enclosure (e : Enclosure registry) (h : e.Admissible) :
    parse e.text registry = .ok e.tree ∨
      ((∃ p ∈ e.parts, ¬ p.LeavesRoom) ∧
        ∃ position, parse e.text registry = .error ⟨.nestingTooDeep, position⟩) := by
  have hlimit : ¬ (∀ p ∈ e.parts, p.LeavesRoom) → ∃ p ∈ e.parts, ¬ p.LeavesRoom := by
    intro hall
    simpa only [not_forall, exists_prop] using hall
  have hplace : (Machine.start e.text registry).place = .between ⟨registry, e.text.toList.length⟩
      [.operand, .afterOperand, .finish] {} e.text.toList := Machine.place_start e.text registry
  simp only [parse_eq_iff]
  cases e with
  | paren part =>
      obtain ⟨hroom, -⟩ := limit_cons hlimit
      exact Machine.ends_paren part hroom (by simp [Enclosure.text, Part.chars]) hplace
  | list parts =>
      obtain ⟨hne, hstar⟩ := h
      cases parts with
      | nil => exact absurd rfl hne
      | cons p ps =>
          have hchars : (Enclosure.list (p :: ps)).text.toList =
              '[' :: (p.chars ++ (Part.others ps ++ [']'])) := by
            simp only [Enclosure.text, String.toList_append, Part.toList_join, List.append_assoc]
            rfl
          exact Machine.ends_list p ps (fun hps => hstar p (by rw [hps])) hlimit hchars hplace
  | hash entries =>
      cases entries with
      | nil => exact absurd rfl h
      | cons entry entries =>
          have hchars : (Enclosure.hash (entry :: entries)).text.toList =
              '\x7b' :: (entry.chars ++ (Entry.others entries ++ ['\x7d'])) := by
            simp only [Enclosure.text, String.toList_append, Entry.toList_join, List.append_assoc]
            rfl
          have hroom : ¬ (∀ e' ∈ entry :: entries, e'.part.LeavesRoom) → _ :=
            fun hnot => hlimit fun hall => hnot (List.forall_mem_map.mp hall)
          exact Machine.ends_hash entry entries hroom hchars hplace
  | call name function args =>
      obtain ⟨hne, hfind, harity⟩ := h
      cases args with
      | nil => exact absurd rfl hne
      | cons p ps =>
          have hchars : (Enclosure.call name function (p :: ps)).text.toList =
              name.chars ++ '(' :: (p.chars ++ (Part.others ps ++ [')'])) := by
            have hname : name.text.toList = name.chars := String.toList_ofList
            simp only [Enclosure.text, String.toList_append, Part.toList_join, List.append_assoc,
              hname]
            rfl
          exact Machine.ends_call name p ps hfind harity hlimit hchars hplace
  | filter part =>
      obtain ⟨hroom, -⟩ := limit_cons hlimit
      exact Machine.ends_filter part hroom (by simp [Enclosure.text, Part.chars]) hplace
  | reference part =>
      obtain ⟨hroom, -⟩ := limit_cons hlimit
      exact Machine.ends_reference part hroom (by simp [Enclosure.text, Part.chars]) hplace

/-- `[a|b,&c]`: neither the pipe nor the reference gets out of its place in the list. -/
theorem parse_enclosure_list :
    let e : Enclosure .builtins :=
      .list [⟨"a|b", .pipe (.field "a") (.field "b"), rfl⟩, ⟨"&c", .reference 0 (.field "c"), rfl⟩]
    e.Admissible ∧ (∀ p ∈ e.parts, p.LeavesRoom) ∧ parse e.text .builtins = .ok e.tree := by
  intro e
  have hadmissible : e.Admissible := by
    refine ⟨List.cons_ne_nil _ _, fun part hpart => ?_⟩
    cases (List.cons.inj hpart).2
  have hroom : ∀ p ∈ e.parts, p.LeavesRoom := by
    unfold e
    decide
  refine ⟨hadmissible, hroom, (parse_enclosure e hadmissible).resolve_right ?_⟩
  rintro ⟨⟨p, hp, hnot⟩, -⟩
  exact hnot (hroom p hp)

example : parse "[a|b,&c]" .builtins =
    .ok (.list [.pipe (.field "a") (.field "b"), .reference 5 (.field "c")]) := by rfl

end JsonQuery
