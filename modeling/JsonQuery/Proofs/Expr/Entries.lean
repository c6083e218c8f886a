/-
# JsonQuery.Proofs.Expr.Entries — the entries of an object, one after another.

A key is a plain identifier, or any name in quotes, in which a quote and a backslash have a backslash
in front.  The parser puts the key on its stack of items and reads the part behind the colon on top.
-/
import JsonQuery.Proofs.Expr.Parts
import JsonQuery.Proofs.Expr.QuotedText

namespace JsonQuery

open JsonQuery.Expr
open Text (isBlank)

variable {registry : Registry} {limit : Prop}

/-! ## Keys -/

/-- A key of an object as it is written. -/
inductive Key where
  | plain (name : Identifier)
  | quoted (name : String)

namespace Key

/-- The name that a key stands for. -/
def name : Key → String
  | .plain name => name.text
  | .quoted name => name

/-- A character in quotes. -/
def quoteChar (c : Char) : List Char := if c = '"' || c = '\\' then ['\\', c] else [c]

theorem quotedText_quoteChars (cs : List Char) : QuotedText (cs.flatMap quoteChar) cs := by
  induction cs with
  | nil => exact .nil
  | cons c cs ih =>
      -- A quote and a backslash are written as escapes, everything else as it is.
      by_cases hspecial : c = '"' || c = '\\'
      · have hescape : Json.simpleEscape? c = some c := by
          rcases Bool.or_eq_true_iff.mp hspecial with hc | hc <;> rw [of_decide_eq_true hc] <;> rfl
        rw [List.flatMap_cons, quoteChar, if_pos hspecial]
        exact .escape hescape ih
      · rw [List.flatMap_cons, quoteChar, if_neg hspecial]
        simp only [Bool.or_eq_true, decide_eq_true_eq, not_or] at hspecial
        exact .plain hspecial.1 hspecial.2 ih

/-- The characters of a key. -/
def chars : Key → List Char
  | .plain name => name.chars
  | .quoted name => '"' :: name.toList.flatMap quoteChar ++ ['"']

/-- The text of a key. -/
def text (key : Key) : String := String.ofList key.chars

/-- The number of characters of a key. -/
def length (key : Key) : Nat := key.chars.length

end Key

namespace Expr.Machine

variable {m : Machine} {setting : Setting} {waiting : Stacks} {below : List State}
  {rest buffer : List Char} {s : State}

/-- The stacks with a key on top. -/
theorem leads_colon {name : List Char}
    (hm : m.place = .inName setting (.hashKeyRead :: below) waiting (':' :: rest) name.reverse) :
    m.Leads limit (.between setting (.operand :: .afterOperand :: .hashValueEnd :: below)
      { waiting with items := .key (String.ofList name) :: waiting.items } rest) := by
  obtain ⟨-, -, hparts⟩ := current_of_inName hm
  have htext : m.scratch.text = String.ofList name := text_of_place hm rfl
  have hplan : m.plan .hashKeyRead =
      .ok ⟨0, [.hashColon], .token (.key (String.ofList name)), m.scratch.clearText⟩ := by
    rw [← htext]
    rfl
  refine (leads_between hm rfl (by decide) hplan (.inl rfl) rfl rfl hparts rfl).trans
    fun m' hm' => ?_
  obtain ⟨hbuffer', hparts'⟩ := scratch_between hm'
  exact leads_between hm' rfl (by decide) (plan_of_place rfl hm') (.inl rfl) rfl hbuffer' hparts' rfl

/-- **`leads_key`** — a key and its colon. -/
theorem leads_key (key : Key)
    (hm : m.place = .between setting (.hashKey :: below) waiting (key.chars ++ ':' :: rest)) :
    m.Leads limit (.between setting (.operand :: .afterOperand :: .hashValueEnd :: below)
      { waiting with items := .key key.name :: waiting.items } rest) := by
  obtain ⟨hbuffer, hparts⟩ := scratch_between hm
  cases key with
  | plain name =>
      have hplan : m.plan .hashKey = .ok ⟨0, [.identifier, .hashKeyRead], .nothing, m.scratch⟩ := by
        have hblank := Text.isBlank_of_isIdentifierStart name.starts
        have hquote : name.first ≠ '"' := by
          intro h
          have hstarts := name.starts
          rw [h] at hstarts
          cases hstarts
        rw [plan_of_place hblank hm]
        simp only [Reader.planAt, Reader.hashKey, hquote, name.starts, if_true, if_false]
        rfl
      refine (leads_between hm rfl (by decide) hplan (.inl rfl) rfl hbuffer hparts rfl).trans
        fun m' hm' => ?_
      exact (leads_identifier rfl rfl hm').trans fun m'' hm'' => leads_colon hm''
  | quoted name =>
      have hplan : m.plan .hashKey = .ok ⟨1, [.quoted, .hashKeyRead], .nothing, m.scratch⟩ :=
        plan_of_place rfl hm
      have hopen : m.Leads limit (.between setting (.quoted :: .hashKeyRead :: below) waiting
          (name.toList.flatMap Key.quoteChar ++ '"' :: ':' :: rest)) := by
        refine leads_between hm rfl (by decide) hplan (.inl rfl) ?_ hbuffer hparts rfl
        simp [Place.between, Key.chars]
      have hread := hopen.trans fun m' hm' =>
        leads_quotedName (Key.quotedText_quoteChars name.toList) rfl hm'
      refine hread.trans fun m' hm' => ?_
      have hname : String.ofList name.toList = name := String.ofList_toList
      have hlead : m'.Leads limit _ := leads_colon hm'
      rw [hname] at hlead
      exact hlead

end Expr.Machine

/-! ## Entries -/

/-- A key and the part behind it. -/
structure Entry (registry : Registry) where
  key : Key
  part : Part registry

namespace Entry

/-- The characters of an entry. -/
def chars (e : Entry registry) : List Char := e.key.chars ++ ':' :: e.part.chars

/-- What follows the first of several entries. -/
def others : List (Entry registry) → List Char
  | [] => []
  | e :: es => ',' :: e.chars ++ others es

/-- The keys and trees of entries, of which the first starts behind `n` characters. -/
def treesFrom (n : Nat) : List (Entry registry) → List (String × Expr)
  | [] => []
  | e :: es =>
    (e.key.name, e.part.tree.shift (n + e.key.length + 1)) :: treesFrom (n + e.chars.length + 1) es

/-- The keys and operands of entries. -/
noncomputable def operandsFrom (n : Nat) : List (Entry registry) → List (String × Operand)
  | [] => []
  | e :: es =>
    (e.key.name, e.part.operand.shift (n + e.key.length + 1)) ::
      operandsFrom (n + e.chars.length + 1) es

/-- Keys and operands as they stand on the stack, the first one lowest. -/
def items (entries : List (String × Operand)) : List Item :=
  entries.flatMap fun entry => [.key entry.1, .operand entry.2]

theorem operandsFrom_expr (n : Nat) (es : List (Entry registry)) :
    (operandsFrom n es).map (fun entry => (entry.1, entry.2.expr)) = treesFrom n es := by
  induction es generalizing n with
  | nil => rfl
  | cons e es ih => simp [operandsFrom, treesFrom, Operand.shift, ih]

theorem height_of_operandsFrom {n : Nat} {es : List (Entry registry)}
    (hroom : ∀ e ∈ es, e.part.LeavesRoom) :
    ∀ o ∈ (operandsFrom n es).map (·.2), o.height < maxNesting := by
  induction es generalizing n with
  | nil => exact List.forall_mem_nil _
  | cons e es ih =>
      obtain ⟨he, hes⟩ := List.forall_mem_cons.mp hroom
      have hheight : (e.part.operand.shift (n + e.key.length + 1)).height < maxNesting :=
        he.height e.part.operand e.part.yields_operand
      exact List.forall_mem_cons.mpr ⟨hheight, ih hes⟩

theorem asEntries_items (entries : List (String × Operand)) :
    asEntries (items entries) = .ok entries := by
  induction entries with
  | nil => rfl
  | cons entry entries ih =>
      exact bind_eq_ok.mpr ⟨entry.2, rfl, bind_eq_ok.mpr ⟨entries, ih, rfl⟩⟩

theorem opened_notMem_items (entries : List (String × Operand)) (g : Group) :
    .opened g ∉ items entries := by
  simp [items]

end Entry

namespace Expr.Machine

/-- An entry of an open object. -/
theorem leads_entry {setting : Setting} {e : Entry registry} {depth : Nat} (below : List State)
    (items : List Item) (pending : List Pending) (n : Nat) (tail : List Char)
    (htail : tail.head?.all isClosing) (hdepth : depth ≤ 1) (hlimit : ¬ e.part.LeavesRoom → limit)
    (hsetting : setting = ⟨registry, n + e.chars.length + tail.length⟩) :
    ∃ waiting : Stacks,
      waiting.reduceToBarrier =
        .ok ⟨.operand (e.part.operand.shift (n + e.key.length + 1)) :: .key e.key.name :: items,
          .barrier :: pending, depth⟩ ∧
      ∀ whole : Machine,
        whole.place = .between setting (.hashKey :: below) ⟨items, .barrier :: pending, depth⟩
          (e.chars ++ tail) →
        whole.Leads limit (.between setting (.hashValueEnd :: below) waiting tail) := by
  have hsetting' : setting = ⟨registry, n + e.key.length + 1 + e.part.length + tail.length⟩ := by
    rw [hsetting]
    simp [Entry.chars, Key.length, Part.length]
    omega
  obtain ⟨waiting, hreduce, hlead⟩ := leads_part .hashValueEnd below (.key e.key.name :: items)
    pending _ tail rfl htail hdepth hlimit (List.nil_append e.part.chars).symm (List.forall_mem_nil _)
    hsetting'
  refine ⟨waiting, hreduce, fun whole hwhole => ?_⟩
  have hwhole' : whole.place = .between setting (.hashKey :: below)
      ⟨items, .barrier :: pending, depth⟩ (e.key.chars ++ ':' :: (e.part.chars ++ tail)) := by
    rw [hwhole]
    simp [Entry.chars]
  exact (leads_key e.key hwhole').trans hlead

/-- **`leads_entries`** — the entries of an object are read one after another. -/
theorem leads_entries {setting : Setting} {e : Entry registry} {es : List (Entry registry)}
    {depth : Nat} (below : List State) (items : List Item) (pending : List Pending) (n : Nat)
    (tail : List Char) (htail : tail.head?.all isClosing) (hdepth : depth ≤ 1)
    (hlimit : ¬ (∀ e' ∈ e :: es, e'.part.LeavesRoom) → limit)
    (hsetting : setting = ⟨registry, n + e.chars.length + (Entry.others es).length + tail.length⟩) :
    ∃ waiting : Stacks,
      waiting.reduceToBarrier =
        .ok ⟨(Entry.items (Entry.operandsFrom n (e :: es))).reverse ++ items, .barrier :: pending,
          depth⟩ ∧
      ∀ whole : Machine,
        whole.place = .between setting (.hashKey :: below) ⟨items, .barrier :: pending, depth⟩
          (e.chars ++ (Entry.others es ++ tail)) →
        whole.Leads limit (.between setting (.hashValueEnd :: below) waiting tail) := by
  induction es generalizing e n items with
  | nil =>
      obtain ⟨hfirst, -⟩ := limit_cons hlimit
      obtain ⟨waiting, hreduce, hlead⟩ :=
        leads_entry below items pending n tail htail hdepth hfirst hsetting
      exact ⟨waiting, hreduce, hlead⟩
  | cons e' es ih =>
      obtain ⟨hfirst, hothers⟩ := limit_cons hlimit
      have hsetting' : setting = ⟨registry, n + e.chars.length +
          (',' :: (e'.chars ++ (Entry.others es ++ tail))).length⟩ := by
        rw [hsetting]
        simp [Entry.others]
        omega
      have hsetting'' : setting = ⟨registry, n + e.chars.length + 1 + e'.chars.length +
          (Entry.others es).length + tail.length⟩ := by
        rw [hsetting]
        simp [Entry.others]
        omega
      obtain ⟨waiting, hreduce, hlead⟩ :=
        leads_entry below items pending n _ rfl hdepth hfirst hsetting'
      obtain ⟨waiting', hreduce', hlead'⟩ := ih
        (.operand (e.part.operand.shift (n + e.key.length + 1)) :: .key e.key.name :: items) _ hothers
        hsetting''
      refine ⟨waiting', ?_, fun whole hwhole => ?_⟩
      · rw [hreduce']
        simp [Entry.operandsFrom, Entry.items]
      · have hcomma : whole.Leads limit (.between setting (.hashValueEnd :: below) waiting
            (',' :: (e'.chars ++ (Entry.others es ++ tail)))) := by
          refine hlead whole ?_
          rw [hwhole]
          simp [Entry.others]
        refine (hcomma.trans fun m hm => ?_).trans hlead'
        exact leads_separator .hashKey [] (by decide) rfl (fun _ => rfl) hreduce hm

end Expr.Machine

end JsonQuery
