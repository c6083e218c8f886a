/-
# JsonQuery.Proofs.Expr.LiteralText — every document can be written as a literal.

Between backticks a backslash takes part in the notation only where a backtick follows; anywhere else
it belongs to the document.  So it is enough to put one in front of every backtick of the document:
what stands before it, another backslash included, is read as it is.  Only a backslash at the very end
would escape the closing backtick, and no document ends with one.
-/
import JsonQuery.Proofs.Expr.Place
import JsonQuery.Proofs.Json.DocumentEnd
import JsonQuery.Query

namespace JsonQuery

open JsonQuery.Expr

/-! ## Writing literals -/

/-- A text with a backslash in front of every backtick. -/
def escapeBackticks (text : List Char) : List Char :=
  text.flatMap fun c => if c = '\x60' then ['\\', '\x60'] else [c]

/-- The literal of a document, given as text. -/
def literalOf (document : String) : String :=
  String.ofList ('\x60' :: (escapeBackticks document.toList ++ ['\x60']))

theorem escapeBackticks_backtick (text : List Char) :
    escapeBackticks ('\x60' :: text) = '\\' :: '\x60' :: escapeBackticks text := rfl

theorem escapeBackticks_cons {c : Char} (hc : c ≠ '\x60') (text : List Char) :
    escapeBackticks (c :: text) = c :: escapeBackticks text := by
  rw [escapeBackticks, List.flatMap_cons, if_neg hc]
  rfl

/-- Before the closing backtick a text without backticks of its own starts like itself or with a
backslash. -/
theorem head_escapeBackticks {text : List Char} (htext : text ≠ []) (rest : List Char) :
    (escapeBackticks text ++ rest).head? ≠ some '\x60' := by
  cases text with
  | nil => exact absurd rfl htext
  | cons c text =>
      by_cases hc : c = '\x60'
      · subst hc
        rw [escapeBackticks_backtick]
        simp
      · rw [escapeBackticks_cons hc]
        exact fun h => hc (Option.some.inj h)

/-! ## Reading literals -/

namespace Expr.Machine

variable {limit : Prop} {m : Machine} {setting : Setting} {waiting : Stacks} {below : List State}
  {text rest buffer : List Char} {c : Char}

theorem leads_literalStart
    (hm : m.place = .between setting (.operand :: below) waiting ('\x60' :: rest)) :
    m.Leads limit (.inName setting (.jsonText :: .jsonRead :: below) waiting rest []) := by
  have hplan : m.plan .operand = .ok ⟨1, [.jsonText, .jsonRead], .nothing,
      { m.scratch with literalStart := m.cursor.position }⟩ := by
    rw [plan_of_place rfl hm]
    rfl
  obtain ⟨hbuffer, hparts⟩ := scratch_between hm
  exact leads_reading hm rfl (by decide) hplan (.inl rfl) rfl hbuffer hparts rfl

theorem plan_jsonText (hcurrent : m.cursor.current = some c) :
    m.plan .jsonText = m.literalText (some c) := by
  simp only [Reader.plan, State.skipsBlanks, Bool.false_and, Bool.false_eq_true, if_false,
    Reader.planAt, hcurrent]

/-- A backtick of the document, which a backslash announces. -/
theorem leads_backtick
    (hm : m.place = .inName setting (.jsonText :: below) waiting ('\\' :: '\x60' :: rest) buffer) :
    m.Leads limit (.inName setting (.jsonText :: below) waiting rest ('\x60' :: buffer)) := by
  have hcurrent : m.cursor.current = some '\\' := current_of_place hm
  have hrest : m.cursor.rest = '\\' :: '\x60' :: rest := congrArg Place.rest hm
  have hplan : m.plan .jsonText = .ok ⟨2, [.jsonText], .nothing, m.scratch.keep '\x60'⟩ := by
    rw [plan_jsonText hcurrent, Reader.literalText, Text.Cursor.peek, hrest]
    rfl
  have hbuffer : m.scratch.buffer = buffer := congrArg Place.buffer hm
  have hparts : m.scratch.parts = {} := congrArg Place.parts hm
  exact leads_reading hm rfl (by decide) hplan (.inl rfl) rfl (congrArg ('\x60' :: ·) hbuffer) hparts
    rfl

/-- Any other character of the document: a backslash too, where no backtick follows. -/
theorem leads_documentChar (hc : c ≠ '\x60') (hnext : c = '\\' → rest.head? ≠ some '\x60')
    (hm : m.place = .inName setting (.jsonText :: below) waiting (c :: rest) buffer) :
    m.Leads limit (.inName setting (.jsonText :: below) waiting rest (c :: buffer)) := by
  have hcurrent : m.cursor.current = some c := current_of_place hm
  have hrest : m.cursor.rest = c :: rest := congrArg Place.rest hm
  have hpeek : m.cursor.peek 1 = rest.head? := by
    rw [Text.Cursor.peek, hrest, List.head?_eq_getElem?]
    rfl
  have hescape : (decide (c = '\\') && m.cursor.peek 1 == some '\x60') = false := by
    rw [Bool.and_eq_false_iff, hpeek, decide_eq_false_iff_not, beq_eq_false_iff_ne]
    by_cases hbackslash : c = '\\'
    · exact .inr (hnext hbackslash)
    · exact .inl hbackslash
  have hplan : m.plan .jsonText = .ok ⟨1, [.jsonText], .nothing, m.scratch.keep c⟩ := by
    rw [plan_jsonText hcurrent, Reader.literalText]
    simp only [if_neg hc, hescape]
    rfl
  have hbuffer : m.scratch.buffer = buffer := congrArg Place.buffer hm
  have hparts : m.scratch.parts = {} := congrArg Place.parts hm
  exact leads_reading hm rfl (by decide) hplan (.inl rfl) rfl (congrArg (c :: ·) hbuffer) hparts rfl

/-- **`leads_document`** — a document is read as it is, up to the closing backtick. -/
theorem leads_document (hlast : text.getLast? ≠ some '\\')
    (hm : m.place = .inName setting (.jsonText :: below) waiting
      (escapeBackticks text ++ '\x60' :: rest) buffer) :
    m.Leads limit (.inName setting (.jsonText :: below) waiting ('\x60' :: rest)
      (text.reverse ++ buffer)) := by
  induction text generalizing m buffer with
  | nil => exact .refl hm
  | cons c text ih =>
      have hlast' : text.getLast? ≠ some '\\' := by
        cases text with
        | nil => simp
        | cons d text => rwa [List.getLast?_cons_cons] at hlast
      have hread : m.Leads limit (.inName setting (.jsonText :: below) waiting
          (escapeBackticks text ++ '\x60' :: rest) (c :: buffer)) := by
        by_cases hc : c = '\x60'
        · subst hc
          exact leads_backtick hm
        · rw [escapeBackticks_cons hc, List.cons_append] at hm
          refine leads_documentChar hc (fun hbackslash => head_escapeBackticks ?_ _) hm
          rintro rfl
          exact hlast (congrArg some hbackslash)
      rw [List.reverse_cons, List.append_assoc]
      exact hread.trans fun m' hm' => ih hlast' hm'

/-- The end of a literal whose text is a document. -/
theorem leads_literalEnd {json : Json} (hjson : Json.ofChars? text = some json)
    (hbelow : below.head?.any State.isEscape = false)
    (hm : m.place = .inName setting (.jsonText :: .jsonRead :: below) waiting ('\x60' :: rest)
      text.reverse) :
    m.Leads limit (.between setting below (waiting.pushOperand (.literal json) false 1) rest) := by
  have hplan : m.plan .jsonText = .ok ⟨1, [], .nothing, m.scratch⟩ :=
    plan_jsonText (current_of_place hm)
  have hclose : m.Leads limit (.inName setting (.jsonRead :: below) waiting rest text.reverse) :=
    leads_reading hm rfl (by decide) hplan (.inl rfl) rfl (congrArg Place.buffer hm)
      (congrArg Place.parts hm) rfl
  refine hclose.trans fun m' hm' => ?_
  have hplan' : m'.plan .jsonRead =
      .ok ⟨0, [], .token (.literal json), m'.scratch.clearText⟩ := by
    have hbuffer : m'.scratch.buffer = text.reverse := congrArg Place.buffer hm'
    have hread : Json.parse? m'.scratch.text = some json := by
      rw [Scratch.text, hbuffer, List.reverse_reverse, Json.parse?, String.toList_ofList, hjson]
    have hplanAt : m'.plan .jsonRead = m'.finishLiteral := by
      simp only [Reader.plan, State.skipsBlanks, Bool.false_and, Bool.false_eq_true, if_false,
        Reader.planAt]
    rw [hplanAt, Reader.finishLiteral, hread]
    rfl
  exact leads_between hm' rfl (by decide) hplan' (.inl rfl) rfl rfl (congrArg Place.parts hm') hbelow

end Expr.Machine

open Machine in
/-- **`compile_literalOf`** — the literal of a document is read as the document. -/
theorem compile_literalOf {document : String} {json : Json} (h : Json.parse? document = some json)
    (registry : Registry) :
    Query.compile (literalOf document) registry = .ok ⟨literalOf document, .literal json⟩ := by
  let text := '\x60' :: (escapeBackticks document.toList ++ ['\x60'])
  have hstart : (start (literalOf document) registry).place =
      .between ⟨registry, text.length⟩ [.operand, .afterOperand, .finish] {} text := by
    rw [place_start, literalOf, String.toList_ofList]
  have hopen := (leads_literalStart hstart : Leads False _ _)
  have hread := hopen.trans fun m' hm' => leads_document (Json.getLast?_of_ofChars? h) hm'
  rw [List.append_nil] at hread
  have hend := hread.trans fun m' hm' => leads_literalEnd h rfl hm'
  have hparse : Expr.parse (literalOf document) registry = .ok (.literal json) := parse_of_leads hend
  rw [Query.compile, hparse]
  rfl

/-- The string of a backslash, two backticks and two backslashes, whose document has two and four
backslashes in a row. -/
theorem compile_literalOf_backslashes :
    let document := "\"\\\\\x60\x60\\\\\\\\\""
    literalOf document = "\x60\"\\\\\\\x60\\\x60\\\\\\\\\"\x60" ∧
      Json.parse? document = some (.string "\\\x60\x60\\\\") ∧
      Query.compile (literalOf document) .builtins =
        .ok ⟨literalOf document, .literal (.string "\\\x60\x60\\\\")⟩ := by
  intro document
  have hchars : document.toList = ['"', '\\', '\\', '\x60', '\x60', '\\', '\\', '\\', '\\', '"'] := by
    decide +kernel
  have hparse : Json.parse? document = some (.string "\\\x60\x60\\\\") := by
    rw [Json.parse?, hchars]
    rfl
  exact ⟨by decide +kernel, hparse, compile_literalOf hparse .builtins⟩

end JsonQuery
