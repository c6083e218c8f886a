/-
# JsonQuery.Proofs.Evaluation.Naming — the names that results repeat.

Documents and literals repeat no name, and merging writes every name once.  Only an object that is
written out in an expression may repeat a name, and its values keep all entries: a look-up finds the
first, the size counts each of them, and the document of the value has one member.  Everything else that
an evaluation finds reads like its document, at every level.
-/
import JsonQuery.Proofs.Evaluation.Keeping
import JsonQuery.Proofs.Value.Reading

namespace JsonQuery

/-- **`e.Names N`** — a node that is an object has names with the property `N`, and a literal repeats
none. -/
def Expr.Names (N : List String → Prop) : Expr → Prop
  | .literal json => json.hasUniqueNames = true
  | .hash written => N (Entries.names written)
  | _ => True

/-- **`v.Names N`** — the names of every object in `v` that repeats one have the property `N`, those of
objects in references included. -/
inductive Value.Names (N : List String → Prop) : Value → Prop where
  | null : Names N .null
  | bool (b : Bool) : Names N (.bool b)
  | number (n : Number) : Names N (.number n)
  | string (s : String) : Names N (.string s)
  | array {items : List Value} : (∀ v ∈ items, Names N v) → Names N (.array items)
  | object {entries : List (String × Value)} :
      (Entries.names entries).Nodup ∨ N (Entries.names entries) →
      (∀ entry ∈ entries, Names N entry.2) → Names N (.object entries)
  | reference {id : Nat} {body : Expr} : body.Everywhere (Expr.Names N) →
      Names N (.reference id body)

namespace Value

variable {N : List String → Prop}

theorem hereditary_names : Hereditary (Names N) where
  null := .null
  bool := .bool
  number := .number
  string := .string
  array := ⟨fun h => by cases h; assumption, .array⟩
  values h := by
    cases h
    assumption
  object hnames := .object (.inl hnames)

mutual

/-- A document that repeats no name brings none in. -/
theorem names_ofJson (json : Json) (h : json.hasUniqueNames = true) : (ofJson json).Names N := by
  cases json with
  | null => exact .null
  | bool b => exact .bool b
  | number n => exact .number _
  | string s => exact .string s
  | array items =>
      rw [ofJson]
      exact .array (names_ofItems items (Json.hasUniqueNames_array.mp h))
  | object members =>
      obtain ⟨hnames, hmembers⟩ := Json.hasUniqueNames_object.mp h
      rw [ofJson]
      refine .object (.inl ?_) (names_ofMembers_of_unique members hmembers)
      rwa [names_ofMembers]

theorem names_ofItems (items : List Json) (h : ∀ item ∈ items, item.hasUniqueNames = true) :
    ∀ v ∈ ofItems items, v.Names N := by
  cases items with
  | nil => exact List.forall_mem_nil _
  | cons item rest =>
      obtain ⟨hitem, hrest⟩ := List.forall_mem_cons.mp h
      exact List.forall_mem_cons.mpr ⟨names_ofJson item hitem, names_ofItems rest hrest⟩

theorem names_ofMembers_of_unique (members : List (String × Json))
    (h : ∀ entry ∈ members, entry.2.hasUniqueNames = true) :
    ∀ entry ∈ ofMembers members, entry.2.Names N := by
  match members with
  | [] => exact List.forall_mem_nil _
  | (name, value) :: rest =>
      obtain ⟨hvalue, hrest⟩ := List.forall_mem_cons.mp h
      exact List.forall_mem_cons.mpr
        ⟨names_ofJson value hvalue, names_ofMembers_of_unique rest hrest⟩

end

theorem keeps_names : Keeps (Expr.Names N) (Value.Names N) where
  toHereditary := hereditary_names
  literal h := names_ofJson _ h
  hash hwritten hnames := .object (.inr (hnames ▸ hwritten))
  reference := ⟨fun h => by cases h; assumption, .reference⟩

/-- What stands in an object is one object of its own. -/
theorem Names.entries {v : Value} (h : v.Names N) : v.entries.names.Nodup ∨ N v.entries.names := by
  cases h with
  | object hnames _ => exact hnames
  | null | bool | number | string | array | reference => exact .inl List.nodup_nil

end Value

namespace Query

/-- The objects that a compiled query writes out are the only ones that may repeat a name. -/
theorem everywhere_names_of_compile {source : String} {registry : Registry} {q : Query}
    (h : compile source registry = .ok q) :
    q.expr.Everywhere (Expr.Names fun names =>
      ∃ written, (Expr.hash written).Occurs q.expr ∧ names = Entries.names written) := by
  obtain ⟨e, hparse, hq⟩ := Expr.bind_eq_ok.mp h
  cases hq
  have hunique := Expr.uniqueLiteral_of_parse hparse
  intro node hnode
  cases node with
  | literal json => exact hunique _ hnode
  | hash written => exact ⟨written, hnode, rfl⟩
  | _ => trivial

/-- **`reading_of_evaluate`** — every value that stands in what a query finds reads like its document:
the same names are missing, and a name that is not repeated stands for the same.  It has as many entries
as there are members exactly if it repeats no name, and if it does, it has the names of an object that
is written out in the query. -/
theorem reading_of_evaluate {source : String} {registry : Registry} {q : Query} {document : Json}
    {options : Options} {v : Value} {progress : Progress} (hcompile : compile source registry = .ok q)
    (hdocument : document.hasUniqueNames = true)
    (hrun : q.evaluate document options = .ok (some v, progress)) :
    ∀ w : Value, w.Within v →
      (∀ name, w.get? name = none ↔ w.toJson.get? name = none) ∧
      (∀ name, w.entries.names.count name ≤ 1 →
        (w.get? name).map Value.toJson = w.toJson.get? name) ∧
      (∀ entries : Entries Value, w = .object entries →
        (w.size = w.toJson.members.length ↔ entries.names.Nodup)) ∧
      (w.entries.names.Nodup ∨ ∃ written, (Expr.hash written).Occurs q.expr ∧
        w.entries.names = Entries.names written) := by
  intro w hw
  have hv := Value.keeps_names.of_evaluate (everywhere_names_of_compile hcompile)
    (Value.names_ofJson document hdocument) hrun
  have hnames := (Value.hereditary_names.within hw hv).entries
  refine ⟨w.get?_eq_none_iff, fun name => w.map_toJson_get?, ?_, hnames⟩
  rintro entries rfl
  exact (Value.object entries).length_entries_iff

/-- Of two objects in a list the first is merged and repeats no name, the second one is written out and
repeats one. -/
theorem reading_of_evaluate_list :
    let document : Json := .object [("a", .bool true), ("b", .null)]
    let merged : Value := .object [("a", .null), ("b", .null)]
    let written : Value := .object [("b", .bool true), ("c", .null), ("b", .null)]
    ∃ q progress,
      compile "[merge(@, \x7ba: b\x7d), \x7bb: a, c: b, b: b\x7d]" = .ok q ∧
      document.hasUniqueNames = true ∧
      q.evaluate document {} = .ok (some (.array [merged, written]), progress) ∧
      (∀ name, merged.get? name = none ↔ merged.toJson.get? name = none) ∧
      (written.get? "c").map Value.toJson = written.toJson.get? "c" ∧
      written.size ≠ written.toJson.members.length := by
  intro document merged written
  have hdocument : document.hasUniqueNames = true := by decide
  obtain ⟨q, hcompile, hrun⟩ : ∃ q,
      compile "[merge(@, \x7ba: b\x7d), \x7bb: a, c: b, b: b\x7d]" = .ok q ∧
      q.evaluate document {} = .ok (some (.array [merged, written]), ⟨9, []⟩) :=
    ⟨⟨_, .list [.call (.ofBuiltin .merge) [.current, .hash [("a", .field "b")]],
      .hash [("b", .field "a"), ("c", .field "b"), ("b", .field "b")]]⟩, rfl, rfl⟩
  obtain ⟨hmissing, -⟩ := reading_of_evaluate hcompile hdocument hrun merged
    (.item List.mem_cons_self .self)
  obtain ⟨-, hfound, hsize, -⟩ := reading_of_evaluate hcompile hdocument hrun written
    (.item (List.mem_cons_of_mem _ List.mem_cons_self) .self)
  have hrepeats : ¬ (Entries.names [("b", Value.bool true), ("c", .null), ("b", .null)]).Nodup := by
    decide
  exact ⟨q, ⟨9, []⟩, hcompile, hdocument, hrun, hmissing, hfound "c" (by decide),
    (hsize _ rfl).not.mpr hrepeats⟩

/-- **`readings_differ`** — a query that writes a name twice finds an object that does not read like its
document: neither is the same found under that name, nor are there as many members as entries. -/
theorem readings_differ :
    ∃ q v progress, compile "\x7ba: 'x', a: 'y'\x7d" = .ok q ∧
      q.evaluate (.object []) {} = .ok (some v, progress) ∧
      (v.get? "a").map Value.toJson ≠ v.toJson.get? "a" ∧ v.size ≠ v.toJson.members.length := by
  let v : Value := .object [("a", .string "x"), ("a", .string "y")]
  have hfound : (v.get? "a").map Value.toJson = some (.string "x") := by
    simp [v, Value.get?, Value.entries?, Entries.get?, Value.toJson]
  have hmember : v.toJson.get? "a" = some (.string "y") := by
    simp [v, Value.toJson, Value.entriesToJson, Value.collapse, Entries.put, Json.get?,
      Json.members, Entries.get?]
  refine ⟨⟨"\x7ba: 'x', a: 'y'\x7d", .hash [("a", .literal (.string "x")),
    ("a", .literal (.string "y"))]⟩, v, ⟨3, []⟩, rfl, rfl, ?_, by decide⟩
  rw [hfound, hmember]
  simp

end Query

end JsonQuery
