/-
# JsonQuery.Proofs.Json.Pointer — one step further down a pointer.

Pointers are put together from the front: a place in a document is the place above it and one more
segment.  Reading a pointer splits it at slashes, resolves the escapes and walks down.  The two
agree because an escaped segment holds no slash and its escapes are undone, and because the digits
of an index are read back as that index.
-/
import JsonQuery.Json.Pointer
import JsonQuery.Proofs.Json.Entries

namespace JsonQuery.Json

/-! ## Segments -/

theorem slash_notMem_escapeSegment (name : List Char) : '/' ∉ escapeSegment name := by
  intro h
  obtain ⟨c, -, hc⟩ := List.mem_flatMap.mp h
  split at hc
  · simp at hc
  · split at hc
    · simp at hc
    · next hslash => exact hslash (List.mem_singleton.mp hc).symm

theorem unescapeSegment_escapeSegment (name : List Char) :
    unescapeSegment (escapeSegment name) = name := by
  induction name with
  | nil => rfl
  | cons c rest ih =>
      have hcons : escapeSegment (c :: rest)
          = (if c = '~' then ['~', '0'] else if c = '/' then ['~', '1'] else [c])
            ++ escapeSegment rest := rfl
      rw [hcons]
      by_cases htilde : c = '~'
      · rw [if_pos htilde, htilde]
        simp [unescapeSegment, ih]
      · rw [if_neg htilde]
        by_cases hslash : c = '/'
        · rw [if_pos hslash, hslash]
          simp [unescapeSegment, ih]
        · rw [if_neg hslash, List.singleton_append]
          simp [unescapeSegment, htilde, ih]

/-- The segments of a pointer and of the same pointer one segment further down. -/
theorem pointerSegments?_append (pointer name : List Char) :
    pointerSegments? (pointer ++ '/' :: escapeSegment name)
      = (pointerSegments? pointer).map (· ++ [name]) := by
  have hsingle : (escapeSegment name).splitOn '/' = [escapeSegment name] :=
    List.splitOn_eq_singleton (slash_notMem_escapeSegment name)
  cases pointer with
  | nil =>
      simp only [List.nil_append, pointerSegments?, hsingle, List.map_cons, List.map_nil,
        unescapeSegment_escapeSegment, Option.map_some]
  | cons c rest =>
      by_cases hslash : c = '/'
      · subst hslash
        simp only [List.cons_append, pointerSegments?, List.splitOn_append_cons_self, hsingle,
          List.map_append, List.map_cons, List.map_nil, unescapeSegment_escapeSegment,
          Option.map_some]
      · have hnone : ∀ tail : List Char, pointerSegments? (c :: tail) = none := by
          intro tail
          unfold pointerSegments?
          split
          next heq => cases heq
          next heq => exact absurd (List.cons.inj heq).1 hslash
          next => rfl
        rw [List.cons_append, hnone, hnone]
        rfl

/-! ## Walking down -/

/-- The part of a document that segments lead to, one after another. -/
def follow? (json : Json) (segments : List String) : Option Json :=
  segments.foldlM (fun part segment => part.child? segment.toList) json

@[simp] theorem follow?_nil (json : Json) : json.follow? [] = some json := rfl

theorem follow?_cons (json : Json) (segment : String) (rest : List String) :
    json.follow? (segment :: rest) = (json.child? segment.toList).bind (·.follow? rest) := rfl

theorem follow?_singleton (json : Json) (segment : String) :
    json.follow? [segment] = json.child? segment.toList := by
  rw [follow?_cons]
  exact Option.bind_fun_some _

/-- A pointer with one more segment leads to the child of the place that it led to before. -/
theorem pointer?_append_segment (json : Json) (pointer segment : String) :
    json.pointer? (pointer ++ "/" ++ String.ofList (escapeSegment segment.toList))
      = (json.pointer? pointer).bind (·.child? segment.toList) := by
  have hslash : "/".toList = ['/'] := rfl
  simp only [pointer?, String.toList_append, String.toList_ofList, hslash, List.append_assoc,
    List.singleton_append, pointerSegments?_append, Option.bind_eq_bind]
  cases pointerSegments? pointer.toList with
  | none => rfl
  | some segments => simp [List.foldlM_append, Option.bind_eq_bind]

/-- The pointer to a place some segments further down. -/
def pointerBelow (pointer : String) (segments : List String) : String :=
  segments.foldl (fun pointer segment =>
    pointer ++ "/" ++ String.ofList (escapeSegment segment.toList)) pointer

/-- **`pointer?_pointerBelow`** — a pointer some segments further down leads to where the segments
lead from the place of the pointer. -/
theorem pointer?_pointerBelow (json : Json) (pointer : String) (segments : List String) :
    json.pointer? (pointerBelow pointer segments)
      = (json.pointer? pointer).bind (·.follow? segments) := by
  induction segments generalizing pointer with
  | nil => exact (Option.bind_fun_some _).symm
  | cons segment rest ih =>
      have hcons : pointerBelow pointer (segment :: rest)
          = pointerBelow (pointer ++ "/" ++ String.ofList (escapeSegment segment.toList)) rest := rfl
      rw [hcons, ih, pointer?_append_segment, Option.bind_assoc]
      rfl

/-! ## Children -/

theorem child?_of_get? {members : Entries Json} {name : String} {value : Json}
    (h : members.get? name = some value) : (Json.object members).child? name.toList = some value := by
  simpa [child?] using h

theorem head?_toDigits_ne_zero {n : Nat} (h : 0 < n) : (Nat.toDigits 10 n).head? ≠ some '0' := by
  induction n using Nat.strongRecOn with
  | ind n ih =>
      by_cases hsmall : n < 10
      · rw [Nat.toDigits_of_lt_base hsmall]
        have hdigit : ∀ m, m < 10 → 0 < m → m.digitChar ≠ '0' := by decide
        simpa using hdigit n hsmall h
      · have hhead : ∃ c, (Nat.toDigits 10 (n / 10)).head? = some c :=
          ⟨_, List.head?_eq_some_head Nat.toDigits_ne_nil⟩
        obtain ⟨c, hc⟩ := hhead
        rw [Nat.toDigits_of_base_le (by decide) (by omega), List.head?_append, hc, Option.some_or,
          ← hc]
        exact ih (n / 10) (by omega) (by omega)

theorem toList_toString (n : Nat) : (toString n).toList = Nat.toDigits 10 n := by
  rw [Nat.toString_eq_repr, Nat.toList_repr]

theorem isAsciiDigit_of_mem_toString {n : Nat} {c : Char} (h : c ∈ (toString n).toList) :
    Text.isAsciiDigit c = true := by
  rw [toList_toString] at h
  have hdigit := Nat.isDigit_of_mem_toDigits (by decide) (by decide) h
  simpa [Text.isAsciiDigit, Char.isDigit, Char.le_def] using hdigit

/-- The digits of a number are read back as the number. -/
theorem value_toString (n : Nat) :
    (toString n).toList.foldl (fun acc c => acc * 10 + (c.toNat - 48)) 0 = n := by
  have hread := Nat.ofDigitChars_ten_toDigits (n := n)
  have hchar : '0'.toNat = 48 := rfl
  rw [Nat.ofDigitChars_eq_foldl, hchar] at hread
  simpa only [toList_toString, Nat.mul_comm 10] using hread

theorem segmentIndex?_toString {i : Nat} (h : i < 0x10000000000000000) :
    segmentIndex? (toString i).toList = some i := by
  have hempty : ((toString i).toList.isEmpty || !(toString i).toList.all Text.isAsciiDigit)
      = false := by
    rw [Bool.or_eq_false_iff, Bool.not_eq_false']
    refine ⟨?_, List.all_eq_true.mpr fun c => isAsciiDigit_of_mem_toString⟩
    rw [List.isEmpty_eq_false_iff, toList_toString]
    exact Nat.toDigits_ne_nil
  have hzero : ¬((toString i).toList.head? = some '0' ∧ (toString i).toList.length ≠ 1) := by
    rintro ⟨hhead, hlength⟩
    by_cases hi : 0 < i
    · exact head?_toDigits_ne_zero hi (toList_toString i ▸ hhead)
    · obtain rfl : i = 0 := by omega
      exact hlength rfl
  rw [segmentIndex?, hempty, if_neg Bool.false_ne_true, if_neg (by simpa using hzero),
    value_toString, if_pos h]

theorem child?_of_getElem? {items : List Json} {i : Nat} {value : Json}
    (hi : i < 0x10000000000000000) (h : items[i]? = some value) :
    (Json.array items).child? (toString i).toList = some value := by
  simp only [child?, segmentIndex?_toString hi, Option.bind_eq_bind, Option.bind_some, h]

end JsonQuery.Json
