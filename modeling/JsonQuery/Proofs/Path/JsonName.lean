/-
# JsonQuery.Proofs.Path.JsonName — a JSON string is a name.

Three readers decode what stands between double quotes: that of documents, that of expressions, which
goes state by state and keeps the code points of an escape between its moves, and that of paths.  Where
the first one accepts a text as a string, the other two read the same string out of it: alone it is
the member of that name as an expression, and in brackets behind `$` the step to it.
-/
import JsonQuery.Proofs.Expr.ChainReading
import JsonQuery.Proofs.Path.QuotedName
import JsonQuery.Path.Query

namespace JsonQuery

/-! ## As an expression -/

namespace Expr

open Machine

/-- A JSON text of a string, read as an expression, is the member of that name. -/
theorem parse_stringText (t : Json.StringText) (registry : Registry) :
    parse (String.ofList t.chars) registry = .ok (.field t.string) := by
  obtain ⟨text, hchars, htext⟩ := t.exists_quotedText
  have hname : NameText t.chars t.string := by
    rw [hchars, ← String.ofList_toList (s := t.string)]
    exact .quoted htext
  have hstart : (start (String.ofList t.chars) registry).place =
      .between ⟨registry, t.chars.length⟩ [nameState false, .afterOperand, .finish] {}
        (t.chars ++ []) := by
    rw [place_start, String.toList_ofList, List.append_nil]
    rfl
  exact parse_of_leads (leads_named hname false (.inl rfl) (.inl rfl) hstart)

end Expr

/-! ## In the brackets of a path -/

namespace Path

open Reader

/-- The root and, in brackets, a JSON text of a string. -/
theorem compile_brackets_stringText (t : Json.StringText) (registry : Registry) :
    Path.compile (String.ofList ('$' :: '[' :: (t.chars ++ [']']))) registry =
      .ok ⟨String.ofList ('$' :: '[' :: (t.chars ++ [']'])), [.root 0, .name t.string]⟩ := by
  have hpath : ∀ fuel, 8 * (('[' :: (t.chars ++ [']'])).length + 2) < fuel →
      Reads (path fuel) registry ⟨'$' :: '[' :: (t.chars ++ [']']), 0, 0⟩ [.root 0, .name t.string]
        ⟨[], 0, 1⟩ := by
    intro fuel hfuel
    -- One unit of fuel for the path, one for each step and one for its end.
    obtain ⟨fuel, rfl⟩ : ∃ inner, fuel = inner + 4 := ⟨fuel - 4, by omega⟩
    have hend : Reads (pathSteps (fuel + 2) 0 [.name t.string, .root 0]) registry ⟨[], 1, 1⟩
        [.root 0, .name t.string] ⟨[], 2, 1⟩ := reads_pathSteps_end (by simp [maxNesting]) (fuel + 1) rfl
    have hsteps : Reads (pathSteps (fuel + 3) 0 [.root 0]) registry
        ⟨'[' :: (t.chars ++ [']']), 0, 1⟩ [.root 0, .name t.string] ⟨[], 2, 1⟩ :=
      reads_pathSteps_brackets (by decide) (reads_brackets_stringText t) hend
    exact reads_path reads_headStep hsteps
  exact compile_of_reads (reads_whole hpath)

end Path

/-! ## As both -/

/-- **`compile_jsonString`** — a text in double quotes that is a document, a string, is as an
expression the member of that name, and in brackets behind `$` the step to it. -/
theorem compile_jsonString {text s : String} (hopens : text.toList.head? = some '"')
    (hcloses : text.toList.getLast? = some '"') (hparse : Json.parse? text = some (.string s))
    (registry : Registry) :
    Query.compile text registry = .ok ⟨text, .field s⟩ ∧
      Path.compile ("$[" ++ text ++ "]") registry =
        .ok ⟨"$[" ++ text ++ "]", [.root 0, .name s]⟩ := by
  let t : Json.StringText := ⟨text.toList, s, hopens, hcloses, hparse⟩
  constructor
  · have hexpr : Expr.parse text registry = .ok (.field s) := by
      have hread := Expr.parse_stringText t registry
      rwa [String.ofList_toList] at hread
    rw [Query.compile, hexpr]
    rfl
  · have hchars : "$[" ++ text ++ "]" = String.ofList ('$' :: '[' :: (text.toList ++ [']'])) := by
      rw [← String.toList_inj]
      simp
    rw [hchars]
    exact Path.compile_brackets_stringText t registry

/-- The string `"\"\u00E9\ud83D\uDE00\uD83d\ude01\n"`, with two surrogate pairs in a row behind a
character of four digits. -/
theorem compile_jsonString_surrogates :
    let text := "\"\\\"\\u00E9\\ud83D\\uDE00\\uD83d\\ude01\\n\""
    Json.parse? text = some (.string "\"é😀😁\n") ∧
      Query.compile text .builtins = .ok ⟨text, .field "\"é😀😁\n"⟩ ∧
      Path.compile ("$[" ++ text ++ "]") .builtins =
        .ok ⟨"$[" ++ text ++ "]", [.root 0, .name "\"é😀😁\n"]⟩ := by
  intro text
  have hchars : text.toList = ['"', '\\', '"', '\\', 'u', '0', '0', 'E', '9', '\\', 'u', 'd', '8', '3',
      'D', '\\', 'u', 'D', 'E', '0', '0', '\\', 'u', 'D', '8', '3', 'd', '\\', 'u', 'd', 'e', '0', '1',
      '\\', 'n', '"'] := by
    decide +kernel
  have hparse : Json.parse? text = some (.string "\"é😀😁\n") := by
    rw [Json.parse?, hchars]
    rfl
  exact ⟨hparse, compile_jsonString (by rw [hchars]; rfl) (by rw [hchars]; rfl) hparse .builtins⟩

end JsonQuery
