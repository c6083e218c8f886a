/-
# JsonQuery.Json.MergePatch — merge patches.

A patch that is no object replaces the target.  An object patches member by member (RFC 7386):
`null` removes, everything else patches the member in place, starting from `null` where there is
none; a target that is no object counts as the empty one.
-/
import JsonQuery.Json.Basic

namespace JsonQuery.Json

mutual

/-- The target after a patch. -/
def mergePatch (target : Json) : Json → Json
  | .object patch => .object (mergeMembers target.members patch)
  | patch => patch

/-- The members after those of a patch, one by one. -/
def mergeMembers (members : Entries Json) : List (String × Json) → Entries Json
  | [] => members
  | (name, .null) :: rest => mergeMembers (members.swapRemove name) rest
  | (name, patch) :: rest =>
    mergeMembers (members.put name (mergePatch ((members.get? name).getD .null) patch)) rest

end

end JsonQuery.Json
