/-
# JsonQuery.Text.CodeClass — classes of code points by categories and exceptions.

Most classes follow the general categories but for a few characters.  A class is therefore written
as the categories whose code points it has, the further ranges that it has, and the ranges of those
categories that it has not.  The categories are those of the edition that the class belongs to, the
one before the latest (see `JsonQuery.Text.Age`).
-/
import JsonQuery.Text.Category

namespace JsonQuery.Text

/-- A class under its names, which are in lower case and without separators. -/
structure CodeClass where
  names : List String
  categories : List Category
  addedRows : List String
  removedRows : List String

namespace CodeClass

/-- The code points outside of the categories that belong to the class. -/
def added (c : CodeClass) : RangeTable := RangeTable.ofRows c.addedRows

/-- The code points of the categories that do not belong to it. -/
def removed (c : CodeClass) : RangeTable := RangeTable.ofRows c.removedRows

/-- The class of a name. -/
def ofName? (classes : List CodeClass) (name : String) : Option CodeClass :=
  classes.find? (·.names.contains name)

end CodeClass

end JsonQuery.Text
