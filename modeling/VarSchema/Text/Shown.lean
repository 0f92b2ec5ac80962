import VarSchema.Unicode.Property

/-!
# Characters that are not shown as themselves

* `CharSet.unshown` : control, format, private and unassigned characters, separators, and marks that extend
  the character before them;
* `isShown` : a character that a quoted text shows as itself; of the separators that is the blank.
-/

namespace VarSchema

/-- Characters without a shape of their own. -/
def CharSet.unshown : CharSet :=
  .unions [Category.unassigned, Derived.graphemeExtend, Category.union
    [.control, .format, .privateUse, .spaceSeparator, .lineSeparator, .paragraphSeparator]]

/-- Whether a quoted text shows a character as itself. -/
def isShown (c : Char) : Bool := c = ' ' || !CharSet.unshown.has c

end VarSchema
