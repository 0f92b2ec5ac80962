import VarSchema.Pattern.OfTree
import VarSchema.Pattern.Reader
import VarSchema.Pattern.Size

/-!
# Patterns of texts

`Pattern.ofText` gives the pattern of a text that is read, has a meaning and stays within the size limit.
-/

namespace VarSchema

def Pattern.ofChars (cs : List Char) : Except PatternFailure Pattern :=
  match (PatternTree.parse cs).bind fun t => t.toPattern .initial with
  | .error e => .error (.invalid e)
  | .ok (p, _) => if p.fits then .ok p else .error .tooLarge

def Pattern.ofText (s : String) : Except PatternFailure Pattern := ofChars s.toList

end VarSchema
