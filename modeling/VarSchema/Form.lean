/-!
# Forms of documents

* `Form` : what a place of a document holds, as far as reading depends on it;
* `Form.item`, `Form.field` : what the items and entries at such a place hold. A record may also be an array of
  its fields in order.
-/

namespace VarSchema

/-- What a place of a document holds. -/
inductive Form where
  /-- Any value. -/
  | value
  | text
  /-- The name of an alternative. -/
  | choice
  /-- A boolean. -/
  | flag
  /-- What is ignored, so that only its grammar is checked. -/
  | ignored
  /-- Null, or something else. -/
  | nullable (form : Form)
  | list (form : Form)
  /-- Any keys with any values. -/
  | map
  /-- Known fields; other fields are ignored. -/
  | record (fields : List (String × Form))
  /-- A condition; one that is part of another is `nested`. -/
  | condition (nested : Bool)
  /-- The conditions that are part of another. -/
  | conditions
  /-- A comparison operator in a condition. -/
  | comparison
  /-- A constant in a condition, whose keys are texts. -/
  | constant
  /-- What is ignored in a condition: any value, of which each scalar has to be one. -/
  | unused

namespace Form

instance : Inhabited Form := ⟨.value⟩

/-- Whether only the grammar matters. -/
def isIgnored : Form → Bool
  | ignored => true
  | _ => false

def item (i : Nat) : Form → Form
  | ignored => ignored
  | list form => form
  | record fields => (fields[i]?.map Prod.snd).getD ignored
  | nullable form => form.item i
  | _ => value

def field (k : String) : Form → Form
  | ignored => ignored
  | record fields => (fields.lookup k).getD ignored
  | nullable form => form.field k
  | _ => value

end Form

end VarSchema
