import Recurrence.NestedText.Writer

namespace Recurrence.NestedText

/-!
# Saving NestedText

A document can be saved unless a plain file stands where a directory is needed,
or the data holds itself, or a text of it cannot be encoded.  The first two of these
failures end the program.
-/

/-- Where a document goes. -/
inductive Destination where
  | reachable
  | blocked
  deriving Repr, DecidableEq

/-- Data to be saved. -/
inductive Content where
  | finite (value : Value)
  | holdsItself
  deriving Repr

/-- Why a document is not saved: the end of the program, with its exit status, or its texts. -/
inductive SaveError where
  | exit (status : Nat)
  | write (error : WriteError)
  deriving Repr, DecidableEq

/-- The text that is saved. -/
def save : Destination → Content → Except SaveError (List Char)
  | .reachable, .finite value =>
      if value.isWhole then .ok (write value) else .error (.write .brokenText)
  | .reachable, .holdsItself => .error (.exit 1)
  | .blocked, _ => .error (.exit 1)

end Recurrence.NestedText
