set_option autoImplicit false

namespace ScriptValue

inductive ErrorKind where
  | type
  | reference
  deriving DecidableEq

def ErrorKind.name : ErrorKind → String
  | .type => "TypeError"
  | .reference => "ReferenceError"

structure GuestError where
  kind : ErrorKind
  message : String
  deriving DecidableEq

def GuestError.text (e : GuestError) : String := e.kind.name ++ ": " ++ e.message

inductive Role where
  | getter
  | setter
  deriving DecidableEq

def Role.title : Role → String
  | .getter => "Getter"
  | .setter => "Setter"

inductive Cause where
  | unresolved (name : String)
  | symbolToNumber
  | symbolToText
  | objectToPrimitive
  | nullishToObject
  | slotToObject
  | baseOfSlot
  | notCallable (className : String)
  | notAnAccessor (role : Role) (shown : String)
  deriving DecidableEq

namespace Cause

def kind : Cause → ErrorKind
  | .unresolved _ => .reference
  | _ => .type

def message : Cause → String
  | .unresolved name => name ++ " is not defined"
  | .symbolToNumber => "Cannot convert a Symbol value to a number"
  | .symbolToText => "Cannot convert a Symbol value to a string"
  | .objectToPrimitive => "Cannot convert object to primitive value"
  | .nullishToObject => "Cannot convert undefined or null to object"
  | .slotToObject => "Cannot convert a property slot to object"
  | .baseOfSlot => "BUG: base_object() called on a property slot"
  | .notCallable className => className ++ " is not a function"
  | .notAnAccessor role shown => role.title ++ " must be a function: " ++ shown

def error (c : Cause) : GuestError := ⟨c.kind, c.message⟩

end Cause

inductive AccountingError where
  | depthLimit (limit : Nat)
  | nativeLookup (reason : String)
  deriving DecidableEq

def AccountingError.message : AccountingError → String
  | .depthLimit limit => "object graph exceeds the accounting depth limit of " ++ toString limit
  | .nativeLookup reason => "native size lookup failed: " ++ reason

inductive Violation where
  | slotAsKey
  | unresolvedAsKey
  | exportedSlot
  deriving DecidableEq

def Violation.message : Violation → String
  | .slotAsKey => "property slots must never be used in maps or sets"
  | .unresolvedAsKey => "unresolved references must never be used in maps or sets"
  | .exportedSlot => "cannot export a property slot"

inductive Fault where
  | raised (e : GuestError)
  | violated (v : Violation)
  deriving DecidableEq

end ScriptValue
