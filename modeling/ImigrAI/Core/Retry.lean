import Mathlib.Data.List.Basic

/-!
# Which errors are retried

An exception is known by the classes that it is an instance of. Nothing is assumed of them, since
the classes of libraries may derive from one another.
-/

namespace ImigrAI.Core

/-- The classes that the tasks and `retry.py` ask for. -/
inductive ExceptionClass where
  | timeoutError
  | connectionError
  | osError
  | valueError
  | assertionError
  | typeError
  | integrityError
  | operationalError
  | llmProviderError
  | llmProviderTimeoutError
  | llmProviderResponseError
  | softTimeLimitExceeded
deriving DecidableEq

/-- An exception with its text. -/
structure RaisedException where
  isInstance : ExceptionClass → Bool
  text : String

def RaisedException.isInstanceOf (exc : RaisedException) (classes : List ExceptionClass) : Bool :=
  classes.any exc.isInstance

def isDefinitiveError (exc : RaisedException) : Bool :=
  if exc.isInstanceOf [.valueError, .assertionError, .typeError, .integrityError] then true
  else exc.isInstance .llmProviderResponseError

def isTransientError (exc : RaisedException) : Bool :=
  if isDefinitiveError exc then false
  else if exc.isInstanceOf [.timeoutError, .connectionError, .osError] then true
  else if exc.isInstanceOf [.operationalError, .llmProviderTimeoutError] then true
  else if exc.isInstance .llmProviderError && !exc.isInstance .llmProviderResponseError then true
  else true

/-- Every error is either definitive or transient. -/
theorem isTransientError_eq (exc : RaisedException) :
    isTransientError exc = !isDefinitiveError exc := by
  rw [isTransientError]
  split_ifs with definitive <;> simp [definitive]

end ImigrAI.Core
