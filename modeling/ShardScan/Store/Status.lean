/-!
# Store statuses

The outcome of a remote call or a stream: a code, and texts for people.

## Main definitions

* `Status` — a code with its issues; a success may carry issues too.
* `StoreError` — a failed call: what was being done, and the status.
-/

namespace ShardScan

/-- The codes of statuses. -/
inductive StatusCode
  | success | clientCancelled | clientInternalError | schemeError | badRequest | sessionExpired
  | unavailable | overloaded | timeout | notFound | alreadyExists | preconditionFailed
  | genericError
deriving DecidableEq

namespace StatusCode

/-- The written form of a code. -/
def name : StatusCode → String
  | success => "SUCCESS"
  | clientCancelled => "CLIENT_CANCELLED"
  | clientInternalError => "CLIENT_INTERNAL_ERROR"
  | schemeError => "SCHEME_ERROR"
  | badRequest => "BAD_REQUEST"
  | sessionExpired => "SESSION_EXPIRED"
  | unavailable => "UNAVAILABLE"
  | overloaded => "OVERLOADED"
  | timeout => "TIMEOUT"
  | notFound => "NOT_FOUND"
  | alreadyExists => "ALREADY_EXISTS"
  | preconditionFailed => "PRECONDITION_FAILED"
  | genericError => "GENERIC_ERROR"

/-- Every code. -/
def all : List StatusCode :=
  [success, clientCancelled, clientInternalError, schemeError, badRequest, sessionExpired,
    unavailable, overloaded, timeout, notFound, alreadyExists, preconditionFailed, genericError]

/-- The code with the given written form. -/
def ofName? (s : String) : Option StatusCode := all.find? fun code => code.name == s

theorem ofName?_name (code : StatusCode) : ofName? code.name = some code := by
  cases code <;> decide

end StatusCode

/-- The outcome of a call or a stream. -/
structure Status where
  code : StatusCode
  issues : List String
deriving DecidableEq

namespace Status

/-- Success without remarks. -/
def success : Status := ⟨.success, []⟩

/-- A status with one issue. -/
def of (code : StatusCode) (issue : String) : Status := ⟨code, [issue]⟩

/-- The status of a stream that its client cancelled. -/
def cancelled : Status := of .clientCancelled "stream cancelled by client"

def isSuccess (s : Status) : Bool := s.code = .success
def isCancelled (s : Status) : Bool := s.code = .clientCancelled

/-- The code and the issues. -/
def display (s : Status) : String :=
  if s.issues.isEmpty then s.code.name
  else s.code.name ++ ": " ++ String.intercalate "; " s.issues

end Status

/-- A failed store call. -/
structure StoreError where
  /-- What was being done. -/
  context : String
  status : Status
deriving DecidableEq

namespace StoreError

/-- A failure with one issue. -/
def of (context : String) (code : StatusCode) (issue : String) : StoreError :=
  ⟨context, .of code issue⟩

/-- The text of a failure. -/
def message (e : StoreError) : String := e.context ++ ": " ++ e.status.display

end StoreError

namespace Status

/-- The status as the outcome of what `context` says. -/
def expectSuccess (s : Status) (context : String) : Except StoreError Unit :=
  if s.isSuccess then .ok () else .error ⟨context, s⟩

end Status
end ShardScan
