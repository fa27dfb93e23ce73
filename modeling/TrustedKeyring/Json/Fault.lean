/-!
# Faults of JSON documents

The three ways in which a text can fail to be the JSON document that a reader asks for.
-/

namespace TrustedKeyring.Json

inductive Fault where
  | malformed
  | truncated
  /-- The grammar is kept so far, but a value has another shape than the reader asks for. -/
  | mismatched
deriving DecidableEq, Repr

end TrustedKeyring.Json
