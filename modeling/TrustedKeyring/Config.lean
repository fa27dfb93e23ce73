import TrustedKeyring.Refusal
import TrustedKeyring.Json.Reader
import TrustedKeyring.Key
import TrustedKeyring.Text.Blank

/-!
# Configuration

The name of the keyring that verifications trust, read from and written to JSON.
-/

namespace TrustedKeyring

structure Config where
  keyringName : String := ".five"
deriving DecidableEq, Repr

namespace Config

def validate (config : Config) : Except Refusal Unit :=
  if Text.allBlank config.keyringName.toList then
    .error (.badConfig "keyring name must not be empty")
  else
    .ok ()

def memberName : List Char := "keyring_name".toList

/-- Reads the members of a configuration object after its opening brace.  `name` is the keyring
name read so far; unknown members are passed over and a repeated one is a mismatch. -/
def members (fuel : Nat) (isFirst : Bool) (name : Option (List Char)) (text : List Char) :
    Except Json.Fault (Option (List Char) × List Char) :=
  match fuel with
  | 0 => .error .truncated
  | fuel + 1 =>
    let member (text : List Char) : Except Json.Fault (Option (List Char) × List Char) :=
      match Json.stringBody text with
      | .error fault => .error fault
      | .ok (key, rest) =>
        if key = memberName then
          if name.isSome then .error .mismatched
          else
            match Json.colon rest with
            | .error fault => .error fault
            | .ok rest =>
              match Json.string rest with
              | .error fault => .error fault
              | .ok (value, rest) => members fuel false (some value) rest
        else
          match Json.colon rest with
          | .error fault => .error fault
          | .ok rest =>
            match Json.skipValue rest with
            | .error fault => .error fault
            | .ok rest => members fuel false name rest
    match Json.skipSpace text with
    | [] => .error .truncated
    | '}' :: rest => .ok (name, rest)
    | '"' :: rest => if isFirst then member rest else .error .malformed
    | ',' :: rest =>
      if isFirst then .error .malformed
      else
        match Json.skipSpace rest with
        | [] => .error .truncated
        | '"' :: rest => member rest
        | _ => .error .malformed
    | _ => .error .malformed

/-- Reads a configuration from an object, or from a list with at most one item. -/
def read (text : List Char) : Except Json.Fault (Config × List Char) :=
  match Json.skipSpace text with
  | [] => .error .truncated
  | '{' :: rest =>
    (members (rest.length + 1) true none rest).map fun (name, rest) =>
      (match name with
        | some name => ⟨String.ofList name⟩
        | none => {}, rest)
  | '[' :: rest =>
    match Json.skipSpace rest with
    | [] => .error .truncated
    | ']' :: rest => .ok ({}, rest)
    | rest =>
      match Json.string rest with
      | .error fault => .error fault
      | .ok (name, rest) =>
        match Json.skipSpace rest with
        | [] => .error .truncated
        | ']' :: rest => .ok (⟨String.ofList name⟩, rest)
        | _ => .error .malformed
  | rest => .error (Json.mismatch rest)

def ofJson (text : String) : Except Refusal Config :=
  match Json.document read text with
  | .error fault => .error (.badDocument fault)
  | .ok config => config.validate.map fun _ => config

def toJson (config : Config) : String :=
  String.ofList
    ('{' :: Json.quote memberName ++ ':' :: Json.quote config.keyringName.toList ++ ['}'])

end Config

def searchedKind : KeyKind := .asymmetric

def searchesByEnd : Bool := true

end TrustedKeyring
