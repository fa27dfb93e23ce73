import TrustedKeyring.Refusal
import TrustedKeyring.Text.Blank
import TrustedKeyring.Text.Utf8

/-!
# Certificate sources

Where an X.509 certificate is provisioned from: a file, or a variable of the environment.  A source
is written as its scheme, a colon and a value.
-/

namespace TrustedKeyring

inductive CertificateSource where
  | file (path : String)
  | environment (name : String)
deriving DecidableEq, Repr

namespace CertificateSource

inductive Error where
  | invalidScheme
  | missingPath
  | missingName
deriving DecidableEq, Repr

def Error.message : Error → String
  | invalidScheme => "Invalid certificate source scheme: expected 'file:' or 'env:'"
  | missingPath => "Missing path for 'file:' certificate source"
  | missingName => "Missing variable name for 'env:' certificate source"

def fileScheme : List Char := ['f', 'i', 'l', 'e']

def environmentScheme : List Char := ['e', 'n', 'v']

/-- Reads a written source.  The first colon ends the scheme; blanks around the value are not part
of it. -/
def parse (text : String) : Except Error CertificateSource :=
  match text.toList.span (· != ':') with
  | (_, []) => .error .invalidScheme
  | (scheme, _ :: rest) =>
    let value := Text.trim rest
    if scheme = fileScheme then
      if value.isEmpty then .error .missingPath else .ok (.file (String.ofList value))
    else if scheme = environmentScheme then
      if value.isEmpty then .error .missingName else .ok (.environment (String.ofList value))
    else
      .error .invalidScheme

def render : CertificateSource → String
  | file path => "file:" ++ path
  | environment name => "env:" ++ name

end CertificateSource

structure Host where
  readFile : String → Except (Option Errno) Bytes
  environment : String → Option Bytes

/-- The certificate as it is stored.  A variable is read as text: one that is not UTF-8 counts as
not set. -/
def CertificateSource.read (host : Host) : CertificateSource → Except Refusal Bytes
  | .file path => (host.readFile path).mapError .unreadable
  | .environment name =>
    match host.environment name with
    | some content =>
      if Text.isUtf8 content then .ok content
      else .error (.badConfig ("Environment variable not found: " ++ name))
    | none => .error (.badConfig ("Environment variable not found: " ++ name))

end TrustedKeyring
