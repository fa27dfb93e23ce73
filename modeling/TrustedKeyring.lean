import TrustedKeyring.Asn1.Element
import TrustedKeyring.Asn1.Universal
import TrustedKeyring.Asn1.Writer
import TrustedKeyring.Base64
import TrustedKeyring.Bench
import TrustedKeyring.Bytes
import TrustedKeyring.Certificate
import TrustedKeyring.CertificateSource
import TrustedKeyring.Config
import TrustedKeyring.Crypto
import TrustedKeyring.Crypto.Curve
import TrustedKeyring.Crypto.Ecdsa
import TrustedKeyring.Crypto.Modular
import TrustedKeyring.Crypto.Rsa
import TrustedKeyring.Crypto.Sha1
import TrustedKeyring.Deployment
import TrustedKeyring.Environment
import TrustedKeyring.Errno
import TrustedKeyring.FileTree
import TrustedKeyring.HashAlgorithm
import TrustedKeyring.Hex
import TrustedKeyring.Interleaving
import TrustedKeyring.Json.Fault
import TrustedKeyring.Json.Number
import TrustedKeyring.Json.Reader
import TrustedKeyring.Json.Text
import TrustedKeyring.Key
import TrustedKeyring.KeyService
import TrustedKeyring.KeyStore.Add
import TrustedKeyring.KeyStore.Basic
import TrustedKeyring.KeyStore.Check
import TrustedKeyring.KeyStore.Search
import TrustedKeyring.KeyStore.Tables
import TrustedKeyring.Operation
import TrustedKeyring.Pem
import TrustedKeyring.Proofs.Base64.RoundTrip
import TrustedKeyring.Proofs.CertificateSource.Carriers
import TrustedKeyring.Proofs.CertificateSource.Grammar
import TrustedKeyring.Proofs.Config.Document
import TrustedKeyring.Proofs.Deployment.Agreement
import TrustedKeyring.Proofs.Deployment.Effect
import TrustedKeyring.Proofs.Deployment.Failures
import TrustedKeyring.Proofs.Deployment.History
import TrustedKeyring.Proofs.Deployment.Independence
import TrustedKeyring.Proofs.Deployment.Isolation
import TrustedKeyring.Proofs.Deployment.KeyringUse
import TrustedKeyring.Proofs.Deployment.Ledger
import TrustedKeyring.Proofs.Deployment.LiveKeys
import TrustedKeyring.Proofs.Deployment.Place
import TrustedKeyring.Proofs.Deployment.References
import TrustedKeyring.Proofs.Deployment.Session
import TrustedKeyring.Proofs.Deployment.Tenancy
import TrustedKeyring.Proofs.Deployment.Visitor
import TrustedKeyring.Proofs.Deployment.Visits
import TrustedKeyring.Proofs.Deployment.WriteOnce
import TrustedKeyring.Proofs.Interleaving.Turn
import TrustedKeyring.Proofs.Json.Quote
import TrustedKeyring.Proofs.Key.Description
import TrustedKeyring.Proofs.Key.Identifier
import TrustedKeyring.Proofs.KeyStore.Addition
import TrustedKeyring.Proofs.KeyStore.Answers
import TrustedKeyring.Proofs.KeyStore.Armour
import TrustedKeyring.Proofs.KeyStore.Concurrent
import TrustedKeyring.Proofs.KeyStore.Contents
import TrustedKeyring.Proofs.KeyStore.Counts
import TrustedKeyring.Proofs.KeyStore.Decision
import TrustedKeyring.Proofs.KeyStore.Digits
import TrustedKeyring.Proofs.KeyStore.Earliest
import TrustedKeyring.Proofs.KeyStore.FullSearch
import TrustedKeyring.Proofs.KeyStore.Growth
import TrustedKeyring.Proofs.KeyStore.History
import TrustedKeyring.Proofs.KeyStore.Keyrings
import TrustedKeyring.Proofs.KeyStore.Layout
import TrustedKeyring.Proofs.KeyStore.Linearizable
import TrustedKeyring.Proofs.KeyStore.Listing
import TrustedKeyring.Proofs.KeyStore.Members
import TrustedKeyring.Proofs.KeyStore.Publication
import TrustedKeyring.Proofs.KeyStore.References
import TrustedKeyring.Proofs.KeyStore.Releases
import TrustedKeyring.Proofs.KeyStore.Representation
import TrustedKeyring.Proofs.KeyStore.Sections
import TrustedKeyring.Proofs.KeyStore.Tables
import TrustedKeyring.Proofs.KeyStore.Verdict
import TrustedKeyring.Proofs.Operation.Calls
import TrustedKeyring.Proofs.Operation.Twin
import TrustedKeyring.Proofs.Pem.Block
import TrustedKeyring.Proofs.Pem.Certificate
import TrustedKeyring.Proofs.Pem.Lines
import TrustedKeyring.Proofs.Pem.Written
import TrustedKeyring.Proofs.Text.Trimming
import TrustedKeyring.Proofs.Text.Utf8
import TrustedKeyring.Proofs.TrustAnchor.Bootstrap
import TrustedKeyring.Proofs.TrustAnchor.Progress
import TrustedKeyring.Proofs.TrustAnchor.Race
import TrustedKeyring.Proofs.TrustAnchor.Serial
import TrustedKeyring.Proofs.TrustAnchor.Stage
import TrustedKeyring.Proofs.TrustAnchor.Trace
import TrustedKeyring.Proofs.TrustAnchor.Visit
import TrustedKeyring.Proofs.TrustStore.Order
import TrustedKeyring.Proofs.TrustStore.Reference
import TrustedKeyring.Proofs.TrustStore.Refinement
import TrustedKeyring.Proofs.TrustStore.Requests
import TrustedKeyring.Proofs.TrustStore.Selection
import TrustedKeyring.Proofs.TrustStore.Traces
import TrustedKeyring.Proofs.Verifier.Ensures
import TrustedKeyring.Proofs.Verifier.Failures
import TrustedKeyring.Proofs.Verifier.Keyring
import TrustedKeyring.Proofs.Verifier.Loaded
import TrustedKeyring.Proofs.Verifier.Permanence
import TrustedKeyring.Proofs.Verifier.Provision
import TrustedKeyring.Proofs.Verifier.Run
import TrustedKeyring.Proofs.Verifier.Trace
import TrustedKeyring.Proofs.Verifier.Twin
import TrustedKeyring.Proofs.Verifier.Unique
import TrustedKeyring.PublicKey
import TrustedKeyring.Refusal
import TrustedKeyring.Text.Blank
import TrustedKeyring.Text.Quoted
import TrustedKeyring.Text.Unprinted
import TrustedKeyring.Text.Utf8
import TrustedKeyring.TrustAnchor
import TrustedKeyring.TrustStore
import TrustedKeyring.Verifier
import TrustedKeyring.X509
import TrustedKeyring.X509.Name
