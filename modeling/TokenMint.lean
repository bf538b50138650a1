import TokenMint.Cache.Overlap
import TokenMint.Engine.Session
import TokenMint.Proofs.Cache.SingleFlight
import TokenMint.Proofs.Cache.Waiting
import TokenMint.Proofs.Cache.Failure
import TokenMint.Proofs.Cache.AtRest
import TokenMint.Proofs.Engine.Plain
import TokenMint.Proofs.Scope.Key
import TokenMint.Proofs.Engine.Refinement
import TokenMint.Proofs.Cache.Nesting
import TokenMint.Proofs.Bytes.Base64
import TokenMint.Proofs.Json.Lexeme
import TokenMint.Proofs.Metadata.Payload
import TokenMint.Proofs.Metadata.Signed
import TokenMint.Proofs.Settings.Minting
import TokenMint.Proofs.Cache.Fitting
import TokenMint.Proofs.Engine.Justified
import TokenMint.Proofs.Engine.Inactive
import TokenMint.Proofs.Engine.Named
import TokenMint.Proofs.Engine.Progress
import TokenMint.Proofs.Settings.Validity
import TokenMint.Proofs.Engine.Memo
import TokenMint.Proofs.Engine.Service
import TokenMint.Proofs.Scope.Chain
import TokenMint.Proofs.Scope.Nesting
import TokenMint.Proofs.Engine.Provenance
import TokenMint.Proofs.Settings.SingleDraw
import TokenMint.Proofs.Engine.Accounting
import TokenMint.Proofs.Engine.Idle
import TokenMint.Proofs.Cache.Independence
import TokenMint.Proofs.Settings.Expiry
import TokenMint.Proofs.Engine.Lifetimes
import TokenMint.Proofs.Engine.Handover
import TokenMint.Proofs.Secrecy.Settings
import TokenMint.Proofs.Secrecy.Cache
import TokenMint.Proofs.Secrecy.Requests
import TokenMint.Proofs.Secrecy.Service
import TokenMint.Proofs.Regex.Reading
import TokenMint.Proofs.Scope.Lead
import TokenMint.Proofs.Emission.Names
import TokenMint.Proofs.Emission.Lookup
import TokenMint.Proofs.Settings.Options
import TokenMint.Proofs.Scope.Covering
import TokenMint.Proofs.Settings.Missing
import TokenMint.Proofs.Settings.OptionOrder
import TokenMint.Proofs.Text.Words
import TokenMint.Proofs.Settings.Declarations
import TokenMint.Proofs.Encoding.Groups
import TokenMint.Proofs.Bytes.Hex
import TokenMint.Proofs.Encoding.ByteFormats
import TokenMint.Proofs.Metrics.Tally
import TokenMint.Proofs.Cache.Census
import TokenMint.Proofs.Encoding.Evenness
import TokenMint.Proofs.Scope.Boundary
