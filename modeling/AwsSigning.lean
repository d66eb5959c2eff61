import AwsSigning.Client
import AwsSigning.Proofs.Setting
import AwsSigning.Proofs.Cached.SingleFlight
import AwsSigning.Proofs.SharedConfig.Grammar
import AwsSigning.Proofs.Signing.HeaderSignature
import AwsSigning.Proofs.Signing.QuerySignature
import AwsSigning.Proofs.Signing.Alike
import AwsSigning.Proofs.Signing.Unambiguous
import AwsSigning.Proofs.SharedConfig.Document
import AwsSigning.Proofs.SharedConfig.Meaning
import AwsSigning.Proofs.Payload.Reading
import AwsSigning.Proofs.Signing.Middleware
import AwsSigning.Proofs.Signing.PayloadDigest
import AwsSigning.Proofs.Lockstep
import AwsSigning.Proofs.Platform
import AwsSigning.Proofs.Provider.Keeping
import AwsSigning.Proofs.Signing.Resigning
import AwsSigning.Proofs.Metadata.Client
import AwsSigning.Proofs.SharedConfig.Loading
import AwsSigning.Proofs.Provider.Asking
import AwsSigning.Proofs.Provider.Sources
import AwsSigning.Proofs.Client
import AwsSigning.Proofs.Cached.InTurn
import AwsSigning.Proofs.Metadata.Session
import AwsSigning.Proofs.SharedConfig.Stray
import AwsSigning.Proofs.Signing.QueryContent
import AwsSigning.Proofs.Provider.Nesting
import AwsSigning.Proofs.Client.Fixing
import AwsSigning.Proofs.Metadata.Recovery
import AwsSigning.Proofs.Metadata.Origin
import AwsSigning.Proofs.Signing.Streaming
import AwsSigning.Proofs.Signing.Failure
import AwsSigning.Proofs.Signing.SessionToken
import AwsSigning.Proofs.Provider.RegionNames
import AwsSigning.Proofs.Client.Misspelling
import AwsSigning.Proofs.Client.Retrying
import AwsSigning.Proofs.Metadata.Disabled
import AwsSigning.Proofs.Provider.KeyPairs
import AwsSigning.Proofs.Signing.SecretKey
import AwsSigning.Proofs.SharedConfig.Merging
import AwsSigning.Proofs.SharedConfig.Blocks
import AwsSigning.Proofs.Endpoint
import AwsSigning.Proofs.Signing.Presigning
import AwsSigning.Proofs.SharedConfig.HeaderComment
import AwsSigning.Proofs.SharedConfig.Layout
import AwsSigning.Proofs.SharedConfig.Ignored
import AwsSigning.Proofs.SharedConfig.PropertyComment
import AwsSigning.Proofs.SharedConfig.SubProperties
import AwsSigning.Proofs.Signing.Remainder
import AwsSigning.Proofs.Signing.Spacing
import AwsSigning.Proofs.Signing.PayloadPolicy
import AwsSigning.Proofs.Endpoint.Places
import AwsSigning.Proofs.Signing.Validity
import AwsSigning.Proofs.Retry.Attempts
import AwsSigning.Proofs.Payload.Rewinding
import AwsSigning.Proofs.Signing.DotSegments
import AwsSigning.Proofs.Signing.CanonicalPath
import AwsSigning.Proofs.Signing.Disclosure
import AwsSigning.Proofs.SharedConfig.Partition
