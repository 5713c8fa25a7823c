import AuraOpaque.Foundation.Answers
import AuraOpaque.Foundation.Bytes
import AuraOpaque.Foundation.Collision
import AuraOpaque.Foundation.Command
import AuraOpaque.Foundation.Custody
import AuraOpaque.Foundation.Footprint
import AuraOpaque.Foundation.Handles
import AuraOpaque.Foundation.Hkdf
import AuraOpaque.Foundation.Interleaving
import AuraOpaque.Foundation.Ownership
import AuraOpaque.Foundation.Run
import AuraOpaque.Foundation.Serial
import AuraOpaque.Foundation.Stages
import AuraOpaque.Foundation.Upkeep
import AuraOpaque.Core.Blinding
import AuraOpaque.Core.Crypto
import AuraOpaque.Core.Envelope
import AuraOpaque.Core.Environment
import AuraOpaque.Core.Errors
import AuraOpaque.Core.KeyDerivation
import AuraOpaque.Core.Oprf
import AuraOpaque.Core.PanicFreedom
import AuraOpaque.Core.PqKem
import AuraOpaque.Core.Primitives
import AuraOpaque.Core.Protocol
import AuraOpaque.Core.Randomness
import AuraOpaque.Core.Sample
import AuraOpaque.Core.Sealing
import AuraOpaque.Core.Session
import AuraOpaque.Core.Types
import AuraOpaque.Core.Wire
import AuraOpaque.Handshake.Agreement
import AuraOpaque.Handshake.EndToEnd
import AuraOpaque.Handshake.Enrollment
import AuraOpaque.Handshake.Expiry
import AuraOpaque.Handshake.ExportKey
import AuraOpaque.Handshake.HashInputs
import AuraOpaque.Handshake.KeyConfirmation
import AuraOpaque.Handshake.KeySchedule
import AuraOpaque.Handshake.Login
import AuraOpaque.Handshake.Network
import AuraOpaque.Handshake.PanicFreedom
import AuraOpaque.Handshake.RelayBinding
import AuraOpaque.Handshake.WrongPassword
import AuraOpaque.Agent.Authentication
import AuraOpaque.Agent.Errors
import AuraOpaque.Agent.Hiding
import AuraOpaque.Agent.Ke3
import AuraOpaque.Agent.Lifecycle
import AuraOpaque.Agent.Messages
import AuraOpaque.Agent.PanicFreedom
import AuraOpaque.Agent.Refusals
import AuraOpaque.Agent.Registration
import AuraOpaque.Agent.Rejections
import AuraOpaque.Agent.Requests
import AuraOpaque.Agent.Sent
import AuraOpaque.Agent.State
import AuraOpaque.Relay.Atomicity
import AuraOpaque.Relay.Authentication
import AuraOpaque.Relay.Credentials
import AuraOpaque.Relay.Enumeration
import AuraOpaque.Relay.Ke2
import AuraOpaque.Relay.Errors
import AuraOpaque.Relay.Keys
import AuraOpaque.Relay.Lifecycle
import AuraOpaque.Relay.PanicFreedom
import AuraOpaque.Relay.Randomness
import AuraOpaque.Relay.Registration
import AuraOpaque.Relay.State
import AuraOpaque.Ffi.Admission
import AuraOpaque.Ffi.Agent
import AuraOpaque.Ffi.Answers
import AuraOpaque.Ffi.Boundary
import AuraOpaque.Ffi.Commits
import AuraOpaque.Ffi.Contract
import AuraOpaque.Ffi.Export
import AuraOpaque.Ffi.Footprint
import AuraOpaque.Ffi.Locking
import AuraOpaque.Ffi.Outlines
import AuraOpaque.Ffi.Ownership
import AuraOpaque.Ffi.Ranges
import AuraOpaque.Ffi.Records
import AuraOpaque.Ffi.Rejections
import AuraOpaque.Ffi.Relay
import AuraOpaque.Ffi.RelaySessions
import AuraOpaque.Ffi.Sessions
import AuraOpaque.Ffi.Upkeep
import AuraOpaque.Foundation.Completion
import AuraOpaque.Foundation.Grips
import AuraOpaque.Foundation.Monitors
import AuraOpaque.Foundation.Reclaim
import AuraOpaque.Foundation.Wrapping
import AuraOpaque.Swift.Agent
import AuraOpaque.Swift.Discipline
import AuraOpaque.Swift.Library
import AuraOpaque.Swift.Threads
