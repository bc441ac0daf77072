import DwmIpc.Main
import DwmIpc.Proofs.Commands
import DwmIpc.Proofs.ConfigFiles
import DwmIpc.Proofs.Conversation
import DwmIpc.Proofs.Decimals
import DwmIpc.Proofs.Events
import DwmIpc.Proofs.Exits
import DwmIpc.Proofs.Faults
import DwmIpc.Proofs.Integers
import DwmIpc.Proofs.Mappings
import DwmIpc.Proofs.RawBytes
import DwmIpc.Proofs.Renewal
import DwmIpc.Proofs.RequestReply
import DwmIpc.Proofs.SharedStream
import DwmIpc.Proofs.Stream.Decoding
import DwmIpc.Proofs.Stream.Reading
import DwmIpc.Proofs.Suppression
import DwmIpc.Proofs.Transparency
import DwmIpc.Proofs.Watch.Containment
import DwmIpc.Proofs.Watch.Firings
import DwmIpc.Proofs.Watch.Registrations
import DwmIpc.Proofs.Watch.Turns
import DwmIpc.Proofs.WindowIds
import DwmIpc.Session
import DwmIpc.Watch.Reaction
