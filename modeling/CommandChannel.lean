import CommandChannel.Listener
import CommandChannel.Proofs.Asynchronous
import CommandChannel.Proofs.Codec
import CommandChannel.Proofs.Decoding
import CommandChannel.Proofs.Exhaustion
import CommandChannel.Proofs.Messages
import CommandChannel.Proofs.Monitors
import CommandChannel.Proofs.Outcomes
import CommandChannel.Proofs.Pauses
import CommandChannel.Proofs.Sessions
import CommandChannel.Proofs.Statistics
import CommandChannel.Proofs.Streams
import CommandChannel.Proofs.Transitions
import CommandChannel.Proofs.Attempts
import CommandChannel.Proofs.Deliveries
import CommandChannel.Proofs.Endings
import CommandChannel.Proofs.Requests
import CommandChannel.Proofs.Fallback
import CommandChannel.Proofs.Replies
import CommandChannel.Proofs.Activity
import CommandChannel.Proofs.Waiting
import CommandChannel.Proofs.Addresses
import CommandChannel.Proofs.Envelopes
import CommandChannel.Proofs.Watching
import CommandChannel.Proofs.Draining
import CommandChannel.Proofs.Joining
