import KeyRelay.Broker.Desk
import KeyRelay.Delivery.Disturbance
import KeyRelay.Main
import KeyRelay.Proofs.Acceptance
import KeyRelay.Proofs.Amqp.Conversation
import KeyRelay.Proofs.Amqp.Likeness
import KeyRelay.Proofs.Delivery.Interleaving
import KeyRelay.Proofs.Delivery.Publication
import KeyRelay.Secret.Table
import KeyRelay.Settings.Json
import KeyRelay.Proofs.Amqp.Outcome
import KeyRelay.Proofs.Base64.Canonical
import KeyRelay.Proofs.Text.Blank
import KeyRelay.Proofs.Payload
import KeyRelay.Proofs.Broker.Desk
import KeyRelay.Proofs.Secret
import KeyRelay.Proofs.Delivery.Contact
import KeyRelay.Proofs.Delivery.Secrecy
import KeyRelay.Proofs.Body
import KeyRelay.Proofs.Delivery.Mode
import KeyRelay.Proofs.Settings.Json
import KeyRelay.Proofs.CommandLine.Selection
import KeyRelay.Proofs.Secret.Credentials
import KeyRelay.Proofs.Secret.Tool
import KeyRelay.Proofs.Broker.Declaration
import KeyRelay.Proofs.Delivery.Progress
import KeyRelay.Proofs.Reading
import KeyRelay.Proofs.Handler
import KeyRelay.Proofs.Amqp.Limits
