import MailGateway.Main
import MailGateway.Proofs.HandOver
import MailGateway.Proofs.Recipient
import MailGateway.Proofs.Transaction
import MailGateway.Proofs.Answers
import MailGateway.Proofs.EmptyTopic
import MailGateway.Proofs.SessionTopic
import MailGateway.Proofs.FaultyMail
import MailGateway.Proofs.Unanswered
import MailGateway.Proofs.MessageReading
import MailGateway.Proofs.WrittenHead
import MailGateway.Proofs.TransferEncoding
import MailGateway.Proofs.MultipartMail
import MailGateway.Proofs.PlainMail
import MailGateway.Proofs.MemoryPublisher
import MailGateway.Proofs.MessageLimit
import MailGateway.Proofs.TopicResolution
import MailGateway.Proofs.MixedSubject
import MailGateway.Proofs.Isolation
import MailGateway.Proofs.AnswerLines
import MailGateway.Proofs.FoldedSubject
import MailGateway.Proofs.Payload
import MailGateway.Proofs.OpenSessions
import MailGateway.Proofs.LogIdentifiers
import MailGateway.Proofs.LogLines
import MailGateway.Proofs.StartStop
import MailGateway.Proofs.CheckedSettings
import MailGateway.Proofs.TitleAndMessage
import MailGateway.Proofs.Subscriptions
import MailGateway.Proofs.HealthPage
import MailGateway.Proofs.MessageStructure
