import ExchangeWallet.Main
import ExchangeWallet.Proofs.Operation.Message
import ExchangeWallet.Proofs.Service.Accounting
import ExchangeWallet.Proofs.Service.Authenticity
import ExchangeWallet.Proofs.Service.Classification
import ExchangeWallet.Proofs.Service.Orders
import ExchangeWallet.Proofs.Service.Secrecy
import ExchangeWallet.Proofs.Signing.Contention
import ExchangeWallet.Proofs.Decimal.Reading
import ExchangeWallet.Proofs.Decimal.Canonical
import ExchangeWallet.Proofs.Settings.Filling
import ExchangeWallet.Proofs.Settings.Resolution
import ExchangeWallet.Proofs.Record.Rows
import ExchangeWallet.Proofs.Session.Course
import ExchangeWallet.Proofs.Session.Discipline
import ExchangeWallet.Proofs.Binary64.Rounding
import ExchangeWallet.Proofs.Binary64.Shortest
import ExchangeWallet.Proofs.Decimal.Scientific
import ExchangeWallet.Proofs.Json.Literal
import ExchangeWallet.Proofs.Record.Amounts
import ExchangeWallet.Proofs.Record.Batches
import ExchangeWallet.Proofs.Record.Payloads
import ExchangeWallet.Proofs.Binary64.Digits
import ExchangeWallet.Proofs.Json.NumberText
import ExchangeWallet.Proofs.Record.Numbers
import ExchangeWallet.Proofs.Decimal.Rounding
import ExchangeWallet.Proofs.Decimal.Spelled
import ExchangeWallet.Proofs.Record.Reach
import ExchangeWallet.Proofs.Binary64.Bounds
import ExchangeWallet.Proofs.Json.Integral
import ExchangeWallet.Proofs.Record.Integers
import ExchangeWallet.Proofs.Json.Depth
import ExchangeWallet.Proofs.Signing.Recovery
import ExchangeWallet.Proofs.Settings.Population
import ExchangeWallet.Proofs.Settings.Configured
import ExchangeWallet.Proofs.Settings.History
import ExchangeWallet.Proofs.Settings.Heeding
import ExchangeWallet.Proofs.Settings.Disclosure
import ExchangeWallet.Proofs.Trust.Acceptance
