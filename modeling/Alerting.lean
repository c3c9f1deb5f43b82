import Alerting.Json.Edit
import Alerting.Main
import Alerting.Mapping
import Alerting.Proofs.CommandLine
import Alerting.Proofs.Compile
import Alerting.Proofs.Json.Coded
import Alerting.Proofs.Json.Number
import Alerting.Proofs.Json.Text
import Alerting.Proofs.Monitor.Compiled
import Alerting.Proofs.Monitor.Formats
import Alerting.Proofs.Trigger.Agreement
import Alerting.Proofs.Monitor.Preview
import Alerting.Proofs.Monitor.RoundTrip
import Alerting.Proofs.Monitor.Bare
import Alerting.Proofs.Script.Grouping
import Alerting.Proofs.Trigger.Recovered
import Alerting.Proofs.Monitor.Acceptance
import Alerting.Proofs.Monitor.Schedule
import Alerting.Proofs.Trigger.Raw
import Alerting.Proofs.Trigger.Reconstruction
import Alerting.Proofs.Script.Names
import Alerting.Proofs.Monitor.References
import Alerting.Proofs.Script.Grammar
import Alerting.Proofs.Trigger.Layout
import Alerting.Proofs.Script.Conditions
import Alerting.Proofs.Trigger.Selector
import Alerting.Proofs.Search.Window
import Alerting.Proofs.Search.Groups
import Alerting.Proofs.Mapping.Pickers
import Alerting.Proofs.Schedule.Expression
import Alerting.Proofs.Where.Operands
