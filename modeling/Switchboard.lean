import Switchboard.Callback
import Switchboard.Config
import Switchboard.Course.Rounds
import Switchboard.Delivery.Notebook
import Switchboard.Device.Request
import Switchboard.Script.Run
import Switchboard.Text.Quoted
import Switchboard.WorkQueue.Drill
import Switchboard.Proofs.Crew
import Switchboard.Proofs.Exchange.Chronicle
import Switchboard.Proofs.Exchange.Effect
import Switchboard.Proofs.Exchange.Completion
import Switchboard.Proofs.Conduct
import Switchboard.Proofs.Exchange.Holder
import Switchboard.Proofs.Exchange.Stopping
import Switchboard.Proofs.Exchange.Coverage
import Switchboard.Proofs.Exchange.Cancellation
import Switchboard.Proofs.Exchange.RollBack
import Switchboard.Proofs.Teardown
import Switchboard.Proofs.Course
import Switchboard.Proofs.Preemption
import Switchboard.Proofs.Fate
import Switchboard.Proofs.Teardown.Disturbed
import Switchboard.Proofs.Exchange.Loss
import Switchboard.Proofs.Settling
import Switchboard.Proofs.Exchange.Line
import Switchboard.Proofs.Exchange.Spurious
import Switchboard.Proofs.Failure
import Switchboard.Proofs.Episode
import Switchboard.Proofs.Exchange.Episode
import Switchboard.Proofs.Exchange.Answer
import Switchboard.Proofs.Exchange.Unlocked
import Switchboard.Proofs.Exchange.ProgramOrder
import Switchboard.Proofs.Exchange.Separation
import Switchboard.Proofs.Exchange.Independence
import Switchboard.Proofs.WorkQueue.Shutdown
import Switchboard.Proofs.Exchange.Payload
import Switchboard.Proofs.Exchange.Device
import Switchboard.Proofs.Exchange.Refusal
import Switchboard.Proofs.Exchange.Consent
import Switchboard.Proofs.Exchange.Legality
import Switchboard.Proofs.Delivery.Order
import Switchboard.Proofs.Delivery.Adaptation
import Switchboard.Proofs.Registration
import Switchboard.Proofs.Exchange.Sending
import Switchboard.Proofs.Exchange.Progress
import Switchboard.Proofs.Exchange.Injection
