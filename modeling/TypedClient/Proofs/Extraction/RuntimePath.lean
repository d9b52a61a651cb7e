import TypedClient.Proofs.Extraction.Settings

namespace TypedClient

variable {config : Config} {path : String}

namespace Extraction

end Extraction

end TypedClient
