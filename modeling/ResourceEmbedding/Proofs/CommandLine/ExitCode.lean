import ResourceEmbedding.Files.Tree
import ResourceEmbedding.Proofs.CommandLine.Run
import ResourceEmbedding.Proofs.CommandLine.SettingsFile
import ResourceEmbedding.Proofs.Generator.Collision
import ResourceEmbedding.Proofs.Generator.Settings

namespace ResourceEmbedding

namespace Catalog

variable {request : Request} {name : String} {g : Generator} {items : List Definition}

end Catalog

namespace CommandLine

variable {σ : Type} {fs : FileSystem (StateM σ)} {arguments : GenerateArguments}
variable {before after between : σ} {request : Request} {report : Report} {response : Response}

end CommandLine

end ResourceEmbedding
