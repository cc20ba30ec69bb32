import RamlDocs.Main
import RamlDocs.Proofs.Text.Pieces
import RamlDocs.Proofs.Outcome
import RamlDocs.Proofs.Value.Mapping
import RamlDocs.Proofs.Value.Merge
import RamlDocs.Proofs.Value.Depth
import RamlDocs.Proofs.Value.Vocabulary
import RamlDocs.Proofs.Template.Literal
import RamlDocs.Proofs.Definition.Names
import RamlDocs.Proofs.Definition.MethodNames
import RamlDocs.Proofs.Definition.ResourceType
import RamlDocs.Proofs.Definition.Resource
import RamlDocs.Proofs.Definition.ResourceKeys
import RamlDocs.Proofs.Definition.Agreement
import RamlDocs.Proofs.Definition.Assembly
import RamlDocs.Proofs.View.Reference
import RamlDocs.Proofs.View.Inheritance
import RamlDocs.Proofs.View.Walk
import RamlDocs.Proofs.View.Header
import RamlDocs.Proofs.View.Outline
import RamlDocs.Proofs.View.Locality
import RamlDocs.Proofs.Definition.Expansion
import RamlDocs.Proofs.Definition.OptionalMethod
import RamlDocs.Proofs.Value.Ordinary
import RamlDocs.Proofs.Definition.Reading
import RamlDocs.Proofs.Definition.Leniency
import RamlDocs.Proofs.Template.BaseUri
import RamlDocs.Proofs.View.Leniency
import RamlDocs.Proofs.View.Settings
import RamlDocs.Proofs.View.LibraryTypes
import RamlDocs.Proofs.Definition.References
import RamlDocs.Proofs.Definition.Renaming
import RamlDocs.Proofs.Definition.Relocation
import RamlDocs.Proofs.Definition.UriPath
import RamlDocs.Proofs.Value.Plain
import RamlDocs.Proofs.Json.Object
import RamlDocs.Proofs.View.SchemaTypes
import RamlDocs.Proofs.Alike
import RamlDocs.Proofs.Yaml.Meaning
import RamlDocs.Proofs.Definition.Reporting
import RamlDocs.Proofs.Definition.FaultPaths
import RamlDocs.Proofs.Definition.RepeatedTraits
import RamlDocs.Proofs.Definition.ResourceTraits
import RamlDocs.Proofs.Value.Priority
import RamlDocs.Proofs.Command.Output
import RamlDocs.Proofs.Command.Arguments
import RamlDocs.Proofs.Value.Every
import RamlDocs.Proofs.Template.Spelling
import RamlDocs.Proofs.Template.Transform
import RamlDocs.Proofs.Template.Stages
import RamlDocs.Proofs.Template.Fillable
import RamlDocs.Proofs.Value.Sources
import RamlDocs.Proofs.Definition.MethodParts
import RamlDocs.Proofs.View.ParentOrder
import RamlDocs.Proofs.View.SchemaWalk
import RamlDocs.Proofs.View.RequiredProperties
import RamlDocs.Proofs.View.ResponseBody
import RamlDocs.Proofs.View.RequestBody
import RamlDocs.Proofs.Json.ReadBack
import RamlDocs.Proofs.Definition.NamedExample
import RamlDocs.Proofs.View.SingleExample
import RamlDocs.Proofs.Definition.MediaTypes
import RamlDocs.Proofs.View.Grouping
import RamlDocs.Proofs.View.BaseUri
import RamlDocs.Proofs.Number.Integer
import RamlDocs.Proofs.Definition.Lengths
import RamlDocs.Proofs.Definition.RawNames
import RamlDocs.Proofs.View.RawNames
import RamlDocs.Proofs.Definition.PathName
