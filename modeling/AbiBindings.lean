import AbiBindings.Files.Tree
import AbiBindings.Main
import AbiBindings.Proofs.Abi.Definition
import AbiBindings.Proofs.Artifact.OutputDirectory
import AbiBindings.Proofs.Contract.Acceptance
import AbiBindings.Proofs.Contract.Culprit
import AbiBindings.Proofs.Contract.Padding
import AbiBindings.Proofs.Declaration.Alias
import AbiBindings.Proofs.Declaration.Balance
import AbiBindings.Proofs.Declaration.Coverage
import AbiBindings.Proofs.Declaration.MemberKey
import AbiBindings.Proofs.Declaration.Usage
import AbiBindings.Proofs.EvmType.Encoding
import AbiBindings.Proofs.EvmType.Spelling
import AbiBindings.Proofs.Generation.Collision
import AbiBindings.Proofs.Generation.History
import AbiBindings.Proofs.Generation.Incremental
import AbiBindings.Proofs.Generation.Reordering
import AbiBindings.Proofs.ModuleTree.Build
import AbiBindings.Proofs.ModuleTree.LegalName
import AbiBindings.Proofs.ModuleTree.OwnOutput
import AbiBindings.Proofs.ModuleTree.Specifier
import AbiBindings.Proofs.Struct.Hoisting
import AbiBindings.Proofs.Struct.Session
import AbiBindings.Proofs.Typing.Translation
