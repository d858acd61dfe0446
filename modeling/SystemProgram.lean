import SystemProgram.Main
import SystemProgram.Address
import SystemProgram.Instruction.Nonce
import SystemProgram.Instruction.Parse
import SystemProgram.Json.Printer
import SystemProgram.Yaml.Render
import SystemProgram.Proofs.Wire.Accepts
import SystemProgram.Proofs.Wire.Field
import SystemProgram.Proofs.Wire.Skip
import SystemProgram.Proofs.Wire.Position
import SystemProgram.Proofs.Wire.Stream
import SystemProgram.Proofs.Payload
import SystemProgram.Proofs.Payload.Verdict
import SystemProgram.Proofs.Payload.Refusal
import SystemProgram.Proofs.Payload.Extent
import SystemProgram.Proofs.Payload.Size
import SystemProgram.Proofs.Wire.Atomic
import SystemProgram.Proofs.Address
import SystemProgram.Proofs.Fixture.Normal
import SystemProgram.Proofs.Instruction.Parse
import SystemProgram.Proofs.Instruction.RoundTrip
import SystemProgram.Proofs.Key
import SystemProgram.Proofs.Key.Text
import SystemProgram.Proofs.Fixture.Form
import SystemProgram.Proofs.Fixture.Vector
import SystemProgram.Proofs.Instruction.Sheet
import SystemProgram.Proofs.Instruction.Verdict
import SystemProgram.Proofs.Instruction.Build
import SystemProgram.Proofs.Fixture.Shape
import SystemProgram.Proofs.Command
import SystemProgram.Proofs.Yaml.Source
import SystemProgram.Proofs.Yaml.Quoted
import SystemProgram.Proofs.Yaml.Plain
import SystemProgram.Proofs.Yaml.Lexer
import SystemProgram.Proofs.Yaml.Block
import SystemProgram.Proofs.Yaml.Tree
import SystemProgram.Proofs.Yaml.Printable
import SystemProgram.Proofs.Number
import SystemProgram.Proofs.Yaml.Scalar
import SystemProgram.Proofs.Yaml.Value
import SystemProgram.Proofs.Fixture.Written
import SystemProgram.Proofs.FileTree.Path
import SystemProgram.Proofs.FileTree.Wildcard
import SystemProgram.Proofs.FileTree.Tree
import SystemProgram.Proofs.FileTree.Search
import SystemProgram.Proofs.Fixture.Find
