import FormData.Body
import FormData.Boundary
import FormData.Boundary.Generated
import FormData.Bytes
import FormData.Charset
import FormData.Charset.Iso2022Jp
import FormData.Charset.MultiOctet
import FormData.Charset.Reference
import FormData.Charset.SingleOctet
import FormData.Event
import FormData.Fault
import FormData.FileTree
import FormData.Header.Block
import FormData.Header.Map
import FormData.Ledger
import FormData.Part
import FormData.Part.Field
import FormData.Part.FileRequest
import FormData.Part.Request
import FormData.Part.Window
import FormData.Path
import FormData.Proofs.Accounts
import FormData.Proofs.Announcement
import FormData.Proofs.Ascii
import FormData.Proofs.BlockReader
import FormData.Proofs.Calls
import FormData.Proofs.Chronicle
import FormData.Proofs.Collision
import FormData.Proofs.Cover
import FormData.Proofs.Declaration
import FormData.Proofs.Decoding
import FormData.Proofs.Deed
import FormData.Proofs.DefaultName
import FormData.Proofs.Edits
import FormData.Proofs.Escaping
import FormData.Proofs.Generation
import FormData.Proofs.Grammar
import FormData.Proofs.HandleList
import FormData.Proofs.Independence
import FormData.Proofs.Layout
import FormData.Proofs.Length
import FormData.Proofs.Lines
import FormData.Proofs.Positions
import FormData.Proofs.Receiver
import FormData.Proofs.Releases
import FormData.Proofs.Remaining
import FormData.Proofs.Removals
import FormData.Proofs.Resolution
import FormData.Proofs.Settings
import FormData.Proofs.Spelling
import FormData.Proofs.Splice
import FormData.Proofs.TextReader
import FormData.Proofs.Token
import FormData.Proofs.Uses
import FormData.Proofs.Views
import FormData.Proofs.Windows
import FormData.Proofs.Word
import FormData.Proofs.WordLength
import FormData.Session
import FormData.Session.Reply
import FormData.Session.Step
import FormData.Table
import FormData.Text.Printable
import FormData.Text.Quoted
import FormData.Text.Utf8
import FormData.Traversal
