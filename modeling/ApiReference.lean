import ApiReference.Session
import ApiReference.Json.Reader
import ApiReference.Proofs.TypeExpr.Places
import ApiReference.Proofs.Reading
import ApiReference.Proofs.TypeExpr.Spelling
import ApiReference.Proofs.TypeExpr.Defects
import ApiReference.Proofs.TypeExpr.Encoding
import ApiReference.Proofs.Document.Entries
import ApiReference.Proofs.Document.Acceptance
import ApiReference.Proofs.TypeExpr.Printing
import ApiReference.Proofs.TypeExpr.SingleLine
import ApiReference.Proofs.TypeExpr.Simplification
import ApiReference.Proofs.TypeExpr.Unambiguous
import ApiReference.Proofs.TypeExpr.Equality
import ApiReference.Proofs.Declaration.Lines
import ApiReference.Proofs.Declaration.Paragraphs
import ApiReference.Proofs.Declaration.Stripping
import ApiReference.Proofs.TypeExpr.Stripping
import ApiReference.Proofs.Declaration.SingleLine
import ApiReference.Proofs.Document.Sites
import ApiReference.Proofs.Document.Faults
import ApiReference.Proofs.Document.MissingName
import ApiReference.Proofs.Document.Optional
import ApiReference.Proofs.Document.Agreement
import ApiReference.Proofs.Document.Deletion
import ApiReference.Proofs.Declaration.Cuts
import ApiReference.Proofs.Declaration.Visible
import ApiReference.Proofs.Notices
import ApiReference.Proofs.TypeExpr.UnknownForms
import ApiReference.Proofs.Document.Notes
import ApiReference.Proofs.Document.Notices
import ApiReference.Proofs.Document.Debug
import ApiReference.Proofs.Declaration.Arguments
import ApiReference.Proofs.Document.Operators
import ApiReference.Proofs.Declaration.Signatures
import ApiReference.Proofs.Declaration.TypeTexts
import ApiReference.Proofs.Session
import ApiReference.Proofs.Document.Defaults
import ApiReference.Proofs.Document.MemberPaths
import ApiReference.Proofs.Log.Line
import ApiReference.Proofs.Log.Place
